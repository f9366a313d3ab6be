import Storyline.Text

/-!
# Loading stories

A loader gives the texts of stories by their paths. A `StoryStore` holds finitely many stories, and
`StoryStore.load` is its loader.
-/

set_option autoImplicit false

namespace Storyline

/-- Why the text of a story cannot be had. -/
inductive LoadError
  | notFound (path : Text)
  | unreadable (path : Text) (reason : String)
deriving DecidableEq, Repr

def LoadError.message : LoadError → String
  | notFound path => s!"story '{path.toString}' not found"
  | unreadable path reason => s!"story '{path.toString}' could not be read: {reason}"

/-- Gives the texts of stories by their paths. -/
abbrev Loader := Text → Except LoadError Text

/-- Stories with their paths, each path once, and paths that cannot be read, with the reasons. -/
structure StoryStore where
  stories : List (Text × Text) := []
  unreadable : List (Text × String) := []

namespace StoryStore

/-- Replaces the text of a path in a list, or adds it at the end. -/
def put (path text : Text) : List (Text × Text) → List (Text × Text)
  | [] => [(path, text)]
  | (p, t) :: rest => if p = path then (path, text) :: rest else (p, t) :: put path text rest

/-- The store with a text for a path, which replaces an earlier one. -/
def insert (s : StoryStore) (path text : Text) : StoryStore :=
  { s with stories := put path text s.stories }

/-- The number of stories. -/
def size (s : StoryStore) : Nat := s.stories.length

/-- The text of the story with the given path. -/
def load (s : StoryStore) (path : Text) : Except LoadError Text :=
  match s.unreadable.lookup path with
  | some reason => .error (.unreadable path reason)
  | none =>
    match s.stories.lookup path with
    | some text => .ok text
    | none => .error (.notFound path)

theorem mem_of_lookup {path text : Text} {es : List (Text × Text)}
    (h : es.lookup path = some text) : path ∈ es.map (·.1) := by
  induction es with
  | nil => simp at h
  | cons e es ih =>
    by_cases hp : path = e.1
    · simp [hp]
    · have hb : (path == e.1) = false := by simpa using hp
      rw [List.lookup_cons, hb] at h
      exact List.mem_cons_of_mem _ (ih h)

/-- What can be loaded is stored. -/
theorem mem_of_load {s : StoryStore} {path text : Text} (h : s.load path = .ok text) :
    path ∈ s.stories.map (·.1) := by
  unfold load at h
  split at h
  · cases h
  · split at h
    · exact mem_of_lookup ‹_›
    · cases h

end StoryStore

end Storyline
