import Storyline.Table

/-!
# Stories

A story describes behaviour in scenarios, each a list of steps. Steps are kept as they are written,
keyword included.
-/

set_option autoImplicit false

namespace Storyline

/-- Why the story is told: in order to gain something, as somebody, I want something. -/
structure Narrative where
  inOrderTo : Text := []
  asA : Text := []
  iWantTo : Text := []
  /-- What stands outside the three clauses. -/
  text : Text := []
deriving DecidableEq, Repr

def Narrative.isEmpty (n : Narrative) : Bool :=
  n.inOrderTo.isEmpty && n.asA.isEmpty && n.iWantTo.isEmpty && n.text.isEmpty

/-- Steps around the scenarios of a story. -/
structure Lifecycle where
  before : List Text := []
  after : List Text := []
deriving DecidableEq, Repr

def Lifecycle.isEmpty (l : Lifecycle) : Bool := l.before.isEmpty && l.after.isEmpty

/-- A scenario. Its steps run once for each row of the examples, or once if there is no row. -/
structure Scenario where
  /-- The title, empty for a scenario that no line opens. -/
  title : Text := []
  /-- The paths of the stories that run first. -/
  givenStories : List Text := []
  steps : List Text := []
  examples : Table := {}
deriving DecidableEq, Repr

/-- A story, known by its path. -/
structure Story where
  path : Text
  description : Text := []
  narrative : Option Narrative := none
  /-- The paths of the stories that run first. -/
  givenStories : List Text := []
  lifecycle : Lifecycle := {}
  scenarios : List Scenario := []
deriving DecidableEq, Repr

/-- The last part of a path. -/
def Story.nameOfPath (path : Text) : Text :=
  (path.reverse.takeWhile fun c => c != '/' && c != '\\').reverse

/-- The name of a story is the last part of its path. -/
def Story.name (s : Story) : Text := nameOfPath s.path

end Storyline
