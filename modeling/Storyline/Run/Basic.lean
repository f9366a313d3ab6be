import Storyline.Event
import Storyline.Loader
import Storyline.Story.Draft

/-!
# Runs

A run acts on a world, leaves a trace of what happened, and may fail. Runs are put together as a
monad: the second run starts in the world that the first has left, and a failure ends the whole.
-/

set_option autoImplicit false

namespace Storyline

/-- Why a run stops before its end. -/
inductive Halt (ε : Type)
  | failure (e : ε)
  /-- The call stack is used up, which ends the program. -/
  | overflow
deriving DecidableEq, Repr

/-- What a run leaves: a trace of `τ`, a world `σ`, and a result, unless the run stopped. -/
structure Outcome (τ σ ε α : Type) where
  trace : List τ
  world : σ
  result : Except (Halt ε) α

/-- A run, by the outcome that it has in each world. -/
def Run (τ σ ε α : Type) : Type := σ → Outcome τ σ ε α

namespace Run

variable {τ σ ε α β : Type}

/-- Does nothing. -/
def pure (a : α) : Run τ σ ε α := fun world => ⟨[], world, .ok a⟩

/-- Stops. -/
def halt (h : Halt ε) : Run τ σ ε α := fun world => ⟨[], world, .error h⟩

/-- Fails. -/
def fail (e : ε) : Run τ σ ε α := halt (.failure e)

/-- One run, and then another, if the first does not stop. -/
def bind (x : Run τ σ ε α) (f : α → Run τ σ ε β) : Run τ σ ε β := fun world =>
  let first := x world
  match first.result with
  | .error h => ⟨first.trace, first.world, .error h⟩
  | .ok a =>
    let second := f a first.world
    ⟨first.trace ++ second.trace, second.world, second.result⟩

instance : Monad (Run τ σ ε) where
  pure := pure
  bind := bind

/-- Adds to the trace. -/
def tell (ts : List τ) : Run τ σ ε Unit := fun world => ⟨ts, world, .ok ()⟩

/-- Acts on the world. -/
def act (f : σ → α × σ) : Run τ σ ε α := fun world =>
  let (a, world) := f world
  ⟨[], world, .ok a⟩

/-- A run that does not fail but gives what the given one ends with, and whose trace is made from
that of the given one. -/
def attempt {τ₂ ε₂ : Type} (f : τ → τ₂) (x : Run τ σ ε α) : Run τ₂ σ ε₂ (Except ε α) :=
  fun world =>
    let o := x world
    ⟨o.trace.map f, o.world,
      match o.result with
      | .ok a => .ok (.ok a)
      | .error (.failure e) => .ok (.error e)
      | .error .overflow => .error .overflow⟩

/-! ## Outcomes -/

@[simp] theorem pure_apply (a : α) (world : σ) :
    (Pure.pure a : Run τ σ ε α) world = ⟨[], world, .ok a⟩ := rfl

@[simp] theorem halt_apply (h : Halt ε) (world : σ) :
    (halt h : Run τ σ ε α) world = ⟨[], world, .error h⟩ := rfl

@[simp] theorem fail_apply (e : ε) (world : σ) :
    (fail e : Run τ σ ε α) world = ⟨[], world, .error (.failure e)⟩ := rfl

@[simp] theorem tell_apply (ts : List τ) (world : σ) :
    (tell ts : Run τ σ ε Unit) world = ⟨ts, world, .ok ()⟩ := rfl

@[simp] theorem act_apply (f : σ → α × σ) (world : σ) :
    (act f : Run τ σ ε α) world = ⟨[], (f world).2, .ok (f world).1⟩ := rfl

/-- A run that follows one that stops leaves nothing. -/
theorem bind_of_error {x : Run τ σ ε α} {world : σ} {h : Halt ε}
    (hx : (x world).result = .error h) (f : α → Run τ σ ε β) :
    (x >>= f) world = ⟨(x world).trace, (x world).world, .error h⟩ := by
  show Run.bind x f world = _
  simp only [Run.bind, hx]

/-- The second run starts in the world that the first has left. -/
theorem bind_of_ok {x : Run τ σ ε α} {world : σ} {a : α}
    (hx : (x world).result = .ok a) (f : α → Run τ σ ε β) :
    (x >>= f) world =
      ⟨(x world).trace ++ (f a (x world).world).trace, (f a (x world).world).world,
        (f a (x world).world).result⟩ := by
  show Run.bind x f world = _
  simp only [Run.bind, hx]

@[simp] theorem tell_bind (ts : List τ) (f : Unit → Run τ σ ε β) (world : σ) :
    (tell ts >>= f) world =
      ⟨ts ++ (f () world).trace, (f () world).world, (f () world).result⟩ := rfl

end Run

/-! ## Runs of stories -/

/-- Why a run of a story fails. -/
inductive RunError
  | load (e : LoadError)
  | parse (path : Text) (e : StoryError)
  /-- A story runs on behalf of itself. The chain holds the stories that are running, the outermost
  first, and the path again. -/
  | cyclic (path : Text) (chain : List Text)
  | step (c : StepCause)
deriving DecidableEq, Repr

def RunError.message : RunError → String
  | load e => e.message
  | parse path e => s!"story '{path.toString}' could not be parsed: {e.message}"
  | cyclic path chain =>
    let links := (Text.join " -> ".toList chain).toString
    s!"given story '{path.toString}' is already running: {links}"
  | step c => c.message

/-- What a run of a story leaves in its trace. -/
inductive Entry (κ σ : Type)
  /-- An event is reported. -/
  | event (e : Event)
  /-- A record is logged. -/
  | record (r : Log.Record)
  /-- The cause that the run of a story ends with is logged. -/
  | absorbed (path : Text) (c : StepCause)
  /-- The code behind a step runs. -/
  | call (d : StepDefinition κ σ) (as : Arguments κ)

namespace Entry

variable {κ σ : Type}

/-- The event of an entry. -/
def event? : Entry κ σ → Option Event
  | event e => some e
  | _ => none

/-- The code that runs, with its arguments. -/
def call? : Entry κ σ → Option (StepDefinition κ σ × Arguments κ)
  | call d as => some (d, as)
  | _ => none

/-- The cause that is logged, with the path of the story. -/
def absorbed? : Entry κ σ → Option (Text × StepCause)
  | absorbed path c => some (path, c)
  | _ => none

/-- What the log tells of an entry. Events are logged only if there are labels for them. -/
def records (labels : Option Keywords) : Entry κ σ → List Log.Record
  | event e => labels.elim [] fun ks => e.records ks
  | record r => [r]
  | absorbed path c => [⟨.warn, s!"story '{path.toString}' finished with: {c.message}"⟩]
  | call _ _ => []

/-- The events of a trace. -/
def eventsOf (trace : List (Entry κ σ)) : List Event := trace.filterMap event?

/-- The calls of a trace. -/
def callsOf (trace : List (Entry κ σ)) : List (StepDefinition κ σ × Arguments κ) :=
  trace.filterMap call?

/-- The causes that a trace logs, each with the path of its story. -/
def absorbedOf (trace : List (Entry κ σ)) : List (Text × StepCause) :=
  trace.filterMap absorbed?

/-- What the log tells of a trace. -/
def recordsOf (labels : Option Keywords) (trace : List (Entry κ σ)) : List Log.Record :=
  trace.flatMap (records labels)

@[simp] theorem eventsOf_event (e : Event) (t : List (Entry κ σ)) :
    eventsOf (event e :: t) = e :: eventsOf t := rfl

@[simp] theorem eventsOf_record (r : Log.Record) (t : List (Entry κ σ)) :
    eventsOf (record r :: t) = eventsOf t := rfl

@[simp] theorem eventsOf_records (rs : List Log.Record) :
    eventsOf (rs.map (record (κ := κ) (σ := σ))) = [] := by
  induction rs with
  | nil => rfl
  | cons r rs ih => exact ih

@[simp] theorem eventsOf_append (t u : List (Entry κ σ)) :
    eventsOf (t ++ u) = eventsOf t ++ eventsOf u := List.filterMap_append

@[simp] theorem callsOf_append (t u : List (Entry κ σ)) :
    callsOf (t ++ u) = callsOf t ++ callsOf u := List.filterMap_append

@[simp] theorem absorbedOf_append (t u : List (Entry κ σ)) :
    absorbedOf (t ++ u) = absorbedOf t ++ absorbedOf u := List.filterMap_append

end Entry

/-- A run of a story or of a part of it. -/
abbrev StoryRun (κ σ α : Type) : Type := Run (Entry κ σ) σ RunError α

namespace StoryRun

variable {κ σ : Type}

/-- Reports an event. -/
def report (e : Event) : StoryRun κ σ Unit := Run.tell [.event e]

/-- Logs records. -/
def log (rs : List Log.Record) : StoryRun κ σ Unit := Run.tell (rs.map .record)

/-- Logs a detail. -/
def debug (message : String) : StoryRun κ σ Unit := log [⟨.debug, message⟩]

section

variable {α : Type} (f : Unit → StoryRun κ σ α) (world : σ)

@[simp] theorem report_bind (e : Event) :
    (report e >>= f) world =
      ⟨.event e :: (f () world).trace, (f () world).world, (f () world).result⟩ := rfl

@[simp] theorem log_bind (rs : List Log.Record) :
    (log rs >>= f) world =
      ⟨rs.map .record ++ (f () world).trace, (f () world).world, (f () world).result⟩ := rfl

@[simp] theorem debug_bind (message : String) :
    (debug message >>= f) world =
      ⟨.record ⟨.debug, message⟩ :: (f () world).trace, (f () world).world,
        (f () world).result⟩ := rfl

end

end StoryRun

end Storyline
