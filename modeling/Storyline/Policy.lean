import Storyline.Text

/-!
# Policies

What becomes of the cause that a story run keeps: `ErrorPolicy.select` chooses a strategy by the
kind of the cause. `RunMode` says how a run of several stories goes on after a failure.
-/

set_option autoImplicit false

namespace Storyline

/-- What to do with the cause of a story run. -/
inductive ErrorStrategy
  /-- Drop it. -/
  | silent
  /-- Write it to the log and drop it. -/
  | log
  /-- Let the run fail with it. -/
  | rethrow
deriving DecidableEq, Repr

/-- A text that names no error strategy. -/
structure UnknownStrategy where
  text : Text
deriving DecidableEq, Repr

def UnknownStrategy.message (e : UnknownStrategy) : String :=
  s!"unknown error strategy '{e.text.toString}' (expected silent, log or rethrow)"

namespace ErrorStrategy

def all : List ErrorStrategy := [silent, log, rethrow]

def name : ErrorStrategy → String
  | silent => "silent"
  | log => "log"
  | rethrow => "rethrow"

/-- The strategy lets the run fail. -/
def propagates (s : ErrorStrategy) : Bool := s == rethrow

/-- The strategy with the given name, up to case and blanks around it. -/
def parse (t : Text) : Except UnknownStrategy ErrorStrategy :=
  let t := Text.trim t
  match all.find? fun s => Text.sameLetters t s.name.toList with
  | some s => .ok s
  | none => .error ⟨t⟩

end ErrorStrategy

/-- How grave the cause of a story run is. -/
inductive CauseKind
  /-- A step had no definition. -/
  | pending
  /-- A step failed. -/
  | failure
deriving DecidableEq, Repr

/-- A cause of kind `k` gives way to a later one of kind `next` only if a failure replaces a
pending step. -/
def CauseKind.yieldsTo (k next : CauseKind) : Bool := k == pending && next == failure

/-- The strategies for the two kinds of cause. -/
structure ErrorPolicy where
  pending : ErrorStrategy := .silent
  failure : ErrorStrategy := .rethrow
deriving DecidableEq, Repr

/-- The strategy for a cause of kind `k`. -/
def ErrorPolicy.select (p : ErrorPolicy) : CauseKind → ErrorStrategy
  | .pending => p.pending
  | .failure => p.failure

/-- How a run of several stories treats them. -/
structure RunMode where
  /-- Run every story and report all failures at the end. -/
  batch : Bool := false
  /-- Run no story at all. -/
  skip : Bool := false
  /-- Let failures pass. -/
  ignoreFailure : Bool := false
deriving DecidableEq, Repr

end Storyline
