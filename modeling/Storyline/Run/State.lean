import Storyline.Policy
import Storyline.Step.Performance

/-!
# The state of a story run

While a story runs, two things are remembered: whether the current list of steps has met a cause,
and the gravest cause of all lists so far, with the strategy for it. Each list starts afresh, but
the cause and its strategy last for the whole run. Given stories have states of their own.
-/

set_option autoImplicit false

namespace Storyline

/-- How the current list of steps is doing. -/
inductive Progress
  | fineSoFar
  /-- A step had a cause, so that the rest of the list is skipped. -/
  | somethingHappened
deriving DecidableEq, Repr

/-- The state of a story run. -/
structure RunState where
  policy : ErrorPolicy
  progress : Progress := .fineSoFar
  /-- The cause that is kept. -/
  cause : Option StepCause := none
  /-- What to do with the cause. -/
  strategy : ErrorStrategy := .silent
deriving DecidableEq, Repr

namespace RunState

/-- A list of steps starts. -/
def startList (st : RunState) : RunState := { st with progress := .fineSoFar }

/-- Keeps a cause and selects its strategy, unless the cause kept so far does not give way. -/
def record (st : RunState) (c : StepCause) : RunState :=
  if st.cause.all fun kept => kept.kind.yieldsTo c.kind then
    { st with cause := some c, strategy := st.policy.select c.kind }
  else st

/-- Takes notice of how a step came out. -/
def note (st : RunState) (r : StepResult) : RunState :=
  match r.cause? with
  | none => st
  | some c => { st with progress := .somethingHappened }.record c

end RunState

end Storyline
