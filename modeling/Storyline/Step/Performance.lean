import Storyline.Step.Matching

/-!
# Performing steps

A step is performed on a world, or it is skipped. A step that was performed without success has a
cause; one that was skipped has none.
-/

set_option autoImplicit false

namespace Storyline

/-- How a step came out. -/
inductive StepOutcome
  | successful
  | ignorable
  | pending
  | notPerformed
  | failed (c : StepCause)
deriving DecidableEq, Repr

/-- How the step of a line came out. -/
structure StepResult where
  line : Text
  outcome : StepOutcome
deriving DecidableEq, Repr

namespace StepResult

/-- The cause of an unsuccessful step. A step that was not performed has none. -/
def cause? (r : StepResult) : Option StepCause :=
  match r.outcome with
  | .pending => some (.pending r.line)
  | .failed c => some c
  | _ => none

end StepResult

namespace Step

variable {κ σ : Type}

/-- The code that performing the step runs, with its arguments. -/
def call? (s : Step κ σ) : Option (StepDefinition κ σ × Arguments κ) :=
  match s.binding with
  | .bound d as => some (d, as)
  | _ => none

/-- How a step comes out whose code ended in the given way. -/
def outcomeOf (line : Text) (d : StepDefinition κ σ) : HandlerResult → StepOutcome
  | .done => .successful
  | .failed message => .failed (.failed line d.pattern.source message)
  | .panicked message => .failed (.panicked line d.pattern.source message)

/-- Performs the step. -/
def perform (s : Step κ σ) (world : σ) : StepResult × σ :=
  match s.binding with
  | .ignorable => (⟨s.line, .ignorable⟩, world)
  | .pending => (⟨s.line, .pending⟩, world)
  | .unresolvable c => (⟨s.line, .failed c⟩, world)
  | .bound d as =>
    let (result, world) := d.handler as world
    (⟨s.line, outcomeOf s.line d result⟩, world)

/-- Skips the step. -/
def skip (s : Step κ σ) : StepResult := ⟨s.line, .notPerformed⟩

@[simp] theorem perform_line (s : Step κ σ) (world : σ) : (s.perform world).1.line = s.line := by
  unfold perform
  split <;> rfl

end Step

end Storyline
