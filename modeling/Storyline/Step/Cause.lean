import Storyline.Conversion
import Storyline.Policy

/-!
# Causes

Why a step was not successful. A cause is recorded and reported; what becomes of it is for the error
policy to say.
-/

set_option autoImplicit false

namespace Storyline

/-- Why a step, given by its line, was not successful. -/
inductive StepCause
  /-- No definition applies. -/
  | pending (line : Text)
  /-- Definitions of several collections apply equally well. -/
  | ambiguous (line : Text) (patterns : List Text) (collections : List String)
  /-- A parameter has no value of its type. Positions are counted from 1. -/
  | conversion (line : Text) (position : Nat) (hint value : Text) (e : ConversionError)
  /-- The code behind the step failed. -/
  | failed (line pattern : Text) (message : String)
  /-- The code behind the step panicked. -/
  | panicked (line pattern : Text) (message : String)
deriving DecidableEq, Repr

namespace StepCause

/-- The line of the step. -/
def line : StepCause → Text
  | pending l => l
  | ambiguous l _ _ => l
  | conversion l _ _ _ _ => l
  | failed l _ _ => l
  | panicked l _ _ => l

/-- How grave the cause is. -/
def kind : StepCause → CauseKind
  | pending _ => .pending
  | _ => .failure

def message : StepCause → String
  | pending l => s!"no step definition matches '{l.toString}'"
  | ambiguous l ps cs =>
    let places := (ps.zip cs).map fun (p, c) => s!"'{p.toString}' ({c})"
    s!"Ambiguous step definition for '{l.toString}'. Matches: " ++ ", ".intercalate places
  | conversion l i hint value e =>
    s!"parameter {i} of '{l.toString}' is not a valid {hint.toString} ('{value.toString}'): "
      ++ e.reason
  | failed l _ message => s!"step '{l.toString}' failed: {message}"
  | panicked l _ message => s!"step '{l.toString}' panicked: {message}"

end StepCause

end Storyline
