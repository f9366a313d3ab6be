import Storyline.Number.Binary
import Storyline.Number.Integer
import Storyline.Table

/-!
# Values of parameters

The values that parameters of steps are converted to. A program that registers converters of its
own chooses the type `κ` of the values that only these produce.
-/

set_option autoImplicit false

namespace Storyline

/-- The value of a parameter. -/
inductive Value (κ : Type)
  | text (t : Text)
  | integer (n : Int)
  | unsigned (n : Nat)
  | float (x : BinaryFloat)
  | boolean (b : Bool)
  | list (ts : List Text)
  | table (t : Table)
  /-- A value of the program's own. -/
  | custom (c : κ)
deriving DecidableEq, Repr

namespace Value

variable {κ : Type}

def asText? : Value κ → Option Text
  | text t => some t
  | _ => none

/-- The number of an integer value, if a signed integer of 128 bits can hold it. -/
def asInteger? : Value κ → Option Int
  | integer n => some n
  | unsigned n => if IntegerType.i128.holds n then some n else none
  | _ => none

def asFloat? : Value κ → Option BinaryFloat
  | float x => some x
  | _ => none

def asBoolean? : Value κ → Option Bool
  | boolean b => some b
  | _ => none

def asList? : Value κ → Option (List Text)
  | list ts => some ts
  | _ => none

def asTable? : Value κ → Option Table
  | table t => some t
  | _ => none

end Value

end Storyline
