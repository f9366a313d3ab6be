import Storyline.Value

/-!
# Arguments of steps

What a step hands to the code behind it: for each parameter the text that it matched and the value
that the text was converted to.
-/

set_option autoImplicit false

namespace Storyline

/-- An argument of a step. -/
structure Argument (κ : Type) where
  name : Option Text
  raw : Text
  value : Value κ
deriving DecidableEq, Repr

/-- Why an argument cannot be used. Positions are counted from 0. -/
inductive ArgumentError
  | missing (index : Nat)
  | unknownName (name : Text)
  | unreadable (index : Nat) (raw : Text) (reason : String)
deriving DecidableEq, Repr

def ArgumentError.message : ArgumentError → String
  | missing i => s!"step has no argument at position {i}"
  | unknownName name => s!"step has no argument named '{name.toString}'"
  | unreadable i raw reason =>
    s!"argument {i} ('{raw.toString}') could not be parsed: {reason}"

/-- The arguments of a step line. -/
structure Arguments (κ : Type) where
  /-- The whole line, keyword included. -/
  text : Text
  items : List (Argument κ) := []
deriving DecidableEq, Repr

namespace Arguments

variable {κ : Type}

/-- The arguments with one more. -/
def push (as : Arguments κ) (a : Argument κ) : Arguments κ := { as with items := as.items ++ [a] }

/-- The value at a position. -/
def get? (as : Arguments κ) (i : Nat) : Option (Value κ) := as.items[i]?.map (·.value)

/-- The matched text at a position. -/
def raw? (as : Arguments κ) (i : Nat) : Option Text := as.items[i]?.map (·.raw)

/-- The value of the first argument with the given name. -/
def named? (as : Arguments κ) (name : Text) : Option (Value κ) :=
  (as.items.find? (·.name == some name)).map (·.value)

/-- Reads the trimmed text at a position with `read`, which may refuse it with a reason. -/
def read {α : Type} (as : Arguments κ) (read : Text → Except String α) (i : Nat) :
    Except ArgumentError α :=
  match as.raw? i with
  | none => .error (.missing i)
  | some raw =>
    match read (Text.trim raw) with
    | .ok a => .ok a
    | .error reason => .error (.unreadable i raw reason)

/-- Reads the text of the first argument with the given name. -/
def readNamed {α : Type} (as : Arguments κ) (read : Text → Except String α) (name : Text) :
    Except ArgumentError α :=
  match as.items.findIdx? (·.name == some name) with
  | none => .error (.unknownName name)
  | some i => as.read read i

end Arguments

end Storyline
