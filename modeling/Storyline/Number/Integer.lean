import Storyline.Text

/-!
# Integers of a fixed width

The types of integers that a parameter can have, and reading a text as an integer of such a type.
`IntegerType.parse` reads from left to right and stops at the first character that is no digit or
takes the number out of range, whichever comes first.
-/

set_option autoImplicit false

namespace Storyline

/-- A type of integers: its name, whether it has negative numbers, and its width. -/
structure IntegerType where
  name : String
  signed : Bool
  bits : Nat
deriving DecidableEq, Repr

/-- Why a text is no integer of some type. -/
inductive IntegerError
  | empty
  | invalidDigit
  | tooLarge
  | tooSmall
deriving DecidableEq, Repr

def IntegerError.message : IntegerError → String
  | empty => "cannot parse integer from empty string"
  | invalidDigit => "invalid digit found in string"
  | tooLarge => "number too large to fit in target type"
  | tooSmall => "number too small to fit in target type"

namespace IntegerType

def u8 : IntegerType := ⟨"u8", false, 8⟩

def u64 : IntegerType := ⟨"u64", false, 64⟩

def u128 : IntegerType := ⟨"u128", false, 128⟩

def i8 : IntegerType := ⟨"i8", true, 8⟩

def i64 : IntegerType := ⟨"i64", true, 64⟩

def i128 : IntegerType := ⟨"i128", true, 128⟩

/-- All integer types. A size has 64 bits. -/
def all : List IntegerType :=
  [u8, ⟨"u16", false, 16⟩, ⟨"u32", false, 32⟩, u64, u128, ⟨"usize", false, 64⟩,
   i8, ⟨"i16", true, 16⟩, ⟨"i32", true, 32⟩, i64, i128, ⟨"isize", true, 64⟩]

/-- The smallest number of the type. -/
def least (τ : IntegerType) : Int := if τ.signed then -(Nat.pow 2 (τ.bits - 1) : Int) else 0

/-- The greatest number of the type. -/
def greatest (τ : IntegerType) : Int :=
  (Nat.pow 2 (if τ.signed then τ.bits - 1 else τ.bits) : Int) - 1

/-- `n` is a number of the type. -/
def holds (τ : IntegerType) (n : Int) : Bool := τ.least ≤ n && n ≤ τ.greatest

/-- The value of a decimal digit. -/
def digit? (c : Char) : Option Nat := if c.isDigit then some (c.toNat - '0'.toNat) else none

/-- Reads digits after a number `n` that was read already. -/
def parseDigits (τ : IntegerType) (negative : Bool) (n : Int) : Text → Except IntegerError Int
  | [] => .ok n
  | c :: t =>
    match digit? c with
    | none => .error .invalidDigit
    | some d =>
      let m := n * 10 + (if negative then -(d : Int) else d)
      if m < τ.least then .error .tooSmall
      else if τ.greatest < m then .error .tooLarge
      else parseDigits τ negative m t

/-- Reads an integer: digits, after a sign that may be left out. Only a type with negative numbers
takes a minus sign. -/
def parse (τ : IntegerType) (t : Text) : Except IntegerError Int :=
  match t with
  | [] => .error .empty
  | ['+'] => .error .invalidDigit
  | ['-'] => .error .invalidDigit
  | '+' :: t => τ.parseDigits false 0 t
  | '-' :: t => if τ.signed then τ.parseDigits true 0 t else τ.parseDigits false 0 ('-' :: t)
  | t => τ.parseDigits false 0 t

end IntegerType

end Storyline
