import Storyline.Text

/-!
# Decimal numerals

The numerals of floating-point numbers: digits with a point and an exponent, or a name of infinity
or of no number. `Numeral.parse` gives the value that a numeral denotes, before any rounding.
-/

set_option autoImplicit false

namespace Storyline

/-- The number `digits * 10 ^ exponent`. -/
structure Decimal where
  digits : Nat
  exponent : Int
deriving DecidableEq, Repr

/-- What a numeral denotes. -/
inductive Numeral
  | finite (negative : Bool) (d : Decimal)
  | infinite (negative : Bool)
  | nan
deriving DecidableEq, Repr

/-- Why a text is no numeral. -/
inductive NumeralError
  | empty
  | invalid
deriving DecidableEq, Repr

def NumeralError.message : NumeralError → String
  | empty => "cannot parse float from empty string"
  | invalid => "invalid float literal"

namespace Decimal

/-- The number that a row of decimal digits denotes. -/
def ofDigits (t : Text) : Nat := t.foldl (fun n c => n * 10 + (c.toNat - '0'.toNat)) 0

/-- Splits the digits off the start of a text. -/
def takeDigits (t : Text) : Text × Text := (t.takeWhile Char.isDigit, t.dropWhile Char.isDigit)

/-- Splits a sign off the start of a text: whether it is a minus sign, and the rest. -/
def takeSign : Text → Bool × Text
  | '+' :: t => (false, t)
  | '-' :: t => (true, t)
  | t => (false, t)

/-- Splits a point and the digits after it off the start of a text. -/
def takeFraction : Text → Text × Text
  | '.' :: t => takeDigits t
  | t => ([], t)

/-- Reads an exponent, which must end the text. Without one the exponent is 0. -/
def exponent? : Text → Option Int
  | [] => some 0
  | c :: t =>
    if c = 'e' ∨ c = 'E' then
      let (negative, t) := takeSign t
      let (ds, rest) := takeDigits t
      if ds.isEmpty || !rest.isEmpty then none
      else some (if negative then -(ofDigits ds : Int) else ofDigits ds)
    else none

/-- Reads digits with at most one point among them, and an exponent. -/
def parse? (t : Text) : Option Decimal :=
  let (whole, t) := takeDigits t
  let (fraction, t) := takeFraction t
  if whole.isEmpty && fraction.isEmpty then none
  else (exponent? t).map fun e => ⟨ofDigits (whole ++ fraction), e - fraction.length⟩

end Decimal

namespace Numeral

/-- Reads a numeral without its sign. -/
def unsigned? (negative : Bool) (t : Text) : Option Numeral :=
  if Text.sameLetters t "nan".toList then some .nan
  else if Text.sameLetters t "inf".toList || Text.sameLetters t "infinity".toList then
    some (.infinite negative)
  else (Decimal.parse? t).map (.finite negative)

/-- Reads a numeral. -/
def parse (t : Text) : Except NumeralError Numeral :=
  if t.isEmpty then .error .empty
  else
    let (negative, t) := Decimal.takeSign t
    match unsigned? negative t with
    | some n => .ok n
    | none => .error .invalid

end Numeral

end Storyline
