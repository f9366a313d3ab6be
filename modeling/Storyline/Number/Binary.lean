import Storyline.Number.Decimal

/-!
# Binary floating-point numbers

Rounding a decimal number to the nearest binary floating-point number of a format, where a number
halfway between two goes to the one with the even mantissa, and the bits of a number in the format
with 64 bits.
-/

set_option autoImplicit false

namespace Storyline

/-- A binary floating-point number. -/
inductive BinaryFloat
  | nan
  | infinite (negative : Bool)
  /-- The number `mantissa * 2 ^ exponent`, up to its sign. -/
  | finite (negative : Bool) (mantissa : Nat) (exponent : Int)
deriving DecidableEq, Repr

/-- A binary format: the bits of the mantissa, the least exponent of a mantissa, and the exponent
of the least power of two that is out of range. -/
structure BinaryFormat where
  precision : Nat
  least : Int
  limit : Int
deriving DecidableEq, Repr

namespace BinaryFormat

def single : BinaryFormat := ⟨24, -149, 128⟩

def double : BinaryFormat := ⟨53, -1074, 1024⟩

/-- `a / b` as a pair of natural numbers, multiplied by `2 ^ e`. -/
def scale (a b : Nat) (e : Int) : Nat × Nat :=
  if e < 0 then (a, b * Nat.pow 2 (-e).toNat) else (a * Nat.pow 2 e.toNat, b)

/-- The greatest `k` with `2 ^ k ≤ a / b`, for positive `a` and `b`. -/
def log2 (a b : Nat) : Int :=
  let k : Int := a.log2 - b.log2
  let (a, b) := scale a b (-k)
  if a < b then k - 1 else k

/-- The integer nearest to `a / b`; a half goes to the even neighbour. -/
def nearest (a b : Nat) : Nat :=
  let q := a / b
  let r := a % b
  if b < 2 * r ∨ b = 2 * r ∧ q % 2 = 1 then q + 1 else q

/-- The number of the format nearest to `a / b`, for positive `a` and `b`. -/
def roundRatio (f : BinaryFormat) (negative : Bool) (a b : Nat) : BinaryFloat :=
  let e := max (log2 a b - (f.precision - 1)) f.least
  let (a, b) := scale a b (-e)
  let m := nearest a b
  if m ≠ 0 ∧ f.limit ≤ m.log2 + e then .infinite negative else .finite negative m e

/-- Bounds beyond which a decimal number is out of range or rounds to zero, by the place of its
first digit. -/
def decimalRange : Int := 400

/-- The number of the format nearest to a decimal number. -/
def round (f : BinaryFormat) (negative : Bool) (d : Decimal) : BinaryFloat :=
  let first : Int := (Nat.toDigits 10 d.digits).length + d.exponent
  if d.digits = 0 ∨ first < -decimalRange then .finite negative 0 f.least
  else if decimalRange < first then .infinite negative
  else if d.exponent < 0 then f.roundRatio negative d.digits (Nat.pow 10 (-d.exponent).toNat)
  else f.roundRatio negative (d.digits * Nat.pow 10 d.exponent.toNat) 1

/-- The number of the format nearest to what a numeral denotes. -/
def ofNumeral (f : BinaryFormat) : Numeral → BinaryFloat
  | .nan => .nan
  | .infinite negative => .infinite negative
  | .finite negative d => f.round negative d

end BinaryFormat

namespace BinaryFloat

/-- The sign bit. -/
def signBit (negative : Bool) : Nat := if negative then Nat.pow 2 63 else 0

/-- The 64 bits of a number of the double format. -/
def bits : BinaryFloat → Nat
  | nan => 0x7FF8000000000000
  | infinite negative => signBit negative + 0x7FF0000000000000
  | finite negative m e =>
    if m = 0 then signBit negative
    else
      let k := m.log2
      let top : Int := k + e
      let fraction := if k ≤ 52 then m * Nat.pow 2 (52 - k) else m / Nat.pow 2 (k - 52)
      if -1022 ≤ top then signBit negative + (top + 1022).toNat * Nat.pow 2 52 + fraction
      else signBit negative + m * Nat.pow 2 (e + 1074).toNat

/-- The 64 bits as sixteen hexadecimal digits. -/
def hex (x : BinaryFloat) : String :=
  let ds := Nat.toDigits 16 x.bits
  String.ofList (List.replicate (16 - ds.length) '0' ++ ds)

end BinaryFloat

end Storyline
