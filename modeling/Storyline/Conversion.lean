import Storyline.Value

/-!
# Conversion of parameters

A hint selects the converter that makes a value of the text of a parameter. A parameter without
hint, or with one that has no converter, stays text.
-/

set_option autoImplicit false

namespace Storyline

/-- Why a text has no value of some type. -/
structure ConversionError where
  reason : String
deriving DecidableEq, Repr

/-- Makes values of texts. -/
abbrev Converter (κ : Type) := Text → Except ConversionError (Value κ)

namespace Converter

variable {κ : Type}

/-- The value of the trimmed text by `parse`, or an error that quotes the text. -/
def quoting {ε α : Type} (parse : Text → Except ε α) (message : ε → String)
    (value : α → Value κ) : Converter κ := fun t =>
  let t := Text.trim t
  match parse t with
  | .ok a => .ok (value a)
  | .error e => .error ⟨s!"'{t.toString}': {message e}"⟩

/-- Reads an integer of a type. -/
def integer (τ : IntegerType) : Converter κ :=
  quoting τ.parse IntegerError.message fun n => if τ.signed then .integer n else .unsigned n.toNat

/-- Reads a number of a binary format. -/
def float (f : BinaryFormat) : Converter κ :=
  quoting Numeral.parse NumeralError.message fun n => .float (f.ofNumeral n)

/-- Reads a truth value in words. -/
def boolean : Converter κ := fun t =>
  let t := Text.trim t
  if Text.sameLetters t "true".toList || Text.sameLetters t "yes".toList then .ok (.boolean true)
  else if Text.sameLetters t "false".toList || Text.sameLetters t "no".toList then
    .ok (.boolean false)
  else .error ⟨s!"'{t.toString}' is not a boolean"⟩

/-- Reads a list with commas. -/
def list : Converter κ := fun t => .ok (.list (Text.entries t))

/-- Keeps the text. -/
def text : Converter κ := fun t => .ok (.text t)

/-- Reads a table. -/
def table (seps : Separators) : Converter κ := fun t =>
  match Table.parse seps t with
  | .ok table => .ok (.table table)
  | .error e => .error ⟨e.message⟩

/-- Reads one of some words, whatever its case. The value is the word as it was declared. -/
def oneOf (words : List Text) : Converter κ := fun t =>
  let t := Text.trim t
  match words.find? (Text.sameLetters · t) with
  | some w => .ok (.text w)
  | none =>
    let choices := ", ".intercalate (words.map Text.toString)
    .error ⟨s!"'{t.toString}' is not one of {choices}"⟩

end Converter

/-- The converters in use, by hint. -/
structure Converters (κ : Type) where
  find? : Text → Option (Converter κ)

namespace Converters

variable {κ : Type}

/-- No converters. -/
def empty : Converters κ := ⟨fun _ => none⟩

/-- The converters with one more, in place of an earlier one for the same hint. -/
def register (cs : Converters κ) (hint : Text) (c : Converter κ) : Converters κ :=
  ⟨fun h => if h = hint then some c else cs.find? h⟩

/-- The converters with a reader of tables that have the given separators. -/
def withSeparators (cs : Converters κ) (seps : Separators) : Converters κ :=
  cs.register "table".toList (.table seps)

/-- The converters that are always there. -/
def default : Converters κ :=
  let integers := IntegerType.all.foldl (fun cs τ => cs.register τ.name.toList (.integer τ)) empty
  let named : List (String × Converter κ) :=
    [("f32", .float .single), ("f64", .float .double), ("bool", .boolean), ("list", .list),
     ("string", .text), ("word", .text)]
  (named.foldl (fun cs (hint, c) => cs.register hint.toList c) integers).withSeparators {}

/-- There is a converter for the hint. -/
def supports (cs : Converters κ) (hint : Text) : Bool := (cs.find? hint).isSome

/-- The value of a text under a hint. -/
def convert (cs : Converters κ) (hint : Option Text) (t : Text) :
    Except ConversionError (Value κ) :=
  match hint.bind cs.find? with
  | some c => c t
  | none => .ok (.text t)

end Converters

end Storyline
