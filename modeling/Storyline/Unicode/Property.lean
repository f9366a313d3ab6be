import Storyline.Unicode.Category
import Storyline.Unicode.LetterLike
import Storyline.Unicode.Script
import Storyline.Text

/-!
# Properties of characters

The properties behind the sets that `\w`, `\d` and `\s` stand for, and those that `ClassNames.known`
gives a name. Names are matched loosely: case, blanks, underscores and hyphens do not count, nor
does a leading `is`.
-/

set_option autoImplicit false

namespace Storyline.Unicode

/-- A property of characters. -/
inductive Property
  | any
  | ascii
  | alphabetic
  | lowercase
  | uppercase
  | whiteSpace
  | hexDigit
  | asciiHexDigit
  /-- The general category is one of the list. -/
  | category (cs : List Category)
  /-- The character is written in a script with these ranges. -/
  | script (rs : Ranges)
deriving DecidableEq, Repr

namespace Property

def asciiHexDigits : Ranges := [(0x30, 0x39), (0x41, 0x46), (0x61, 0x66)]

def hexDigits : Ranges :=
  asciiHexDigits ++ [(0xFF10, 0xFF19), (0xFF21, 0xFF26), (0xFF41, 0xFF46)]

/-- `c` has the property. -/
def holds : Property → Char → Bool
  | any, _ => true
  | ascii, c => c.toNat < 0x80
  | alphabetic, c =>
    (Category.letterNumber :: Category.letters).any (·.contains c)
      || Ranges.otherAlphabetic.contains c
  | lowercase, c => Ranges.lowercaseLetter.contains c || Ranges.otherLowercase.contains c
  | uppercase, c => Ranges.uppercaseLetter.contains c || Ranges.otherUppercase.contains c
  | whiteSpace, c => isBlank c
  | hexDigit, c => hexDigits.contains c
  | asciiHexDigit, c => asciiHexDigits.contains c
  | category cs, c => cs.any (·.contains c)
  | script rs, c => rs.contains c

/-! ## Names -/

/-- The letters of a name that count: small ASCII letters, without blanks, `_` and `-`. -/
def plain (name : Text) : Text :=
  Text.lower (name.filter fun c => c.toNat < 0x80 && c != ' ' && c != '_' && c != '-')

/-- The name as it is looked up. A leading `is` is dropped, except in `isc`, which abbreviates a
property of its own. -/
def looseName : Text → String
  | a :: b :: r =>
    if Text.lower [a, b] = ['i', 's'] && plain r ≠ ['c'] then String.ofList (plain r)
    else String.ofList (plain (a :: b :: r))
  | t => String.ofList (plain t)

/-- The properties with a name of their own. -/
def binary : List (String × Property) :=
  [("alphabetic", alphabetic), ("alpha", alphabetic),
   ("lowercase", lowercase), ("lower", lowercase),
   ("uppercase", uppercase), ("upper", uppercase),
   ("whitespace", whiteSpace), ("wspace", whiteSpace), ("space", whiteSpace),
   ("hexdigit", hexDigit), ("hex", hexDigit),
   ("asciihexdigit", asciiHexDigit), ("ahex", asciiHexDigit)]

/-- The property that the name of a general category stands for. -/
def category? (name : String) : Option Property :=
  match name with
  | "any" => some any
  | "ascii" => some ascii
  | "assigned" => some (category Category.assigned)
  | _ => (Category.named.lookup name).map category

/-- The property that the name of a script stands for. -/
def script? (name : String) : Option Property :=
  (Script.all.find? (·.names.contains name)).map fun s => script s.ranges

/-- The property of a name that stands alone. -/
def named? (name : Text) : Option Property :=
  let n := looseName name
  (binary.lookup n).or ((category? n).or (script? n))

/-- The property of a pair `name=value`. -/
def valued? (name value : Text) : Option Property :=
  match looseName name with
  | "gc" => category? (looseName value)
  | "generalcategory" => category? (looseName value)
  | "sc" => script? (looseName value)
  | "script" => script? (looseName value)
  | _ => none

end Property

end Storyline.Unicode
