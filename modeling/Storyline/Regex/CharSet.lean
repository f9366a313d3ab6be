import Storyline.Unicode.CaseFolding
import Storyline.Unicode.Property

/-!
# Sets of characters

The sets that a regular expression can name: single characters, ranges, properties, and what set
operations and case folding make of them. A set is kept as the expression that denotes it, and
membership follows the expression.
-/

set_option autoImplicit false

namespace Storyline

open Unicode

/-- A set of characters. -/
inductive CharSet
  | empty
  /-- The characters from `lo` to `hi`. -/
  | range (lo hi : Char)
  | property (p : Property)
  | union (s t : CharSet)
  | inter (s t : CharSet)
  | diff (s t : CharSet)
  | symmDiff (s t : CharSet)
  | compl (s : CharSet)
  /-- All case variants of the members. -/
  | fold (s : CharSet)
  /-- The members, and the other case of those that are ASCII letters. -/
  | foldAscii (s : CharSet)
deriving DecidableEq, Repr

namespace CharSet

/-- The other case of an ASCII letter; any other character is its own. -/
def otherCase (c : Char) : Char := if c.isUpper then c.toLower else c.toUpper

/-- Membership. -/
def contains : CharSet → Char → Bool
  | empty, _ => false
  | range lo hi, c => lo ≤ c && c ≤ hi
  | property p, c => p.holds c
  | union s t, c => s.contains c || t.contains c
  | inter s t, c => s.contains c && t.contains c
  | diff s t, c => s.contains c && !t.contains c
  | symmDiff s t, c => s.contains c != t.contains c
  | compl s, c => !s.contains c
  | fold s, c => s.contains c || (variants c).any s.contains
  | foldAscii s, c => s.contains c || s.contains (otherCase c)

/-- The set of `c` alone. -/
def single (c : Char) : CharSet := range c c

/-- The union of a list of sets. -/
def unions (ss : List CharSet) : CharSet := ss.foldr union empty

/-! ## Named sets -/

/-- Every character. -/
def all : CharSet := property .any

/-- The decimal digits of all scripts. -/
def digit : CharSet := property (.category [.decimalNumber])

/-- White space. -/
def blank : CharSet := property .whiteSpace

/-- Word characters: letters and what attaches to them, digits and connectors. -/
def word : CharSet :=
  unions [property .alphabetic,
    property (.category (.decimalNumber :: .connectorPunctuation :: Category.marks)),
    range '\u200C' '\u200D']

/-- The digits `0` to `9`. -/
def asciiDigit : CharSet := range '0' '9'

/-- The ASCII blanks. -/
def asciiBlank : CharSet := union (range '\t' '\r') (single ' ')

/-- ASCII letters, digits and `_`. -/
def asciiWord : CharSet := unions [range 'a' 'z', range 'A' 'Z', range '0' '9', single '_']

/-- The ASCII classes that a bracket can name between `[:` and `:]`. -/
def posix : List (String × CharSet) :=
  [("alnum", unions [range '0' '9', range 'A' 'Z', range 'a' 'z']),
   ("alpha", union (range 'A' 'Z') (range 'a' 'z')),
   ("ascii", range '\x00' '\x7F'),
   ("blank", union (single '\t') (single ' ')),
   ("cntrl", union (range '\x00' '\x1F') (single '\x7F')),
   ("digit", asciiDigit),
   ("graph", range '!' '~'),
   ("lower", range 'a' 'z'),
   ("print", range ' ' '~'),
   ("punct", unions [range '!' '/', range ':' '@', range '[' '\x60', range '\x7B' '~']),
   ("space", asciiBlank),
   ("upper", range 'A' 'Z'),
   ("word", asciiWord),
   ("xdigit", unions [range '0' '9', range 'A' 'F', range 'a' 'f'])]

end CharSet

end Storyline
