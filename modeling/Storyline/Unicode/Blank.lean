import Storyline.Unicode.Ranges

/-!
# Blank characters

The property White_Space of Unicode, which has the ASCII blanks and others.
-/

set_option autoImplicit false

namespace Storyline.Unicode

/-- The characters with the property White_Space. -/
def Ranges.whiteSpace : Ranges :=
  [(0x0009, 0x000D), (0x0020, 0x0020), (0x0085, 0x0085), (0x00A0, 0x00A0), (0x1680, 0x1680),
   (0x2000, 0x200A), (0x2028, 0x2029), (0x202F, 0x202F), (0x205F, 0x205F), (0x3000, 0x3000)]

/-- `c` is white space. -/
def isBlank (c : Char) : Bool := Ranges.whiteSpace.contains c

end Storyline.Unicode
