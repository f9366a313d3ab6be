import Storyline.Unicode.Ranges

/-!
# General categories: separators and controls

The ranges of each general category of Unicode 16.0 among the separators and controls, in
increasing order.
-/

set_option autoImplicit false

namespace Storyline.Unicode.Ranges

/-- Space separators (`Zs`). -/
def spaceSeparator : Ranges :=
  [(0x0020, 0x0020), (0x00A0, 0x00A0), (0x1680, 0x1680), (0x2000, 0x200A), (0x202F, 0x202F),
   (0x205F, 0x205F), (0x3000, 0x3000)]

/-- The line separator (`Zl`). -/
def lineSeparator : Ranges :=
  [(0x2028, 0x2028)]

/-- The paragraph separator (`Zp`). -/
def paragraphSeparator : Ranges :=
  [(0x2029, 0x2029)]

/-- Control characters (`Cc`). -/
def control : Ranges :=
  [(0x0000, 0x001F), (0x007F, 0x009F)]

/-- Format characters (`Cf`). -/
def format : Ranges :=
  [(0x00AD, 0x00AD), (0x0600, 0x0605), (0x061C, 0x061C), (0x06DD, 0x06DD), (0x070F, 0x070F),
   (0x0890, 0x0891), (0x08E2, 0x08E2), (0x180E, 0x180E), (0x200B, 0x200F), (0x202A, 0x202E),
   (0x2060, 0x2064), (0x2066, 0x206F), (0xFEFF, 0xFEFF), (0xFFF9, 0xFFFB), (0x110BD, 0x110BD),
   (0x110CD, 0x110CD), (0x13430, 0x1343F), (0x1BCA0, 0x1BCA3), (0x1D173, 0x1D17A),
   (0xE0001, 0xE0001), (0xE0020, 0xE007F)]

/-- Private use characters (`Co`). -/
def privateUse : Ranges :=
  [(0xE000, 0xF8FF), (0xF0000, 0xFFFFD), (0x100000, 0x10FFFD)]

end Storyline.Unicode.Ranges
