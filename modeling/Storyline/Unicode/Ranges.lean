/-!
# Ranges of characters

A class of characters is listed as closed ranges of code points in increasing order.
-/

set_option autoImplicit false

namespace Storyline.Unicode

/-- Closed ranges of code points, in increasing order and without overlap. -/
abbrev Ranges := List (Nat × Nat)

namespace Ranges

/-- Some range holds the code point `n`. The search stops at the first range beyond `n`. -/
def holds : Ranges → Nat → Bool
  | [], _ => false
  | (lo, hi) :: rs, n => if n < lo then false else if n ≤ hi then true else holds rs n

/-- Some range holds the character. -/
def contains (rs : Ranges) (c : Char) : Bool := rs.holds c.toNat

theorem holds_cons (lo hi n : Nat) (rs : Ranges) :
    holds ((lo, hi) :: rs) n = if n < lo then false else if n ≤ hi then true else holds rs n :=
  rfl

end Ranges

end Storyline.Unicode
