/-!
# The first greatest element

`best?` picks from a list the first element that no other exceeds.
-/

set_option autoImplicit false

namespace Storyline

/-- The better of two elements, the first one unless the second exceeds it. -/
def better {α : Type} (exceeds : α → α → Bool) (a b : α) : α := if exceeds b a then b else a

/-- The first element of the list that no other exceeds. -/
def best? {α : Type} (exceeds : α → α → Bool) : List α → Option α
  | [] => none
  | a :: l => some (l.foldl (better exceeds) a)

end Storyline
