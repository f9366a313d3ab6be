import Storyline.Regex.CharSet

/-!
# Names of classes

A regular expression can ask for a class of characters by name, as in `\p{Greek}`. Which names there
are, and which characters they stand for, is up to the engine and to its version of Unicode. So the
reader of expressions takes them as given (`ClassNames`), and what is proved of it holds whatever
they are. The library runs with the names of the general categories and of the scripts, and with
those of a few other properties (`ClassNames.known`).
-/

set_option autoImplicit false

namespace Storyline

/-- The classes that can be asked for by name. -/
class ClassNames where
  /-- The class of a letter, as in `\pL`. -/
  letter? : Char → Option CharSet
  /-- The class of the text in braces, as in `\p{Greek}` or `\p{sc=Greek}`. -/
  named? : Text → Option CharSet
  /-- Only letters stand for classes without braces. -/
  isAlpha_of_letter? : ∀ {c : Char} {s : CharSet}, letter? c = some s → c.isAlpha = true

namespace ClassNames

open Unicode (Property)

/-- The property that the text in the braces of a class asks for. -/
def property? (name : Text) : Option Property :=
  match Text.pieces "!=".toList name with
  | n :: v :: vs => Property.valued? n (Text.join "!=".toList (v :: vs))
  | _ => split ':' <| split '=' <| Property.named? name
where
  split (sep : Char) (otherwise : Option Property) : Option Property :=
    if name.contains sep then
      Property.valued? (name.takeWhile (· != sep)) ((name.dropWhile (· != sep)).drop 1)
    else otherwise

/-- The names that are known here. -/
instance known : ClassNames where
  letter? c := if c.isAlpha then (Property.named? [c]).map .property else none
  named? name := (property? name).map .property
  isAlpha_of_letter? h := by
    split at h
    · assumption
    · cases h

end ClassNames

end Storyline
