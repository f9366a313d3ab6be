import Storyline.Number.Integer

/-!
# Hints

A hint says which type of value a placeholder stands for, and so which texts it can match. Hints
that the library does not know are admitted; they leave the placeholder open.
-/

set_option autoImplicit false

namespace Storyline

/-- The classes of hints that match the same texts. -/
inductive HintClass
  | unsigned
  | signed
  | float
  | boolean
  /-- Anything up to a blank. -/
  | word
  /-- Anything, over several lines. -/
  | table
  /-- Anything on one line. -/
  | text
deriving DecidableEq, Repr

namespace HintClass

/-- The class of a hint, or of a placeholder without hint. -/
def ofHint : Option Text → HintClass
  | none => text
  | some h =>
    match IntegerType.all.find? fun τ => τ.name.toList == h with
    | some τ => if τ.signed then signed else unsigned
    | none =>
      if h = "f32".toList ∨ h = "f64".toList then float
      else if h = "bool".toList then boolean
      else if h = "word".toList then word
      else if h = "table".toList then table
      else text

/-- The regular expression of the texts that a placeholder can match. -/
def source : HintClass → String
  | unsigned => "\\d+"
  | signed => "[+-]?\\d+"
  | float =>
    "(?i:[+-]?(?:\\d+\\.\\d*|\\.\\d+|\\d+)(?:e[+-]?\\d+)?|nan|inf|infinity)"
  | boolean => "(?i:true|false|yes|no)"
  | word => "\\S+"
  | table => "(?s:.+)"
  | text => ".+?"

end HintClass

/-- The regular expression for a placeholder with the given hint. -/
def hintSource (hint : Option Text) : String := (HintClass.ofHint hint).source

end Storyline
