import Storyline.Pattern.Token

/-!
# Specificity

How narrowly a pattern describes a step. Of several patterns that match a step the most specific
one is meant: the one with the fewest gaps, then the most literal characters, then the most hints.
-/

set_option autoImplicit false

namespace Storyline

/-- The counts that rank a pattern. -/
structure Specificity where
  literalChars : Nat := 0
  placeholders : Nat := 0
  /-- Placeholders with a hint. -/
  typedPlaceholders : Nat := 0
deriving DecidableEq, Repr

namespace Specificity

/-- Compares two patterns; the more specific one is the greater. -/
def compare (a b : Specificity) : Ordering :=
  (Ord.compare b.placeholders a.placeholders).then <|
    (Ord.compare a.literalChars b.literalChars).then <|
      Ord.compare a.typedPlaceholders b.typedPlaceholders

instance : Ord Specificity := ⟨compare⟩

/-- The counts with one more token. -/
def count (s : Specificity) : Pattern.Token → Specificity
  | .literal t => { s with literalChars := s.literalChars + t.length }
  | .placeholder p =>
    { s with
      placeholders := s.placeholders + 1
      typedPlaceholders := s.typedPlaceholders + p.hint.toList.length }

/-- The specificity of a pattern made of the tokens. -/
def ofTokens (ts : List Pattern.Token) : Specificity := ts.foldl count {}

/-! ## Literal characters of a regular expression -/

/-- What the counter is in the midst of. -/
inductive Scope
  /-- Inside this many groups. -/
  | groups (depth : Nat)
  /-- Inside a class, with this many groups around it. At its start a closing bracket stands for
  itself. -/
  | bracket (depth : Nat) (atStart : Bool)
  /-- Inside braces, with this many groups around them. -/
  | braces (depth : Nat)
deriving DecidableEq, Repr

/-- Counts the characters that match themselves outside all groups. Classes, repetition counts and
escaped letters and digits do not count. -/
def countLiterals : Scope → Text → Nat
  | _, [] => 0
  | .groups _, '\\' :: [] => 0
  | .groups d, '\\' :: c :: t =>
    (if d = 0 && !c.isAlphanum then 1 else 0) + countLiterals (.groups d) t
  | .groups d, c :: t =>
    match c with
    | '(' => countLiterals (.groups (d + 1)) t
    | ')' => countLiterals (.groups (d - 1)) t
    | '[' => countLiterals (.bracket d true) t
    | '\x7B' => countLiterals (.braces d) t
    | _ =>
      (if d = 0 && !".^$*+?|".toList.contains c then 1 else 0) + countLiterals (.groups d) t
  | .bracket _ _, '\\' :: [] => 0
  | .bracket d _, '\\' :: _ :: t => countLiterals (.bracket d false) t
  | .bracket d atStart, c :: t =>
    if c = ']' && !atStart then countLiterals (.groups d) t
    else countLiterals (.bracket d (atStart && c = '^')) t
  | .braces d, c :: t =>
    if c = '\x7D' then countLiterals (.groups d) t else countLiterals (.braces d) t

/-- The specificity of a regular expression with the given number of groups. -/
def ofRegex (source : Text) (groups : Nat) : Specificity :=
  { literalChars := countLiterals (.groups 0) source, placeholders := groups }

end Specificity

end Storyline
