import Storyline.Text

/-!
# The parts of a pattern

A pattern is literal text with placeholders `$name` and `$name:hint`. A backslash makes the next
character literal, and `$$` is a dollar. `lex` reads a pattern in two steps: `scan` finds its signs,
and `assemble` joins characters to literals and refuses placeholders that touch or share a name.
-/

set_option autoImplicit false

namespace Storyline.Pattern

/-- A named gap in a pattern. -/
structure Placeholder where
  name : Text
  hint : Option Text := none
deriving DecidableEq, Repr

/-- A part of a pattern. -/
inductive Token
  | literal (t : Text)
  | placeholder (p : Placeholder)
deriving DecidableEq, Repr

/-! ## Signs -/

/-- `c` can start the name of a placeholder. -/
def isNameStart (c : Char) : Bool := c.isAlpha || c == '_'

/-- `c` can continue the name of a placeholder. -/
def isNameChar (c : Char) : Bool := c.isAlphanum || c == '_'

/-- Splits a name off the start of a text. -/
def takeName (t : Text) : Text × Text := (t.takeWhile isNameChar, t.dropWhile isNameChar)

/-- Splits a hint off the start of a text. A colon opens a hint only if a name follows it. -/
def takeHint : Text → Option Text × Text
  | ':' :: c :: t =>
    if isNameStart c then ((takeName (c :: t)).1, (takeName (c :: t)).2)
    else (none, ':' :: c :: t)
  | t => (none, t)

/-- Splits a placeholder off the text after its dollar. -/
def takePlaceholder (t : Text) : Placeholder × Text :=
  let (name, t) := takeName t
  let (hint, t) := takeHint t
  (⟨name, hint⟩, t)

theorem length_takeName_le (t : Text) : (takeName t).2.length ≤ t.length :=
  (List.dropWhile_sublist isNameChar).length_le

theorem length_takeHint_le (t : Text) : (takeHint t).2.length ≤ t.length := by
  unfold takeHint
  split
  · split
    · exact Nat.le_trans (length_takeName_le _) (by simp)
    · simp
  · simp

theorem length_takePlaceholder_le (t : Text) : (takePlaceholder t).2.length ≤ t.length :=
  Nat.le_trans (length_takeHint_le _) (length_takeName_le t)

/-- A character of the literal text, or a placeholder. -/
inductive Sign
  | char (c : Char)
  | placeholder (p : Placeholder)
deriving DecidableEq, Repr

/-- The number of bytes that a text takes. -/
def byteCount : Text → Nat
  | [] => 0
  | c :: t => c.utf8Size + byteCount t

/-- The signs of a pattern, each with the byte offset at which it starts. `offset` is that of the
first. -/
def scan (offset : Nat) : Text → List (Nat × Sign)
  | [] => []
  | '\\' :: [] => [(offset, .char '\\')]
  | '\\' :: c :: t => (offset, .char c) :: scan (offset + 1 + c.utf8Size) t
  | '$' :: [] => [(offset, .char '$')]
  | '$' :: c :: t =>
    if c = '$' then (offset, .char '$') :: scan (offset + 2) t
    else if isNameStart c then
      let taken := takePlaceholder (c :: t)
      let width := byteCount (c :: t) - byteCount taken.2
      (offset, .placeholder taken.1) :: scan (offset + 1 + width) taken.2
    else (offset, .char '$') :: scan (offset + 1) (c :: t)
  | c :: t => (offset, .char c) :: scan (offset + c.utf8Size) t
termination_by t => t.length
decreasing_by
  · simp only [List.length_cons]; omega
  · simp only [List.length_cons]; omega
  · have := length_takePlaceholder_le (c :: t)
    simp only [List.length_cons] at this ⊢
    omega
  · simp only [List.length_cons]; omega
  · simp only [List.length_cons]; omega

/-! ## Tokens -/

/-- Why a pattern is refused, with the byte offset of the dollar at fault. -/
inductive PlaceholderError
  /-- A placeholder follows another without text between them. -/
  | adjacent (offset : Nat)
  /-- A placeholder repeats the name of another. -/
  | duplicate (offset : Nat) (name : Text)
deriving DecidableEq, Repr

namespace PlaceholderError

def offset : PlaceholderError → Nat
  | adjacent n => n
  | duplicate n _ => n

def name? : PlaceholderError → Option Text
  | adjacent _ => none
  | duplicate _ name => some name

def message : PlaceholderError → String
  | adjacent n => s!"placeholders must be separated by literal text (at byte {n})"
  | duplicate n name =>
    "duplicate placeholder name (\x60$" ++ name.toString ++ s!"\x60 at byte {n})"

end PlaceholderError

/-- Puts a literal before the tokens, unless it is empty. `rev` is the literal read backwards. -/
def flush (rev : Text) (ts : List Token) : List Token :=
  if rev.isEmpty then ts else .literal rev.reverse :: ts

/-- Joins signs to tokens. `names` are the names of the placeholders before, and `rev` is the
literal since the last of them, read backwards. -/
def assemble (names : List Text) (rev : Text) :
    List (Nat × Sign) → Except PlaceholderError (List Token)
  | [] => .ok (flush rev [])
  | (_, .char c) :: ss => assemble names (c :: rev) ss
  | (offset, .placeholder p) :: ss =>
    if rev.isEmpty && !names.isEmpty then .error (.adjacent offset)
    else if names.contains p.name then .error (.duplicate offset p.name)
    else (assemble (p.name :: names) [] ss).map fun ts => flush rev (.placeholder p :: ts)

/-- The tokens of a pattern. -/
def lex (t : Text) : Except PlaceholderError (List Token) := assemble [] [] (scan 0 t)

end Storyline.Pattern
