import Storyline.Unicode.Blank

/-!
# Text

A text is a list of characters, so that every law about texts is a law about lists. The file
defines trimming, cutting into lines and at separators, and comparison up to the case of ASCII
letters.
-/

set_option autoImplicit false

namespace Storyline

/-- A text is the list of its characters. -/
abbrev Text := List Char

namespace Text

open Unicode (isBlank)

/-- The text as a string, for messages. -/
def toString (t : Text) : String := String.ofList t

/-- `t` without its leading blanks. -/
def trimStart (t : Text) : Text := t.dropWhile isBlank

/-- `t` without its trailing blanks. -/
def trimEnd (t : Text) : Text := (t.reverse.dropWhile isBlank).reverse

/-- `t` without leading and trailing blanks. -/
def trim (t : Text) : Text := trimEnd (trimStart t)

/-- What follows `start` in `t`, if `t` starts with it. -/
def after? : (start t : Text) → Option Text
  | [], t => some t
  | _ :: _, [] => none
  | a :: start, c :: t => if a = c then after? start t else none

/-- What precedes `stop` in `t`, if `t` ends with it. -/
def before? (stop t : Text) : Option Text := (after? stop.reverse t.reverse).map List.reverse

/-- The lines of `t`: the pieces between its line feeds. -/
def lines : Text → List Text
  | [] => [[]]
  | c :: t =>
    if c = '\n' then [] :: lines t
    else match lines t with
      | [] => [[c]]
      | l :: ls => (c :: l) :: ls

/-- The pieces of `t` between the occurrences of `sep`, where the first `skipped` characters
belong to an occurrence that has been read already. -/
def piecesFrom (sep : Text) : (skipped : Nat) → Text → List Text
  | _, [] => [[]]
  | n + 1, _ :: t => piecesFrom sep n t
  | 0, c :: t =>
    if sep.isPrefixOf (c :: t) then [] :: piecesFrom sep (sep.length - 1) t
    else match piecesFrom sep 0 t with
      | [] => [[c]]
      | p :: ps => (c :: p) :: ps

/-- The pieces of `t` between the occurrences of `sep`, found from left to right. -/
def pieces (sep t : Text) : List Text := piecesFrom sep 0 t

/-- The non-empty trimmed entries of a list separated by commas. -/
def entries (t : Text) : List Text :=
  ((pieces [','] t).map trim).filter (· ≠ [])

/-- `t` with its ASCII capitals made small. -/
def lower (t : Text) : Text := t.map Char.toLower

/-- Two texts agree up to the case of ASCII letters. -/
def sameLetters (s t : Text) : Bool := lower s == lower t

/-- The texts `ts` with `sep` between them. -/
def join (sep : Text) (ts : List Text) : Text := List.intercalate sep ts

/-! ## Laws of cutting -/

theorem after?_eq_some_iff {start t r : Text} : after? start t = some r ↔ t = start ++ r := by
  induction start generalizing t with
  | nil => simp [after?, eq_comm]
  | cons a start ih =>
    cases t with
    | nil => simp [after?]
    | cons c t =>
      by_cases h : a = c
      · simp [after?, h, ih]
      · simp [after?, h, eq_comm]

theorem lines_ne_nil (t : Text) : lines t ≠ [] := by
  cases t with
  | nil => simp [lines]
  | cons c t =>
    unfold lines
    split
    · simp
    · split <;> simp

end Text

end Storyline
