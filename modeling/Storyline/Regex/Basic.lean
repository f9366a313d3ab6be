import Storyline.Regex.CharSet

/-!
# Regular expressions

The tree of a regular expression. Alternatives and repetitions carry a preference (an earlier
branch, more or fewer rounds), which decides between several matches of one text.
-/

set_option autoImplicit false

namespace Storyline

/-- A place in a text that an assertion can ask for. -/
inductive Assertion
  | textStart
  | textEnd
  /-- The start of a line; with `crlf`, a carriage return ends a line too. -/
  | lineStart (crlf : Bool)
  /-- The end of a line; with `crlf`, a carriage return ends a line too. -/
  | lineEnd (crlf : Bool)
  /-- A place where a word starts or ends, word characters being those of `ws`. -/
  | wordBoundary (ws : CharSet)
  | notWordBoundary (ws : CharSet)
  | wordStart (ws : CharSet)
  | wordEnd (ws : CharSet)
  /-- No word character precedes. -/
  | wordStartHalf (ws : CharSet)
  /-- No word character follows. -/
  | wordEndHalf (ws : CharSet)
deriving DecidableEq, Repr

namespace Assertion

/-- The assertion holds between the characters `before` and `next`. -/
def holds (a : Assertion) (before next : Option Char) : Bool :=
  match a with
  | textStart => before.isNone
  | textEnd => next.isNone
  | lineStart crlf =>
    match before with
    | none => true
    | some c => c == '\n' || crlf && c == '\r' && next != some '\n'
  | lineEnd crlf =>
    match next with
    | none => true
    | some c => if crlf then c == '\r' || c == '\n' && before != some '\r' else c == '\n'
  | wordBoundary ws => before.any ws.contains != next.any ws.contains
  | notWordBoundary ws => before.any ws.contains == next.any ws.contains
  | wordStart ws => !before.any ws.contains && next.any ws.contains
  | wordEnd ws => before.any ws.contains && !next.any ws.contains
  | wordStartHalf ws => !before.any ws.contains
  | wordEndHalf ws => !next.any ws.contains

end Assertion

/-- A regular expression. -/
inductive Regex
  | empty
  /-- One character of the set. -/
  | char (s : CharSet)
  | assert (a : Assertion)
  | seq (r s : Regex)
  /-- `r`, or else `s`. -/
  | alt (r s : Regex)
  /-- At least `least` and at most `most` rounds of `r`, as many or as few as possible. -/
  | rep (r : Regex) (least : Nat) (most : Option Nat) (greedy : Bool)
  /-- The capture group with number `index`. -/
  | group (index : Nat) (name : Option Text) (r : Regex)
deriving DecidableEq, Repr

namespace Regex

/-- One expression after the other. -/
def seqOf : List Regex → Regex
  | [] => empty
  | [r] => r
  | r :: rs => seq r (seqOf rs)

/-- The first expression that fits. -/
def altOf : List Regex → Regex
  | [] => empty
  | [r] => r
  | r :: rs => alt r (altOf rs)

/-- The expression can only match without reading a character. -/
def readsNothing : Regex → Bool
  | empty => true
  | char _ => false
  | assert _ => true
  | seq r s => r.readsNothing && s.readsNothing
  | alt r s => r.readsNothing && s.readsNothing
  | rep r _ _ _ => r.readsNothing
  | group _ _ r => r.readsNothing

/-- Repetition. No round at all leaves nothing of the expression, not even its groups, and an
expression that reads nothing needs no second round. -/
def repeated (r : Regex) (least : Nat) (most : Option Nat) (greedy : Bool) : Regex :=
  let least' := if r.readsNothing then min least 1 else least
  let most' := if r.readsNothing then some (most.elim 1 (min 1)) else most
  if most' = some 0 then empty
  else if least' = 1 && most' = some 1 then r
  else rep r least' most' greedy

/-- The capture groups of the expression, from left to right, with their numbers and names. -/
def groups : Regex → List (Nat × Option Text)
  | empty => []
  | char _ => []
  | assert _ => []
  | seq r s => r.groups ++ s.groups
  | alt r s => r.groups ++ s.groups
  | rep r _ _ _ => r.groups
  | group i n r => (i, n) :: r.groups

/-- How many groups a match reports: all up to the greatest number in use. -/
def groupCount (r : Regex) : Nat := (r.groups.map (·.1)).foldl max 0

/-- The names of the groups that a match reports. A number that no group has any more stands for a
group without name. -/
def groupNames (r : Regex) : List (Option Text) :=
  (List.range r.groupCount).map fun i => (r.groups.lookup (i + 1)).join

end Regex

end Storyline
