import Storyline.Regex.Escape

/-!
# Bracketed classes

Reads a class in square brackets: characters, ranges, escapes, named ASCII classes and nested
brackets, joined by union or by the operators `&&`, `--` and `~~`. Operators have equal precedence
and associate to the left.
-/

set_option autoImplicit false

namespace Storyline.Regex

variable [ClassNames]

/-- The binary operators on classes. -/
inductive SetOperator
  | inter | diff | symmDiff
deriving DecidableEq, Repr

/-- What an operator makes of two sets. -/
def SetOperator.apply : SetOperator → CharSet → CharSet → CharSet
  | inter => CharSet.inter
  | diff => CharSet.diff
  | symmDiff => CharSet.symmDiff

/-- A bracket that is being read. -/
structure Bracket where
  negated : Bool
  /-- The operand and the operator before the current items. -/
  pending : Option (CharSet × SetOperator) := none
  /-- The union of the current items. -/
  items : CharSet := .empty
deriving DecidableEq, Repr

namespace Bracket

/-- Joins one more item to the current ones. -/
def add (b : Bracket) (s : CharSet) : Bracket := { b with items := .union b.items s }

/-- The set read so far. The operands of an operator are folded before it is applied. -/
def joined (f : Flags) (b : Bracket) : CharSet :=
  match b.pending with
  | none => b.items
  | some (s, op) => op.apply (f.foldCase s) (f.foldCase b.items)

/-- Makes what was read the left operand of an operator. -/
def operate (f : Flags) (b : Bracket) (op : SetOperator) : Bracket :=
  { b with pending := some (b.joined f, op), items := .empty }

/-- The class that the bracket denotes: folded, and then negated. -/
def close? (f : Flags) (b : Bracket) : Option CharSet :=
  f.negate? b.negated (f.foldCase (b.joined f))

/-- Takes the hyphens at the start of a bracket, which stand for themselves. -/
def leadingHyphens (f : Flags) (b : Bracket) : (inComment : Bool) → Text → Bracket × Text
  | _, [] => (b, [])
  | inComment, c :: t =>
    if inComment then leadingHyphens f b (c != '\n') t
    else if f.extended && Unicode.isBlank c then leadingHyphens f b false t
    else if f.extended && c == '#' then leadingHyphens f b true t
    else if c = '-' then leadingHyphens f (b.add (.single '-')) false t
    else (b, c :: t)

/-- Reads the start of a bracket, after the opening sign: a negation, hyphens, and a closing sign
that stands for itself because nothing precedes it. -/
def opened (f : Flags) (t : Text) : Bracket × Text :=
  let (negated, t) := match f.skip t with
    | '^' :: t => (true, t)
    | t => (false, t)
  match leadingHyphens f { negated } false t with
  | (b, ']' :: t) => if b.items = .empty then (b.add (.single ']'), t) else (b, ']' :: t)
  | (b, t) => (b, t)

end Bracket

/-- Reads a named ASCII class, after its opening sign. -/
def namedClass (f : Flags) (t : Text) : Option (Option CharSet × Text) :=
  match t with
  | ':' :: t =>
    let (negated, t) := match t with
      | '^' :: t => (true, t)
      | t => (false, t)
    let name := t.takeWhile (· != ':')
    match t.drop name.length with
    | ':' :: ']' :: rest =>
      (CharSet.posix.lookup (String.ofList name)).map fun s =>
        (f.negate? negated (f.foldCase s), rest)
    | _ => none
  | _ => none

/-- Reads one character or escape inside a bracket. -/
def bracketAtom (f : Flags) : Text → Option (Atom × Text)
  | [] => none
  | '\\' :: t => readEscape f t
  | c :: t => some (.literal c, t)

/-- The character that an atom stands for as a member of a class. -/
def Atom.member? (f : Flags) : Atom → Option Char
  | literal c => if f.unicode || c.toNat < 0x80 then some c else none
  | _ => none

/-- The set that an atom adds to a class. -/
def Atom.members? (f : Flags) : Atom → Option CharSet
  | set s => some s
  | a => (a.member? f).map .single

/-- What stands after a hyphen makes a range of it. A closing sign or a second hyphen does not. -/
def continuesRange (f : Flags) (t : Text) : Bool :=
  match f.skip t with
  | ']' :: _ => false
  | '-' :: _ => false
  | _ => true

/-- Reads an item of a class: an atom, or a range between two characters. -/
def bracketItem (f : Flags) (t : Text) : Option (CharSet × Text) := do
  let (a, t) ← bracketAtom f t
  match f.skip t with
  | [] => none
  | '-' :: t' =>
    if continuesRange f t' then do
      let (b, t') ← bracketAtom f (f.skip t')
      let lo ← a.member? f
      let hi ← b.member? f
      if lo ≤ hi then some (.range lo hi, t') else none
    else return (← a.members? f, '-' :: t')
  | t' => return (← a.members? f, t')

/-- Reads a class. `b` is the innermost open bracket, and `outer` are those around it. Each round
takes at least one character, so the length of the text bounds their number. -/
def readBracket (f : Flags) : (rounds : Nat) → Bracket → List Bracket → Text →
    Option (CharSet × Text)
  | 0, _, _, _ => none
  | n + 1, b, outer, t =>
    match f.skip t with
    | [] => none
    | '[' :: t =>
      match namedClass f t with
      | some (none, _) => none
      | some (some s, t) => readBracket f n (b.add s) outer t
      | none =>
        let (inner, t) := Bracket.opened f t
        readBracket f n inner (b :: outer) t
    | ']' :: t =>
      match b.close? f, outer with
      | none, _ => none
      | some s, [] => some (s, t)
      | some s, b :: outer => readBracket f n (b.add s) outer t
    | '&' :: '&' :: t => readBracket f n (b.operate f .inter) outer t
    | '-' :: '-' :: t => readBracket f n (b.operate f .diff) outer t
    | '~' :: '~' :: t => readBracket f n (b.operate f .symmDiff) outer t
    | t =>
      match bracketItem f t with
      | some (s, t) => readBracket f n (b.add s) outer t
      | none => none

/-- Reads a class, after its opening sign. -/
def readClass (f : Flags) (t : Text) : Option (CharSet × Text) :=
  let (b, rest) := Bracket.opened f t
  readBracket f (t.length + 1) b [] rest

end Storyline.Regex
