import Storyline.Regex.Bracket

/-!
# Reading regular expressions

`Regex.parse?` reads a text as a regular expression, or fails when it is none. The reader goes over
the text once and keeps the groups that are open on a stack, each with the flags to restore at its
end.
-/

set_option autoImplicit false

namespace Storyline.Regex

open Unicode (isBlank)

variable [ClassNames]

/-- What a repetition sign may follow: an expression, but not a change of flags. -/
inductive Piece
  | plain (r : Regex)
  | flags
deriving DecidableEq, Repr

/-- The expression of a piece. -/
def Piece.regex? : Piece → Option Regex
  | plain r => some r
  | flags => none

/-- Alternatives that are being read: the finished ones and the pieces of the last, both newest
first. -/
structure Branches where
  finished : List Regex := []
  pieces : List Piece := []
deriving DecidableEq, Repr

namespace Branches

/-- Adds a piece to the last alternative. -/
def push (b : Branches) (p : Piece) : Branches := { b with pieces := p :: b.pieces }

/-- The last alternative. -/
def last (b : Branches) : Regex := seqOf (b.pieces.filterMap Piece.regex?).reverse

/-- Starts another alternative. -/
def bar (b : Branches) : Branches := { finished := b.last :: b.finished }

/-- All alternatives. -/
def regex (b : Branches) : Regex := altOf (b.last :: b.finished).reverse

end Branches

/-- A group that is open: what its end makes of its contents, the flags to restore, and what was
read around it. -/
structure OpenGroup where
  capture : Option (Nat × Option Text)
  flags : Flags
  outside : Branches
deriving DecidableEq, Repr

/-- The expression of a closed group. -/
def OpenGroup.wrap (g : OpenGroup) (r : Regex) : Regex :=
  match g.capture with
  | some (i, name) => .group i name r
  | none => r

/-- The state of the reader. -/
structure Reader where
  flags : Flags := {}
  current : Branches := {}
  /-- The open groups, innermost first. -/
  stack : List OpenGroup := []
  /-- The names given to groups so far. -/
  names : List Text := []
  /-- The number of the next capture group. -/
  next : Nat := 1
deriving DecidableEq, Repr

namespace Reader

/-- Adds an expression. -/
def push (s : Reader) (r : Regex) : Reader := { s with current := s.current.push (.plain r) }

/-- Opens a group. -/
def openGroup (s : Reader) (capture : Option (Nat × Option Text)) (inner : Flags) : Reader :=
  { s with
    flags := inner
    current := {}
    stack := ⟨capture, s.flags, s.current⟩ :: s.stack }

/-- Opens a capture group. -/
def openCapture (s : Reader) (name : Option Text) : Reader :=
  { s.openGroup (some (s.next, name)) s.flags with
    next := s.next + 1
    names := name.toList ++ s.names }

/-- Closes the innermost group. -/
def closeGroup? (s : Reader) : Option Reader :=
  match s.stack with
  | [] => none
  | g :: stack =>
    some { s with
      flags := g.flags
      current := g.outside.push (.plain (g.wrap s.current.regex))
      stack }

/-- `c` may stand in the name of a group, as its first character or later. -/
def isNameChar (isFirst : Bool) (c : Char) : Bool :=
  let letter := Unicode.Property.alphabetic.holds c
  if isFirst then c == '_' || letter
  else c == '_' || c == '.' || c == '[' || c == ']' || letter
    || Unicode.Category.numbers.any (·.contains c)

/-- `name` can name a group. -/
def isGroupName (name : Text) : Bool :=
  match name with
  | [] => false
  | c :: r => isNameChar true c && r.all (isNameChar false)

/-- Opens a named capture group, after the sign before its name. -/
def openNamed? (s : Reader) (t : Text) : Option (Reader × Text) :=
  let name := t.takeWhile (· != '>')
  match t.drop name.length with
  | [] => none
  | _ :: rest =>
    if isGroupName name && !s.names.contains name then some (s.openCapture (some name), rest)
    else none

/-- Reads the start of a group, after its bracket. Looking ahead or behind is not supported. -/
def startGroup? (s : Reader) (t : Text) : Option (Reader × Text) :=
  match s.flags.skip t with
  | '?' :: '=' :: _ => none
  | '?' :: '!' :: _ => none
  | '?' :: '<' :: '=' :: _ => none
  | '?' :: '<' :: '!' :: _ => none
  | '?' :: 'P' :: '<' :: t => s.openNamed? t
  | '?' :: '<' :: t => s.openNamed? t
  | '?' :: t =>
    match readFlags s.flags [] t with
    | none => none
    | some (f, true, t) => some (s.openGroup none f, t)
    | some (f, false, t) => some ({ s with flags := f, current := s.current.push .flags }, t)
  | t => some (s.openCapture none, t)

/-- Repeats the last piece. -/
def repeat? (s : Reader) (least : Nat) (most : Option Nat) (lazily : Bool) : Option Reader :=
  match s.current.pieces with
  | .plain r :: ps =>
    let r := r.repeated least most (lazily == s.flags.swapGreed)
    some { s with current := { s.current with pieces := .plain r :: ps } }
  | _ => none

/-- Takes the sign that makes a repetition lazy. -/
def lazySign : Text → Bool × Text
  | '?' :: t => (true, t)
  | t => (false, t)

/-- A decimal number of at most 32 bits, with blanks around it. -/
def count? (t : Text) : Option Nat :=
  let t := Text.trim t
  if !t.isEmpty && t.all Char.isDigit then
    let n := t.foldl (fun n c => n * 10 + (c.toNat - '0'.toNat)) 0
    if n < 4294967296 then some n else none
  else none

/-- The bounds of a counted repetition, given by the text in its braces. -/
def bounds? (t : Text) : Option (Nat × Option Nat) :=
  match Text.pieces [','] t with
  | [n] => (count? n).map fun n => (n, some n)
  | [n, []] => (count? n).map fun n => (n, none)
  | [n, m] => do
    let n ← count? n
    let m ← count? m
    if n ≤ m then some (n, some m) else none
  | _ => none

/-- Reads a counted repetition, after its opening brace. -/
def counted? (s : Reader) (t : Text) : Option (Reader × Text) := do
  let (inside, t) ← s.flags.braced false t
  let (least, most) ← bounds? inside
  let (lazily, t) := match s.flags.skip t with
    | '?' :: t => (true, t)
    | t => (false, t)
  return (← s.repeat? least most lazily, t)

/-- Reads one piece of the expression that starts with the character `c`. -/
def step? (s : Reader) (c : Char) (t : Text) : Option (Reader × Text) :=
  match c with
  | '(' => s.startGroup? t
  | ')' => s.closeGroup?.map (·, t)
  | '|' => some ({ s with current := s.current.bar }, t)
  | '[' => (readClass s.flags t).map fun (set, t) => (s.push (.char set), t)
  | '?' => let (lazily, t) := lazySign t; (s.repeat? 0 (some 1) lazily).map (·, t)
  | '*' => let (lazily, t) := lazySign t; (s.repeat? 0 none lazily).map (·, t)
  | '+' => let (lazily, t) := lazySign t; (s.repeat? 1 none lazily).map (·, t)
  | '\x7B' => s.counted? t
  | '.' => s.flags.dot?.map fun set => (s.push (.char set), t)
  | '^' => some (s.push (.assert s.flags.lineStart), t)
  | '$' => some (s.push (.assert s.flags.lineEnd), t)
  | '\\' => (readEscape s.flags t).map fun (a, t) => (s.push (a.regex s.flags), t)
  | c => some (s.push (.char (s.flags.literal c)), t)

/-- Reads to the end of the text. Each round takes at least one character, so the length of the
text bounds their number. -/
def run : (rounds : Nat) → Reader → Text → Option Reader
  | n, s, t =>
    match s.flags.skip t, n with
    | [], _ => some s
    | _ :: _, 0 => none
    | c :: t, n + 1 =>
      match s.step? c t with
      | some (s, t) => run n s t
      | none => none

/-- The expression that was read, unless a group is still open. -/
def finish? (s : Reader) : Option Regex :=
  if s.stack.isEmpty then some s.current.regex else none

end Reader

/-- The regular expression that the text writes. -/
def parse? (t : Text) : Option Regex := (Reader.run t.length {} t).bind Reader.finish?

end Storyline.Regex
