import Storyline.Regex.ClassNames
import Storyline.Regex.Flags

/-!
# Escapes in regular expressions

What a backslash and the characters after it stand for, and the escaping of a text so that it
matches itself.
-/

set_option autoImplicit false

namespace Storyline.Regex

/-! ## Escaping -/

/-- Characters with a meaning of their own in a regular expression. -/
def isMeta (c : Char) : Bool := "\\.+*?()|[]\x7B\x7D^$#&-~".toList.contains c

/-- `t` with a backslash before every character that has a meaning of its own. -/
def escape (t : Text) : Text := t.flatMap fun c => if isMeta c then ['\\', c] else [c]

/-! ## Reading escapes -/

/-- What one character or escape stands for. -/
inductive Atom
  | literal (c : Char)
  | set (s : CharSet)
  | assertion (a : Assertion)
deriving DecidableEq, Repr

/-- The value of a hexadecimal digit. -/
def hexValue? (c : Char) : Option Nat :=
  if '0' ≤ c ∧ c ≤ '9' then some (c.toNat - '0'.toNat)
  else if 'a' ≤ c ∧ c ≤ 'f' then some (c.toNat - 'a'.toNat + 10)
  else if 'A' ≤ c ∧ c ≤ 'F' then some (c.toNat - 'A'.toNat + 10)
  else none

/-- The number that hexadecimal digits denote. -/
def hexNumber? (t : Text) : Option Nat :=
  t.foldlM (fun n c => (hexValue? c).map (n * 16 + ·)) 0

/-- The character with code point `n`. -/
def charOfCode? (n : Nat) : Option Char := if n.isValidChar then some (Char.ofNat n) else none

/-- Reads `k` hexadecimal digits. -/
def fixedHex (f : Flags) : (k : Nat) → Text → Option (Text × Text)
  | 0, t => some ([], t)
  | k + 1, t =>
    match f.skip t with
    | [] => none
    | c :: t => (fixedHex f k t).map fun (ds, rest) => (c :: ds, rest)

/-- Reads a character given by its code point: `width` digits, or any number of them in braces.
Without Unicode two digits above `7F` would name a byte that is no character. -/
def hexChar (f : Flags) (width : Nat) (t : Text) : Option (Atom × Text) :=
  match f.skip t with
  | '\x7B' :: t => do
    let (ds, rest) ← f.braced false t
    if ds.isEmpty then none
    let c ← charOfCode? (← hexNumber? ds)
    return (.literal c, rest)
  | t => do
    let (ds, rest) ← fixedHex f width t
    let n ← hexNumber? ds
    if width = 2 ∧ 0x7F < n ∧ !f.unicode then none
    return (.literal (← charOfCode? n), rest)

variable [ClassNames]

/-- Reads a class that is asked for by name: one letter, or a name in braces. -/
def propertyClass (f : Flags) (negated : Bool) (t : Text) : Option (Atom × Text) :=
  match f.skip t with
  | [] => none
  | '\\' :: _ => none
  | '\x7B' :: t => do
    let (name, rest) ← f.braced false t
    let s ← set? (← ClassNames.named? name)
    return (.set s, rest)
  | c :: t => do
    let s ← set? (← ClassNames.letter? c)
    return (.set s, t)
where
  set? (s : CharSet) : Option CharSet :=
    if f.unicode then f.negate? negated (f.foldCase s) else none

/-- Reads what follows an escaped `b`: a kind of word boundary in braces, if a letter or a hyphen
stands first in them. -/
def wordBoundary (f : Flags) (t : Text) : Option (Atom × Text) :=
  match t with
  | '\x7B' :: t =>
    match f.skip t with
    | [] => none
    | c :: _ =>
      if c.isAlpha || c = '-' then do
        let (name, rest) ← f.braced false t
        let a ← special? (String.ofList name)
        return (.assertion a, rest)
      else some (.assertion (.wordBoundary f.wordSet), '\x7B' :: t)
  | t => some (.assertion (.wordBoundary f.wordSet), t)
where
  special? (name : String) : Option Assertion :=
    match name with
    | "start" => some (.wordStart f.wordSet)
    | "end" => some (.wordEnd f.wordSet)
    | "start-half" => some (.wordStartHalf f.wordSet)
    | "end-half" => some (.wordEndHalf f.wordSet)
    | _ => none

/-- The control characters that have a letter. -/
def control? (c : Char) : Option Char :=
  match c with
  | 'a' => some '\x07'
  | 'f' => some '\x0C'
  | 't' => some '\t'
  | 'n' => some '\n'
  | 'r' => some '\r'
  | 'v' => some '\x0B'
  | _ => none

/-- The assertions that have a letter or a sign. -/
def assertion? (f : Flags) (c : Char) : Option Assertion :=
  match c with
  | 'A' => some .textStart
  | 'z' => some .textEnd
  | 'B' => some (.notWordBoundary f.wordSet)
  | '<' => some (.wordStart f.wordSet)
  | '>' => some (.wordEnd f.wordSet)
  | _ => none

/-- Reads what follows a backslash. An ASCII character other than a letter, a digit or an angle
bracket stands for itself. -/
def readEscape (f : Flags) : Text → Option (Atom × Text)
  | [] => none
  | 'x' :: t => hexChar f 2 t
  | 'u' :: t => hexChar f 4 t
  | 'U' :: t => hexChar f 8 t
  | 'p' :: t => propertyClass f false t
  | 'P' :: t => propertyClass f true t
  | 'b' :: t => wordBoundary f t
  | c :: t =>
    if "dswDSW".toList.contains c then (f.perl? c).map fun s => (.set s, t)
    else match control? c, assertion? f c with
      | some c, _ => some (.literal c, t)
      | _, some a => some (.assertion a, t)
      | none, none =>
        if c.toNat < 0x80 && !c.isAlphanum then some (.literal c, t) else none

/-- What an atom outside a bracket matches. -/
def Atom.regex (f : Flags) : Atom → Regex
  | literal c => .char (f.literal c)
  | set s => .char s
  | assertion a => .assert a

end Storyline.Regex
