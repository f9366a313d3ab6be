import Storyline.Regex.Basic

/-!
# Flags of a regular expression

The flags that `(?flags)` and `(?flags:…)` switch, and what a character, a class or an anchor means
under them.
-/

set_option autoImplicit false

namespace Storyline.Regex

open Unicode (isBlank)

/-- The flags in force at some place of a regular expression. -/
structure Flags where
  /-- `i`: letters match in either case. -/
  ignoreCase : Bool := false
  /-- `m`: `^` and `$` match at the ends of lines. -/
  multiLine : Bool := false
  /-- `s`: `.` matches a line feed too. -/
  dotAll : Bool := false
  /-- `U`: repetitions are lazy, and greedy with a `?`. -/
  swapGreed : Bool := false
  /-- `u`: classes are those of Unicode. -/
  unicode : Bool := true
  /-- `x`: blanks do not count, and `#` starts a comment. -/
  extended : Bool := false
  /-- `R`: a carriage return ends a line too. -/
  crlf : Bool := false
deriving DecidableEq, Repr

namespace Flags

/-- Switches the flag with the letter `c`. -/
def switch? (f : Flags) (c : Char) (on : Bool) : Option Flags :=
  match c with
  | 'i' => some { f with ignoreCase := on }
  | 'm' => some { f with multiLine := on }
  | 's' => some { f with dotAll := on }
  | 'U' => some { f with swapGreed := on }
  | 'u' => some { f with unicode := on }
  | 'x' => some { f with extended := on }
  | 'R' => some { f with crlf := on }
  | _ => none

/-- `t` without the blanks and comments at its start. -/
def skipBlanks : (inComment : Bool) → Text → Text
  | _, [] => []
  | true, c :: t => skipBlanks (c != '\n') t
  | false, c :: t => if isBlank c then skipBlanks false t
    else if c = '#' then skipBlanks true t else c :: t

/-- `t` from the next character that counts. -/
def skip (f : Flags) (t : Text) : Text := if f.extended then skipBlanks false t else t

/-- The characters up to the next closing brace, less blanks and comments where these do not
count, and what follows the brace. -/
def braced (f : Flags) : (inComment : Bool) → Text → Option (Text × Text)
  | _, [] => none
  | true, c :: t => braced f (c != '\n') t
  | false, c :: t =>
    if f.extended && isBlank c then braced f false t
    else if f.extended && c == '#' then braced f true t
    else if c = '\x7D' then some ([], t)
    else (braced f false t).map fun (inside, rest) => (c :: inside, rest)

/-! ## Meaning under flags -/

/-- Case folding, where case does not count. -/
def foldCase (f : Flags) (s : CharSet) : CharSet :=
  if f.ignoreCase then (if f.unicode then s.fold else s.foldAscii) else s

/-- What a plain character matches. Without Unicode only ASCII letters have two cases. -/
def literal (f : Flags) (c : Char) : CharSet :=
  if f.unicode || c.toNat < 0x80 then f.foldCase (.single c) else .single c

/-- What `.` matches. It needs Unicode, being no set of single bytes. -/
def dot? (f : Flags) : Option CharSet :=
  if !f.unicode then none
  else if f.dotAll then some .all
  else if f.crlf then some (.compl (.union (.single '\r') (.single '\n')))
  else some (.compl (.single '\n'))

/-- The complement of `s`. Without Unicode it would hold bytes that are no characters. -/
def negate? (f : Flags) (negated : Bool) (s : CharSet) : Option CharSet :=
  if negated then (if f.unicode then some s.compl else none) else some s

/-- The class that a backslash and a small letter `d`, `s` or `w` name; a capital names the
complement. -/
def perl? (f : Flags) (c : Char) : Option CharSet :=
  match c with
  | 'd' => some digits
  | 's' => some blanks
  | 'w' => some words
  | 'D' => f.negate? true digits
  | 'S' => f.negate? true blanks
  | 'W' => f.negate? true words
  | _ => none
where
  digits := if f.unicode then CharSet.digit else CharSet.asciiDigit
  blanks := if f.unicode then CharSet.blank else CharSet.asciiBlank
  words := if f.unicode then CharSet.word else CharSet.asciiWord

/-- The characters that words are made of. -/
def wordSet (f : Flags) : CharSet := if f.unicode then .word else .asciiWord

/-- What `^` asserts. -/
def lineStart (f : Flags) : Assertion := if f.multiLine then .lineStart f.crlf else .textStart

/-- What `$` asserts. -/
def lineEnd (f : Flags) : Assertion := if f.multiLine then .lineEnd f.crlf else .textEnd

end Flags

/-- Reads the flags of a group up to its colon or closing bracket: the flags set, whether a colon
ended them, and the rest. `seen` holds the letters read (`-` among them), newest first. -/
def readFlags (f : Flags) (seen : List Char) : Text → Option (Flags × Bool × Text)
  | [] => none
  | c :: t =>
    if c = ':' || c = ')' then
      if seen.head? = some '-' || c = ')' && seen.isEmpty then none else some (f, c = ':', t)
    else if seen.contains c then none
    else if c = '-' then readFlags f (c :: seen) t
    else match f.switch? c (!seen.contains '-') with
      | some f => readFlags f (c :: seen) t
      | none => none

end Storyline.Regex
