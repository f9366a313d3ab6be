import Storyline.Text

/-!
# JSON text

A value of JSON keeps its fields in order. It is written either without any blanks or with an
indentation of two.
-/

set_option autoImplicit false

namespace Storyline

/-- A JSON value. -/
inductive Json
  | null
  | bool (b : Bool)
  | int (n : Int)
  | str (t : Text)
  | arr (js : List Json)
  | obj (fs : List (String × Json))

namespace Json

/-- A string value. -/
def string (s : String) : Json := str s.toList

/-- A list of texts. -/
def texts (ts : List Text) : Json := arr (ts.map str)

/-- A text, or null where there is none. -/
def text? : Option Text → Json
  | some t => str t
  | none => null

/-- The escape of a control character. -/
def escapeControl (c : Char) : Text :=
  match c with
  | '\x08' => "\\b".toList
  | '\x0C' => "\\f".toList
  | '\n' => "\\n".toList
  | '\r' => "\\r".toList
  | '\t' => "\\t".toList
  | c =>
    let ds := Nat.toDigits 16 c.toNat
    "\\u".toList ++ List.replicate (4 - ds.length) '0' ++ ds

/-- A character as it is written in a string: quotes, backslashes and control characters are
escaped, and nothing else. -/
def escapeChar (c : Char) : Text :=
  if c = '"' then "\\\"".toList
  else if c = '\\' then "\\\\".toList
  else if c.toNat < 0x20 then escapeControl c
  else [c]

/-- A text in quotes. -/
def quote (t : Text) : Text := '"' :: t.flatMap escapeChar ++ ['"']

mutual

/-- The value without blanks. -/
def compact : Json → Text
  | null => "null".toList
  | bool b => (if b then "true" else "false").toList
  | int n => (toString n).toList
  | str t => quote t
  | arr js => '[' :: Text.join [','] (compactItems js) ++ [']']
  | obj fs => '\x7B' :: Text.join [','] (compactFields fs) ++ ['\x7D']

def compactItems : List Json → List Text
  | [] => []
  | j :: js => compact j :: compactItems js

def compactFields : List (String × Json) → List Text
  | [] => []
  | (k, j) :: fs => (quote k.toList ++ ':' :: compact j) :: compactFields fs

end

/-- A line break with an indentation. -/
def newline (depth : Nat) : Text := '\n' :: List.replicate (2 * depth) ' '

/-- Items between brackets, each on a line of its own. -/
def block (depth : Nat) (opening closing : Char) (items : List Text) : Text :=
  if items.isEmpty then [opening, closing]
  else
    opening :: newline (depth + 1) ++ Text.join (',' :: newline (depth + 1)) items
      ++ newline depth ++ [closing]

mutual

/-- The value with indentation, inside of `depth` brackets. -/
def pretty (depth : Nat) : Json → Text
  | arr js => block depth '[' ']' (prettyItems (depth + 1) js)
  | obj fs => block depth '\x7B' '\x7D' (prettyFields (depth + 1) fs)
  | null => compact null
  | bool b => compact (bool b)
  | int n => compact (int n)
  | str t => compact (str t)

def prettyItems (depth : Nat) : List Json → List Text
  | [] => []
  | j :: js => pretty depth j :: prettyItems depth js

def prettyFields (depth : Nat) : List (String × Json) → List Text
  | [] => []
  | (k, j) :: fs =>
    (quote k.toList ++ ": ".toList ++ pretty depth j) :: prettyFields depth fs

end

end Json

end Storyline
