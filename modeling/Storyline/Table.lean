import Storyline.Keyword

/-!
# Tables of examples

A table has a line of headers and lines of values, cut into cells by separators. `Table.parse` reads
one, and `Row.substitute` puts the values of a row into a step.
-/

set_option autoImplicit false

namespace Storyline

/-- The separators of a table. -/
structure Separators where
  /-- Between headers. -/
  header : Text := ['|']
  /-- Between values. -/
  value : Text := ['|']
  /-- At the start of a comment. -/
  ignorable : Text := ['|', '-', '-']
deriving DecidableEq, Repr

/-- The separators among the keywords. -/
def Keywords.separators (ks : Keywords) : Separators where
  header := ks.literal .headerSeparator
  value := ks.literal .valueSeparator
  ignorable := ks.literal .ignorableSeparator

/-- A table of examples. -/
structure Table where
  headers : List Text := []
  rows : List (List Text) := []
deriving DecidableEq, Repr, Inhabited

/-- Why a text is no table. Rows are counted from the headers, which are row 1. -/
inductive TableError
  | missingHeader
  | duplicateHeader (column : Text)
  | unevenRow (row expected actual : Nat)
deriving DecidableEq, Repr

def TableError.message : TableError → String
  | missingHeader => "examples table header row has no columns"
  | duplicateHeader column =>
    s!"examples table header contains duplicate column '{column.toString}'"
  | unevenRow row expected actual =>
    s!"examples table row {row} has {actual} cells but expected {expected}"

namespace Table

/-! ## Reading -/

/-- The cells of a line. A separator at either end may be left out, and an empty separator does not
cut at all. -/
def cells (sep line : Text) : List Text :=
  if sep.isEmpty then [Text.trim line]
  else
    let opened := (Text.after? sep line).getD line
    if (Text.trim opened).isEmpty then []
    else (Text.pieces sep ((Text.before? sep opened).getD opened)).map Text.trim

/-- The line is a comment. -/
def isComment (seps : Separators) (line : Text) : Bool :=
  !seps.ignorable.isEmpty && seps.ignorable.isPrefixOf line

/-- The lines that hold cells: trimmed, and neither blank nor comments. -/
def contentLines (seps : Separators) (lines : List Text) : List Text :=
  (lines.map Text.trim).filter fun l => !l.isEmpty && !isComment seps l

/-- The first text of the list that occurs before it. `earlier` are the texts before the list. -/
def firstRepeat? (earlier : List Text) : List Text → Option Text
  | [] => none
  | t :: ts => if earlier.contains t then some t else firstRepeat? (t :: earlier) ts

/-- The first row of another width, with its number. `number` is that of the first row. -/
def firstUneven? (width number : Nat) : List (List Text) → Option (Nat × Nat)
  | [] => none
  | r :: rs =>
    if r.length = width then firstUneven? width (number + 1) rs else some (number, r.length)

/-- The table with the given headers and rows, if its headers are distinct and its rows complete. -/
def ofCells (headers : List Text) (rows : List (List Text)) : Except TableError Table :=
  if headers.isEmpty then .error .missingHeader
  else match firstRepeat? [] headers with
    | some column => .error (.duplicateHeader column)
    | none =>
      match firstUneven? headers.length 2 rows with
      | some (row, actual) => .error (.unevenRow row headers.length actual)
      | none => .ok { headers, rows }

/-- The table that the lines write. Without content they write the empty table. -/
def ofLines (seps : Separators) (lines : List Text) : Except TableError Table :=
  match contentLines seps lines with
  | [] => .ok {}
  | h :: rs => ofCells (cells seps.header h) (rs.map (cells seps.value))

/-- The table that the text writes. -/
def parse (seps : Separators) (t : Text) : Except TableError Table := ofLines seps (Text.lines t)

/-- The table has no rows, so that a scenario with it runs once, as it is written. -/
def isEmpty (t : Table) : Bool := t.rows.isEmpty

end Table

/-! ## Rows -/

/-- A row of a table with the headers above it. -/
structure Row where
  headers : List Text
  values : List Text
deriving DecidableEq, Repr

/-- The rows of a table, in order. -/
def Table.rowList (t : Table) : List Row := t.rows.map fun values => ⟨t.headers, values⟩

/-- The row with the given number, counted from 0. -/
def Table.row? (t : Table) (i : Nat) : Option Row := t.rowList[i]?

namespace Row

/-- The cells with their columns. -/
def cells (r : Row) : List (Text × Text) := r.headers.zip r.values

/-- The value in a column. -/
def get? (r : Row) (column : Text) : Option Text := r.cells.lookup column

/-- Replaces each `<name>` for which there is a value. `name` is what was read since an opening
bracket, backwards; another opening bracket starts the name anew. -/
def substituteFrom (value? : Text → Option Text) : (name : Option Text) → Text → Text
  | none, [] => []
  | some name, [] => '<' :: name.reverse
  | none, c :: t =>
    if c = '<' then substituteFrom value? (some []) t else c :: substituteFrom value? none t
  | some name, c :: t =>
    if c = '<' then '<' :: name.reverse ++ substituteFrom value? (some []) t
    else if c = '>' then
      (value? name.reverse).getD ('<' :: name.reverse ++ ['>']) ++ substituteFrom value? none t
    else substituteFrom value? (some (c :: name)) t

/-- The step with the values of the row in place of the columns that it names in angle brackets.
What names no column stays as it is, and values are not searched again. -/
def substitute (r : Row) (step : Text) : Text := substituteFrom r.get? none step

end Row

end Storyline
