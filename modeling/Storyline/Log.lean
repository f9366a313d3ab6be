/-!
# The log

Operations tell what they do in records, each with a level.
-/

set_option autoImplicit false

namespace Storyline.Log

/-- How grave a record is. -/
inductive Level
  | error
  | warn
  | info
  | debug
deriving DecidableEq, Repr

def Level.name : Level → String
  | error => "ERROR"
  | warn => "WARN"
  | info => "INFO"
  | debug => "DEBUG"

/-- The graver of two levels has the smaller rank. -/
def Level.rank : Level → Nat
  | error => 0
  | warn => 1
  | info => 2
  | debug => 3

/-- A line of the log. -/
structure Record where
  level : Level
  message : String
deriving DecidableEq, Repr

/-- The record as text. -/
def Record.text (r : Record) : String := r.level.name ++ " " ++ r.message

/-- The records that a log of the given level keeps. -/
def upTo (level : Level) (rs : List Record) : List Record :=
  rs.filter fun r => r.level.rank ≤ level.rank

end Storyline.Log
