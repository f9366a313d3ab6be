import Storyline.Text

/-!
# Step keywords

The four kinds of step: a given context, an action, an expected outcome, and the continuation of
the step before. Stories may spell them in any language; their canonical names are English.
-/

set_option autoImplicit false

namespace Storyline

/-- The kind of a step. -/
inductive StepKeyword
  | given
  | action
  | outcome
  /-- A step of the same kind as the one before. -/
  | continuation
deriving DecidableEq, Repr

/-- A text that names no step keyword. -/
structure UnknownStepKeyword where
  text : Text
deriving DecidableEq, Repr

def UnknownStepKeyword.message (e : UnknownStepKeyword) : String :=
  s!"unknown step keyword '{e.text.toString}'"

namespace StepKeyword

/-- All step keywords, in the order in which they are looked up. -/
def all : List StepKeyword := [given, action, outcome, continuation]

/-- The canonical name. -/
def name : StepKeyword → String
  | given => "Given"
  | action => "When"
  | outcome => "Then"
  | continuation => "And"

/-- A primary keyword says by itself of which kind its step is. -/
def isPrimary (k : StepKeyword) : Bool := k != continuation

/-- The keyword with the given name, up to case and blanks around it. -/
def parse (t : Text) : Except UnknownStepKeyword StepKeyword :=
  let t := Text.trim t
  match all.find? fun k => Text.sameLetters t k.name.toList with
  | some k => .ok k
  | none => .error ⟨t⟩

/-- The kind of a step with keyword `k` after a primary step of kind `prev`: its own if it is
primary, else that of the step before, and `given` where no step precedes. -/
def resolve (prev : Option StepKeyword) (k : StepKeyword) : StepKeyword :=
  if k.isPrimary then k else prev.getD given

/-- The last primary keyword once a step with keyword `k` was read after `prev`. -/
def remember (prev : Option StepKeyword) (k : StepKeyword) : Option StepKeyword :=
  if k.isPrimary then some k else prev

end StepKeyword

end Storyline
