import Storyline.Json
import Storyline.Pattern.Basic
import Storyline.Step.Arguments
import Storyline.StepKeyword

/-!
# Step definitions

A step definition gives the meaning of all steps that a pattern describes: code that acts on a
world. Definitions come in named collections.
-/

set_option autoImplicit false

namespace Storyline

/-- How the code behind a step ended. -/
inductive HandlerResult
  | done
  | failed (message : String)
  | panicked (message : String)
deriving DecidableEq, Repr

/-- The code behind a step. It may change the world `σ`. -/
abbrev Handler (κ σ : Type) := Arguments κ → σ → HandlerResult × σ

/-- The meaning of the steps that a pattern describes. -/
structure StepDefinition (κ σ : Type) where
  /-- The kind of step, a primary one. -/
  keyword : StepKeyword
  pattern : Pattern
  /-- The definition with the greater priority is preferred, whatever its pattern. -/
  priority : Int := 0
  /-- The hint of each parameter. -/
  hints : List (Option Text)
  handler : Handler κ σ

/-- Why a step definition is refused. -/
inductive DefinitionError
  | pattern (e : PatternError)
  /-- A definition needs a primary keyword. -/
  | continuation (source : Text)
  | hintCount (source : Text) (expected actual : Nat)
deriving DecidableEq, Repr

/-- The message of an error, where it is not about a regular expression. -/
def DefinitionError.message : DefinitionError → String
  | pattern (.placeholder e) => e.message
  | pattern .regex => ""
  | continuation source =>
    s!"candidate '{source.toString}' must be declared with Given, When or Then"
  | hintCount source expected actual =>
    s!"pattern '{source.toString}' has {expected} parameter(s) but {actual} hint(s) were given"

namespace StepDefinition

variable [ClassNames] {κ σ : Type}

/-- Declares the meaning of the steps of some kind that a pattern describes. -/
def declare (keyword : StepKeyword) (flavour : Pattern.Flavour) (source : Text)
    (handler : Handler κ σ) : Except DefinitionError (StepDefinition κ σ) :=
  match Pattern.compile flavour source with
  | .error e => .error (.pattern e)
  | .ok p =>
    if keyword.isPrimary then
      .ok { keyword, pattern := p, hints := p.params.map (·.hint), handler }
    else .error (.continuation source)

/-- The definition with another priority. -/
def withPriority (d : StepDefinition κ σ) (priority : Int) : StepDefinition κ σ :=
  { d with priority }

/-- The definition with other hints, one for each parameter. -/
def withHints (d : StepDefinition κ σ) (hints : List (Option Text)) :
    Except DefinitionError (StepDefinition κ σ) :=
  if hints.length = d.pattern.params.length then .ok { d with hints }
  else .error (.hintCount d.pattern.source d.pattern.params.length hints.length)

/-- The definition applies to steps of kind `k` with the given text. -/
def isMatch (d : StepDefinition κ σ) (k : StepKeyword) (t : Text) : Bool :=
  d.keyword == k && d.pattern.isMatch t

end StepDefinition

/-- A named collection of step definitions, in the order of their declaration. -/
structure StepCollection (κ σ : Type) where
  name : String
  definitions : List (StepDefinition κ σ)

/-- An overview of the collection. -/
def StepCollection.json {κ σ : Type} (c : StepCollection κ σ) : Json :=
  .arr <| c.definitions.map fun d => .obj [
    ("collection", .string c.name),
    ("keyword", .string d.keyword.name),
    ("pattern", .str d.pattern.source),
    ("syntax", .string d.pattern.flavour.name),
    ("priority", .int d.priority),
    ("hints", .arr (d.hints.map Json.text?))]

end Storyline
