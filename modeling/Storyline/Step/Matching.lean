import Storyline.Log
import Storyline.Step.Cause
import Storyline.Step.Definition

/-!
# Matching steps with their definitions

`Matcher.find` looks for the definition of a step line. Of all definitions that apply, the one of
the highest rank is meant, and of equal ones in a collection the first. Equal ones in several
collections make the step ambiguous.
-/

set_option autoImplicit false

namespace Storyline

/-- What steps are matched with: the definitions, the keywords that start steps, and the converters
of their parameters. -/
structure Matcher (κ σ : Type) where
  collections : List (StepCollection κ σ)
  keywords : Keywords
  converters : Converters κ

/-- A definition that applies to a step, with the values of its parameters. -/
structure Hit (κ σ : Type) where
  collection : String
  definition : StepDefinition κ σ
  captures : List Text

variable {κ σ : Type}

/-! ## Rank -/

/-- What decides between definitions that apply to the same step. -/
structure Rank where
  priority : Int
  specificity : Specificity
deriving DecidableEq, Repr

/-- Compares two ranks: by priority, then by how specific the patterns are. -/
def Rank.compare (a b : Rank) : Ordering :=
  (Ord.compare a.priority b.priority).then (a.specificity.compare b.specificity)

/-- The rank of a definition. -/
def StepDefinition.rank (d : StepDefinition κ σ) : Rank := ⟨d.priority, d.pattern.specificity⟩

namespace Hit

/-- The rank of the definition. -/
def rank (h : Hit κ σ) : Rank := h.definition.rank

/-- The second hit ranks below the first. -/
def outranks (a b : Hit κ σ) : Bool := b.rank.compare a.rank == .lt

end Hit

/-- The definitions of a collection that apply to a step, in order. -/
def StepCollection.hits (c : StepCollection κ σ) (k : StepKeyword) (t : Text) : List (Hit κ σ) :=
  (c.definitions.filter (·.keyword == k)).filterMap fun d =>
    (d.pattern.captures t).map fun captures => ⟨c.name, d, captures⟩

/-- The hits of the highest rank, out of the best ones of each collection. -/
def Hit.winners (bests : List (Hit κ σ)) : List (Hit κ σ) :=
  match best? outranks bests with
  | none => []
  | some top => bests.filter fun h => h.rank == top.rank

/-! ## Arguments -/

/-- Converts the values of parameters. `position` is that of the first, counted from 1. -/
def convertAll (cs : Converters κ) (line : Text) (position : Nat) :
    List (Pattern.Param × Option Text × Text) → Except StepCause (List (Argument κ))
  | [] => .ok []
  | (p, hint, raw) :: rest =>
    match cs.convert hint raw with
    | .error e => .error (.conversion line position (hint.getD []) raw e)
    | .ok value =>
      match convertAll cs line (position + 1) rest with
      | .error e => .error e
      | .ok as => .ok (⟨p.name, raw, value⟩ :: as)

/-- The arguments of a step by a definition that applies to it. -/
def Hit.arguments (cs : Converters κ) (line : Text) (h : Hit κ σ) :
    Except StepCause (Arguments κ) :=
  (convertAll cs line 1
    (h.definition.pattern.params.zip (h.definition.hints.zip h.captures))).map (⟨line, ·⟩)

/-! ## Finding definitions -/

/-- What the search for the definition of a line finds. -/
inductive Finding (κ σ : Type)
  /-- The line is a comment. -/
  | ignorable
  /-- The line starts with no step keyword. -/
  | noKeyword
  /-- No definition applies. -/
  | unmatched
  /-- Several definitions apply equally well. -/
  | ambiguous (winners : List (Hit κ σ))
  /-- One definition applies best. -/
  | hit (h : Hit κ σ)

/-- How a step is to be performed. -/
inductive Binding (κ σ : Type)
  | ignorable
  | pending
  | unresolvable (c : StepCause)
  | bound (d : StepDefinition κ σ) (as : Arguments κ)

/-- A step line that was matched. -/
structure Step (κ σ : Type) where
  line : Text
  binding : Binding κ σ

namespace Finding

/-- What hits of the same rank from different collections amount to. -/
def ofWinners : List (Hit κ σ) → Finding κ σ
  | [] => unmatched
  | [h] => hit h
  | hs => ambiguous hs

/-- The cause of an ambiguous step. -/
def ambiguity (line : Text) (winners : List (Hit κ σ)) : StepCause :=
  .ambiguous line (winners.map (·.definition.pattern.source)) (winners.map (·.collection))

/-- How to perform a line with a finding. -/
def binding (cs : Converters κ) (line : Text) : Finding κ σ → Binding κ σ
  | ignorable => .ignorable
  | noKeyword => .pending
  | unmatched => .pending
  | ambiguous hs => .unresolvable (ambiguity line hs)
  | hit h =>
    match h.arguments cs line with
    | .ok as => .bound h.definition as
    | .error c => .unresolvable c

/-- What the log tells of a finding. -/
def records (cs : Converters κ) (line : Text) : Finding κ σ → List Log.Record
  | ignorable => []
  | noKeyword => [⟨.debug, s!"'{line.toString}' does not start with a step keyword"⟩]
  | unmatched => [⟨.warn, s!"no candidate matches '{line.toString}'"⟩]
  | ambiguous hs => [⟨.warn, (ambiguity line hs).message⟩]
  | hit h =>
    let source := h.definition.pattern.source
    ⟨.debug, s!"'{line.toString}' matched '{source.toString}' from '{h.collection}'"⟩ ::
      match h.arguments cs line with
      | .ok _ => []
      | .error c => [⟨.debug, c.message⟩]

end Finding

namespace Step

/-- The definition that a step is bound to. -/
def definition? (s : Step κ σ) : Option (StepDefinition κ σ) :=
  match s.binding with
  | .bound d _ => some d
  | _ => none

/-- No definition applies to the step. -/
def isPending (s : Step κ σ) : Bool :=
  match s.binding with
  | .pending => true
  | _ => false

end Step

namespace Matcher

/-- The best hits for a step of a known kind. -/
def winners (m : Matcher κ σ) (k : StepKeyword) (t : Text) : List (Hit κ σ) :=
  Hit.winners (m.collections.filterMap fun c => best? Hit.outranks (c.hits k t))

/-- What there is for a line after a primary step of kind `prev`. -/
def find (m : Matcher κ σ) (prev : Option StepKeyword) (line : Text) : Finding κ σ :=
  match m.keywords.classify line with
  | some (.ignorable, _) => .ignorable
  | some (.step k, t) => .ofWinners (m.winners (k.resolve prev) t)
  | _ => .noKeyword

/-- The kind of the last primary step after a line. -/
def remember (m : Matcher κ σ) (prev : Option StepKeyword) (line : Text) : Option StepKeyword :=
  match m.keywords.splitStep line with
  | some (k, _) => k.remember prev
  | none => prev

/-- The findings for the lines of a list, each with its line. -/
def findAll (m : Matcher κ σ) (prev : Option StepKeyword) : List Text → List (Text × Finding κ σ)
  | [] => []
  | l :: ls => (l, m.find prev l) :: m.findAll (m.remember prev l) ls

/-- The step of a line with a finding. -/
def step (m : Matcher κ σ) (line : Text) (f : Finding κ σ) : Step κ σ :=
  ⟨line, f.binding m.converters line⟩

/-- The step of a line after a primary step of kind `prev`, and the kind for the line after it. -/
def matchStep (m : Matcher κ σ) (prev : Option StepKeyword) (line : Text) :
    Step κ σ × Option StepKeyword :=
  (m.step line (m.find prev line), m.remember prev line)

/-- The steps of lines after a primary step of kind `prev`. -/
def prepareAfter (m : Matcher κ σ) (prev : Option StepKeyword) : List Text → List (Step κ σ)
  | [] => []
  | l :: ls =>
    let (s, next) := m.matchStep prev l
    s :: m.prepareAfter next ls

/-- The steps of a list of lines. The first has no step before it. -/
def prepare (m : Matcher κ σ) (lines : List Text) : List (Step κ σ) := m.prepareAfter none lines

/-- What the log tells of preparing a list of lines. -/
def prepareRecords (m : Matcher κ σ) (lines : List Text) : List Log.Record :=
  (m.findAll none lines).flatMap fun (l, f) => f.records m.converters l

/-- The hints without a converter, each with its pattern, in the order of declaration. -/
def unsupportedHints (m : Matcher κ σ) : List (Text × Text) :=
  (m.collections.flatMap (·.definitions)).flatMap fun d =>
    ((d.hints.filterMap id).filter fun h => !m.converters.supports h).map (d.pattern.source, ·)

/-- What the log tells of hints without a converter. -/
def hintRecords (m : Matcher κ σ) : List Log.Record :=
  m.unsupportedHints.map fun (p, h) =>
    ⟨.warn, s!"no converter for hint '{h.toString}' in '{p.toString}'; the parameter stays text"⟩

end Matcher

end Storyline
