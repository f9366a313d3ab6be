import Storyline.Best
import Storyline.StepKeyword

/-!
# Keywords

The keywords of the story format and their literals. A table of literals (`Keywords`) makes the
format readable in any language. The longest literal that fits decides which keyword starts a line
(`Keywords.classify`).
-/

set_option autoImplicit false

namespace Storyline

/-- A keyword of the story format. -/
inductive Keyword
  | narrative
  | inOrderTo
  | asA
  | iWantTo
  | scenario
  | givenStories
  | lifecycle
  | before
  | after
  | examples
  /-- Report label of one row of examples. -/
  | exampleRow
  | headerSeparator
  | valueSeparator
  | ignorableSeparator
  | step (k : StepKeyword)
  | ignorable
  /-- Report label of pending steps. -/
  | pending
  /-- Report label of steps that were not performed. -/
  | notPerformed
  /-- Report label of failed steps. -/
  | failed
deriving DecidableEq, Repr

namespace Keyword

/-- All keywords, in table order. -/
def all : List Keyword :=
  [narrative, inOrderTo, asA, iWantTo, scenario, givenStories, lifecycle, before, after, examples,
   exampleRow, headerSeparator, valueSeparator, ignorableSeparator, step .given, step .action,
   step .outcome, step .continuation, ignorable, pending, notPerformed, failed]

theorem mem_all (k : Keyword) : k ∈ all := by
  cases k with
  | step k => cases k <;> simp [all]
  | _ => simp [all]

/-- The name of a keyword in a configuration. -/
def name : Keyword → String
  | narrative => "Narrative"
  | inOrderTo => "InOrderTo"
  | asA => "AsA"
  | iWantTo => "IWantTo"
  | scenario => "Scenario"
  | givenStories => "GivenStories"
  | lifecycle => "Lifecycle"
  | before => "Before"
  | after => "After"
  | examples => "ExamplesTable"
  | exampleRow => "ExamplesTableRow"
  | headerSeparator => "ExamplesTableHeaderSeparator"
  | valueSeparator => "ExamplesTableValueSeparator"
  | ignorableSeparator => "ExamplesTableIgnorableSeparator"
  | step k => k.name
  | ignorable => "Ignorable"
  | pending => "Pending"
  | notPerformed => "NotPerformed"
  | failed => "Failed"

/-- The English literal of a keyword. -/
def defaultLiteral : Keyword → String
  | narrative => "Narrative:"
  | inOrderTo => "In order to:"
  | asA => "As a:"
  | iWantTo => "I want to:"
  | scenario => "Scenario:"
  | givenStories => "GivenStories:"
  | lifecycle => "Lifecycle:"
  | before => "Before:"
  | after => "After:"
  | examples => "Examples:"
  | exampleRow => "Example:"
  | headerSeparator => "|"
  | valueSeparator => "|"
  | ignorableSeparator => "|--"
  | step k => k.name
  | ignorable => "!--"
  | pending => "PENDING"
  | notPerformed => "NOT PERFORMED"
  | failed => "FAILED"

/-- The kind of step that the keyword starts. -/
def stepKeyword? : Keyword → Option StepKeyword
  | step k => some k
  | _ => none

/-- The keyword can start a line of a story: it is neither a separator nor a report label. -/
def startsLine : Keyword → Bool
  | exampleRow => false
  | headerSeparator => false
  | valueSeparator => false
  | ignorableSeparator => false
  | pending => false
  | notPerformed => false
  | failed => false
  | _ => true

/-- The keywords that can start a line, in table order. -/
def markers : List Keyword := all.filter startsLine

/-- A step keyword is a word, which ends at a blank or with the line. -/
def isWord (k : Keyword) : Bool := k.stepKeyword?.isSome

end Keyword

/-! ## Tables of literals -/

/-- Why a table of keywords is refused. -/
inductive KeywordError
  /-- A mapping has no literal for the keyword. -/
  | missing (k : Keyword)
  | unknownName (name : Text)
  | emptyLiteral (k : Keyword)
  /-- Two markers share a literal. -/
  | ambiguous (first second : Keyword) (literal : Text)
deriving DecidableEq, Repr

def KeywordError.message : KeywordError → String
  | missing k => s!"keyword '{k.name}' not found"
  | unknownName name => s!"'{name.toString}' is not a keyword name"
  | emptyLiteral k => s!"keyword '{k.name}' must not be empty"
  | ambiguous a b literal =>
    s!"keywords '{a.name}' and '{b.name}' are both '{literal.toString}'"

/-- The keyword with the given name, up to blanks around it. -/
def Keyword.parse (t : Text) : Except KeywordError Keyword :=
  let t := Text.trim t
  match all.find? fun k => k.name.toList == t with
  | some k => .ok k
  | none => .error (.unknownName t)

/-- A table of keywords: the literal of each. -/
@[ext]
structure Keywords where
  literal : Keyword → Text

namespace Keywords

/-- The English keywords. -/
def default : Keywords := ⟨fun k => k.defaultLiteral.toList⟩

instance : Inhabited Keywords := ⟨default⟩

/-- The table with one literal replaced. -/
def set (ks : Keywords) (k : Keyword) (literal : Text) : Keywords :=
  ⟨fun j => if j = k then literal else ks.literal j⟩

/-- The table that a complete mapping gives, where later entries win. -/
def ofEntries (es : List (Keyword × Text)) : Except KeywordError Keywords :=
  match Keyword.all.find? fun k => !(es.map (·.1)).contains k with
  | some k => .error (.missing k)
  | none => .ok (es.foldl (fun ks (k, literal) => ks.set k literal) default)

/-- The first two markers that share a literal. -/
def clash? (ks : Keywords) : List Keyword → Option (Keyword × Keyword)
  | [] => none
  | k :: rest =>
    match rest.find? fun j => ks.literal k == ks.literal j with
    | some j => some (k, j)
    | none => ks.clash? rest

/-- Every literal has a character that is not blank, and no two markers share one. -/
def validate (ks : Keywords) : Except KeywordError Unit :=
  match Keyword.all.find? fun k => (Text.trim (ks.literal k)).isEmpty with
  | some k => .error (.emptyLiteral k)
  | none =>
    match ks.clash? Keyword.markers with
    | some (a, b) => .error (.ambiguous a b (ks.literal a))
    | none => .ok ()

/-! ## Lines -/

/-- What follows the literal of `k` at the start of the line, trimmed. A word has to end there. -/
def rest? (ks : Keywords) (k : Keyword) (line : Text) : Option Text :=
  if (ks.literal k).isEmpty then none
  else match Text.after? (ks.literal k) line with
    | none => none
    | some r =>
      if k.isWord && !r.head?.all Unicode.isBlank then none else some (Text.trim r)

/-- The keyword that starts the line, and what follows it: the one with the longest literal of
those that fit. -/
def classify (ks : Keywords) (line : Text) : Option (Keyword × Text) :=
  best? (fun a b => (ks.literal b.1).length < (ks.literal a.1).length) <|
    Keyword.markers.filterMap fun k => (ks.rest? k line).map (k, ·)

/-- The step keyword that starts the line, and what follows it. -/
def splitStep (ks : Keywords) (line : Text) : Option (StepKeyword × Text) :=
  match ks.classify line with
  | some (.step k, rest) => some (k, rest)
  | _ => none

/-- The line is a comment between steps. -/
def isIgnorable (ks : Keywords) (line : Text) : Bool :=
  (ks.classify line).any (·.1 == .ignorable)

end Keywords

end Storyline
