import Storyline.Log
import Storyline.Story

/-!
# Drafts of stories

A story is read line by line into a draft. The keyword at the start of a line and the section in
which it stands decide where the line goes (`Draft.line`); a line with no place to go is an error
that names it. `Story.parse` reads a whole text.
-/

set_option autoImplicit false

namespace Storyline

/-- Why a text is no story. Line numbers are counted from 1. -/
inductive StoryError
  | keywords (e : KeywordError)
  | emptyGivenStories (line : Nat)
  | misplacedGivenStories (line : Nat)
  | duplicateNarrative (line : Nat)
  | misplacedNarrative (line : Nat)
  | misplacedLifecycle (line : Nat)
  | misplacedExamples (line : Nat)
  | unexpectedLine (line : Nat) (text : Text)
  | malformedTable (title : Text) (e : TableError)
deriving DecidableEq, Repr

def StoryError.message : StoryError → String
  | keywords e => s!"invalid keyword table: {e.message}"
  | emptyGivenStories n =>
    s!"line {n}: given stories keyword is not followed by any story path"
  | misplacedGivenStories n => s!"line {n}: given stories must precede the steps of a scenario"
  | duplicateNarrative n => s!"line {n}: a story has at most one narrative"
  | misplacedNarrative n => s!"line {n}: the narrative must follow the story description"
  | misplacedLifecycle n => s!"line {n}: lifecycle blocks must precede the first scenario"
  | misplacedExamples n => s!"line {n}: examples must close a scenario"
  | unexpectedLine n t => s!"line {n}: unexpected '{t.toString}'"
  | malformedTable title e => s!"scenario '{title.toString}': {e.message}"

namespace Story

/-- A part of the narrative. -/
inductive Clause
  | text
  | inOrderTo
  | asA
  | iWantTo
deriving DecidableEq, Repr

/-- A part of the lifecycle. -/
inductive Block
  | before
  | after
deriving DecidableEq, Repr

/-- The section of a story that is being read. Lists of given stories know the line of their
keyword. -/
inductive Section
  | description
  | narrative (c : Clause)
  | storyGivens (line : Nat)
  | lifecycle (b : Option Block)
  | scenario
  | scenarioGivens (line : Nat)
  | examples
deriving DecidableEq, Repr

/-- A scenario that is being read, with the lines of its table. -/
structure OpenScenario where
  scenario : Scenario := {}
  table : List Text := []
deriving DecidableEq, Repr

/-- A story that is being read. -/
structure Draft where
  story : Story
  place : Section := .description
  current : Option OpenScenario := none
deriving DecidableEq, Repr

/-- The clause of the narrative that a keyword opens. -/
def clause? : Keyword → Option Clause
  | .inOrderTo => some .inOrderTo
  | .asA => some .asA
  | .iWantTo => some .iWantTo
  | _ => none

/-- The block of the lifecycle that a keyword opens. -/
def block? : Keyword → Option Block
  | .before => some .before
  | .after => some .after
  | _ => none

/-- `target` with more text at its end, and `joiner` between the two. -/
def append (joiner target more : Text) : Text :=
  if more.isEmpty then target
  else if target.isEmpty then more
  else target ++ joiner ++ more

/-- The steps with one more line at the end of the last one. -/
def continueLast? (steps : List Text) (line : Text) : Option (List Text) :=
  match steps with
  | [] => none
  | [s] => some [s ++ '\n' :: line]
  | s :: ss => (continueLast? ss line).map (s :: ·)

namespace Draft

/-! ## Text without a keyword -/

/-- Adds text to the clause of the narrative that is being read. -/
def addToNarrative (d : Draft) (t : Text) : Draft :=
  match d.place, d.story.narrative with
  | .narrative c, some n =>
    let n := match c with
      | .text => { n with text := append ['\n'] n.text t }
      | .inOrderTo => { n with inOrderTo := append [' '] n.inOrderTo t }
      | .asA => { n with asA := append [' '] n.asA t }
      | .iWantTo => { n with iWantTo := append [' '] n.iWantTo t }
    { d with story := { d.story with narrative := some n } }
  | _, _ => d

/-- Adds the paths that a text lists to the given stories that are being read. -/
def addGivens (d : Draft) (t : Text) : Draft :=
  match d.place, d.current with
  | .storyGivens _, _ =>
    { d with
      story := { d.story with givenStories := d.story.givenStories ++ Text.entries t } }
  | .scenarioGivens _, some o =>
    let s := { o.scenario with givenStories := o.scenario.givenStories ++ Text.entries t }
    { d with current := some { o with scenario := s } }
  | _, _ => d

/-- Adds a line to the table of the open scenario. -/
def addTableLine (d : Draft) (line : Text) : Draft :=
  { d with current := d.current.map fun o => { o with table := o.table ++ [line] } }

/-- Reads a line that no keyword starts, or whose keyword has no meaning where it stands. -/
def text (d : Draft) (n : Nat) (line : Text) : Except StoryError Draft :=
  match d.place with
  | .description =>
    let description := append ['\n'] d.story.description line
    .ok { d with story := { d.story with description } }
  | .narrative _ => .ok (d.addToNarrative line)
  | .storyGivens _ => .ok (d.addGivens line)
  | .scenarioGivens _ => .ok (d.addGivens line)
  | .lifecycle none => .error (.unexpectedLine n line)
  | .lifecycle (some .before) =>
    match continueLast? d.story.lifecycle.before line with
    | none => .error (.unexpectedLine n line)
    | some before =>
      .ok { d with story := { d.story with lifecycle := { d.story.lifecycle with before } } }
  | .lifecycle (some .after) =>
    match continueLast? d.story.lifecycle.after line with
    | none => .error (.unexpectedLine n line)
    | some after =>
      .ok { d with story := { d.story with lifecycle := { d.story.lifecycle with after } } }
  | .scenario =>
    match d.current with
    | none => .error (.unexpectedLine n line)
    | some o =>
      match continueLast? o.scenario.steps line with
      | none =>
        let title := append [' '] o.scenario.title line
        .ok { d with current := some { o with scenario := { o.scenario with title } } }
      | some steps =>
        .ok { d with current := some { o with scenario := { o.scenario with steps } } }
  | .examples => .ok (d.addTableLine line)

/-! ## Keywords -/

/-- Ends a list of given stories, which must not be empty. -/
def closeGivens (d : Draft) : Except StoryError Draft :=
  let back : Draft := { d with place := if d.current.isSome then .scenario else .description }
  match d.place with
  | .storyGivens n =>
    if d.story.givenStories.isEmpty then .error (.emptyGivenStories n) else .ok back
  | .scenarioGivens n =>
    if d.current.all (·.scenario.givenStories.isEmpty) then .error (.emptyGivenStories n)
    else .ok back
  | _ => .ok d

/-- Opens the narrative, which comes once and right after the description. -/
def openNarrative (d : Draft) (n : Nat) (rest : Text) : Except StoryError Draft :=
  if d.story.narrative.isSome then .error (.duplicateNarrative n)
  else if d.place ≠ .description then .error (.misplacedNarrative n)
  else
    let opened : Draft :=
      { d with place := .narrative .text, story := { d.story with narrative := some {} } }
    .ok (opened.addToNarrative rest)

/-- Opens a list of given stories, before everything that follows the narrative or before the
steps of a scenario. -/
def openGivens (d : Draft) (n : Nat) (rest : Text) : Except StoryError Draft :=
  match d.current, d.place with
  | none, .description => .ok ({ d with place := .storyGivens n }.addGivens rest)
  | none, .narrative _ => .ok ({ d with place := .storyGivens n }.addGivens rest)
  | some o, .scenario =>
    if o.scenario.steps.isEmpty then .ok ({ d with place := .scenarioGivens n }.addGivens rest)
    else .error (.misplacedGivenStories n)
  | _, _ => .error (.misplacedGivenStories n)

/-- Opens the lifecycle, before the first scenario. -/
def openLifecycle (d : Draft) (n : Nat) : Except StoryError Draft :=
  if d.current.isSome then .error (.misplacedLifecycle n)
  else .ok { d with place := .lifecycle none }

/-- Ends the open scenario and reads its table. -/
def finishScenario (seps : Separators) (d : Draft) : Except StoryError Draft :=
  match d.current with
  | none => .ok d
  | some o =>
    match if o.table.isEmpty then .ok {} else Table.ofLines seps o.table with
    | .error e => .error (.malformedTable o.scenario.title e)
    | .ok examples =>
      let scenarios := d.story.scenarios ++ [{ o.scenario with examples }]
      .ok { d with current := none, story := { d.story with scenarios } }

/-- Opens a scenario. -/
def openScenario (seps : Separators) (d : Draft) (title : Text) : Except StoryError Draft :=
  (d.finishScenario seps).map fun d =>
    { d with place := .scenario, current := some { scenario := { title } } }

/-- Opens the table of the open scenario. -/
def openExamples (d : Draft) (n : Nat) (rest : Text) : Except StoryError Draft :=
  if d.current.isNone || d.place = .examples then .error (.misplacedExamples n)
  else
    let opened : Draft := { d with place := .examples }
    .ok (if rest.isEmpty then opened else opened.addTableLine rest)

/-- Reads a step. One that precedes all scenarios opens a scenario without title. -/
def step (d : Draft) (n : Nat) (line : Text) : Except StoryError Draft :=
  match d.place with
  | .lifecycle none => .error (.unexpectedLine n line)
  | .examples => .error (.unexpectedLine n line)
  | .lifecycle (some .before) =>
    let before := d.story.lifecycle.before ++ [line]
    .ok { d with story := { d.story with lifecycle := { d.story.lifecycle with before } } }
  | .lifecycle (some .after) =>
    let after := d.story.lifecycle.after ++ [line]
    .ok { d with story := { d.story with lifecycle := { d.story.lifecycle with after } } }
  | _ =>
    let o := d.current.getD {}
    let s := { o.scenario with steps := o.scenario.steps ++ [line] }
    .ok { d with place := .scenario, current := some { o with scenario := s } }

/-- Opens the part of the story that the keyword stands for, or reads a step. -/
def openPart (ks : Keywords) (d : Draft) (n : Nat) (line : Text) (k : Keyword) (rest : Text) :
    Except StoryError Draft :=
  match k with
  | .narrative => d.openNarrative n rest
  | .givenStories => d.openGivens n rest
  | .lifecycle => d.openLifecycle n
  | .scenario => d.openScenario ks.separators rest
  | .examples => d.openExamples n rest
  | _ => d.step n line

/-- Reads a line whose keyword opens a part of the story or starts a step. -/
def structural (ks : Keywords) (d : Draft) (n : Nat) (line : Text) (k : Keyword) (rest : Text) :
    Except StoryError Draft :=
  match d.closeGivens with
  | .error e => .error e
  | .ok d => d.openPart ks n line k rest

/-- Reads line `n`, which is trimmed and not blank. The keywords of a clause have a meaning only in
the narrative, and those of a block only in the lifecycle. -/
def line (ks : Keywords) (d : Draft) (n : Nat) (line : Text) : Except StoryError Draft :=
  match ks.classify line with
  | none => d.text n line
  | some (k, rest) =>
    match clause? k, block? k, d.place with
    | some c, _, .narrative _ => .ok ({ d with place := .narrative c }.addToNarrative rest)
    | some _, _, _ => d.text n line
    | none, some b, .lifecycle _ => .ok { d with place := .lifecycle (some b) }
    | none, some _, _ => d.text n line
    | none, none, _ => d.structural ks n line k rest

/-- Reads numbered lines. -/
def lines (ks : Keywords) (d : Draft) (ls : List (Nat × Text)) : Except StoryError Draft :=
  ls.foldlM (fun d (n, l) => d.line ks n l) d

/-- Ends the story. -/
def finish (ks : Keywords) (d : Draft) : Except StoryError Story :=
  match d.closeGivens with
  | .error e => .error e
  | .ok d => (d.finishScenario ks.separators).map (·.story)

end Draft

/-- The trimmed lines of a text that are not blank, with their numbers. -/
def numberedLines (t : Text) : List (Nat × Text) :=
  (((Text.lines t).zipIdx 1).map fun (l, n) => (n, Text.trim l)).filter (!·.2.isEmpty)

/-- The story that a text tells. -/
def parse (ks : Keywords) (path t : Text) : Except StoryError Story :=
  match ks.validate with
  | .error e => .error (.keywords e)
  | .ok () =>
    match Draft.lines ks { story := { path } } (numberedLines t) with
    | .error e => .error e
    | .ok d => d.finish ks

/-- What the log tells of reading a story. -/
def parseRecords : Except StoryError Story → List Log.Record
  | .ok s =>
    [⟨.debug, s!"parsed story '{s.path.toString}' with {s.scenarios.length} scenario(s)"⟩]
  | .error _ => []

end Story

end Storyline
