import Storyline.Step.Performance

/-!
# Events

A run tells what happens as a sequence of events. An event can be written as JSON, and it can be
logged with the labels of a table of keywords.
-/

set_option autoImplicit false

namespace Storyline

/-- What happens in a run. A story is embedded if it runs on behalf of another one. -/
inductive Event
  | beforeStory (path : Text) (embedded : Bool)
  | afterStory (embedded : Bool)
  /-- Given stories are about to run. -/
  | givenStories (paths : List Text)
  | beforeScenario (title : Text)
  | afterScenario
  /-- The steps, as they are written, are about to run for each row of a table. -/
  | beforeExamples (steps : List Text) (table : Table)
  /-- The steps are about to run with the values of a row. -/
  | row (r : Row)
  | afterExamples
  | step (r : StepResult)
deriving DecidableEq, Repr

namespace Event

/-- The event tells how a step came out. -/
def isStep : Event → Bool
  | step _ => true
  | _ => false

/-! ## JSON -/

/-- The name of the event in JSON. -/
def tag : Event → String
  | beforeStory _ _ => "before_story"
  | afterStory _ => "after_story"
  | givenStories _ => "given_stories"
  | beforeScenario _ => "before_scenario"
  | afterScenario => "after_scenario"
  | beforeExamples _ _ => "before_examples"
  | row _ => "example"
  | afterExamples => "after_examples"
  | step r =>
    match r.outcome with
    | .successful => "successful"
    | .ignorable => "ignorable"
    | .pending => "pending"
    | .notPerformed => "not_performed"
    | .failed _ => "failed"

/-- The fields of the event in JSON, besides its name. -/
def fields : Event → List (String × Json)
  | beforeStory path embedded => [("path", .str path), ("embedded", .bool embedded)]
  | afterStory embedded => [("embedded", .bool embedded)]
  | givenStories paths => [("paths", .texts paths)]
  | beforeScenario title => [("title", .str title)]
  | afterScenario => []
  | beforeExamples steps t => [("steps", .texts steps), ("headers", .texts t.headers)]
  | row r => [("values", .texts r.values)]
  | afterExamples => []
  | step r =>
    match r.outcome with
    | .failed c => [("step", .str r.line), ("cause", .string c.message)]
    | _ => [("step", .str r.line)]

/-- The event as JSON. -/
def json (e : Event) : Json := .obj (("event", .string e.tag) :: e.fields)

/-- Events as JSON. -/
def jsonOf (es : List Event) : Json := .arr (es.map json)

/-! ## Log -/

/-- Texts separated by commas. -/
def listed (ts : List Text) : String := (Text.join ", ".toList ts).toString

/-- What the log tells of a step. -/
def stepRecord (ks : Keywords) (r : StepResult) : Log.Record :=
  let line := r.line.toString
  let label (k : Keyword) : String := (ks.literal k).toString
  match r.outcome with
  | .successful => ⟨.info, line⟩
  | .ignorable => ⟨.info, line⟩
  | .pending => ⟨.warn, line ++ " (" ++ label .pending ++ ")"⟩
  | .notPerformed => ⟨.warn, line ++ " (" ++ label .notPerformed ++ ")"⟩
  | .failed c => ⟨.warn, line ++ " (" ++ label .failed ++ "): " ++ c.message⟩

/-- What the log tells of the event, with labels from a table of keywords. -/
def records (ks : Keywords) (e : Event) : List Log.Record :=
  let label (k : Keyword) : String := (ks.literal k).toString
  match e with
  | beforeStory path true => [⟨.debug, s!"running given story {path.toString}"⟩]
  | beforeStory path false => [⟨.info, s!"running story {path.toString}"⟩]
  | afterStory embedded => [⟨.debug, s!"story finished (embedded: {embedded})"⟩]
  | givenStories paths => [⟨.info, label .givenStories ++ " " ++ listed paths⟩]
  | beforeScenario title => [⟨.info, label .scenario ++ " " ++ title.toString⟩]
  | afterScenario => []
  | beforeExamples _ t =>
    [⟨.debug, label .examples ++ s!" {t.rows.length} row(s) over " ++ listed t.headers⟩]
  | row r =>
    let values := r.cells.map fun (column, value) => column ++ '=' :: value
    [⟨.info, label .exampleRow ++ " " ++ listed values⟩]
  | afterExamples => []
  | step r => [stepRecord ks r]

end Event

end Storyline
