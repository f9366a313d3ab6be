import Storyline.Configuration
import Storyline.Run.Basic
import Storyline.Run.State

/-!
# Running stories

A story runs in the order in which it is written: given stories, the steps before, the scenarios,
the steps after. Each list of steps starts afresh, but the gravest cause of the whole story decides
how its run ends.

`Runner.play` runs a story together with its given stories. A given story must not be running
already. Whatever stories the loader makes up, no more of them run at once than the call stack has
room for.
-/

set_option autoImplicit false

namespace Storyline

/-- What stories are run with. -/
structure Runner (κ σ : Type) where
  configuration : Configuration κ
  collections : List (StepCollection κ σ)
  loader : Loader
  /-- How many stories the call stack has room for at once. -/
  stack : Nat

variable {κ σ : Type}

/-! ## Steps -/

namespace StoryRun

/-- Performs a step, or skips it after a cause in its list. -/
def attempt (st : RunState) (s : Step κ σ) : StoryRun κ σ StepResult :=
  match st.progress with
  | .fineSoFar => do
    Run.tell ((s.call?.map fun (d, as) => Entry.call d as).toList)
    Run.act s.perform
  | .somethingHappened => return s.skip

/-- Attempts a step and reports how it came out. -/
def perform (st : RunState) (s : Step κ σ) : StoryRun κ σ RunState := do
  let result ← attempt st s
  report (.step result)
  return st.note result

/-- Attempts steps in order. -/
def performAll (st : RunState) : List (Step κ σ) → StoryRun κ σ RunState
  | [] => return st
  | s :: ss => do
    let st ← perform st s
    performAll st ss

end StoryRun

namespace Runner

open StoryRun (report log debug)

/-- What the steps of stories are matched with. -/
def matcher (r : Runner κ σ) : Matcher κ σ where
  collections := r.collections
  keywords := r.configuration.keywords
  converters := r.configuration.converters

/-- Runs a list of step lines. -/
def steps (r : Runner κ σ) (st : RunState) (lines : List Text) : StoryRun κ σ RunState :=
  if lines.isEmpty then return st
  else do
    log (r.matcher.prepareRecords lines)
    debug s!"created {lines.length} step(s)"
    StoryRun.performAll st.startList (r.matcher.prepare lines)

/-- Runs step lines once for each row, with its values. -/
def rows (r : Runner κ σ) (st : RunState) (lines : List Text) :
    List Row → StoryRun κ σ RunState
  | [] => return st
  | row :: rest => do
    report (.row row)
    let st ← r.steps st (lines.map row.substitute)
    r.rows st lines rest

/-! ## Stories

What follows takes the way to run a given story as an argument, `enter`. -/

/-- Runs given stories one after the other. -/
def enterAll (enter : Text → StoryRun κ σ Unit) : List Text → StoryRun κ σ Unit
  | [] => return ()
  | path :: rest => do
    enter path
    enterAll enter rest

/-- Runs given stories in order. -/
def givens (enter : Text → StoryRun κ σ Unit) (paths : List Text) : StoryRun κ σ Unit :=
  if paths.isEmpty then return ()
  else do
    report (.givenStories paths)
    enterAll enter paths

/-- Runs the steps of a scenario, once for each of its examples if there are any. -/
def examples (r : Runner κ σ) (st : RunState) (s : Scenario) : StoryRun κ σ RunState :=
  if s.examples.isEmpty then r.steps st s.steps
  else do
    report (.beforeExamples s.steps s.examples)
    let st ← r.rows st s.steps s.examples.rowList
    report .afterExamples
    return st

/-- Runs a scenario. -/
def scenario (r : Runner κ σ) (enter : Text → StoryRun κ σ Unit) (st : RunState) (s : Scenario) :
    StoryRun κ σ RunState := do
  report (.beforeScenario s.title)
  givens enter s.givenStories
  let st ← r.examples st s
  report .afterScenario
  return st

/-- Runs scenarios in order. -/
def scenarios (r : Runner κ σ) (enter : Text → StoryRun κ σ Unit) (st : RunState) :
    List Scenario → StoryRun κ σ RunState
  | [] => return st
  | s :: rest => do
    let st ← r.scenario enter st s
    r.scenarios enter st rest

/-- Runs the parts of a story in order. -/
def parts (r : Runner κ σ) (enter : Text → StoryRun κ σ Unit) (st : RunState) (s : Story) :
    StoryRun κ σ RunState := do
  givens enter s.givenStories
  let st ← r.steps st s.lifecycle.before
  let st ← r.scenarios enter st s.scenarios
  r.steps st s.lifecycle.after

/-- Runs a story up to its last event. -/
def tell (r : Runner κ σ) (enter : Text → StoryRun κ σ Unit) (embedded : Bool) (s : Story) :
    StoryRun κ σ RunState := do
  debug s!"story '{s.path.toString}' started (embedded: {embedded})"
  report (.beforeStory s.path embedded)
  let st ← r.parts enter { policy := r.configuration.policy } s
  report (.afterStory embedded)
  debug s!"story '{s.path.toString}' finished"
  return st

/-- Ends the run of a story as the strategy for its cause demands. -/
def conclude (path : Text) (st : RunState) : StoryRun κ σ Unit :=
  match st.cause with
  | none => return ()
  | some c =>
    match st.strategy with
    | .silent => return ()
    | .log => Run.tell [.absorbed path c]
    | .rethrow => Run.fail (.step c)

/-- Runs a story. -/
def walk (r : Runner κ σ) (enter : Text → StoryRun κ σ Unit) (embedded : Bool) (s : Story) :
    StoryRun κ σ Unit := do
  let st ← r.tell enter embedded s
  conclude s.path st

/-! ## Given stories -/

/-- Reads the text of a story. -/
def read (r : Runner κ σ) (path text : Text) : StoryRun κ σ Story := do
  let parsed := Story.parse r.configuration.keywords path text
  log (Story.parseRecords parsed)
  match parsed with
  | .error e => Run.fail (.parse path e)
  | .ok s => return s

/-- Loads and reads a story. -/
def define (r : Runner κ σ) (path : Text) : StoryRun κ σ Story :=
  match r.loader path with
  | .error e => Run.fail (.load e)
  | .ok text => r.read path text

/-- Runs a given story by `run`, unless it is running already. The chain holds the paths of the
stories that are running, the outermost first. -/
def enter (r : Runner κ σ) (run : Story → StoryRun κ σ Unit) (chain : List Text) (path : Text) :
    StoryRun κ σ Unit :=
  if path ∈ chain then Run.fail (.cyclic path (chain ++ [path]))
  else do
    debug s!"entering given story '{path.toString}'"
    let given ← r.define path
    run given

/-- Runs a story with its given stories, where the call stack has room for `room` stories. `outer`
holds the paths of the stories that are running already. -/
def play (r : Runner κ σ) : (room : Nat) → (outer : List Text) → (embedded : Bool) → Story →
    StoryRun κ σ Unit
  | 0, _, _, _ => Run.halt .overflow
  | room + 1, outer, embedded, s =>
    let chain := outer ++ [s.path]
    r.walk (r.enter (r.play room chain true) chain) embedded s

/-- Runs a story. -/
def run (r : Runner κ σ) (s : Story) : StoryRun κ σ Unit := r.play r.stack [] false s

/-- Loads and runs a story. -/
def runPath (r : Runner κ σ) (path : Text) : StoryRun κ σ Unit := do
  let s ← r.define path
  r.run s

end Runner

end Storyline
