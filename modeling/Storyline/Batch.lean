import Storyline.Run.Runner

/-!
# Batches

Several stories run one after the other, each in the world that the one before it has left. The
mode of the configuration says what a failure does to the batch.
-/

set_option autoImplicit false

namespace Storyline

/-- A story of a batch: a path that leads to it, or the story itself. -/
inductive Target
  | path (p : Text)
  | story (s : Story)
deriving DecidableEq, Repr

/-- The path of the story. -/
def Target.storyPath : Target → Text
  | path p => p
  | story s => s.path

/-- A story that failed. -/
structure FailedStory where
  path : Text
  error : RunError
deriving DecidableEq, Repr

/-- The failures of a batch as a text. -/
def FailedStory.describe (fs : List FailedStory) : String :=
  let lines := fs.map fun f => s!"\n  {f.path.toString}: {f.error.message}"
  s!"{fs.length} story run(s) failed in batch:" ++ String.join lines

/-- Why a batch fails. -/
inductive BatchError
  /-- The story failed and ended the batch. -/
  | storyFailed (f : FailedStory)
  /-- All stories ran, and some of them failed. -/
  | batchFailed (fs : List FailedStory)
deriving DecidableEq, Repr

def BatchError.message : BatchError → String
  | storyFailed f => s!"story '{f.path.toString}' failed: {f.error.message}"
  | batchFailed fs => FailedStory.describe fs

/-- What the monitor of a batch is told. -/
inductive Notice
  | running (path : Text)
  /-- The story failed, which does not matter. -/
  | failed (f : FailedStory)
  /-- Some stories failed, which does not matter. -/
  | batchFailed (fs : List FailedStory)
  /-- No story runs at all. -/
  | notRun
deriving DecidableEq, Repr

/-- What the log tells of a notice. -/
def Notice.record : Notice → Log.Record
  | running path => ⟨.info, s!"running story {path.toString}"⟩
  | failed f => ⟨.warn, s!"story {f.path.toString} failed: {f.error.message}"⟩
  | batchFailed fs => ⟨.error, FailedStory.describe fs⟩
  | notRun => ⟨.info, "skipped running stories"⟩

/-- A batch that did not fail. -/
structure Summary where
  /-- The paths of the stories that ran. -/
  ran : List Text := []
  /-- The failures that do not matter. -/
  failures : List FailedStory := []
  /-- No story ran, because the mode is to skip them. -/
  skipped : Bool := false
deriving DecidableEq, Repr

/-- No story failed. -/
def Summary.isSuccess (s : Summary) : Bool := s.failures.isEmpty

/-- What a batch leaves in its trace. -/
inductive BatchEntry (κ σ : Type)
  /-- The monitor is told something. -/
  | notice (n : Notice)
  /-- Something happens in the run of a story. -/
  | inner (e : Entry κ σ)

namespace BatchEntry

variable {κ σ : Type}

/-- What the monitor is told. -/
def notice? : BatchEntry κ σ → Option Notice
  | notice n => some n
  | inner _ => none

/-- The entry of the run of a story. -/
def inner? : BatchEntry κ σ → Option (Entry κ σ)
  | notice _ => none
  | inner e => some e

/-- What the log tells of an entry. Events are logged only if there are labels for them. -/
def records (labels : Option Keywords) : BatchEntry κ σ → List Log.Record
  | notice n => [n.record]
  | inner e => e.records labels

/-- The notices of a trace. -/
def noticesOf (trace : List (BatchEntry κ σ)) : List Notice := trace.filterMap notice?

/-- The events of a trace. -/
def eventsOf (trace : List (BatchEntry κ σ)) : List Event :=
  Entry.eventsOf (trace.filterMap inner?)

/-- What the log tells of a trace. -/
def recordsOf (labels : Option Keywords) (trace : List (BatchEntry κ σ)) : List Log.Record :=
  trace.flatMap (records labels)

end BatchEntry

/-- A run of a batch or of a part of it. -/
abbrev BatchRun (κ σ α : Type) : Type := Run (BatchEntry κ σ) σ BatchError α

namespace Runner

variable {κ σ : Type}

/-- Runs the story of a target. -/
def runTarget (r : Runner κ σ) : Target → StoryRun κ σ Unit
  | .path p => r.runPath p
  | .story s => r.run s

/-- Tells the monitor something. -/
def notify (n : Notice) : BatchRun κ σ Unit := Run.tell [.notice n]

/-- Runs targets in order and gives the failures. Unless the mode lets the batch go on, the first
failure ends it. -/
def runEach (r : Runner κ σ) : List Target → BatchRun κ σ (List FailedStory)
  | [] => return []
  | t :: ts => do
    notify (.running t.storyPath)
    match ← Run.attempt .inner (r.runTarget t) with
    | .ok () => r.runEach ts
    | .error e =>
      let failure : FailedStory := ⟨t.storyPath, e⟩
      let mode := r.configuration.mode
      if mode.batch then
        return failure :: (← r.runEach ts)
      else if mode.ignoreFailure then
        notify (.failed failure)
        return failure :: (← r.runEach ts)
      else Run.fail (.storyFailed failure)

/-- Runs a batch. -/
def runBatch (r : Runner κ σ) (ts : List Target) : BatchRun κ σ Summary :=
  let mode := r.configuration.mode
  if mode.skip then do
    notify .notRun
    return { skipped := true }
  else do
    let failures ← r.runEach ts
    let summary : Summary := { ran := ts.map Target.storyPath, failures }
    if mode.batch && !failures.isEmpty then
      if mode.ignoreFailure then
        notify (.batchFailed failures)
        return summary
      else Run.fail (.batchFailed failures)
    else return summary

end Runner

end Storyline
