import Storyline.Proofs.Story.Path
import Storyline.Run.Runner

/-!
# The script of a story

A script is what a story calls for, in the order of the document: events, and lists of steps that
are to be attempted (`Cue`). It is written down without running anything: `expansion` needs the
keywords, the loader and the room of the call stack, but no step definitions. A given story that
cannot be had, or that is running already, stops the script.

A run is put together in the same way as its script. `PartRules` says what has to be shown of
the smallest parts of a run, each with its script, so that it holds of all parts of a story.
-/

set_option autoImplicit false

namespace Storyline

variable {κ σ : Type}

/-! ## Scripts -/

/-- What a story calls for next. -/
inductive Cue
  | event (e : Event)
  /-- Steps are to be attempted, given by their lines. -/
  | steps (lines : List Text)
deriving DecidableEq, Repr

/-- What a story calls for, up to its end or to what stops it. -/
structure Script where
  cues : List Cue := []
  halt? : Option (Halt RunError) := none
deriving DecidableEq, Repr

namespace Script

/-- The script of cues that nothing stops. -/
def of (cues : List Cue) : Script := { cues }

/-- The script that stops at once. -/
def halted (h : Halt RunError) : Script := { halt? := some h }

/-- One script, and then another, if the first does not stop. -/
def append (a b : Script) : Script :=
  match a.halt? with
  | some _ => a
  | none => ⟨a.cues ++ b.cues, b.halt?⟩

instance : Append Script := ⟨append⟩

/-- Scripts one after the other. -/
def concat : List Script → Script
  | [] => {}
  | a :: rest => a ++ concat rest

theorem append_of_halted {a : Script} {h : Halt RunError} (ha : a.halt? = some h) (b : Script) :
    a ++ b = a := by
  show append a b = a
  simp only [append, ha]

theorem append_of_none {a : Script} (ha : a.halt? = none) (b : Script) :
    a ++ b = ⟨a.cues ++ b.cues, b.halt?⟩ := by
  show append a b = _
  simp only [append, ha]

/-- The cues of the first script come first, whether or not it stops. -/
theorem exists_cues_append (a b : Script) : ∃ more, (a ++ b).cues = a.cues ++ more := by
  cases ha : a.halt? with
  | some h => exact ⟨[], by rw [append_of_halted ha, List.append_nil]⟩
  | none => exact ⟨b.cues, by rw [append_of_none ha]⟩

end Script

/-- The cues of the steps of a scenario: once for each row of its examples, with the values of the
row in the steps, or once as they are written if there is no row. -/
def Scenario.stepCues (s : Scenario) : List Cue :=
  if s.examples.rows = [] then [.steps s.steps]
  else
    .event (.beforeExamples s.steps s.examples) ::
      s.examples.rows.flatMap (fun values =>
        [.event (.row ⟨s.examples.headers, values⟩),
          .steps (s.steps.map (Row.substitute ⟨s.examples.headers, values⟩))]) ++
      [.event .afterExamples]

/-- All given stories of a story. -/
def Story.givenPaths (s : Story) : List Text :=
  s.givenStories ++ s.scenarios.flatMap Scenario.givenStories

section

variable (given : Text → Script)

/-- The script of given stories, each of which has a script. -/
def givensScript (paths : List Text) : Script :=
  if paths.isEmpty then {}
  else .of [.event (.givenStories paths)] ++ .concat (paths.map given)

def Scenario.script (s : Scenario) : Script :=
  .of [.event (.beforeScenario s.title)] ++ (givensScript given s.givenStories ++
    .of (s.stepCues ++ [.event .afterScenario]))

/-- The script of the parts of a story. -/
def Story.partsScript (s : Story) : Script :=
  givensScript given s.givenStories ++ (.of [.steps s.lifecycle.before] ++
    (.concat (s.scenarios.map (Scenario.script given)) ++ .of [.steps s.lifecycle.after]))

/-- The script of a story, where each given story has a script. -/
def Story.script (embedded : Bool) (s : Story) : Script :=
  .of [.event (.beforeStory s.path embedded)] ++
    (s.partsScript given ++ .of [.event (.afterStory embedded)])

end

/-- The script of a given story, unless it is running already or cannot be had. -/
def givenScript (ks : Keywords) (load : Loader) (script : Story → Script) (chain : List Text)
    (path : Text) : Script :=
  if chain.contains path then .halted (.failure (.cyclic path (chain ++ [path])))
  else match load path with
    | .error e => .halted (.failure (.load e))
    | .ok text =>
      match Story.parse ks path text with
      | .error e => .halted (.failure (.parse path e))
      | .ok s => script s

/-- The script of a story with all its given stories, where the call stack has room for `room`
stories and those in `outer` are running already. -/
def expansion (ks : Keywords) (load : Loader) :
    (room : Nat) → (outer : List Text) → (embedded : Bool) → Story → Script
  | 0, _, _, _ => .halted .overflow
  | room + 1, outer, embedded, s =>
    let chain := outer ++ [s.path]
    s.script (givenScript ks load (expansion ks load room chain true) chain) embedded

/-- The script of a story that nothing stops ends with the last event of the story. -/
theorem Story.exists_cues_script (given : Text → Script) (embedded : Bool) (s : Story)
    (h : (s.script given embedded).halt? = none) :
    ∃ earlier, (s.script given embedded).cues = earlier ++ [.event (.afterStory embedded)] := by
  cases hp : (s.partsScript given).halt? with
  | some e =>
      rw [script, Script.append_of_none rfl, Script.append_of_halted hp, hp] at h
      cases h
  | none =>
      rw [script, Script.append_of_none rfl, Script.append_of_none hp]
      refine ⟨.event (.beforeStory s.path embedded) :: (s.partsScript given).cues, ?_⟩
      simp [Script.of]

/-! ## Given stories

Loading and reading a given story does nothing but to log. -/

/-- A given story cannot be run, for a reason that the script knows: it is running already, or it
cannot be loaded or read. -/
def NotEntered (x : StoryRun κ σ Unit) (script : Script) : Prop :=
  ∃ h ls, (∀ c, h ≠ .failure (.step c)) ∧ script = .halted h ∧
    ∀ world, x world = ⟨List.map .record ls, world, .error h⟩

/-- Under the path there is a story that is not running, and it is run. -/
def Entered (run : Story → StoryRun κ σ Unit) (script : Story → Script) (chain : List Text)
    (x : StoryRun κ σ Unit) (a : Script) : Prop :=
  ∃ s ls, s.path ∉ chain ∧ a = script s ∧
    ∀ world, x world =
      ⟨List.map .record ls ++ (run s world).trace, (run s world).world, (run s world).result⟩

/-- **All that entering a given story can do.** -/
theorem Runner.enter_cases (r : Runner κ σ) (run : Story → StoryRun κ σ Unit)
    (script : Story → Script) (chain : List Text) (path : Text) :
    NotEntered (r.enter run chain path)
        (givenScript r.configuration.keywords r.loader script chain path) ∨
      Entered run script chain (r.enter run chain path)
        (givenScript r.configuration.keywords r.loader script chain path) := by
  unfold enter givenScript
  by_cases hp : path ∈ chain
  · -- the story is running already
    rw [if_pos (List.contains_iff_mem.mpr hp), if_pos hp]
    exact .inl ⟨_, [], by simp, rfl, fun _ => rfl⟩
  · rw [if_neg (fun h => hp (List.contains_iff_mem.mp h)), if_neg hp]
    unfold define
    cases r.loader path with
    | error e => exact .inl ⟨_, [_], by simp, rfl, fun _ => rfl⟩
    | ok text =>
        unfold read
        cases hs : Story.parse r.configuration.keywords path text with
        | error e =>
            simp only [hs]
            exact .inl ⟨_, _ :: Story.parseRecords (.error e), by simp, rfl, fun _ => rfl⟩
        | ok s =>
            simp only [hs]
            -- a story that was read has the path under which it was loaded
            have hpath : s.path ∉ chain := by
              rw [Story.path_of_parse hs]
              exact hp
            exact .inr ⟨s, _ :: Story.parseRecords (.ok s), hpath, rfl, fun _ => rfl⟩

/-! ## Parts of a run

`U` is about parts that leave the state of the run alone, and `S` about those that take a state to
the next one. -/

/-- The event neither starts nor ends a story nor tells how a step came out. -/
def Event.isPlain : Event → Bool
  | beforeStory _ _ => false
  | afterStory _ => false
  | step _ => false
  | _ => true

/-- What holds of the smallest parts of a run with their scripts, and of one part after another. -/
structure PartRules (U : Script → StoryRun κ σ Unit → Prop)
    (S : Script → (RunState → StoryRun κ σ RunState) → Prop) : Prop where
  done : U {} (pure ())
  report : ∀ {e}, e.isPlain = true → U (.of [.event e]) (StoryRun.report e)
  andThen : ∀ {a b x y}, U a x → U b y → U (a ++ b) (x >>= fun _ => y)
  keep : S {} pure
  before : ∀ {a b x f}, U a x → S b f → S (a ++ b) fun st => x >>= fun _ => f st
  bind : ∀ {a b f g}, S a f → S b g → S (a ++ b) fun st => f st >>= g
  steps : ∀ (r : Runner κ σ) lines, S (.of [.steps lines]) fun st => r.steps st lines

namespace PartRules

variable {U : Script → StoryRun κ σ Unit → Prop}
  {S : Script → (RunState → StoryRun κ σ RunState) → Prop} (h : PartRules U S)
include h

/-- Before an event that comes last. -/
theorem reportLast {e : Event} (he : e.isPlain = true) :
    S (.of [.event e]) fun st => StoryRun.report e >>= fun _ => pure st :=
  h.before (h.report he) h.keep

variable (r : Runner κ σ)

/-- The rows of a table are run in its order, each with the headers above it. -/
theorem rows (lines headers : List Text) (rows : List (List Text)) :
    S (.of (rows.flatMap fun values => [.event (.row ⟨headers, values⟩),
        .steps (lines.map (Row.substitute ⟨headers, values⟩))]))
      fun st => r.rows st lines (rows.map (Row.mk headers)) := by
  induction rows with
  | nil => exact h.keep
  | cons values rest ih => exact h.before (h.report rfl) (h.bind (h.steps r _) ih)

theorem examples (s : Scenario) : S (.of s.stepCues) fun st => r.examples st s := by
  have hempty : s.examples.isEmpty = decide (s.examples.rows = []) := by
    rw [Table.isEmpty, Bool.eq_iff_iff, List.isEmpty_iff, decide_eq_true_eq]
  unfold Runner.examples Scenario.stepCues
  simp only [hempty, decide_eq_true_eq]
  split
  · exact h.steps r s.steps
  · have hrows := h.rows r s.steps s.examples.headers s.examples.rows
    exact h.before (h.report rfl) (h.bind hrows (h.reportLast rfl))

variable {enter : Text → StoryRun κ σ Unit} (given : Text → Script)

theorem givens (paths : List Text) (henter : ∀ path ∈ paths, U (given path) (enter path)) :
    U (givensScript given paths) (Runner.givens enter paths) := by
  have hall : ∀ ps : List Text, (∀ path ∈ ps, U (given path) (enter path)) →
      U (.concat (ps.map given)) (Runner.enterAll enter ps) := by
    intro ps
    induction ps with
    | nil => exact fun _ => h.done
    | cons path rest ih =>
        intro hps
        refine h.andThen (hps path List.mem_cons_self) (ih fun p hp => ?_)
        exact hps p (List.mem_cons_of_mem _ hp)
  unfold Runner.givens givensScript
  split
  · exact h.done
  · exact h.andThen (h.report rfl) (hall paths henter)

theorem scenario (s : Scenario) (henter : ∀ path ∈ s.givenStories, U (given path) (enter path)) :
    S (s.script given) fun st => r.scenario enter st s :=
  h.before (h.report rfl) <| h.before (h.givens given s.givenStories henter) <|
    h.bind (h.examples r s) (h.reportLast rfl)

theorem scenarios (ss : List Scenario)
    (henter : ∀ path ∈ ss.flatMap Scenario.givenStories, U (given path) (enter path)) :
    S (.concat (ss.map (Scenario.script given))) fun st => r.scenarios enter st ss := by
  induction ss with
  | nil => exact h.keep
  | cons s rest ih =>
      refine h.bind (h.scenario r given s fun path hp => ?_) (ih fun path hp => ?_)
      · exact henter path (List.mem_append_left _ hp)
      · exact henter path (List.mem_append_right _ hp)

/-- **All parts of a story**, where the way to run its given stories is known to be fine. -/
theorem parts (s : Story) (henter : ∀ path ∈ s.givenPaths, U (given path) (enter path)) :
    S (s.partsScript given) fun st => r.parts enter st s := by
  have hown : ∀ path ∈ s.givenStories, U (given path) (enter path) :=
    fun path hp => henter path (List.mem_append_left _ hp)
  have hscenarios : ∀ path ∈ s.scenarios.flatMap Scenario.givenStories,
      U (given path) (enter path) := fun path hp => henter path (List.mem_append_right _ hp)
  exact h.before (h.givens given s.givenStories hown) <| h.bind (h.steps r s.lifecycle.before) <|
    h.bind (h.scenarios r given s.scenarios hscenarios) (h.steps r s.lifecycle.after)

end PartRules

end Storyline
