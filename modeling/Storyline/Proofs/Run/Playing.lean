import Storyline.Proofs.Run.Level

/-!
# Playing the script

Every run plays the script of its story from the start. What it reports is determined by the
script, up to how the steps come out (`Played.marks_eq`). The only thing that can end a run before
its script is a given story that fails, and then the last event of that given story is the last one
of all (`Runner.run_follows`).
-/

set_option autoImplicit false

namespace Storyline

variable {κ σ : Type}

/-! ## Marks -/

/-- What is known of an event without running anything: of the result of a step, only the line. -/
inductive Mark
  | event (e : Event)
  /-- The step of a line has come out, however it did. -/
  | outcome (line : Text)
deriving DecidableEq, Repr

/-- The mark of an event. -/
def Event.mark : Event → Mark
  | step r => .outcome r.line
  | e => .event e

/-- The marks of what playing the cue leaves. -/
def Cue.marks : Cue → List Mark
  | event e => [e.mark]
  | steps lines => lines.map .outcome

/-! ## Playing cues -/

/-- The events are what playing the cue leaves. -/
def Cue.Leaves : Cue → List Event → Prop
  | event e, es => es = [e]
  | steps lines, es =>
    ∃ rs : List StepResult, es = rs.map .step ∧ rs.map StepResult.line = lines ∧
      Orderly (rs.map StepResult.outcome)

/-- The events are what playing the cues in order leaves. -/
inductive Played : List Cue → List Event → Prop
  | nil : Played [] []
  | cons {c : Cue} {cs : List Cue} {es fs : List Event} (h : c.Leaves es) (hs : Played cs fs) :
      Played (c :: cs) (es ++ fs)

theorem Played.single {c : Cue} {es : List Event} (h : c.Leaves es) : Played [c] es := by
  simpa using Played.cons h .nil

theorem Played.append {cs ds : List Cue} {es fs : List Event} (h : Played cs es)
    (h' : Played ds fs) : Played (cs ++ ds) (es ++ fs) := by
  induction h with
  | nil => exact h'
  | cons hc _ ih =>
      rw [List.append_assoc]
      exact .cons hc ih

theorem Cue.marks_of_leaves {c : Cue} {es : List Event} (h : c.Leaves es) :
    es.map Event.mark = c.marks := by
  cases c with
  | event e =>
      rw [show es = [e] from h]
      rfl
  | steps lines =>
      obtain ⟨rs, rfl, rfl, -⟩ := h
      simp [Cue.marks, Event.mark, Function.comp_def]

/-- Cues determine the marks of what they leave, whatever the steps do. -/
theorem Played.marks_eq {cs : List Cue} {es : List Event} (h : Played cs es) :
    es.map Event.mark = cs.flatMap Cue.marks := by
  induction h with
  | nil => rfl
  | cons hc _ ih => rw [List.map_append, List.flatMap_cons, Cue.marks_of_leaves hc, ih]

/-! ## Following a script -/

/-- How a part of a run that plays cues of a script ends: at the end of the script, where the script
stops, or with the last event of a given story, because of a step. -/
inductive Ends {α : Type} (script : Script) : List Cue → Except (Halt RunError) α → Prop
  | done (a : α) (h : script.halt? = none) : Ends script script.cues (.ok a)
  | halted {h : Halt RunError} (hh : script.halt? = some h) (hs : ∀ c, h ≠ .failure (.step c)) :
      Ends script script.cues (.error h)
  | cut (earlier later : List Cue) (c : StepCause)
      (h : script.cues = earlier ++ .event (.afterStory true) :: later) :
      Ends script (earlier ++ [.event (.afterStory true)]) (.error (.failure (.step c)))

/-- The cues that were played are the first ones of the script. -/
theorem Ends.exists_later {α : Type} {script : Script} {played : List Cue}
    {res : Except (Halt RunError) α} (h : Ends script played res) :
    ∃ later, script.cues = played ++ later := by
  cases h with
  | done _ _ => exact ⟨[], (List.append_nil _).symm⟩
  | halted _ _ => exact ⟨[], (List.append_nil _).symm⟩
  | cut earlier later _ hc => exact ⟨later, by rw [hc, List.append_assoc, List.singleton_append]⟩

/-- The part of a run plays the script from the start, up to a proper end. -/
def Follows {α : Type} (script : Script) (x : StoryRun κ σ α) : Prop :=
  ∀ world, ∃ played, Played played (Entry.eventsOf (x world).trace) ∧
    Ends script played (x world).result

section

variable {α β : Type}

theorem follows_pure (a : α) : Follows {} (pure a : StoryRun κ σ α) :=
  fun _ => ⟨[], .nil, .done a rfl⟩

theorem follows_report (e : Event) :
    Follows (.of [.event e]) (StoryRun.report e : StoryRun κ σ Unit) :=
  fun _ => ⟨[.event e], .single rfl, .done () rfl⟩

/-- It does not matter what a run that stops would have given. -/
theorem Ends.of_error {script : Script} {played : List Cue} {h : Halt RunError}
    (hends : Ends script played (.error h : Except _ α)) :
    Ends script played (.error h : Except _ β) := by
  cases hends with
  | halted hh hs => exact .halted hh hs
  | cut earlier later c hc => exact .cut earlier later c hc

/-- What ends a run within the first script ends it within both. -/
theorem Ends.append_right {a : Script} {played : List Cue} {h : Halt RunError}
    (hends : Ends a played (.error h : Except _ α)) (b : Script) :
    Ends (a ++ b) played (.error h : Except _ β) := by
  cases hends with
  | halted hh hs =>
      rw [Script.append_of_halted hh]
      exact .halted hh hs
  | cut earlier later c hc =>
      obtain ⟨more, hm⟩ := a.exists_cues_append b
      refine .cut earlier (later ++ more) c ?_
      rw [hm, hc, List.append_assoc, List.cons_append]

/-- What ends a run within the second script ends it within both. -/
theorem Ends.append_left {a b : Script} {played : List Cue} {res : Except (Halt RunError) β}
    (ha : a.halt? = none) (hends : Ends b played res) :
    Ends (a ++ b) (a.cues ++ played) res := by
  rw [Script.append_of_none ha]
  cases hends with
  | done v hb => exact .done v hb
  | halted hh hs => exact .halted hh hs
  | cut earlier later c hc =>
      rw [← List.append_assoc]
      refine .cut (a.cues ++ earlier) later c ?_
      rw [hc, List.append_assoc]

/-- **One part and then another follow one script and then another.** -/
theorem Follows.bind {a b : Script} {x : StoryRun κ σ α} {f : α → StoryRun κ σ β}
    (hx : Follows a x) (hf : ∀ v, Follows b (f v)) :
    Follows (a ++ b) (x >>= f) := by
  intro world
  obtain ⟨played, hp, hends⟩ := hx world
  cases hres : (x world).result with
  | error h =>
      rw [hres] at hends
      rw [Run.bind_of_error hres]
      exact ⟨played, hp, hends.append_right b⟩
  | ok v =>
      rw [hres] at hends
      rw [Run.bind_of_ok hres, Entry.eventsOf_append]
      obtain ⟨played', hp', hends'⟩ := hf v (x world).world
      -- a part that gives something has played its whole script
      cases hends with
      | done _ ha => exact ⟨a.cues ++ played', hp.append hp', hends'.append_left ha⟩

/-- A part that plays nothing. -/
theorem Follows.bind_log {b : Script} (ls : List Log.Record) {f : Unit → StoryRun κ σ β}
    (hf : Follows b (f ())) : Follows b (StoryRun.log ls >>= f) := by
  intro world
  simp only [StoryRun.log_bind, Entry.eventsOf_append, Entry.eventsOf_records, List.nil_append]
  exact hf world

theorem Runner.follows_steps (r : Runner κ σ) (st : RunState) (lines : List Text) :
    Follows (.of [.steps lines]) (r.steps st lines) := by
  intro world
  obtain ⟨rs, h⟩ := r.exists_stepsLeave st lines world
  obtain ⟨st', hok, -⟩ := h.result_eq
  refine ⟨[.steps lines], .single ⟨rs, h.events_eq, h.lines_eq, h.orderly⟩, ?_⟩
  rw [hok]
  exact .done st' rfl

theorem partRules_follows :
    PartRules (fun a (x : StoryRun κ σ Unit) => Follows a x)
      (fun a f => ∀ st, Follows a (f st)) where
  done := follows_pure ()
  report _ := follows_report _
  andThen hx hy := hx.bind fun _ => hy
  keep := follows_pure
  before hx hf st := hx.bind fun _ => hf st
  bind hf hg st := (hf st).bind hg
  steps r lines st := r.follows_steps st lines

namespace Runner

variable (r : Runner κ σ)

theorem follows_tell {enter : Text → StoryRun κ σ Unit} {given : Text → Script}
    (henter : ∀ path, Follows (given path) (enter path)) (embedded : Bool) (s : Story) :
    Follows (s.script given embedded) (r.tell enter embedded s) := by
  have hparts := partRules_follows.parts r given s fun path _ => henter path
  refine .bind_log _ ((follows_report _).bind fun _ => (hparts _).bind fun st => ?_)
  refine Follows.bind (b := {}) (follows_report _) fun _ => ?_
  exact .bind_log _ (follows_pure st)

/-! ## Whole stories -/

theorem follows_enter {run : Story → StoryRun κ σ Unit} {script : Story → Script}
    (hrun : ∀ s, Follows (script s) (run s)) (chain : List Text) (path : Text) :
    Follows (givenScript r.configuration.keywords r.loader script chain path)
      (r.enter run chain path) := by
  intro world
  rcases r.enter_cases run script chain path with
    ⟨h, ls, hh, hscript, heq⟩ | ⟨s, ls, -, hscript, heq⟩
  · rw [hscript, heq, Entry.eventsOf_records]
    exact ⟨[], .nil, .halted rfl hh⟩
  · rw [hscript, heq, Entry.eventsOf_append, Entry.eventsOf_records]
    exact hrun s world

/-- **A story plays its script.** Either it is told up to its last event, and then the verdict on it
decides how the run ends, or the run stops before. -/
theorem walk_cases {enter : Text → StoryRun κ σ Unit} {given : Text → Script}
    (henter : ∀ path, Follows (given path) (enter path))
    (hlevels : ∀ path w, Levels r.configuration.policy NoResults (enter path w))
    (embedded : Bool) (s : Story) (world : σ) :
    let script := s.script given embedded
    let o := r.walk enter embedded s world
    ∃ played, Played played (Entry.eventsOf o.trace) ∧
      ((∃ body rs, Entry.eventsOf o.trace =
            .beforeStory s.path embedded :: body ++ [.afterStory embedded] ∧
          Level r.configuration.policy body rs ∧ played = script.cues ∧ script.halt? = none ∧
          o.result = r.configuration.policy.ending (verdict rs)) ∨
        ∃ h body, Entry.eventsOf o.trace = .beforeStory s.path embedded :: body ∧
          Stopped r.configuration.policy h body ∧ o.result = .error h ∧
          Ends script played (.error h : Except _ Unit)) := by
  intro script o
  obtain ⟨played, hp, hends⟩ := r.follows_tell henter embedded s world
  refine ⟨played, ?_⟩
  rcases r.tell_cases hlevels embedded s world with
    ⟨st, body, rs, hres, hes, hl, hk⟩ | ⟨h, body, hres, hes, hs⟩
  · -- what comes after the last event is not reported
    have hrun : o = _ := Run.bind_of_ok hres (conclude s.path)
    obtain ⟨hresult, hevents, -⟩ :=
      hk.decided.conclude s.path (r.tell enter embedded s world).world
    have hall : Entry.eventsOf o.trace =
        Entry.eventsOf (r.tell enter embedded s world).trace := by
      rw [hrun, Entry.eventsOf_append, hevents, List.append_nil]
    rw [hres] at hends
    cases hends with
    | done _ hnone =>
        refine ⟨hall ▸ hp, .inl ⟨body, rs, hall.trans hes, hl, rfl, hnone, ?_⟩⟩
        exact (congrArg Outcome.result hrun).trans hresult
  · have hrun : o = _ := Run.bind_of_error hres (conclude s.path)
    have hall : Entry.eventsOf o.trace =
        Entry.eventsOf (r.tell enter embedded s world).trace := by rw [hrun]
    rw [hres] at hends
    refine ⟨hall ▸ hp, .inr ⟨h, body, hall.trans hes, hs, congrArg Outcome.result hrun, ?_⟩⟩
    exact hends.of_error

/-- A given story follows its script. The induction is on the room of the call stack. -/
theorem follows_play (room : Nat) (outer : List Text) (s : Story) :
    Follows (expansion r.configuration.keywords r.loader room outer true s)
      (r.play room outer true s) := by
  induction room generalizing outer s with
  | zero => exact fun _ => ⟨[], .nil, .halted rfl (by simp)⟩
  | succ room ih =>
      intro world
      obtain ⟨played, hp, ⟨body, rs, -, -, rfl, hnone, hres⟩ | ⟨h, -, -, -, hres, hends⟩⟩ :=
        r.walk_cases (r.follows_enter (ih (outer ++ [s.path])) (outer ++ [s.path]))
          (r.levels_enter (r.levels_play room _) _) true s world
      · refine ⟨_, hp, ?_⟩
        show Ends _ _ (r.walk _ true s world).result
        rw [hres, ErrorPolicy.ending_of_thrown]
        cases r.configuration.policy.thrown (verdict rs) with
        | none => exact .done () hnone
        | some c =>
            -- its own cause cuts off whatever would come after the story
            obtain ⟨earlier, hcues⟩ := s.exists_cues_script _ true hnone
            rw [hcues]
            exact .cut earlier [] c hcues
      · refine ⟨played, hp, ?_⟩
        show Ends _ _ (r.walk _ true s world).result
        rw [hres]
        exact hends

/-- Every run plays cues of the script of its story, from the start. -/
theorem exists_played_play (room : Nat) (outer : List Text) (embedded : Bool) (s : Story)
    (world : σ) :
    ∃ played later, (expansion r.configuration.keywords r.loader room outer embedded s).cues =
        played ++ later ∧
      Played played (Entry.eventsOf (r.play room outer embedded s world).trace) := by
  cases room with
  | zero => exact ⟨[], [], rfl, .nil⟩
  | succ room =>
      obtain ⟨played, hp, ⟨_, _, -, -, rfl, -, -⟩ | ⟨_, _, -, -, -, hends⟩⟩ :=
        r.walk_cases (r.follows_enter (r.follows_play room (outer ++ [s.path])) _)
          (r.levels_enter (r.levels_play room _) _) embedded s world
      · exact ⟨_, [], (List.append_nil _).symm, hp⟩
      · obtain ⟨later, hl⟩ := hends.exists_later
        exact ⟨played, later, hl, hp⟩

/-- **Every run plays the script of its story.** Up to how the steps come out, its events are the
whole script; then no given story fails, and the run ends as the script does or with a cause of its
own. Or the events are the script up to the last event of a given story, the first one that fails,
and the run fails with its cause. -/
theorem run_follows (s : Story) (world : σ) :
    let policy := r.configuration.policy
    let script := expansion r.configuration.keywords r.loader r.stack [] false s
    let o := r.run s world
    let es := Entry.eventsOf o.trace
    (es.map Event.mark = script.cues.flatMap Cue.marks ∧ failures policy [] es = [] ∧
      match script.halt? with
      | some h => o.result = .error h
      | none => o.result = .ok () ∨
        ∃ c, o.result = .error (.failure (.step c)) ∧ policy.select c.kind = .rethrow) ∨
    ∃ earlier later c, script.cues = earlier ++ .event (.afterStory true) :: later ∧
      es.map Event.mark = (earlier ++ [.event (.afterStory true)]).flatMap Cue.marks ∧
      failures policy [] es.dropLast = [] ∧ failures policy [] es = [c] ∧
      o.result = .error (.failure (.step c)) := by
  unfold run
  generalize r.stack = room
  intro policy script o es
  cases room with
  | zero => exact .inl ⟨rfl, rfl, rfl⟩
  | succ room =>
      obtain ⟨played, hp, ⟨body, rs, hes, hl, rfl, hnone, hres⟩ |
          ⟨h, body, hes, hs, hres, hends⟩⟩ :=
        r.walk_cases (r.follows_enter (r.follows_play room [s.path]) [s.path])
          (r.levels_enter (r.levels_play room [s.path]) [s.path]) false s world
      · refine .inl ⟨hp.marks_eq, ?_, ?_⟩
        · have hes' : es = .beforeStory s.path false :: body ++ [.afterStory false] := hes
          rw [hes']
          exact hl.failures_told s.path
        · have hhalt : script.halt? = none := hnone
          have hresult : o.result = _ := hres.trans (policy.ending_of_thrown (verdict rs))
          rw [hhalt, hresult]
          cases ht : policy.thrown (verdict rs) with
          | none => exact .inl rfl
          | some c => exact .inr ⟨c, rfl, policy.select_of_thrown ht⟩
      · have hby : FailsBy policy [] es h := by
          have hes' : es = .beforeStory s.path false :: body := hes
          rw [hes']
          exact hs.failsBy_alone s.path false
        cases hends with
        | halted hh hstep =>
            have hhalt : script.halt? = some h := hh
            refine .inl ⟨hp.marks_eq, hby.of_ne_step hstep, ?_⟩
            rw [hhalt]
            exact hres
        | cut earlier later c hc =>
            -- a cause of a step can only have stopped a given story
            obtain ⟨before, heq, hbefore, hfails⟩ := hby
            refine .inr ⟨earlier, later, c, hc, hp.marks_eq, ?_, hfails, hres⟩
            rw [heq, List.dropLast_concat]
            exact hbefore

end Runner

end

end Storyline
