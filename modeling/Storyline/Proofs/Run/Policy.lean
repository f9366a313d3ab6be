import Storyline.Proofs.Run.Script
import Storyline.Proofs.Run.Verdict

/-!
# Runs under different policies

The error policy decides what becomes of the cause that a story run keeps, and nothing before that.
Under another policy a run goes through the same states, up to what the policy itself has put there
(`RunState.under`). Hence it performs the same steps and reports the same events, and only after the
last event do the runs part (`Runner.run_withPolicy`).

The story has no given stories. The run of a given story has a verdict of its own, and a policy that
raises it cuts the outer story short.
-/

set_option autoImplicit false

namespace Storyline

variable {κ σ α β γ δ : Type}

/-! ## States -/

namespace RunState

/-- The state that a run under another policy is in. -/
def under (q : ErrorPolicy) (st : RunState) : RunState :=
  { st with policy := q, strategy := st.cause.elim .silent fun c => q.select c.kind }

variable (q : ErrorPolicy) (st : RunState)

/-- Which cause is kept depends on the kinds of causes alone. -/
theorem record_under (c : StepCause) : (st.under q).record c = (st.record c).under q := by
  unfold record
  by_cases hc : st.cause.all fun kept => kept.kind.yieldsTo c.kind
  · rw [if_pos hc, if_pos (show (st.under q).cause.all _ from hc)]
    rfl
  · rw [if_neg hc, if_neg (show ¬ (st.under q).cause.all _ from hc)]

theorem note_under (r : StepResult) : (st.under q).note r = (st.note r).under q := by
  unfold note
  cases r.cause? with
  | none => rfl
  | some c => exact record_under q { st with progress := .somethingHappened } c

end RunState

/-! ## Runs that mirror each other -/

/-- In every world the second run leaves what the first one leaves, with `f` of its result. -/
def Mirrors (f : α → β) (x : StoryRun κ σ α) (y : StoryRun κ σ β) : Prop :=
  ∀ world, y world = ⟨(x world).trace, (x world).world, (x world).result.map f⟩

namespace Mirrors

theorem pure (f : α → β) (a : α) :
    Mirrors f (Pure.pure a : StoryRun κ σ α) (Pure.pure (f a)) := fun _ => rfl

/-- What follows the second run can be made to follow the first. -/
theorem bind_eq {f : α → β} {x : StoryRun κ σ α} {y : StoryRun κ σ β} (hxy : Mirrors f x y)
    (k : β → StoryRun κ σ γ) : y >>= k = x >>= fun a => k (f a) := by
  funext world
  have hy := hxy world
  cases hres : (x world).result with
  | error h =>
      rw [hres] at hy
      rw [Run.bind_of_error hres, Run.bind_of_error (congrArg Outcome.result hy), hy]
  | ok a =>
      rw [hres] at hy
      rw [Run.bind_of_ok hres, Run.bind_of_ok (congrArg Outcome.result hy), hy]

theorem bind {f : α → β} {g : γ → δ} {x : StoryRun κ σ α} {y : StoryRun κ σ β}
    {k : α → StoryRun κ σ γ} {l : β → StoryRun κ σ δ} (hxy : Mirrors f x y)
    (hkl : ∀ a, Mirrors g (k a) (l (f a))) : Mirrors g (x >>= k) (y >>= l) := by
  intro world
  rw [hxy.bind_eq]
  cases hres : (x world).result with
  | error h =>
      rw [Run.bind_of_error hres, Run.bind_of_error hres]
      rfl
  | ok a => rw [Run.bind_of_ok hres, Run.bind_of_ok hres, hkl a]

/-- After a common part. -/
theorem after {g : γ → δ} (x : StoryRun κ σ α) {k : α → StoryRun κ σ γ} {l : α → StoryRun κ σ δ}
    (hkl : ∀ a, Mirrors g (k a) (l a)) : Mirrors g (x >>= k) (x >>= l) := by
  refine Mirrors.bind (f := id) (fun world => ?_) hkl
  rw [Except.map_id]
  rfl

end Mirrors

/-! ## Parts of a run -/

/-- The runner with another error policy. -/
def Runner.withPolicy (r : Runner κ σ) (q : ErrorPolicy) : Runner κ σ :=
  { r with configuration := { r.configuration with policy := q } }

section

variable (q : ErrorPolicy)

open RunState (under)

theorem StoryRun.mirrors_perform (st : RunState) (s : Step κ σ) :
    Mirrors (under q) (perform st s) (perform (st.under q) s) := by
  intro world
  -- what is done with a step depends on the progress alone, which both states have in common
  cases hp : st.progress with
  | fineSoFar =>
      have hp' : (st.under q).progress = .fineSoFar := hp
      rw [perform_of_fineSoFar hp, perform_of_fineSoFar hp', RunState.note_under]
      rfl
  | somethingHappened =>
      have hp' : (st.under q).progress = .somethingHappened := hp
      rw [perform_of_somethingHappened hp, perform_of_somethingHappened hp', RunState.note_under]
      rfl

theorem StoryRun.mirrors_performAll (st : RunState) (ss : List (Step κ σ)) :
    Mirrors (under q) (performAll st ss) (performAll (st.under q) ss) := by
  induction ss generalizing st with
  | nil => exact .pure _ st
  | cons s ss ih => exact (mirrors_perform q st s).bind ih

namespace Runner

variable (r : Runner κ σ)

theorem mirrors_steps (st : RunState) (lines : List Text) :
    Mirrors (under q) (r.steps st lines) ((r.withPolicy q).steps (st.under q) lines) := by
  unfold steps
  split
  · exact .pure _ st
  · exact .after _ fun _ => .after _ fun _ => StoryRun.mirrors_performAll q st.startList _

theorem mirrors_rows (st : RunState) (lines : List Text) (rows : List Row) :
    Mirrors (under q) (r.rows st lines rows) ((r.withPolicy q).rows (st.under q) lines rows) := by
  induction rows generalizing st with
  | nil => exact .pure _ st
  | cons row rest ih => exact .after _ fun _ => (r.mirrors_steps q st _).bind ih

theorem mirrors_examples (st : RunState) (s : Scenario) :
    Mirrors (under q) (r.examples st s) ((r.withPolicy q).examples (st.under q) s) := by
  unfold examples
  split
  · exact r.mirrors_steps q st s.steps
  · exact .after _ fun _ => (r.mirrors_rows q st s.steps _).bind fun st =>
      .after _ fun _ => .pure _ st

variable {enter enter' : Text → StoryRun κ σ Unit}

theorem mirrors_scenario (st : RunState) {s : Scenario} (hs : s.givenStories = []) :
    Mirrors (under q) (r.scenario enter st s)
      ((r.withPolicy q).scenario enter' (st.under q) s) := by
  unfold scenario
  rw [hs]
  exact .after _ fun _ => .after (Pure.pure ()) fun _ => (r.mirrors_examples q st s).bind fun st =>
    .after _ fun _ => .pure _ st

theorem mirrors_scenarios (st : RunState) {ss : List Scenario}
    (hss : ∀ s ∈ ss, s.givenStories = []) :
    Mirrors (under q) (r.scenarios enter st ss)
      ((r.withPolicy q).scenarios enter' (st.under q) ss) := by
  induction ss generalizing st with
  | nil => exact .pure _ st
  | cons s rest ih =>
      obtain ⟨hs, hrest⟩ := List.forall_mem_cons.mp hss
      exact (r.mirrors_scenario q st hs).bind fun st => ih st hrest

/-- **Up to its last event a story runs in the same way under any policy.** -/
theorem mirrors_tell (embedded : Bool) {s : Story} (hs : s.givenPaths = []) :
    Mirrors (under q) (r.tell enter embedded s) ((r.withPolicy q).tell enter' embedded s) := by
  obtain ⟨hown, hscenarios⟩ := List.append_eq_nil_iff.mp hs
  have hparts (st : RunState) : Mirrors (under q) (r.parts enter st s)
      ((r.withPolicy q).parts enter' (st.under q) s) := by
    unfold parts
    rw [hown]
    exact .after (Pure.pure ()) fun _ => (r.mirrors_steps q st _).bind fun st =>
      (r.mirrors_scenarios q st (List.flatMap_eq_nil_iff.mp hscenarios)).bind fun st =>
        r.mirrors_steps q st _
  exact .after _ fun _ => .after _ fun _ => (hparts _).bind fun st =>
    .after _ fun _ => .after _ fun _ => .pure _ st

end Runner

end

/-! ## Whole runs -/

/-- What the log tells of the verdict on a story, after all else. -/
def ErrorPolicy.closing (q : ErrorPolicy) (path : Text) (c? : Option StepCause) :
    List (Entry κ σ) := (q.logged path c?).map fun a => .absorbed a.1 a.2

theorem ErrorPolicy.eventsOf_closing (q : ErrorPolicy) (path : Text) (c? : Option StepCause) :
    Entry.eventsOf (q.closing path c? : List (Entry κ σ)) = [] := by
  simp [closing, Entry.eventsOf, Entry.event?]

theorem ErrorPolicy.callsOf_closing (q : ErrorPolicy) (path : Text) (c? : Option StepCause) :
    Entry.callsOf (q.closing path c? : List (Entry κ σ)) = [] := by
  simp [closing, Entry.callsOf, Entry.call?]

/-- The end of a run as another policy would have it. -/
theorem conclude_under (q : ErrorPolicy) (path : Text) (st : RunState) (world : σ) :
    (Runner.conclude path (st.under q) : StoryRun κ σ Unit) world =
      ⟨q.closing path st.cause, world, q.ending st.cause⟩ := by
  unfold Runner.conclude RunState.under ErrorPolicy.closing ErrorPolicy.logged ErrorPolicy.ending
  cases st.cause with
  | none => rfl
  | some c =>
      simp only [Option.elim_some]
      cases q.select c.kind <;> rfl

namespace Runner

/-- The run of a story without given stories, where the call stack has room for it. -/
theorem run_withPolicy_eq (r : Runner κ σ) {room : Nat} (hroom : r.stack = room + 1) {s : Story}
    (hs : s.givenPaths = []) (q : ErrorPolicy) :
    (r.withPolicy q).run s =
      r.tell (fun _ => pure ()) false s >>= fun st => conclude s.path (st.under q) := by
  have hrun : (r.withPolicy q).run s = (r.withPolicy q).play r.stack [] false s := rfl
  rw [hrun, hroom]
  exact (r.mirrors_tell q false hs).bind_eq _

/-- What a run tells before its verdict is applied, the world that it leaves, and the verdict itself
are the same for all policies. -/
theorem exists_run_withPolicy (r : Runner κ σ) {s : Story} (hs : s.givenPaths = []) (world : σ) :
    ∃ told w c?, ∀ q : ErrorPolicy,
      ((r.withPolicy q).run s world).trace = told ++ q.closing s.path c? ∧
        ((r.withPolicy q).run s world).world = w := by
  cases hroom : r.stack with
  | zero =>
      -- without room for the story nothing happens at all
      refine ⟨[], world, none, fun q => ?_⟩
      have hrun : (r.withPolicy q).run s = (r.withPolicy q).play r.stack [] false s := rfl
      rw [hrun, hroom]
      exact ⟨rfl, rfl⟩
  | succ room =>
      let told := r.tell (fun _ => pure ()) false s world
      cases hres : told.result with
      | error h =>
          refine ⟨told.trace, told.world, none, fun q => ?_⟩
          rw [r.run_withPolicy_eq hroom hs q, Run.bind_of_error hres]
          exact ⟨(List.append_nil _).symm, rfl⟩
      | ok st =>
          refine ⟨told.trace, told.world, st.cause, fun q => ?_⟩
          rw [r.run_withPolicy_eq hroom hs q, Run.bind_of_ok hres, conclude_under]
          exact ⟨rfl, rfl⟩

/-- **The error policy does not influence what a run does.** Under any two policies the same events
are reported, the same code runs with the same arguments, and the same world is left. The traces
agree up to a last record for the verdict. -/
theorem run_withPolicy (r : Runner κ σ) (p q : ErrorPolicy) (s : Story) (hs : s.givenPaths = [])
    (world : σ) :
    let o := (r.withPolicy p).run s world
    let o' := (r.withPolicy q).run s world
    Entry.eventsOf o.trace = Entry.eventsOf o'.trace ∧
      Entry.callsOf o.trace = Entry.callsOf o'.trace ∧ o.world = o'.world ∧
      ∃ told c?, o.trace = told ++ p.closing s.path c? ∧
        o'.trace = told ++ q.closing s.path c? := by
  intro o o'
  obtain ⟨told, w, c?, hall⟩ := r.exists_run_withPolicy hs world
  obtain ⟨htrace, hworld⟩ := hall p
  obtain ⟨htrace', hworld'⟩ := hall q
  refine ⟨?_, ?_, hworld.trans hworld'.symm, told, c?, htrace, htrace'⟩
  · rw [htrace, htrace', Entry.eventsOf_append, Entry.eventsOf_append,
      ErrorPolicy.eventsOf_closing, ErrorPolicy.eventsOf_closing]
  · rw [htrace, htrace', Entry.callsOf_append, Entry.callsOf_append,
      ErrorPolicy.callsOf_closing, ErrorPolicy.callsOf_closing]

/-- A pending step that one policy writes to the log and another one raises. -/
theorem run_withPolicy_pending :
    let r : Runner Empty Nat := ⟨{}, [], fun path => .error (.notFound path), 1⟩
    let s : Story := { path := ['s'], lifecycle := { before := ["Given a".toList] } }
    let o := (r.withPolicy { pending := .log }).run s 7
    let o' := (r.withPolicy { pending := .rethrow }).run s 7
    s.givenPaths = [] ∧ o.result = .ok () ∧
      o'.result = .error (.failure (.step (.pending "Given a".toList))) ∧
      Entry.eventsOf o.trace = Entry.eventsOf o'.trace ∧
      Entry.callsOf o.trace = Entry.callsOf o'.trace ∧ o.world = o'.world ∧
      ∃ told c?, o.trace = told ++ ErrorPolicy.closing { pending := .log } s.path c? ∧
        o'.trace = told ++ ErrorPolicy.closing { pending := .rethrow } s.path c? := by
  intro r s o o'
  exact ⟨rfl, rfl, rfl, r.run_withPolicy { pending := .log } { pending := .rethrow } s rfl 7⟩

end Runner

end Storyline
