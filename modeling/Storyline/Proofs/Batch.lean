import Storyline.Batch
import Storyline.Proofs.Run.Room

/-!
# What a batch leaves

The stories of a batch run in order, each in the world that the one before it has left
(`Runner.ranStories`). A batch leaves what these runs leave, as far as it gets, and the monitor
hears of each story before it runs. The mode decides whether a failure ends the batch
(`RanStory.end?`, `Runner.runEach_of_ends`) and what becomes of the failures
(`Runner.runBatch_eq`).
-/

set_option autoImplicit false

namespace Storyline

variable {κ σ : Type}

/-! ## Stories that ran -/

/-- A story of a batch, with what its run leaves. -/
structure RanStory (κ σ : Type) where
  path : Text
  outcome : Outcome (Entry κ σ) σ RunError Unit

namespace RanStory

/-- The failure of a story with the given result. -/
def failureOf (path : Text) : Except (Halt RunError) Unit → Option FailedStory
  | .error (.failure e) => some ⟨path, e⟩
  | _ => none

/-- The failure of the story. -/
def failure? (a : RanStory κ σ) : Option FailedStory := failureOf a.path a.outcome.result

/-- What the run of the story leaves in the trace of a batch. The monitor hears of the story before
it runs. -/
def told (a : RanStory κ σ) : List (BatchEntry κ σ) :=
  .notice (.running a.path) :: a.outcome.trace.map .inner

/-- What the monitor hears of the story after its run: its failure, if failures are let pass one by
one. -/
def verdict (mode : RunMode) (a : RanStory κ σ) : List (BatchEntry κ σ) :=
  if mode.ignoreFailure && !mode.batch then a.failure?.toList.map fun f => .notice (.failed f)
  else []

/-- All that the story leaves in the trace of a batch. -/
def entries (mode : RunMode) (a : RanStory κ σ) : List (BatchEntry κ σ) := a.told ++ a.verdict mode

/-- What ends a batch after a story with the given result: its failure, unless the mode lets the
batch go on, or the end of the call stack. -/
def endOf (mode : RunMode) (path : Text) : Except (Halt RunError) Unit → Option (Halt BatchError)
  | .ok _ => none
  | .error .overflow => some .overflow
  | .error (.failure e) =>
    if mode.batch || mode.ignoreFailure then none else some (.failure (.storyFailed ⟨path, e⟩))

/-- What ends the batch after the story. -/
def end? (mode : RunMode) (a : RanStory κ σ) : Option (Halt BatchError) :=
  endOf mode a.path a.outcome.result

section

variable {mode : RunMode} {a : RanStory κ σ}

theorem failure?_of_ok (h : a.outcome.result = .ok ()) : a.failure? = none := by
  rw [failure?, h]
  rfl

theorem failure?_of_failure {e : RunError} (h : a.outcome.result = .error (.failure e)) :
    a.failure? = some ⟨a.path, e⟩ := by
  rw [failure?, h]
  rfl

theorem failures_cons (a : RanStory κ σ) (as : List (RanStory κ σ)) :
    (a :: as).filterMap (·.failure?) = a.failure?.toList ++ as.filterMap (·.failure?) := by
  cases hf : a.failure? with
  | none => rw [List.filterMap_cons_none hf, Option.toList_none, List.nil_append]
  | some f => rw [List.filterMap_cons_some hf, Option.toList_some, List.singleton_append]

theorem end?_of_ok (h : a.outcome.result = .ok ()) : a.end? mode = none := by
  rw [end?, h]
  rfl

theorem end?_of_failure {e : RunError} (h : a.outcome.result = .error (.failure e)) :
    a.end? mode =
      if mode.batch || mode.ignoreFailure then none
      else some (.failure (.storyFailed ⟨a.path, e⟩)) := by
  rw [end?, h]
  rfl

theorem end?_of_overflow (h : a.outcome.result = .error .overflow) :
    a.end? mode = some .overflow := by
  rw [end?, h]
  rfl

/-- If failures do not end a batch, only the end of the call stack does. -/
theorem end?_eq_none (hmode : mode.batch || mode.ignoreFailure)
    (h : a.outcome.result ≠ .error .overflow) : a.end? mode = none := by
  match hres : a.outcome.result with
  | .ok () => exact end?_of_ok hres
  | .error .overflow => exact absurd hres h
  | .error (.failure e) => rw [end?_of_failure hres, if_pos hmode]

theorem entries_of_ok (h : a.outcome.result = .ok ()) : a.entries mode = a.told := by
  simp [entries, verdict, failure?_of_ok h]

theorem flatMap_entries {ran : List (RanStory κ σ)} (h : ∀ a ∈ ran, a.outcome.result = .ok ()) :
    ran.flatMap (·.entries mode) = ran.flatMap (·.told) :=
  List.flatMap_congr fun a ha => entries_of_ok (h a ha)

end

end RanStory

namespace Runner

variable (r : Runner κ σ)

/-- What the run of a story of a batch leaves in a world. -/
def ranStory (world : σ) (t : Target) : RanStory κ σ := ⟨t.storyPath, r.runTarget t world⟩

/-- The stories of a batch, each run in the world that the one before it has left. -/
def ranStories (world : σ) : List Target → List (RanStory κ σ)
  | [] => []
  | t :: ts => r.ranStory world t :: ranStories (r.ranStory world t).outcome.world ts

end Runner

/-- The world that stories leave which run one after the other. -/
def worldAfter (world : σ) (ran : List (RanStory κ σ)) : σ :=
  ran.foldl (fun _ a => a.outcome.world) world

/-! ## Running the stories of a batch -/

namespace Run

variable {τ τ₂ ε ε₂ α β : Type}

theorem bind_pure_apply (x : Run τ σ ε α) (f : α → β) (world : σ) :
    (x >>= fun a => pure (f a)) world =
      ⟨(x world).trace, (x world).world, (x world).result.map f⟩ := by
  cases hres : (x world).result with
  | error h => exact bind_of_error hres _
  | ok a =>
      refine (bind_of_ok hres _).trans ?_
      show (⟨(x world).trace ++ [], _, _⟩ : Outcome τ σ ε β) = _
      rw [List.append_nil]
      rfl

section

variable {x : Run τ σ ε α} {world : σ} (f : τ → τ₂) (g : Except ε α → Run τ₂ σ ε₂ β)

/-- What an attempted run ends with is a value in the run that follows. -/
theorem attempt_bind_of_ok {a : α} (h : (x world).result = .ok a) :
    (attempt f x >>= g) world =
      { g (.ok a) (x world).world with
        trace := (x world).trace.map f ++ (g (.ok a) (x world).world).trace } :=
  bind_of_ok (by simp [attempt, h]) g

theorem attempt_bind_of_failure {e : ε} (h : (x world).result = .error (.failure e)) :
    (attempt f x >>= g) world =
      { g (.error e) (x world).world with
        trace := (x world).trace.map f ++ (g (.error e) (x world).world).trace } :=
  bind_of_ok (by simp [attempt, h]) g

theorem attempt_bind_of_overflow (h : (x world).result = .error .overflow) :
    (attempt f x >>= g) world = ⟨(x world).trace.map f, (x world).world, .error .overflow⟩ :=
  bind_of_error (by simp [attempt, h]) g

end

end Run

namespace Runner

variable (r : Runner κ σ) {world : σ} {t : Target}

/-- After a story that does not end the batch, the others run in the world that it has left. -/
theorem runEach_cons_of_goes_on (ts : List Target) :
    let a := r.ranStory world t
    let rest := r.runEach ts a.outcome.world
    a.end? r.configuration.mode = none →
      r.runEach (t :: ts) world =
        ⟨a.entries r.configuration.mode ++ rest.trace, rest.world,
          rest.result.map (a.failure?.toList ++ ·)⟩ := by
  intro a rest hgo
  simp only [runEach, notify, Run.tell_bind]
  match hres : (r.runTarget t world).result with
  | .ok () =>
      have hid : rest.result.map (a.failure?.toList ++ ·) = rest.result := by
        rw [RanStory.failure?_of_ok (a := a) hres]
        cases rest.result with
        | ok fs => rfl
        | error h => rfl
      rw [Run.attempt_bind_of_ok _ _ hres, RanStory.entries_of_ok (a := a) hres, hid]
      rfl
  | .error .overflow =>
      rw [RanStory.end?_of_overflow (a := a) hres] at hgo
      cases hgo
  | .error (.failure e) =>
      have hf := RanStory.failure?_of_failure (a := a) hres
      have hrest := Run.bind_pure_apply (r.runEach ts) (⟨a.path, e⟩ :: ·) a.outcome.world
      rw [RanStory.end?_of_failure (a := a) hres] at hgo
      rw [Run.attempt_bind_of_failure _ _ hres, hf]
      -- in a batch the failure is only noted, otherwise the monitor hears of it at once
      by_cases hb : r.configuration.mode.batch
      · have hverdict : a.verdict r.configuration.mode = [] := by simp [RanStory.verdict, hb]
        rw [RanStory.entries, hverdict, List.append_nil]
        simp only [if_pos hb]
        exact congrArg (fun o : Outcome (BatchEntry κ σ) σ BatchError (List FailedStory) =>
          { o with trace := a.told ++ o.trace }) hrest
      · have hi : r.configuration.mode.ignoreFailure := by simpa [hb] using hgo
        have hverdict : a.verdict r.configuration.mode = [.notice (.failed ⟨a.path, e⟩)] := by
          simp [RanStory.verdict, hb, hi, hf]
        rw [RanStory.entries, hverdict, List.append_assoc]
        simp only [if_neg hb, if_pos hi]
        exact congrArg (fun o : Outcome (BatchEntry κ σ) σ BatchError (List FailedStory) =>
          { o with trace := a.told ++ BatchEntry.notice (.failed ⟨a.path, e⟩) :: o.trace }) hrest

/-- After a story that ends the batch, no other runs. -/
theorem runEach_cons_of_ends {h : Halt BatchError} (ts : List Target) :
    let a := r.ranStory world t
    a.end? r.configuration.mode = some h →
      r.runEach (t :: ts) world = ⟨a.told, a.outcome.world, .error h⟩ := by
  intro a hend
  simp only [runEach, notify, Run.tell_bind]
  match hres : (r.runTarget t world).result with
  | .ok () =>
      rw [RanStory.end?_of_ok (a := a) hres] at hend
      cases hend
  | .error .overflow =>
      rw [RanStory.end?_of_overflow (a := a) hres] at hend
      cases hend
      rw [Run.attempt_bind_of_overflow _ _ hres]
      rfl
  | .error (.failure e) =>
      rw [RanStory.end?_of_failure (a := a) hres] at hend
      rw [Run.attempt_bind_of_failure _ _ hres]
      -- a mode that goes on after failures would not end the batch here
      have hmode : ¬ (r.configuration.mode.batch || r.configuration.mode.ignoreFailure) := by
        intro hmode
        rw [if_pos hmode] at hend
        cases hend
      rw [if_neg hmode] at hend
      cases hend
      rw [Bool.or_eq_true, not_or] at hmode
      simp only [if_neg hmode.1, if_neg hmode.2]
      show (⟨a.told ++ [], _, _⟩ : Outcome _ σ _ _) = _
      rw [List.append_nil]
      rfl

/-- A batch goes on as long as no story ends it. -/
theorem runEach_of_goes_on (ts : List Target)
    (hgo : ∀ a ∈ r.ranStories world ts, a.end? r.configuration.mode = none) :
    r.runEach ts world =
      ⟨(r.ranStories world ts).flatMap (·.entries r.configuration.mode),
        worldAfter world (r.ranStories world ts),
        .ok ((r.ranStories world ts).filterMap (·.failure?))⟩ := by
  induction ts generalizing world with
  | nil => rfl
  | cons t ts ih =>
      have hhead := hgo _ List.mem_cons_self
      have htail := ih fun a ha => hgo a (List.mem_cons_of_mem _ ha)
      rw [r.runEach_cons_of_goes_on ts hhead, htail, ranStories, RanStory.failures_cons]
      rfl

/-- A batch ends with the first story that ends it. The induction is on the stories before it. -/
theorem runEach_of_ends (ts : List Target) {before after : List (RanStory κ σ)} {a : RanStory κ σ}
    {h : Halt BatchError} (hran : r.ranStories world ts = before ++ a :: after)
    (hgo : ∀ b ∈ before, b.end? r.configuration.mode = none)
    (hend : a.end? r.configuration.mode = some h) :
    r.runEach ts world =
      ⟨before.flatMap (·.entries r.configuration.mode) ++ a.told, a.outcome.world, .error h⟩ := by
  induction before generalizing ts world with
  | nil =>
      cases ts with
      | nil => cases hran
      | cons t ts =>
          cases hran
          exact r.runEach_cons_of_ends ts hend
  | cons b before ih =>
      cases ts with
      | nil => cases hran
      | cons t ts =>
          rw [ranStories, List.cons_append] at hran
          obtain ⟨rfl, hrest⟩ := List.cons.inj hran
          rw [r.runEach_cons_of_goes_on ts (hgo _ List.mem_cons_self),
            ih ts hrest fun c hc => hgo c (List.mem_cons_of_mem _ hc)]
          simp [Except.map]

theorem ranStories_ne_overflow {store : StoryStore} (hload : r.loader = store.load)
    (hroom : store.size < r.stack) (ts : List Target) :
    ∀ a ∈ r.ranStories world ts, a.outcome.result ≠ .error .overflow := by
  induction ts generalizing world with
  | nil => exact fun a ha => absurd ha List.not_mem_nil
  | cons t ts ih =>
      intro a ha
      rcases List.mem_cons.mp ha with rfl | ha
      · exact r.runTarget_ne_overflow hload hroom t world
      · exact ih a ha

/-! ## Batches by their mode -/

section

variable (ts : List Target)

theorem runBatch_of_skip (hskip : r.configuration.mode.skip) :
    r.runBatch ts world = ⟨[.notice .notRun], world, .ok { skipped := true }⟩ := by
  rw [runBatch, if_pos hskip]
  rfl

theorem runBatch_of_error (hskip : ¬ r.configuration.mode.skip) {h : Halt BatchError}
    {trace : List (BatchEntry κ σ)} {world' : σ}
    (hrun : r.runEach ts world = ⟨trace, world', .error h⟩) :
    r.runBatch ts world = ⟨trace, world', .error h⟩ := by
  have hres : (r.runEach ts world).result = .error h := by rw [hrun]
  rw [runBatch, if_neg hskip, Run.bind_of_error hres, hrun]

/-- What becomes of the failures of a batch in which all stories ran. -/
theorem runBatch_of_ok (hskip : ¬ r.configuration.mode.skip) {failures : List FailedStory}
    {trace : List (BatchEntry κ σ)} {world' : σ}
    (hrun : r.runEach ts world = ⟨trace, world', .ok failures⟩) :
    let mode := r.configuration.mode
    r.runBatch ts world =
      ⟨trace ++ (if mode.batch && mode.ignoreFailure && !failures.isEmpty then
          [.notice (.batchFailed failures)] else []),
        world',
        if mode.batch && !mode.ignoreFailure && !failures.isEmpty then
          .error (.failure (.batchFailed failures))
        else .ok { ran := ts.map (·.storyPath), failures }⟩ := by
  intro mode
  have hres : (r.runEach ts world).result = .ok failures := by rw [hrun]
  rw [runBatch, if_neg hskip, Run.bind_of_ok hres, hrun]
  cases hb : r.configuration.mode.batch with
  | false => simp [mode]
  | true =>
      cases failures with
      | nil => simp
      | cons f fs =>
          cases hi : r.configuration.mode.ignoreFailure with
          | false => simp
          | true => simp [notify]

end

/-- **The mode says what failures do to a batch.** The first failure ends a batch unless the mode
lets it go on; then all stories run, and all failures are told, one by one or at the end, or make
the batch fail, if the mode does not let them pass. -/
theorem runBatch_eq (ts : List Target) (world : σ) :
    let mode := r.configuration.mode
    let all := r.ranStories world ts
    let failures := all.filterMap (·.failure?)
    let o := r.runBatch ts world
    (mode.skip → o = ⟨[.notice .notRun], world, .ok { skipped := true }⟩) ∧
    (¬ mode.skip → ¬ mode.batch → ¬ mode.ignoreFailure →
      (∀ ran a others e, all = ran ++ a :: others → (∀ b ∈ ran, b.outcome.result = .ok ()) →
        a.outcome.result = .error (.failure e) →
        o = ⟨(ran ++ [a]).flatMap (·.told), a.outcome.world,
          .error (.failure (.storyFailed ⟨a.path, e⟩))⟩) ∧
      ((∀ a ∈ all, a.outcome.result = .ok ()) →
        o = ⟨all.flatMap (·.told), worldAfter world all, .ok { ran := ts.map (·.storyPath) }⟩)) ∧
    (¬ mode.skip → (mode.batch || mode.ignoreFailure) →
      (∀ a ∈ all, a.outcome.result ≠ .error .overflow) →
      o = ⟨all.flatMap (·.entries mode) ++
          (if mode.batch && mode.ignoreFailure && !failures.isEmpty then
            [.notice (.batchFailed failures)] else []),
        worldAfter world all,
        if mode.batch && !mode.ignoreFailure && !failures.isEmpty then
          .error (.failure (.batchFailed failures))
        else .ok { ran := ts.map (·.storyPath), failures }⟩) ∧
    ∀ store : StoryStore, r.loader = store.load → store.size < r.stack →
      ∀ a ∈ all, a.outcome.result ≠ .error .overflow := by
  intro mode all failures o
  refine ⟨fun hskip => r.runBatch_of_skip ts hskip, fun hskip hbatch hignore => ⟨?_, ?_⟩,
    fun hskip hmode hall => ?_, fun store hload hroom => r.ranStories_ne_overflow hload hroom ts⟩
  · intro ran a others e hran hok hfail
    have hend : a.end? mode = some (.failure (.storyFailed ⟨a.path, e⟩)) := by
      rw [RanStory.end?_of_failure hfail, if_neg (by simp [hbatch, hignore])]
    refine r.runBatch_of_error ts hskip ?_
    rw [r.runEach_of_ends ts hran (fun b hb => RanStory.end?_of_ok (hok b hb)) hend,
      List.flatMap_append, List.flatMap_singleton, RanStory.flatMap_entries hok]
  · intro hok
    have hnone : (r.ranStories world ts).filterMap (·.failure?) = [] :=
      List.filterMap_eq_nil_iff.mpr fun a ha => RanStory.failure?_of_ok (hok a ha)
    have hrun := r.runEach_of_goes_on ts fun a ha => RanStory.end?_of_ok (hok a ha)
    rw [RanStory.flatMap_entries hok, hnone] at hrun
    simpa using r.runBatch_of_ok ts hskip hrun
  · exact r.runBatch_of_ok ts hskip
      (r.runEach_of_goes_on ts fun a ha => RanStory.end?_eq_none hmode (hall a ha))

end Runner

end Storyline
