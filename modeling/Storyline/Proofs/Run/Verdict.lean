import Storyline.Proofs.Run.StepList

/-!
# The verdict on a story

The verdict on a story is the cause of its first failed step or, if no step failed, the cause of
its first pending step (`verdict`). The steps are those of the story itself, over all its lists.

The state of a run keeps the verdict so far together with the strategy for it
(`RunState.Decided`). Hence `Runner.conclude`, which looks at nothing but the state, ends a run as
the policy demands for the verdict.
-/

set_option autoImplicit false

namespace Storyline

variable {κ σ : Type}

/-! ## The verdict -/

namespace StepResult

/-- The cause of a failed step. -/
def failure? (r : StepResult) : Option StepCause :=
  match r.outcome with
  | .failed c => some c
  | _ => none

/-- The cause of a pending step. -/
def pending? (r : StepResult) : Option StepCause :=
  match r.outcome with
  | .pending => some (.pending r.line)
  | _ => none

end StepResult

/-- The cause of the first failed result or, if there is none, that of the first pending result. -/
def verdict (rs : List StepResult) : Option StepCause :=
  (rs.findSome? StepResult.failure?).or (rs.findSome? StepResult.pending?)

theorem kind_of_failures {rs : List StepResult} (h : ∀ r ∈ rs, r.Graded) {c : StepCause}
    (hc : rs.findSome? StepResult.failure? = some c) : c.kind = .failure := by
  obtain ⟨r, hr, hf⟩ := List.exists_of_findSome?_eq_some hc
  unfold StepResult.failure? at hf
  split at hf
  · next c' ho =>
      cases hf
      exact h r hr c ho
  · cases hf

theorem kind_of_pendings {rs : List StepResult} {c : StepCause}
    (hc : rs.findSome? StepResult.pending? = some c) : c.kind = .pending := by
  obtain ⟨r, -, hp⟩ := List.exists_of_findSome?_eq_some hc
  unfold StepResult.pending? at hp
  split at hp
  · cases hp
    rfl
  · cases hp

theorem verdict_concat_of_none (rs : List StepResult) {r : StepResult} (h : r.cause? = none) :
    verdict (rs ++ [r]) = verdict rs := by
  obtain ⟨line, o⟩ := r
  cases o with
  | pending => simp [StepResult.cause?] at h
  | failed c => simp [StepResult.cause?] at h
  | _ => simp [verdict, List.findSome?_append, StepResult.failure?, StepResult.pending?]

/-- **One more result.** The verdict gives way to its cause exactly if the kinds of cause demand
it: a failure is never superseded, a pending step only by a failure. -/
theorem verdict_concat_of_some {rs : List StepResult} (hrs : ∀ r ∈ rs, r.Graded) {r : StepResult}
    (hr : r.Graded) {c : StepCause} (h : r.cause? = some c) :
    verdict (rs ++ [r]) =
      if (verdict rs).all fun kept => kept.kind.yieldsTo c.kind then some c else verdict rs := by
  simp only [verdict, List.findSome?_append]
  obtain hf | ⟨f, hf⟩ := Option.eq_none_or_eq_some (rs.findSome? StepResult.failure?)
  · -- no failure so far
    obtain ⟨line, o⟩ := r
    obtain hp | ⟨p, hp⟩ := Option.eq_none_or_eq_some (rs.findSome? StepResult.pending?)
    · cases o with
      | failed d => cases h; simp [hf, hp, StepResult.failure?]
      | pending => cases h; simp [hf, hp, StepResult.failure?, StepResult.pending?]
      | _ => simp [StepResult.cause?] at h
    · -- a pending step so far
      have hk : p.kind = .pending := kind_of_pendings hp
      cases o with
      | failed d =>
          cases h
          have hd : c.kind = .failure := hr c rfl
          simp [hf, hp, hk, hd, StepResult.failure?, CauseKind.yieldsTo]
      | pending =>
          cases h
          simp [hf, hp, StepCause.kind, StepResult.failure?, CauseKind.yieldsTo]
      | _ => simp [StepResult.cause?] at h
  · -- a failure so far, which gives way to nothing
    have hk : f.kind = .failure := kind_of_failures hrs hf
    simp [hf, hk, CauseKind.yieldsTo]

/-- The first failure decides, also after a pending step. -/
example (l : Text) (c d : StepCause) :
    verdict [⟨l, .pending⟩, ⟨l, .failed c⟩, ⟨l, .failed d⟩] = some c := rfl

/-! ## What the state keeps -/

namespace RunState

/-- The state keeps the verdict on the results, with the strategy for it. -/
structure Decided (policy : ErrorPolicy) (st : RunState) (rs : List StepResult) : Prop where
  policy_eq : st.policy = policy
  cause_eq : st.cause = verdict rs
  strategy_eq : ∀ c, st.cause = some c → st.strategy = policy.select c.kind
  graded : ∀ r ∈ rs, r.Graded

theorem decided_nil (policy : ErrorPolicy) : Decided policy { policy } [] where
  policy_eq := rfl
  cause_eq := rfl
  strategy_eq _ h := by cases h
  graded := by simp

theorem Decided.note {policy : ErrorPolicy} {st : RunState} {rs : List StepResult}
    (h : Decided policy st rs) {r : StepResult} (hr : r.Graded) :
    Decided policy (st.note r) (rs ++ [r]) := by
  have hgraded : ∀ q ∈ rs ++ [r], q.Graded := by
    intro q hq
    rcases List.mem_append.mp hq with hq | hq
    · exact h.graded q hq
    · rw [List.mem_singleton.mp hq]
      exact hr
  cases hc : r.cause? with
  | none =>
      rw [note_of_none hc]
      exact ⟨h.policy_eq, h.cause_eq.trans (verdict_concat_of_none rs hc).symm, h.strategy_eq,
        hgraded⟩
  | some c =>
      have hv := verdict_concat_of_some h.graded hr hc
      rw [← h.cause_eq] at hv
      simp only [RunState.note, hc, record]
      split
      · -- the cause is the verdict from now on, and brings its strategy with it
        next hy =>
          rw [if_pos hy] at hv
          refine ⟨h.policy_eq, hv.symm, fun d hd => ?_, hgraded⟩
          cases hd
          rw [h.policy_eq]
      · next hy =>
          rw [if_neg hy] at hv
          exact ⟨h.policy_eq, hv.symm, h.strategy_eq, hgraded⟩

theorem Decided.noteAll {policy : ErrorPolicy} {st : RunState} {rs : List StepResult}
    (h : Decided policy st rs) {qs : List StepResult} (hqs : ∀ r ∈ qs, r.Graded) :
    Decided policy (st.noteAll qs) (rs ++ qs) := by
  induction qs generalizing st rs with
  | nil => simpa using h
  | cons q qs ih =>
      have hnext := ih (h.note (hqs q List.mem_cons_self)) fun r hr =>
        hqs r (List.mem_cons_of_mem _ hr)
      simpa using hnext

/-- Whether the current list is fine does not matter for what is kept. -/
theorem Decided.congr {policy : ErrorPolicy} {st st' : RunState} {rs : List StepResult}
    (h : Decided policy st rs) (heq : st'.startList = st.startList) : Decided policy st' rs := by
  have hp : st'.policy = st.policy := (congrArg RunState.policy heq :)
  have hc : st'.cause = st.cause := (congrArg RunState.cause heq :)
  have hs : st'.strategy = st.strategy := (congrArg RunState.strategy heq :)
  exact ⟨hp.trans h.policy_eq, hc.trans h.cause_eq,
    fun c h' => hs.trans (h.strategy_eq c (hc.symm.trans h')), h.graded⟩

end RunState

/-! ## What a part of a story leaves of the state -/

/-- The state keeps what the results demand of a run that was in state `st` before them. -/
structure Keeps (st st' : RunState) (rs : List StepResult) : Prop where
  state_eq : st'.startList = (st.noteAll rs).startList
  graded : ∀ r ∈ rs, r.Graded

theorem Keeps.refl (st : RunState) : Keeps st st [] := ⟨rfl, by simp⟩

theorem Keeps.append {st st' st'' : RunState} {rs qs : List StepResult} (h : Keeps st st' rs)
    (h' : Keeps st' st'' qs) : Keeps st st'' (rs ++ qs) := by
  refine ⟨?_, ?_⟩
  · rw [h'.state_eq, RunState.noteAll_append]
    exact RunState.startList_noteAll h.state_eq qs
  · intro r hr
    rcases List.mem_append.mp hr with hr | hr
    · exact h.graded r hr
    · exact h'.graded r hr

theorem Keeps.decided {policy : ErrorPolicy} {st : RunState} {rs : List StepResult}
    (h : Keeps { policy } st rs) : st.Decided policy rs := by
  have hnote := (RunState.decided_nil policy).noteAll h.graded
  rw [List.nil_append] at hnote
  exact hnote.congr h.state_eq

/-! ## The end of a run -/

namespace ErrorPolicy

variable (policy : ErrorPolicy)

/-- The cause with which a run fails, if any, given the verdict on its story. -/
def thrown (c? : Option StepCause) : Option StepCause :=
  c?.filter fun c => policy.select c.kind = .rethrow

/-- How the run of a story ends that was told up to its last event, given the verdict on it. -/
def ending : Option StepCause → Except (Halt RunError) Unit
  | none => .ok ()
  | some c => if policy.select c.kind = .rethrow then .error (.failure (.step c)) else .ok ()

/-- The causes that such a run logs in the end. -/
def logged (path : Text) : Option StepCause → List (Text × StepCause)
  | none => []
  | some c => if policy.select c.kind = .log then [(path, c)] else []

theorem ending_of_thrown (c? : Option StepCause) :
    policy.ending c? =
      match policy.thrown c? with
      | none => .ok ()
      | some c => .error (.failure (.step c)) := by
  cases c? with
  | none => rfl
  | some c =>
      by_cases hc : policy.select c.kind = .rethrow
      · have ht : policy.thrown (some c) = some c := by simp [thrown, hc]
        rw [ht]
        exact if_pos hc
      · have ht : policy.thrown (some c) = none := by simp [thrown, hc]
        rw [ht]
        exact if_neg hc

theorem select_of_thrown {c? : Option StepCause} {c : StepCause} (h : policy.thrown c? = some c) :
    policy.select c.kind = .rethrow := by
  simpa using (Option.filter_eq_some_iff.mp h).2

theorem filter_logged (path : Text) (c? : Option StepCause) :
    (policy.logged path c?).filter (fun a => a.1 = path) = policy.logged path c? := by
  unfold logged
  split
  · rfl
  · split <;> simp

end ErrorPolicy

theorem RunState.Decided.conclude {policy : ErrorPolicy} {st : RunState} {rs : List StepResult}
    (h : st.Decided policy rs) (path : Text) (world : σ) :
    let o := (Runner.conclude path st : StoryRun κ σ Unit) world
    o.result = policy.ending (verdict rs) ∧ Entry.eventsOf o.trace = [] ∧
      Entry.absorbedOf o.trace = policy.logged path (verdict rs) := by
  rw [← h.cause_eq]
  unfold Runner.conclude
  cases hc : st.cause with
  | none => exact ⟨rfl, rfl, rfl⟩
  | some c =>
      have hs := h.strategy_eq c hc
      simp only [ErrorPolicy.ending, ErrorPolicy.logged, ← hs]
      cases st.strategy <;> exact ⟨rfl, rfl, rfl⟩

end Storyline
