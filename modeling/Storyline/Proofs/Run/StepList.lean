import Storyline.Proofs.Step.Binding
import Storyline.Run.Runner

/-!
# One list of steps

What a run leaves of one list of steps: a result for each step, in order. As long as the steps have
no cause they are performed; after the first cause the rest of the list is skipped (`Orderly`).
A list that follows another one starts afresh, whatever the state in which it is run
(`exists_stepsLeave`).
-/

set_option autoImplicit false

namespace Storyline

variable {κ σ : Type}

/-! ## Results of a list -/

/-- **The outcomes of a list of steps.** Some steps are fine, then at most one has a cause, and
then all are skipped. -/
def Orderly (os : List StepOutcome) : Prop :=
  ∃ fine rest, os = fine ++ rest ∧ (∀ o ∈ fine, o = .successful ∨ o = .ignorable) ∧
    (rest = [] ∨ ∃ o skipped, rest = o :: skipped ∧ (o = .pending ∨ ∃ c, o = .failed c) ∧
      ∀ q ∈ skipped, q = .notPerformed)

theorem orderly_nil : Orderly [] := ⟨[], [], rfl, by simp, .inl rfl⟩

theorem Orderly.cons_fine {o : StepOutcome} {os : List StepOutcome}
    (ho : o = .successful ∨ o = .ignorable) (h : Orderly os) : Orderly (o :: os) := by
  obtain ⟨fine, rest, rfl, hfine, hrest⟩ := h
  refine ⟨o :: fine, rest, rfl, ?_, hrest⟩
  intro q hq
  rcases List.mem_cons.mp hq with rfl | hq
  · exact ho
  · exact hfine q hq

theorem orderly_cons_cause {o : StepOutcome} {os : List StepOutcome}
    (ho : o = .pending ∨ ∃ c, o = .failed c) (h : ∀ q ∈ os, q = .notPerformed) :
    Orderly (o :: os) :=
  ⟨[], o :: os, rfl, by simp, .inr ⟨o, os, rfl, ho, h⟩⟩

namespace StepResult

/-- The result is that of a step that was performed: it was not skipped, and only a pending step
has a pending cause. -/
structure Performed (r : StepResult) : Prop where
  not_skipped : r.outcome ≠ .notPerformed
  kind_eq : ∀ c, r.outcome = .failed c → c.kind = .failure

/-- A failed step has a failure for its cause. -/
def Graded (r : StepResult) : Prop := ∀ c, r.outcome = .failed c → c.kind = .failure

/-- Of a performed step without a cause. -/
theorem Performed.fine {r : StepResult} (h : r.Performed) (hc : r.cause? = none) :
    r.outcome = .successful ∨ r.outcome = .ignorable := by
  obtain ⟨line, o⟩ := r
  cases o with
  | successful => exact .inl rfl
  | ignorable => exact .inr rfl
  | pending => simp [cause?] at hc
  | notPerformed => exact absurd rfl h.not_skipped
  | failed c => simp [cause?] at hc

theorem outcome_of_cause {r : StepResult} {c : StepCause} (h : r.cause? = some c) :
    r.outcome = .pending ∨ ∃ c, r.outcome = .failed c := by
  obtain ⟨line, o⟩ := r
  cases o with
  | successful => simp [cause?] at h
  | ignorable => simp [cause?] at h
  | pending => exact .inl rfl
  | notPerformed => simp [cause?] at h
  | failed c => exact .inr ⟨c, rfl⟩

end StepResult

/-- Performing a step of the matcher. -/
theorem Step.performed {s : Step κ σ} (h : s.Matched) (world : σ) :
    (s.perform world).1.Performed := by
  unfold perform
  cases hb : s.binding with
  | ignorable => exact ⟨by simp, by simp⟩
  | pending => exact ⟨by simp, by simp⟩
  | unresolvable c =>
      refine ⟨by simp, fun c' hc => ?_⟩
      simp only [StepOutcome.failed.injEq] at hc
      rw [← hc]
      exact h.kind_eq hb
  | bound d as =>
      cases hr : (d.handler as world).1 with
      | done => exact ⟨by simp [hr, outcomeOf], by simp [hr, outcomeOf]⟩
      | failed message =>
          refine ⟨by simp [hr, outcomeOf], fun c hc => ?_⟩
          simp only [hr, outcomeOf, StepOutcome.failed.injEq] at hc
          rw [← hc]
          rfl
      | panicked message =>
          refine ⟨by simp [hr, outcomeOf], fun c hc => ?_⟩
          simp only [hr, outcomeOf, StepOutcome.failed.injEq] at hc
          rw [← hc]
          rfl

/-! ## The state -/

namespace RunState

/-- The state after the results of a list. -/
def noteAll (st : RunState) (rs : List StepResult) : RunState := rs.foldl note st

@[simp] theorem noteAll_nil (st : RunState) : st.noteAll [] = st := rfl

@[simp] theorem noteAll_cons (st : RunState) (r : StepResult) (rs : List StepResult) :
    st.noteAll (r :: rs) = (st.note r).noteAll rs := rfl

theorem noteAll_append (st : RunState) (rs qs : List StepResult) :
    st.noteAll (rs ++ qs) = (st.noteAll rs).noteAll qs := List.foldl_append

theorem record_progress (st : RunState) (c : StepCause) :
    (st.record c).progress = st.progress := by
  unfold record
  split <;> rfl

/-- What is kept of causes does not depend on the progress of the list. -/
theorem startList_record (st : RunState) (c : StepCause) :
    (st.record c).startList = st.startList.record c := by
  unfold record
  split
  · next h => rw [if_pos (by simpa [startList] using h)]; rfl
  · next h => rw [if_neg (by simpa [startList] using h)]

theorem startList_note (st : RunState) (r : StepResult) :
    (st.note r).startList = (st.startList.note r).startList := by
  unfold note
  cases r.cause? with
  | none => rfl
  | some c => simp only [startList_record]; rfl

/-- A list that starts afresh keeps the same causes. -/
theorem startList_noteAll {st st' : RunState} (h : st.startList = st'.startList)
    (rs : List StepResult) : (st.noteAll rs).startList = (st'.noteAll rs).startList := by
  induction rs generalizing st st' with
  | nil => exact h
  | cons r rs ih =>
      refine ih ?_
      rw [startList_note, startList_note st', h]

theorem note_of_none {r : StepResult} (h : r.cause? = none) (st : RunState) : st.note r = st := by
  simp only [note, h]

theorem note_progress_of_some {r : StepResult} {c : StepCause} (h : r.cause? = some c)
    (st : RunState) : (st.note r).progress = .somethingHappened := by
  simp only [note, h, record_progress]

end RunState

/-! ## Attempting steps -/

/-- What attempting steps from a state leaves of them. -/
structure Attempted (st : RunState) (ss : List (Step κ σ)) (rs : List StepResult)
    (o : Outcome (Entry κ σ) σ RunError RunState) : Prop where
  result_eq : o.result = .ok (st.noteAll rs)
  events_eq : Entry.eventsOf o.trace = rs.map .step
  lines_eq : rs.map StepResult.line = ss.map Step.line
  orderly : st.progress = .fineSoFar → Orderly (rs.map StepResult.outcome)
  skipped : st.progress = .somethingHappened → ∀ r ∈ rs, r.outcome = .notPerformed
  graded : ∀ r ∈ rs, r.Graded

namespace StoryRun

/-- A step is performed as long as nothing happened in its list. -/
theorem perform_of_fineSoFar {st : RunState} (hp : st.progress = .fineSoFar) (s : Step κ σ)
    (world : σ) :
    perform st s world =
      ⟨(s.call?.map fun (d, as) => Entry.call d as).toList ++
          [.event (.step (s.perform world).1)],
        (s.perform world).2, .ok (st.note (s.perform world).1)⟩ := by
  simp only [perform, attempt, hp]
  cases s.call? <;> rfl

/-- After a cause a step is skipped. -/
theorem perform_of_somethingHappened {st : RunState} (hp : st.progress = .somethingHappened)
    (s : Step κ σ) (world : σ) :
    perform st s world = ⟨[.event (.step s.skip)], world, .ok (st.note s.skip)⟩ := by
  simp only [perform, attempt, hp]
  rfl

/-- A step that is attempted has a result, which is reported and noted. -/
theorem perform_apply (st : RunState) (s : Step κ σ) (world : σ) :
    ∃ r : StepResult, r.line = s.line ∧
      (perform st s world).result = .ok (st.note r) ∧
      Entry.eventsOf (perform st s world).trace = [.step r] ∧
      (st.progress = .fineSoFar → r = (s.perform world).1) ∧
      (st.progress = .somethingHappened → r = s.skip) := by
  cases hp : st.progress with
  | fineSoFar =>
      refine ⟨(s.perform world).1, by simp, ?_, ?_, fun _ => rfl, fun h => (by cases h)⟩
      · rw [perform_of_fineSoFar hp]
      · rw [perform_of_fineSoFar hp]
        cases s.call? <;> rfl
  | somethingHappened =>
      refine ⟨s.skip, rfl, ?_, ?_, fun h => (by cases h), fun _ => rfl⟩
      · rw [perform_of_somethingHappened hp]
      · rw [perform_of_somethingHappened hp]
        rfl

/-- **Attempting a list of steps.** The induction is on the list, from any state: the results so
far matter only through the progress of the list. -/
theorem exists_attempted (st : RunState) (ss : List (Step κ σ)) (hss : ∀ s ∈ ss, s.Matched)
    (world : σ) : ∃ rs, Attempted st ss rs (performAll st ss world) := by
  induction ss generalizing st world with
  | nil => exact ⟨[], rfl, rfl, rfl, fun _ => orderly_nil, by simp, by simp⟩
  | cons s ss ih =>
      obtain ⟨r, hline, hres, hev, hfine, hskip⟩ := perform_apply st s world
      obtain ⟨rs, h⟩ := ih (st.note r) (fun s hs => hss s (List.mem_cons_of_mem _ hs))
        (perform st s world).world
      have hrun : performAll st (s :: ss) world =
          ⟨(perform st s world).trace ++
              (performAll (st.note r) ss (perform st s world).world).trace,
            (performAll (st.note r) ss (perform st s world).world).world,
            (performAll (st.note r) ss (perform st s world).world).result⟩ :=
        Run.bind_of_ok hres _
      refine ⟨r :: rs, ?_, ?_, ?_, ?_, ?_, ?_⟩
      · rw [hrun]
        exact h.result_eq
      · rw [hrun, Entry.eventsOf_append, hev, h.events_eq]
        rfl
      · rw [List.map_cons, List.map_cons, hline, h.lines_eq]
      · -- the step is performed; a cause of it is the last thing that happens in the list
        intro hp
        have hperf : r.Performed := by
          rw [hfine hp]
          exact Step.performed (hss s List.mem_cons_self) world
        rw [List.map_cons]
        cases hc : r.cause? with
        | none =>
            rw [RunState.note_of_none hc] at h
            exact (h.orderly hp).cons_fine (hperf.fine hc)
        | some c =>
            refine orderly_cons_cause (StepResult.outcome_of_cause hc) ?_
            have hall := h.skipped (RunState.note_progress_of_some hc st)
            simpa using hall
      · -- a skipped step has no cause, so that nothing changes for the next one
        intro hp q hq
        have hr : r.outcome = .notPerformed := by
          rw [hskip hp]
          rfl
        have hc : r.cause? = none := by simp only [StepResult.cause?, hr]
        rcases List.mem_cons.mp hq with rfl | hq
        · exact hr
        · rw [RunState.note_of_none hc] at h
          exact h.skipped hp q hq
      · intro q hq
        rcases List.mem_cons.mp hq with rfl | hq
        · cases hp : st.progress with
          | fineSoFar =>
              rw [hfine hp]
              exact (Step.performed (hss s List.mem_cons_self) world).kind_eq
          | somethingHappened =>
              rw [hskip hp]
              intro c hc
              cases hc
        · exact h.graded q hq

end StoryRun

/-! ## Running step lines -/

/-- What running step lines from a state leaves: a result for each line, in order and orderly, and
a state that keeps the causes among them. -/
structure StepsLeave (st : RunState) (lines : List Text) (rs : List StepResult)
    (o : Outcome (Entry κ σ) σ RunError RunState) : Prop where
  result_eq : ∃ st', o.result = .ok st' ∧ st'.startList = (st.noteAll rs).startList
  events_eq : Entry.eventsOf o.trace = rs.map .step
  lines_eq : rs.map StepResult.line = lines
  orderly : Orderly (rs.map StepResult.outcome)
  graded : ∀ r ∈ rs, r.Graded

/-- **Running step lines never stops a run**, and the list starts afresh from any state. -/
theorem Runner.exists_stepsLeave (r : Runner κ σ) (st : RunState) (lines : List Text)
    (world : σ) : ∃ rs, StepsLeave st lines rs (r.steps st lines world) := by
  cases lines with
  | nil => exact ⟨[], ⟨st, rfl, rfl⟩, rfl, rfl, orderly_nil, by simp⟩
  | cons l ls =>
      obtain ⟨rs, h⟩ := StoryRun.exists_attempted st.startList (r.matcher.prepare (l :: ls))
        (r.matcher.matched_of_mem_prepareAfter none (l :: ls)) world
      have hfresh : st.startList.startList = st.startList := rfl
      have hlines : (r.matcher.prepare (l :: ls)).map Step.line = l :: ls :=
        r.matcher.map_line_prepareAfter none (l :: ls)
      simp only [steps, List.isEmpty_cons, Bool.false_eq_true, if_false, StoryRun.log_bind,
        StoryRun.debug_bind]
      exact ⟨rs, {
        result_eq := ⟨_, h.result_eq, RunState.startList_noteAll hfresh rs⟩
        events_eq := by simp [h.events_eq]
        lines_eq := h.lines_eq.trans hlines
        orderly := h.orderly rfl
        graded := h.graded }⟩

end Storyline
