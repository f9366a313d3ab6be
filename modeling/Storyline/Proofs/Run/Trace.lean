import Storyline.Proofs.Run.Script
import Storyline.Proofs.Run.StepList

/-!
# What runs leave

A run leaves a trace, which leads from the world before it to the world after it. A property of
traces that holds of each thing that runs are made of, and of one thing after another, holds of
what whole runs leave (`TraceRules`). The rule for steps is about steps that the matcher made.

A first use of this: no story run logs a cause on behalf of a story that is running already
(`Runner.logsNoneOf_play`).
-/

set_option autoImplicit false

namespace Storyline

variable {κ σ α β : Type}

/-! ## Rules -/

/-- `P` holds of whatever the run leaves, in whichever world it starts. -/
def StoryRun.Leaves (P : σ → List (Entry κ σ) → σ → Prop) (x : StoryRun κ σ α) : Prop :=
  ∀ world, P world (x world).trace (x world).world

/-- The rules for a property of traces, with the worlds before and after them. Only what a story
run logs at its end has no rule here. -/
structure TraceRules (P : σ → List (Entry κ σ) → σ → Prop) : Prop where
  nil : ∀ w, P w [] w
  append : ∀ {w w' w'' t u}, P w t w' → P w' u w'' → P w (t ++ u) w''
  event : ∀ e w, e.isStep = false → P w [.event e] w
  record : ∀ l w, P w [.record l] w
  step : ∀ st (s : Step κ σ), s.Matched → (StoryRun.perform st s).Leaves P

namespace TraceRules

open StoryRun (Leaves)

variable {P : σ → List (Entry κ σ) → σ → Prop} (h : TraceRules P)
include h

theorem pure (a : α) : Leaves P (pure a : StoryRun κ σ α) := h.nil

theorem halt (e : Halt RunError) : Leaves P (Run.halt e : StoryRun κ σ α) := h.nil

theorem bind {x : StoryRun κ σ α} {f : α → StoryRun κ σ β} (hx : Leaves P x)
    (hf : ∀ a, Leaves P (f a)) : Leaves P (x >>= f) := by
  intro world
  cases hres : (x world).result with
  | error e =>
      rw [Run.bind_of_error hres]
      exact hx world
  | ok a =>
      rw [Run.bind_of_ok hres]
      exact h.append (hx world) (hf a _)

theorem report {e : Event} (he : e.isStep = false) : Leaves P (StoryRun.report e) :=
  fun world => h.event e world he

theorem log (ls : List Log.Record) : Leaves P (StoryRun.log ls) := by
  intro world
  induction ls with
  | nil => exact h.nil world
  | cons l ls ih => exact h.append (h.record l world) ih

/-! ## Parts of a story -/

theorem performAll (st : RunState) (ss : List (Step κ σ)) (hss : ∀ s ∈ ss, s.Matched) :
    Leaves P (StoryRun.performAll st ss) := by
  induction ss generalizing st with
  | nil => exact h.pure st
  | cons s ss ih =>
      refine h.bind (h.step st s (hss s List.mem_cons_self)) fun st' => ?_
      exact ih st' fun q hq => hss q (List.mem_cons_of_mem _ hq)

variable (r : Runner κ σ)

theorem steps (st : RunState) (lines : List Text) : Leaves P (r.steps st lines) := by
  unfold Runner.steps
  split
  · exact h.pure st
  · refine h.bind (h.log _) fun _ => h.bind (h.log _) fun _ => ?_
    exact h.performAll _ _ (r.matcher.matched_of_mem_prepareAfter none lines)

theorem partRules :
    PartRules (fun _ (x : StoryRun κ σ Unit) => Leaves P x) (fun _ f => ∀ st, Leaves P (f st)) where
  done := h.pure ()
  report {e} he := h.report (by cases e <;> first | rfl | cases he)
  andThen hx hy := h.bind hx fun _ => hy
  keep st := h.pure st
  before hx hf st := h.bind hx fun _ => hf st
  bind hf hg st := h.bind (hf st) hg
  steps r lines st := h.steps r st lines

/-- Up to its last event a story run is made of nothing but what there are rules for. -/
theorem tell {enter : Text → StoryRun κ σ Unit} (henter : ∀ path, Leaves P (enter path))
    (embedded : Bool) (s : Story) : Leaves P (r.tell enter embedded s) := by
  have hparts := h.partRules.parts r (fun _ => {}) s fun path _ => henter path
  refine h.bind (h.log _) fun _ => h.bind (h.report rfl) fun _ => h.bind (hparts _) fun st => ?_
  exact h.bind (h.report rfl) fun _ => h.bind (h.log _) fun _ => h.pure st

theorem conclude {path : Text} (habsorbed : ∀ c w, P w [.absorbed path c] w) (st : RunState) :
    Leaves P (Runner.conclude path st) := by
  unfold Runner.conclude
  cases st.cause with
  | none => exact h.pure ()
  | some c =>
      cases st.strategy with
      | silent => exact h.pure ()
      | log => exact habsorbed c
      | rethrow => exact h.halt _

/-! ## Given stories -/

/-- Only stories that are not running are entered. -/
theorem enter {run : Story → StoryRun κ σ Unit} {chain : List Text}
    (hrun : ∀ s, s.path ∉ chain → Leaves P (run s)) (path : Text) :
    Leaves P (r.enter run chain path) := by
  intro world
  rcases r.enter_cases run (fun _ => {}) chain path with
    ⟨e, ls, -, -, heq⟩ | ⟨s, ls, hs, -, heq⟩
  · rw [heq]
    exact h.log ls world
  · rw [heq]
    exact h.append (h.log ls world) (hrun s hs world)

/-- With a rule for the causes that are logged, the property holds of whole story runs. -/
theorem play (habsorbed : ∀ path c w, P w [.absorbed path c] w) (room : Nat) (outer : List Text)
    (embedded : Bool) (s : Story) : Leaves P (r.play room outer embedded s) := by
  induction room generalizing outer embedded s with
  | zero => exact h.halt _
  | succ room ih =>
      refine h.bind (h.tell r (h.enter r fun s _ => ih _ true s) embedded s) fun st => ?_
      exact h.conclude (habsorbed s.path) st

end TraceRules

/-! ## Causes that are logged -/

/-- The trace logs no cause under one of the paths. -/
def LogsNoneOf (paths : List Text) (_ : σ) (t : List (Entry κ σ)) (_ : σ) : Prop :=
  ∀ a ∈ Entry.absorbedOf t, a.1 ∉ paths

theorem traceRules_logsNoneOf (paths : List Text) :
    TraceRules (LogsNoneOf paths : σ → List (Entry κ σ) → σ → Prop) where
  nil _ := by simp [LogsNoneOf, Entry.absorbedOf]
  append hx hy := by
    intro a ha
    rw [Entry.absorbedOf_append] at ha
    exact (List.mem_append.mp ha).elim (hx a) (hy a)
  event e w _ := by simp [LogsNoneOf, Entry.absorbedOf, Entry.absorbed?]
  record l w := by simp [LogsNoneOf, Entry.absorbedOf, Entry.absorbed?]
  step st s _ := by
    intro w
    cases hp : st.progress with
    | fineSoFar =>
        rw [StoryRun.perform_of_fineSoFar hp]
        cases s.call? <;> simp [LogsNoneOf, Entry.absorbedOf, Entry.absorbed?]
    | somethingHappened =>
        rw [StoryRun.perform_of_somethingHappened hp]
        simp [LogsNoneOf, Entry.absorbedOf, Entry.absorbed?]

/-- **No story run logs a cause for a story outside it.** The stories that it runs are none of
those that are running already. -/
theorem Runner.logsNoneOf_play (r : Runner κ σ) (room : Nat) (outer : List Text) (embedded : Bool)
    (s : Story) (hs : s.path ∉ outer) :
    StoryRun.Leaves (LogsNoneOf outer) (r.play room outer embedded s) := by
  induction room generalizing outer embedded s with
  | zero => exact (traceRules_logsNoneOf outer).halt _
  | succ room ih =>
      have hrules := traceRules_logsNoneOf (κ := κ) (σ := σ) outer
      refine hrules.bind (hrules.tell r (hrules.enter r ?_) embedded s) fun st => ?_
      · intro given hgiven w a ha hmem
        exact ih _ true given hgiven w a ha (List.mem_append_left _ hmem)
      · refine hrules.conclude (fun c w => ?_) st
        simpa [LogsNoneOf, Entry.absorbedOf, Entry.absorbed?] using hs

end Storyline
