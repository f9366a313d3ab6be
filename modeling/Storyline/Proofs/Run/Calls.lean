import Storyline.Proofs.Run.Playing
import Storyline.Proofs.Run.Trace

/-!
# The code that a run calls

Only some outcomes come from the code behind a step (`StepOutcome.ran`). A run calls that code once
for each such outcome and never otherwise, in the order of the outcomes. Calling the same code with
the same arguments again, one after the other from the world in which the run starts, gives these
outcomes and the world that the run leaves (`Runner.play_calls`).
-/

set_option autoImplicit false

namespace Storyline

variable {κ σ : Type}

/-! ## Results of code -/

/-- The outcome comes from the code behind a step: it succeeded, failed or panicked. -/
def StepOutcome.ran : StepOutcome → Bool
  | successful => true
  | failed (.failed _ _ _) => true
  | failed (.panicked _ _ _) => true
  | _ => false

/-- The result of an event that tells how a step came out. -/
def Event.result? : Event → Option StepResult
  | step r => some r
  | _ => none

/-- The results of steps whose code ran, in order. -/
def ranResults (es : List Event) : List StepResult :=
  (es.filterMap Event.result?).filter fun r => r.outcome.ran

/-- Calls code, one call after the other, and gives the results of the steps and the world after
them. -/
def invoke : List (StepDefinition κ σ × Arguments κ) → σ → List StepResult × σ
  | [], world => ([], world)
  | (d, as) :: calls, world =>
    let (ended, world) := d.handler as world
    let (rs, world) := invoke calls world
    (⟨as.text, Step.outcomeOf as.text d ended⟩ :: rs, world)

theorem ranResults_append (es fs : List Event) :
    ranResults (es ++ fs) = ranResults es ++ ranResults fs := by
  simp [ranResults]

theorem ran_outcomeOf (line : Text) (d : StepDefinition κ σ) (ended : HandlerResult) :
    (Step.outcomeOf line d ended).ran = true := by
  cases ended <;> rfl

theorem invoke_append (cs ds : List (StepDefinition κ σ × Arguments κ)) (world : σ) :
    invoke (cs ++ ds) world =
      ((invoke cs world).1 ++ (invoke ds (invoke cs world).2).1,
        (invoke ds (invoke cs world).2).2) := by
  induction cs generalizing world with
  | nil => rfl
  | cons c cs ih =>
      obtain ⟨d, as⟩ := c
      simp only [List.cons_append, invoke, ih]

/-- The results are those of the steps that the arguments belong to. -/
theorem line_invoke (cs : List (StepDefinition κ σ × Arguments κ)) (world : σ) :
    (invoke cs world).1.map StepResult.line = cs.map fun c => c.2.text := by
  induction cs generalizing world with
  | nil => rfl
  | cons c cs ih =>
      obtain ⟨d, as⟩ := c
      simp only [invoke, List.map_cons, ih]

/-! ## Calls of a run -/

/-- The calls of the trace explain its results of code, and how the world changed. -/
def CallsExplain (world : σ) (t : List (Entry κ σ)) (after : σ) : Prop :=
  invoke (Entry.callsOf t) world = (ranResults (Entry.eventsOf t), after)

theorem callsExplain_perform (st : RunState) {s : Step κ σ} (hs : s.Matched) :
    (StoryRun.perform st s).Leaves CallsExplain := by
  intro world
  cases hp : st.progress with
  | somethingHappened =>
      rw [StoryRun.perform_of_somethingHappened hp]
      rfl
  | fineSoFar =>
      rw [StoryRun.perform_of_fineSoFar hp]
      unfold CallsExplain Step.perform Step.call?
      cases hb : s.binding with
      | ignorable => rfl
      | pending => rfl
      | unresolvable c =>
          have hu := hs.unresolved c hb
          cases c with
          | ambiguous l ps cs => rfl
          | conversion l i hint value e => rfl
          | _ => cases hu
      | bound d as =>
          have hran := ran_outcomeOf s.line d (d.handler as world).1
          show invoke [(d, as)] world = (ranResults [.step _], _)
          simp [invoke, ranResults, Event.result?, hran, hs.text_eq d as hb]

theorem traceRules_callsExplain : TraceRules (CallsExplain (κ := κ) (σ := σ)) where
  nil _ := rfl
  append {w w' w'' t u} ht hu := by
    unfold CallsExplain at *
    rw [Entry.callsOf_append, Entry.eventsOf_append, invoke_append, ranResults_append, ht, hu]
  event e w he := by
    cases e with
    | step r => cases he
    | _ => rfl
  record _ _ := rfl
  step st _ hs := callsExplain_perform st hs

/-- **Steps and calls of a run.** What the run reports is made of the lists of steps that the
script of its story calls for, each with results in order, and the code that it calls is that
behind the results which come from code: each once, in the same order, for the same line. -/
theorem Runner.play_calls (r : Runner κ σ) (room : Nat) (outer : List Text) (embedded : Bool)
    (s : Story) (world : σ) :
    let script := expansion r.configuration.keywords r.loader room outer embedded s
    let o := r.play room outer embedded s world
    let es := Entry.eventsOf o.trace
    (∃ played later, script.cues = played ++ later ∧ Played played es) ∧
      (Entry.callsOf o.trace).map (fun c => c.2.text) = (ranResults es).map StepResult.line ∧
      invoke (Entry.callsOf o.trace) world = (ranResults es, o.world) := by
  intro script o es
  have hcalls : invoke (Entry.callsOf o.trace) world = (ranResults es, o.world) :=
    traceRules_callsExplain.play r (fun _ _ _ => rfl) room outer embedded s world
  refine ⟨r.exists_played_play room outer embedded s world, ?_, hcalls⟩
  rw [← line_invoke _ world, hcalls]

end Storyline
