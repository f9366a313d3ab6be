import Storyline.Proofs.Run.Level
import Storyline.Proofs.Run.Trace

/-!
# How story runs end

A story that was told up to its last event ends as the policy demands for the verdict on it. Only a
given story can keep it from that, and then the run ends as the run of that given story did
(`Runner.play_ends`).
-/

set_option autoImplicit false

namespace Storyline

variable {κ σ : Type}

/-! ## Stories that are cut short -/

/-- The outcome ends with the run of one of the given stories, which fails, and fails as that run
does. -/
def CutShort {α : Type} (enter : Text → StoryRun κ σ Unit) (paths : List Text)
    (o : Outcome (Entry κ σ) σ RunError α) : Prop :=
  ∃ path ∈ paths, ∃ before world h, (enter path world).result = .error h ∧
    o = ⟨before ++ (enter path world).trace, (enter path world).world, .error h⟩

section

variable {α β : Type} {enter : Text → StoryRun κ σ Unit} {paths : List Text}

/-- If the run stops, then one of the given stories cuts it short. -/
def StopsBy (enter : Text → StoryRun κ σ Unit) (paths : List Text) (x : StoryRun κ σ α) : Prop :=
  ∀ world h, (x world).result = .error h → CutShort enter paths (x world)

theorem StopsBy.of_pure (a : α) : StopsBy enter paths (pure a : StoryRun κ σ α) :=
  fun _ _ h => by cases h

theorem StopsBy.of_tell (ts : List (Entry κ σ)) : StopsBy enter paths (Run.tell ts) :=
  fun _ _ h => by cases h

theorem StopsBy.bind {x : StoryRun κ σ α} {f : α → StoryRun κ σ β} (hx : StopsBy enter paths x)
    (hf : ∀ a, StopsBy enter paths (f a)) : StopsBy enter paths (x >>= f) := by
  intro world e he
  cases hres : (x world).result with
  | error e' =>
      obtain ⟨path, hp, before, w, h, hw, ho⟩ := hx world e' hres
      refine ⟨path, hp, before, w, h, hw, ?_⟩
      rw [Run.bind_of_error (congrArg Outcome.result ho), ho]
  | ok a =>
      rw [Run.bind_of_ok hres] at he ⊢
      obtain ⟨path, hp, before, w, h, hw, ho⟩ := hf a _ e he
      refine ⟨path, hp, (x world).trace ++ before, w, h, hw, ?_⟩
      rw [ho, List.append_assoc]

theorem partRules_stopsBy :
    PartRules (fun _ x => StopsBy enter paths x) (fun _ f => ∀ st, StopsBy enter paths (f st)) where
  done := .of_pure ()
  report _ := .of_tell _
  andThen hx hy := hx.bind fun _ => hy
  keep st := .of_pure st
  before hx hf st := hx.bind fun _ => hf st
  bind hf hg st := (hf st).bind hg
  steps r lines st := by
    intro world h hres
    obtain ⟨rs, hl⟩ := r.exists_stepsLeave st lines world
    obtain ⟨st', hok, -⟩ := hl.result_eq
    rw [hok] at hres
    cases hres

/-- Entering a given story stops by itself. -/
theorem stopsBy_enter {path : Text} (hp : path ∈ paths) : StopsBy enter paths (enter path) := by
  intro world h hres
  refine ⟨path, hp, [], world, h, hres, ?_⟩
  rw [← hres]
  rfl

/-- Only given stories keep a story from being told up to its last event. -/
theorem Runner.stopsBy_tell (r : Runner κ σ) (embedded : Bool) (s : Story) :
    StopsBy enter s.givenPaths (r.tell enter embedded s) := by
  have hparts : ∀ st, StopsBy enter s.givenPaths (r.parts enter st s) :=
    partRules_stopsBy.parts r (fun _ => {}) s fun path hp => stopsBy_enter hp
  refine (StopsBy.of_tell _).bind fun _ => (StopsBy.of_tell _).bind fun _ => ?_
  refine (hparts _).bind fun st => ?_
  exact (StopsBy.of_tell _).bind fun _ => (StopsBy.of_tell _).bind fun _ => .of_pure st

end

/-! ## The end of a run -/

/-- **How the run of a story ends.** Either the error of a given story cuts it short, and the story
is still in progress. Or the story was told up to its last event, and then the policy decides by
the verdict on the results of the story itself: whether the run fails, and whether the cause is
logged. -/
theorem Runner.play_ends (r : Runner κ σ) (room : Nat) (outer : List Text) (embedded : Bool)
    (s : Story) (world : σ) :
    let chain := outer ++ [s.path]
    let o := r.play (room + 1) outer embedded s world
    let es := Entry.eventsOf o.trace
    (inProgress [] es ≠ [] ∧
      CutShort (r.enter (r.play room chain true) chain) s.givenPaths o) ∨
    (inProgress [] es = [] ∧
      o.result = r.configuration.policy.ending (verdict (ownResults [] es)) ∧
      (Entry.absorbedOf o.trace).filter (fun a => a.1 = s.path) =
        r.configuration.policy.logged s.path (verdict (ownResults [] es))) := by
  intro chain o es
  have hlevels := r.levels_enter (r.levels_play room chain) chain
  rcases r.tell_cases hlevels embedded s world with
    ⟨st, body, rs, hres, hes, hl, hk⟩ | ⟨h, body, hres, hes, ho⟩
  · have hrun : o = _ := Run.bind_of_ok hres (conclude s.path)
    obtain ⟨hresult, hevents, hlogged⟩ :=
      hk.decided.conclude s.path (r.tell _ embedded s world).world
    have hes' : es = .beforeStory s.path embedded :: body ++ [.afterStory embedded] := by
      show Entry.eventsOf o.trace = _
      rw [hrun, Entry.eventsOf_append, hevents, hes, List.append_nil]
    rw [hes', hl.ownResults_told]
    refine .inr ⟨hl.inProgress_told _ _, ?_, ?_⟩
    · rw [hrun]
      exact hresult
    · -- given stories log their causes under other paths
      have hnone : LogsNoneOf chain world (r.tell _ embedded s world).trace _ :=
        (traceRules_logsNoneOf chain).tell r ((traceRules_logsNoneOf chain).enter r
          (r.logsNoneOf_play room chain true)) embedded s world
      rw [hrun, Entry.absorbedOf_append, List.filter_append, hlogged,
        ErrorPolicy.filter_logged,
        List.filter_eq_nil_iff.mpr fun a ha => ?_, List.nil_append]
      have hne : a.1 ≠ s.path := fun heq => hnone a ha (heq ▸ List.mem_append_right _ (by simp))
      simpa using hne
  · obtain ⟨path, hp, before, w, e, he, hcut⟩ := r.stopsBy_tell embedded s world h hres
    have hrun : o = _ := Run.bind_of_error hres (conclude s.path)
    refine .inl ⟨?_, path, hp, before, w, e, he, ?_⟩
    · show inProgress [] (Entry.eventsOf o.trace) ≠ []
      rw [hrun, hes]
      exact ho.inProgress_ne_nil s.path embedded
    · -- what stopped the story up to its last event is what stops it at all
      rw [hcut] at hres hrun
      cases hres
      exact hrun

end Storyline
