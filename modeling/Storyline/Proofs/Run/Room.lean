import Mathlib.Data.List.Perm.Subperm
import Storyline.Batch
import Storyline.Proofs.Run.Nesting

/-!
# Room for given stories

Stories list each other in any way, and the text of a given story is only known once it is loaded.
Still, a run with the stories of a store comes to its end: the stories in progress are distinct, and
all but the first are stored (`Runner.Nested.length_le`), so that no more than one story beyond
those of the store is ever in progress. With that much room on the call stack a run does not use it
up, and more room changes nothing (`Runner.runTarget_ends`).
-/

set_option autoImplicit false

namespace Storyline

variable {κ σ : Type}

/-! ## More room -/

section

variable {α β : Type}

/-- Wherever the first run does not use up the call stack, the second one does the same. -/
def ExtendsTo (x y : StoryRun κ σ α) : Prop :=
  ∀ w, (x w).result ≠ .error .overflow → y w = x w

theorem ExtendsTo.refl (x : StoryRun κ σ α) : ExtendsTo x x := fun _ _ => rfl

theorem ExtendsTo.bind {x y : StoryRun κ σ α} {f g : α → StoryRun κ σ β} (hx : ExtendsTo x y)
    (hf : ∀ a, ExtendsTo (f a) (g a)) : ExtendsTo (x >>= f) (y >>= g) := by
  intro w hne
  cases hres : (x w).result with
  | error h =>
      rw [Run.bind_of_error hres] at hne ⊢
      have hy : y w = x w := by
        refine hx w fun he => hne ?_
        cases hres.symm.trans he
        rfl
      rw [← hy] at hres ⊢
      exact Run.bind_of_error hres g
  | ok a =>
      rw [Run.bind_of_ok hres] at hne ⊢
      have hy : y w = x w := hx w (by simp [hres])
      rw [← hy] at hres hne ⊢
      rw [Run.bind_of_ok hres, hf a _ hne]

end

namespace Runner

variable (r : Runner κ σ)

/-- The runner with room for `room` stories at once. -/
def withRoom (room : Nat) : Runner κ σ := { r with stack := room }

variable (room : Nat)

/-- The steps of a story need no room for stories. -/
theorem rows_withRoom (st : RunState) (lines : List Text) (rows : List Row) :
    (r.withRoom room).rows st lines rows = r.rows st lines rows := by
  induction rows generalizing st with
  | nil => rfl
  | cons row rest ih =>
      unfold Runner.rows
      simp only [ih]
      rfl

theorem examples_withRoom (st : RunState) (s : Scenario) :
    (r.withRoom room).examples st s = r.examples st s := by
  unfold examples
  simp only [rows_withRoom]
  rfl

section

variable {enter enter' : Text → StoryRun κ σ Unit}
  (h : ∀ path, ExtendsTo (enter path) (enter' path))
include h

theorem extendsTo_enterAll (paths : List Text) :
    ExtendsTo (enterAll enter paths) (enterAll enter' paths) := by
  induction paths with
  | nil => exact .refl _
  | cons path rest ih => exact (h path).bind fun _ => ih

theorem extendsTo_givens (paths : List Text) :
    ExtendsTo (givens enter paths) (givens enter' paths) := by
  unfold givens
  split
  · exact .refl _
  · exact (ExtendsTo.refl _).bind fun _ => extendsTo_enterAll h paths

theorem extendsTo_scenario (st : RunState) (s : Scenario) :
    ExtendsTo (r.scenario enter st s) ((r.withRoom room).scenario enter' st s) := by
  unfold scenario
  rw [examples_withRoom]
  exact (ExtendsTo.refl _).bind fun _ => (extendsTo_givens h s.givenStories).bind fun _ => .refl _

theorem extendsTo_scenarios (st : RunState) (ss : List Scenario) :
    ExtendsTo (r.scenarios enter st ss) ((r.withRoom room).scenarios enter' st ss) := by
  induction ss generalizing st with
  | nil => exact .refl _
  | cons s rest ih => exact (r.extendsTo_scenario room h st s).bind ih

theorem extendsTo_walk (embedded : Bool) (s : Story) :
    ExtendsTo (r.walk enter embedded s) ((r.withRoom room).walk enter' embedded s) := by
  have hparts (st : RunState) :
      ExtendsTo (r.parts enter st s) ((r.withRoom room).parts enter' st s) :=
    (extendsTo_givens h s.givenStories).bind fun _ => (ExtendsTo.refl _).bind fun st =>
      (r.extendsTo_scenarios room h st s.scenarios).bind fun _ => .refl _
  have htell : ExtendsTo (r.tell enter embedded s) ((r.withRoom room).tell enter' embedded s) :=
    (ExtendsTo.refl _).bind fun _ => (ExtendsTo.refl _).bind fun _ =>
      (hparts _).bind fun _ => .refl _
  exact htell.bind fun _ => .refl _

end

theorem extendsTo_enter {run run' : Story → StoryRun κ σ Unit}
    (h : ∀ s, ExtendsTo (run s) (run' s)) (chain : List Text) (path : Text) :
    ExtendsTo (r.enter run chain path) ((r.withRoom room).enter run' chain path) := by
  unfold enter
  split
  · exact .refl _
  · exact (ExtendsTo.refl _).bind fun _ => (ExtendsTo.refl _).bind h

/-- **More room does not change a run that has enough of it.** The induction is on the room that is
enough. -/
theorem extendsTo_play (left more : Nat) (outer : List Text) (embedded : Bool) (s : Story) :
    ExtendsTo (r.play left outer embedded s)
      ((r.withRoom room).play (left + more) outer embedded s) := by
  induction left generalizing outer embedded s with
  | zero => exact fun w hne => absurd rfl hne
  | succ left ih =>
      rw [Nat.add_right_comm]
      exact r.extendsTo_walk room (r.extendsTo_enter room (ih _ true) _) embedded s

theorem extendsTo_runTarget (more : Nat) (t : Target) :
    ExtendsTo (r.runTarget t) ((r.withRoom (r.stack + more)).runTarget t) := by
  have hrun (s : Story) : ExtendsTo (r.run s) ((r.withRoom (r.stack + more)).run s) :=
    r.extendsTo_play (r.stack + more) r.stack more [] false s
  cases t with
  | story s => exact hrun s
  | path p => exact (ExtendsTo.refl (r.define p)).bind hrun

/-! ## Stories of a store -/

/-- The runner with the stories of a store. -/
def withStore (store : StoryStore) : Runner κ σ := { r with loader := store.load }

variable {r}

/-- The stories that run on behalf of each other are distinct, and only the first need not be
stored. -/
theorem Nested.length_le {store : StoryStore} (hload : r.loader = store.load) {root s : Story}
    {chain : List Text} (h : r.Nested root chain s) : chain.length ≤ store.size + 1 := by
  have hsub : chain.tail ⊆ store.stories.map (·.1) := by
    intro p hp
    obtain ⟨t, ht⟩ := h.stored p hp
    exact mem_of_stored? hload ht
  have hle : chain.tail.length ≤ store.size := by
    have hlength := (List.subperm_of_subset h.nodup.tail hsub).length_le
    rwa [List.length_map] at hlength
  rw [List.length_tail] at hle
  omega

theorem InChain.length_le {store : StoryStore} (hload : r.loader = store.load) {root : Story}
    {paths : List Text} (h : r.InChain root paths) : paths.length ≤ store.size + 1 := by
  rcases h with rfl | ⟨s, h⟩
  · exact Nat.zero_le _
  · exact h.length_le hload

variable (r)

/-- A story of a batch leaves what the run of some story leaves, if only that of loading it. -/
theorem nests_runTarget (t : Target) (w : σ) :
    ∃ root, r.Nests root r.stack [] (r.runTarget t w) := by
  cases t with
  | story s => exact ⟨s, r.nests_run s w⟩
  | path p =>
      cases hp : r.stored? p with
      | none =>
          refine ⟨{ path := p }, nests_define (.inl rfl) (fun t ht => ?_) w⟩
          rw [hp] at ht
          cases ht
      | some s =>
          refine ⟨s, nests_define (.inl rfl) (fun t ht => ?_) w⟩
          cases hp.symm.trans ht
          exact r.nests_run s

/-- A run with the stories of a store does not use up a call stack that has room for one more. -/
theorem runTarget_ne_overflow {store : StoryStore} (hload : r.loader = store.load)
    (hroom : store.size < r.stack) (t : Target) (w : σ) :
    (r.runTarget t w).result ≠ .error .overflow := by
  obtain ⟨root, hnests⟩ := r.nests_runTarget t w
  intro hres
  cases hnests.stops _ hres with
  | overflow h hlong => exact Nat.not_lt.mpr (Nat.le_trans (h.length_le hload) hroom) hlong

/-- **Every run with the stories of a store comes to its end.** Whatever the stories list, one and
the same outcome results with any room for more stories than the store has, the call stack is not
used up, and never more than one story beyond those of the store is in progress. -/
theorem runTarget_ends (store : StoryStore) (t : Target) (world : σ) :
    ∃ o : Outcome (Entry κ σ) σ RunError Unit,
      (∀ room, store.size < room →
        ((r.withStore store).withRoom room).runTarget t world = o) ∧
      o.result ≠ .error .overflow ∧
      ∀ es, es <+: Entry.eventsOf o.trace → (pathsInProgress [] es).length ≤ store.size + 1 := by
  let enough : Runner κ σ := (r.withStore store).withRoom (store.size + 1)
  obtain ⟨root, hnests⟩ := enough.nests_runTarget t world
  have hne : (enough.runTarget t world).result ≠ .error .overflow :=
    enough.runTarget_ne_overflow rfl (Nat.lt_succ_self _) t world
  refine ⟨_, fun room hroom => ?_, hne, fun es hes => (hnests.always es hes).length_le rfl⟩
  obtain ⟨more, rfl⟩ := Nat.exists_eq_add_of_le (Nat.succ_le_of_lt hroom)
  exact enough.extendsTo_runTarget more t world hne

end Runner

end Storyline
