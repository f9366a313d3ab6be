import Storyline.Proofs.Regex.Piece

/-!
# Whole runs of the reader

`Reader.Steps` is the run of the reader without its bound on the rounds. A run goes on in the same
way before a closing bracket (`Steps.extend`), and inside a group that is open around it
(`Steps.within`).
-/

set_option autoImplicit false

namespace Storyline.Regex.Reader

/-! ## Groups around the reader -/

theorem exists_closeGroup? {s : Reader} (h : s.stack ≠ []) : ∃ s', s.closeGroup? = some s' := by
  obtain ⟨flags, current, stack, names, next⟩ := s
  cases stack with
  | nil => exact absurd rfl h
  | cons g stack => exact ⟨_, rfl⟩

/-- The state inside one more group, open around all others. -/
def within (s : Reader) (g : OpenGroup) : Reader := { s with stack := s.stack ++ [g] }

theorem repeat?_within (s : Reader) (g : OpenGroup) (least : Nat) (most : Option Nat)
    (lazily : Bool) :
    (s.within g).repeat? least most lazily = (s.repeat? least most lazily).map (·.within g) := by
  simp only [repeat?, within]
  split <;> rfl

theorem map_repeat?_within (s : Reader) (g : OpenGroup) (least : Nat) (most : Option Nat)
    (lazily : Bool) (t : Text) :
    ((s.within g).repeat? least most lazily).map (·, t) =
      ((s.repeat? least most lazily).map (·, t)).map fun x => (x.1.within g, x.2) := by
  rw [repeat?_within, Option.map_map, Option.map_map]
  rfl

theorem openNamed?_within (s : Reader) (g : OpenGroup) (t : Text) :
    (s.within g).openNamed? t = (s.openNamed? t).map fun x => (x.1.within g, x.2) := by
  simp only [openNamed?, show (s.within g).names = s.names from rfl]
  split
  · rfl
  · split <;> rfl

theorem startGroup?_within (s : Reader) (g : OpenGroup) (t : Text) :
    (s.within g).startGroup? t = (s.startGroup? t).map fun x => (x.1.within g, x.2) := by
  simp only [startGroup?, show (s.within g).flags = s.flags from rfl]
  split
  case h_5 => exact openNamed?_within s g _
  case h_6 => exact openNamed?_within s g _
  case h_7 => split <;> rfl
  all_goals rfl

theorem counted?_within (s : Reader) (g : OpenGroup) (t : Text) :
    (s.within g).counted? t = (s.counted? t).map fun x => (x.1.within g, x.2) := by
  rw [counted?_eq, counted?_eq, Option.map_bind]
  refine Option.bind_congr fun x _ => ?_
  simp only [countedTail, Function.comp_apply, Option.map_bind]
  refine Option.bind_congr fun y _ => ?_
  simp only [branch, show (s.within g).flags = s.flags from rfl]
  split <;> exact map_repeat?_within s g _ _ _ _

theorem closeGroup?_within {s s' : Reader} (g : OpenGroup) (h : s.closeGroup? = some s') :
    (s.within g).closeGroup? = some (s'.within g) := by
  obtain ⟨flags, current, stack, names, next⟩ := s
  cases stack with
  | nil => cases h
  | cons g' stack =>
      cases h
      rfl

theorem finish?_within (s : Reader) (g : OpenGroup) : (s.within g).finish? = none := by
  simp [finish?, within]

/-! ## Steps -/

variable [ClassNames]

/-- The reader takes the text `t` up to `t'`, and its state goes from `s` to `s'`. -/
inductive Steps : Reader → Text → Reader → Text → Prop
  | refl (s : Reader) (t : Text) : Steps s t s t
  | step {s s₁ s' : Reader} {c : Char} {t r t₁ t' : Text} (hskip : s.flags.skip t = c :: r)
    (hstep : s.step? c r = some (s₁, t₁)) (hrest : Steps s₁ t₁ s' t') : Steps s t s' t'

/-- What is left counts for nothing. -/
def AtEnd (s : Reader) (t : Text) : Prop := s.flags.skip t = []

/-- What is left starts with no piece. -/
def Stuck (s : Reader) (t : Text) : Prop := ∃ c r, s.flags.skip t = c :: r ∧ s.step? c r = none

section

variable {s s' s'' : Reader} {t t' t'' : Text}

theorem Steps.trans (h : Steps s t s' t') (h' : Steps s' t' s'' t'') : Steps s t s'' t'' := by
  induction h with
  | refl => exact h'
  | step hskip hstep _ ih => exact .step hskip hstep (ih h')

theorem Steps.single {c : Char} {r : Text} (hskip : s.flags.skip t = c :: r)
    (hstep : s.step? c r = some (s', t')) : Steps s t s' t' :=
  .step hskip hstep (.refl s' t')

theorem step?_suffix {c : Char} (h : s.step? c t = some (s', t')) : t' <:+ t := by
  by_cases hc : c = ')'
  · subst hc
    obtain ⟨s₁, -, heq⟩ := Option.map_eq_some_iff.mp h
    cases heq
    exact List.suffix_refl t
  · exact (tight_step? s hc).suffix h

theorem step?_close_of_some (h : s.closeGroup? = some s') (t : Text) :
    s.step? ')' t = some (s', t) := by
  change s.closeGroup?.map (·, t) = _
  rw [h]
  rfl

/-- Every step takes a character. -/
theorem length_lt_of_step? {c : Char} {r : Text} (hskip : s.flags.skip t = c :: r)
    (h : s.step? c r = some (s', t')) : t'.length < t.length := by
  have hr : r.length < t.length := (hskip ▸ s.flags.skip_suffix t).length_le
  exact (step?_suffix h).length_le.trans_lt hr

/-! ## Runs -/

/-- The bound on the rounds suffices for all steps. -/
theorem Steps.run_eq (h : Steps s t s' t') {n : Nat} (hn : t.length ≤ n) :
    ∃ n', t'.length ≤ n' ∧ run n s t = run n' s' t' := by
  induction h generalizing n with
  | refl => exact ⟨n, hn, rfl⟩
  | @step s s₁ s' c t r t₁ t' hskip hstep _ ih =>
      have hlength := length_lt_of_step? hskip hstep
      obtain ⟨n, rfl⟩ : ∃ k, n = k + 1 := ⟨n - 1, by omega⟩
      obtain ⟨n', hn', hrun⟩ := ih (n := n) (by omega)
      refine ⟨n', hn', ?_⟩
      rw [run.eq_def]
      simp only [hskip, hstep, hrun]

theorem Steps.run_of_atEnd (h : Steps s t s' t') (hend : AtEnd s' t') {n : Nat}
    (hn : t.length ≤ n) : run n s t = some s' := by
  obtain ⟨n', -, hrun⟩ := h.run_eq hn
  rw [hrun, run.eq_def]
  simp only [show s'.flags.skip t' = [] from hend]

theorem Steps.run_of_stuck (h : Steps s t s' t') (hstuck : Stuck s' t') {n : Nat}
    (hn : t.length ≤ n) : run n s t = none := by
  obtain ⟨n', -, hrun⟩ := h.run_eq hn
  obtain ⟨c, r, hskip, hstep⟩ := hstuck
  rw [hrun, run.eq_def]
  cases n' with
  | zero => simp only [hskip]
  | succ n' => simp only [hskip, hstep]

/-- Every run comes to the end of the text, or to a place where no piece starts. -/
theorem exists_steps (s : Reader) (t : Text) :
    ∃ s' t', Steps s t s' t' ∧ (AtEnd s' t' ∨ Stuck s' t') := by
  induction hn : t.length using Nat.strong_induction_on generalizing s t with
  | _ n ih =>
  cases hskip : s.flags.skip t with
  | nil => exact ⟨s, t, .refl s t, .inl hskip⟩
  | cons c r =>
      cases hstep : s.step? c r with
      | none => exact ⟨s, t, .refl s t, .inr ⟨c, r, hskip, hstep⟩⟩
      | some x =>
          obtain ⟨s₁, t₁⟩ := x
          have hlength := length_lt_of_step? hskip hstep
          obtain ⟨s', t', hsteps, hend⟩ := ih t₁.length (by omega) s₁ t₁ rfl
          exact ⟨s', t', .step hskip hstep hsteps, hend⟩

/-! ## Before a closing bracket -/

theorem step?_extend {c : Char} (h : s.step? c t = some (s', t')) :
    (∀ v, '\n' ∉ v → s.step? c (t ++ ')' :: v) = some (s', t' ++ ')' :: v)) ∨
      (t' = [] ∧ ∀ v, '\n' ∉ v → s.step? c (t ++ ')' :: v) = some (s', [])) := by
  by_cases hc : c = ')'
  · subst hc
    obtain ⟨s₁, hclose, heq⟩ := Option.map_eq_some_iff.mp h
    cases heq
    refine .inl fun v _ => ?_
    change s.closeGroup?.map _ = _
    rw [hclose]
    rfl
  · exact (tight_step? s hc).extend h

/-- A run goes on in the same way if a closing bracket and the end of a line follow, or else they
are in a comment at its end. -/
theorem Steps.extend (h : Steps s t s' t') :
    (∀ v, '\n' ∉ v → Steps s (t ++ ')' :: v) s' (t' ++ ')' :: v)) ∨
      (t' = [] ∧ ∀ v, '\n' ∉ v → Steps s (t ++ ')' :: v) s' []) := by
  induction h with
  | refl s t => exact .inl fun v _ => .refl s _
  | @step s s₁ s' c t r t₁ t' hskip hstep hrest ih =>
      have hskip' (v : Text) := Flags.skip_append hskip (')' :: v)
      rcases step?_extend hstep with hstep' | ⟨rfl, hstep'⟩
      · refine ih.imp (fun ih v hv => ?_) fun ⟨ht', ih⟩ => ⟨ht', fun v hv => ?_⟩
        all_goals exact .step (hskip' v) (hstep' v hv) (ih v hv)
      · -- nothing is left, so that no further step was made
        cases hrest with
        | refl => exact .inr ⟨rfl, fun v hv => .single (hskip' v) (hstep' v hv)⟩
        | step hskip₁ => rw [Flags.skip_nil] at hskip₁; cases hskip₁

/-- At the end of an expression the closing bracket comes next, or else it is in a comment. -/
theorem Steps.extend_of_atEnd (h : Steps s t s' t') (hend : AtEnd s' t') :
    (∀ v, '\n' ∉ v → ∃ w, Steps s (t ++ ')' :: v) s' w ∧ s'.flags.skip w = ')' :: v) ∨
      ∀ v, '\n' ∉ v → ∃ w, Steps s (t ++ ')' :: v) s' w ∧ AtEnd s' w := by
  rcases h.extend with h' | ⟨-, h'⟩
  · rcases Flags.skip_append_of_nil hend with hall | hall
    · exact .inl fun v hv => ⟨_, h' v hv, hall v⟩
    · exact .inr fun v hv => ⟨_, h' v hv, hall v hv⟩
  · exact .inr fun v hv => ⟨_, h' v hv, s'.flags.skip_nil⟩

/-! ## Inside a group -/

/-- A piece other than a closing bracket is read without regard to the groups around it. -/
theorem step?_within (s : Reader) (g : OpenGroup) {c : Char} (hc : c ≠ ')') (t : Text) :
    (s.within g).step? c t = (s.step? c t).map fun x => (x.1.within g, x.2) := by
  unfold step?
  split
  · exact startGroup?_within s g t
  · exact absurd rfl hc
  · rfl
  · rw [Option.map_map]; rfl
  · exact map_repeat?_within s g _ _ _ _
  · exact map_repeat?_within s g _ _ _ _
  · exact map_repeat?_within s g _ _ _ _
  · exact counted?_within s g t
  · rw [Option.map_map]; rfl
  · rfl
  · rfl
  · rw [Option.map_map]; rfl
  · rfl

theorem step?_within_of_some {c : Char} (g : OpenGroup) (h : s.step? c t = some (s', t')) :
    (s.within g).step? c t = some (s'.within g, t') := by
  by_cases hc : c = ')'
  · subst hc
    obtain ⟨s₁, hclose, heq⟩ := Option.map_eq_some_iff.mp h
    cases heq
    change (s.within g).closeGroup?.map _ = _
    rw [closeGroup?_within g hclose]
    rfl
  · rw [step?_within s g hc, h]
    rfl

theorem Steps.within (g : OpenGroup) (h : Steps s t s' t') :
    Steps (s.within g) t (s'.within g) t' := by
  induction h with
  | refl => exact .refl _ _
  | step hskip hstep _ ih => exact .step hskip (step?_within_of_some g hstep) ih

/-- Without a closing bracket the groups that are open stay so. -/
theorem Steps.exists_within {g : OpenGroup} (h : Steps (s.within g) t s' t') (ht : ')' ∉ t) :
    ∃ s₁ : Reader, s' = s₁.within g := by
  generalize hs : s.within g = s₀ at h
  induction h generalizing s with
  | refl => exact ⟨s, hs.symm⟩
  | @step s₀ s₁ s' c t r t₁ t' hskip hstep _ ih =>
      subst hs
      have hr : c :: r <:+ t := hskip ▸ Flags.skip_suffix _ t
      have hc : c ≠ ')' := fun hc => ht (hr.subset (hc ▸ List.mem_cons_self))
      have ht₁ : ')' ∉ t₁ := fun hmem =>
        ht (hr.subset (List.mem_cons_of_mem c ((step?_suffix hstep).subset hmem)))
      rw [step?_within s g hc] at hstep
      obtain ⟨x, -, heq⟩ := Option.map_eq_some_iff.mp hstep
      cases heq
      exact ih ht₁ rfl

end

/-! ## Expressions -/

theorem parse?_of_atEnd {s : Reader} {t w : Text} (h : Steps {} t s w) (hend : AtEnd s w) :
    parse? t = s.finish? := by
  rw [parse?, h.run_of_atEnd hend (Nat.le_refl _)]
  rfl

theorem parse?_of_stuck {s : Reader} {t w : Text} (h : Steps {} t s w) (hstuck : Stuck s w) :
    parse? t = none := by
  rw [parse?, h.run_of_stuck hstuck (Nat.le_refl _)]
  rfl

/-- A group that is not closed. -/
theorem parse?_of_within {s : Reader} {g : OpenGroup} {t w : Text} (h : Steps {} t (s.within g) w)
    (hw : ')' ∉ w) : parse? t = none := by
  obtain ⟨s', w', h', hend⟩ := exists_steps (s.within g) w
  rcases hend with hend | hstuck
  · obtain ⟨s₁, rfl⟩ := h'.exists_within hw
    rw [parse?_of_atEnd (h.trans h') hend, finish?_within]
  · exact parse?_of_stuck (h.trans h') hstuck

/-- What an expression is read as, and how far. -/
theorem exists_steps_of_parse? {t : Text} {r : Regex} (h : parse? t = some r) :
    ∃ s w, Steps {} t s w ∧ AtEnd s w ∧ s.stack = [] ∧ s.current.regex = r := by
  obtain ⟨s, w, hsteps, hend | hstuck⟩ := exists_steps {} t
  · rw [parse?_of_atEnd hsteps hend, finish?] at h
    split at h
    · next hstack => exact ⟨s, w, hsteps, hend, List.isEmpty_iff.mp hstack, Option.some.inj h⟩
    · cases h
  · rw [parse?_of_stuck hsteps hstuck] at h
    cases h

end Storyline.Regex.Reader
