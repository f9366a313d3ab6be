import Storyline.Proofs.Regex.Spans
import Storyline.Proofs.Regex.Steps

/-!
# Numbers of capture groups

Capture groups are numbered from one in the order of their opening brackets (`parse?_numbered`). A
step of the reader adds at most one group, behind all others and with the next number, and may lose
the groups of an expression that is repeated no times (`Reader.Grows`).
-/

set_option autoImplicit false

namespace Storyline.Regex

/-! ## Groups of what was read -/

theorem groups_altOf (rs : List Regex) : (altOf rs).groups = rs.flatMap Regex.groups := by
  induction rs with
  | nil => rfl
  | cons r rs ih =>
      cases rs with
      | nil => simp [altOf]
      | cons s rs =>
          rw [List.flatMap_cons, ← ih]
          rfl

theorem groups_repeated (r : Regex) (least : Nat) (most : Option Nat) (greedy : Bool) :
    (r.repeated least most greedy).groups.Sublist r.groups := by
  unfold repeated
  extract_lets least' most'
  split
  · exact List.nil_sublist _
  · split
    · exact List.Sublist.refl _
    · exact List.Sublist.refl _

namespace Branches

/-- The groups in the alternatives, in the order of their brackets. -/
def groups (b : Branches) : List (Nat × Option Text) := b.regex.groups

theorem groups_eq (b : Branches) :
    b.groups = b.finished.reverse.flatMap Regex.groups ++ b.last.groups := by
  simp [groups, regex, groups_altOf]

theorem groups_push_plain (b : Branches) (r : Regex) :
    (b.push (.plain r)).groups = b.groups ++ r.groups := by
  simp [groups_eq, push, last, groups_seqOf, Piece.regex?]

theorem groups_push_flags (b : Branches) : (b.push .flags).groups = b.groups := by
  have hflags (ps : List Piece) : (Piece.flags :: ps).filterMap Piece.regex? =
      ps.filterMap Piece.regex? := rfl
  simp [groups_eq, push, last, hflags]

theorem groups_bar (b : Branches) : b.bar.groups = b.groups := by
  simp [groups_eq, bar, last, seqOf, Regex.groups]

end Branches

theorem OpenGroup.groups_wrap (g : OpenGroup) (r : Regex) :
    (g.wrap r).groups = g.capture.toList ++ r.groups := by
  unfold wrap
  split
  · next h => rw [h]; rfl
  · next h => rw [h]; rfl

namespace Reader

/-- The groups that were read or are open, in the order of their brackets. -/
def groups (s : Reader) : List (Nat × Option Text) :=
  (s.stack.reverse.flatMap fun g => g.outside.groups ++ g.capture.toList) ++ s.current.groups

/-- At most one group is new, and it has the next number. -/
def Grows (s s' : Reader) : Prop :=
  (s'.groups.Sublist s.groups ∧ s'.next = s.next) ∨
    ∃ name, s'.groups = s.groups ++ [(s.next, name)] ∧ s'.next = s.next + 1

theorem Grows.of_eq {s s' : Reader} (h : s'.groups = s.groups) (hnext : s'.next = s.next) :
    Grows s s' := .inl ⟨h ▸ List.Sublist.refl _, hnext⟩

theorem grows_push (s : Reader) {r : Regex} (hr : r.groups = []) : Grows s (s.push r) :=
  .of_eq (by simp [groups, push, Branches.groups_push_plain, hr]) rfl

theorem groups_openGroup (s : Reader) (capture : Option (Nat × Option Text)) (f : Flags) :
    (s.openGroup capture f).groups = s.groups ++ capture.toList := by
  have hnil : ({} : Branches).groups = [] := rfl
  simp [groups, openGroup, hnil]

theorem grows_openCapture (s : Reader) (name : Option Text) : Grows s (s.openCapture name) :=
  .inr ⟨name, groups_openGroup s (some (s.next, name)) s.flags, rfl⟩

theorem grows_closeGroup? {s s' : Reader} (h : s.closeGroup? = some s') : Grows s s' := by
  unfold closeGroup? at h
  split at h
  · cases h
  · next g stack hstack =>
      cases h
      refine .of_eq ?_ rfl
      have hcurrent : s.current.regex.groups = s.current.groups := rfl
      simp [groups, hstack, Branches.groups_push_plain, OpenGroup.groups_wrap, hcurrent]

theorem grows_repeat? {s s' : Reader} {least : Nat} {most : Option Nat} {lazily : Bool}
    (h : s.repeat? least most lazily = some s') : Grows s s' := by
  unfold repeat? at h
  split at h
  · next r ps hpieces =>
      cases h
      refine .inl ⟨?_, rfl⟩
      -- the last piece is repeated, after what was read before it
      have hcurrent : s.current = Branches.push { s.current with pieces := ps } (.plain r) := by
        rw [Branches.push, ← hpieces]
      have hgroups (r' : Regex) : Branches.groups { s.current with pieces := .plain r' :: ps } =
          Branches.groups { s.current with pieces := ps } ++ r'.groups :=
        Branches.groups_push_plain { s.current with pieces := ps } r'
      have hold : s.current.groups = _ := (congrArg Branches.groups hcurrent).trans (hgroups r)
      simp only [groups, hgroups, hold]
      exact ((groups_repeated r _ _ _).append_left _).append_left _
  · cases h

theorem grows_openNamed? {s s' : Reader} {t w : Text} (h : s.openNamed? t = some (s', w)) :
    Grows s s' := by
  simp only [openNamed?] at h
  split at h
  · cases h
  · split at h
    · cases h
      exact grows_openCapture s _
    · cases h

theorem grows_startGroup? {s s' : Reader} {t w : Text} (h : s.startGroup? t = some (s', w)) :
    Grows s s' := by
  unfold startGroup? at h
  split at h
  case h_5 => exact grows_openNamed? h
  case h_6 => exact grows_openNamed? h
  case h_7 =>
    split at h
    · cases h
    · cases h
      exact .of_eq ((groups_openGroup s none _).trans (List.append_nil _)) rfl
    · cases h
      exact .of_eq (by simp [groups, Branches.groups_push_flags]) rfl
  case h_8 =>
    cases h
    exact grows_openCapture s none
  all_goals cases h

/-- A repetition has the groups of what it repeats. -/
theorem grows_of_map {s s' : Reader} {o : Option Reader} {t w : Text}
    (h : o.map (·, t) = some (s', w)) (ho : ∀ s₁, o = some s₁ → Grows s s₁) : Grows s s' := by
  obtain ⟨s₁, hs₁, heq⟩ := Option.map_eq_some_iff.mp h
  cases heq
  exact ho _ hs₁

theorem grows_counted? {s s' : Reader} {t w : Text} (h : s.counted? t = some (s', w)) :
    Grows s s' := by
  rw [counted?_eq] at h
  obtain ⟨x, -, htail⟩ := Option.bind_eq_some_iff.mp h
  obtain ⟨y, -, hbranch⟩ := Option.bind_eq_some_iff.mp htail
  unfold branch at hbranch
  split at hbranch
  · exact grows_of_map hbranch fun _ => grows_repeat?
  · exact grows_of_map hbranch fun _ => grows_repeat?

/-- An expression without groups is added. -/
theorem grows_of_map_push {α : Type} {s s' : Reader} {o : Option α} {r : α → Regex}
    {t : α → Text} {w : Text} (h : o.map (fun a => (s.push (r a), t a)) = some (s', w))
    (hr : ∀ a, (r a).groups = []) : Grows s s' := by
  obtain ⟨a, -, heq⟩ := Option.map_eq_some_iff.mp h
  cases heq
  exact grows_push s (hr a)

/-- **One step** of the reader adds at most one group, with the next number. -/
theorem grows_step? [ClassNames] {s s' : Reader} {c : Char} {t w : Text}
    (h : s.step? c t = some (s', w)) :
    Grows s s' := by
  unfold step? at h
  split at h
  · exact grows_startGroup? h
  · exact grows_of_map h fun _ => grows_closeGroup?
  · cases h
    exact .of_eq (by simp [groups, Branches.groups_bar]) rfl
  · exact grows_of_map_push h fun _ => rfl
  · exact grows_of_map h fun _ => grows_repeat?
  · exact grows_of_map h fun _ => grows_repeat?
  · exact grows_of_map h fun _ => grows_repeat?
  · exact grows_counted? h
  · exact grows_of_map_push h fun _ => rfl
  · cases h
    exact grows_push s rfl
  · cases h
    exact grows_push s rfl
  · exact grows_of_map_push h fun x => by cases x.1 <;> rfl
  · cases h
    exact grows_push s rfl

/-! ## Numbers -/

/-- The numbers of the groups increase from one on, below the next number. -/
structure Numbered (s : Reader) : Prop where
  increasing : (s.groups.map Prod.fst).Pairwise (· < ·)
  bounded : ∀ i ∈ s.groups.map Prod.fst, 1 ≤ i ∧ i < s.next
  next : 1 ≤ s.next

theorem Numbered.of_grows {s s' : Reader} (hs : Numbered s) (h : Grows s s') : Numbered s' := by
  rcases h with ⟨hgroups, hnext⟩ | ⟨name, hgroups, hnext⟩
  · have hnumbers := hgroups.map Prod.fst
    refine ⟨hs.increasing.sublist hnumbers, fun i hi => ?_, hnext ▸ hs.next⟩
    rw [hnext]
    exact hs.bounded i (hnumbers.subset hi)
  · refine ⟨?_, fun i hi => ?_, by omega⟩
    · rw [hgroups, List.map_append, List.pairwise_append]
      refine ⟨hs.increasing, List.pairwise_singleton _ _, fun i hi j hj => ?_⟩
      rw [List.mem_singleton.mp hj]
      exact (hs.bounded i hi).2
    · rw [hgroups, List.map_append, List.mem_append] at hi
      rw [hnext]
      rcases hi with hi | hi
      · have := hs.bounded i hi
        omega
      · rw [List.mem_singleton.mp hi]
        exact ⟨hs.next, Nat.lt_succ_self _⟩

theorem Steps.numbered [ClassNames] {s s' : Reader} {t t' : Text} (h : Steps s t s' t')
    (hs : Numbered s) :
    Numbered s' := by
  induction h with
  | refl => exact hs
  | step _ hstep _ ih => exact ih (hs.of_grows (grows_step? hstep))

end Reader

/-- **Capture groups are numbered in the order of their opening brackets.** -/
theorem parse?_numbered [ClassNames] {t : Text} {r : Regex} (h : parse? t = some r) :
    (r.groups.map Prod.fst).Pairwise (· < ·) ∧ ∀ i ∈ r.groups.map Prod.fst, 1 ≤ i := by
  obtain ⟨s, w, hsteps, -, hstack, rfl⟩ := Reader.exists_steps_of_parse? h
  have hs : Reader.Numbered s := hsteps.numbered ⟨by decide, by decide, by decide⟩
  have hgroups : s.groups = s.current.regex.groups := by
    rw [Reader.groups, hstack]
    rfl
  exact ⟨hgroups ▸ hs.increasing, fun i hi => (hs.bounded i (hgroups ▸ hi)).1⟩

theorem le_groupCount {r : Regex} {i : Nat} (h : i ∈ r.groups.map Prod.fst) : i ≤ r.groupCount := by
  have hfold (l : List Nat) (n : Nat) : n ≤ l.foldl max n ∧ ∀ i ∈ l, i ≤ l.foldl max n := by
    induction l generalizing n with
    | nil => exact ⟨Nat.le_refl n, by simp⟩
    | cons a l ih =>
        obtain ⟨hstart, hall⟩ := ih (max n a)
        rw [List.foldl_cons]
        refine ⟨(Nat.le_max_left n a).trans hstart, List.forall_mem_cons.mpr ⟨?_, hall⟩⟩
        exact (Nat.le_max_right n a).trans hstart
  exact (hfold _ 0).2 i h

/-- The names of the groups stand at their numbers. -/
theorem getElem?_groupNames {r : Regex} (hr : (r.groups.map Prod.fst).Pairwise (· < ·)) {i : Nat}
    {name : Option Text} (h : (i + 1, name) ∈ r.groups) : r.groupNames[i]? = some name := by
  have hcount : i < r.groupCount := le_groupCount (List.mem_map_of_mem h)
  have hlookup : r.groups.lookup (i + 1) = some name := by
    obtain ⟨before, after, hgroups⟩ := List.append_of_mem h
    refine List.lookup_eq_some_iff.mpr ⟨before, after, hgroups, fun p hp => ?_⟩
    -- the groups before have smaller numbers
    rw [hgroups, List.map_append, List.pairwise_append] at hr
    have hless := hr.2.2 p.1 (List.mem_map_of_mem hp) (i + 1) List.mem_cons_self
    simpa using Nat.ne_of_gt hless
  rw [groupNames, List.getElem?_map, List.getElem?_range hcount, Option.map_some, hlookup]
  rfl

end Storyline.Regex
