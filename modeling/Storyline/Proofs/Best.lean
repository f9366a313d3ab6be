import Storyline.Best

/-!
# What is best in a list

For an order that only ranks elements, so that several can be equally good, `best?` picks the first
of the best ones (`firstBest_of_best?`).
-/

set_option autoImplicit false

namespace Storyline

variable {α : Type} {exceeds : α → α → Bool}

/-- The element exceeds all before it in the list, and none after it exceeds it. -/
def FirstBest (exceeds : α → α → Bool) (l : List α) (a : α) : Prop :=
  ∃ before after, l = before ++ a :: after ∧ (∀ b ∈ before, exceeds a b = true) ∧
    ∀ b ∈ after, exceeds b a = false

theorem FirstBest.mem {l : List α} {a : α} (h : FirstBest exceeds l a) : a ∈ l := by
  obtain ⟨before, after, rfl, -, -⟩ := h
  simp

theorem best?_eq_none {l : List α} : best? exceeds l = none ↔ l = [] := by
  cases l <;> simp [best?]

/-- What is best is decided by what the order looks at. -/
theorem map_best? {β : Type} (exceeds : β → β → Bool) (f : α → β) (l : List α) :
    (best? (fun a b => exceeds (f a) (f b)) l).map f = best? exceeds (l.map f) := by
  have hfoldl (a : α) (l : List α) :
      f (l.foldl (better fun a b => exceeds (f a) (f b)) a) =
        (l.map f).foldl (better exceeds) (f a) := by
    induction l generalizing a with
    | nil => rfl
    | cons b l ih =>
        rw [List.foldl_cons, List.map_cons, List.foldl_cons, ih, better, better, apply_ite f]
  cases l with
  | nil => rfl
  | cons a l => exact congrArg some (hfoldl a l)

/-- An order that only ranks elements. -/
structure Ranks (exceeds : α → α → Bool) : Prop where
  irrefl : ∀ a, exceeds a a = false
  trans : ∀ {a b c}, exceeds a b = true → exceeds b c = true → exceeds a c = true
  /-- What lies between two elements differs from one of them. -/
  between : ∀ {a c}, exceeds a c = true → ∀ b, exceeds a b = true ∨ exceeds b c = true

theorem Ranks.asymm (ho : Ranks exceeds) {a b : α} (h : exceeds a b = true) :
    exceeds b a = false := by
  cases hb : exceeds b a with
  | false => rfl
  | true =>
      have hrefl := ho.irrefl a
      rw [ho.trans h hb] at hrefl
      cases hrefl

/-- No element of the list exceeds the best one. -/
theorem FirstBest.not_exceeds (ho : Ranks exceeds) {l : List α} {a b : α}
    (h : FirstBest exceeds l a) (hb : b ∈ l) : exceeds b a = false := by
  obtain ⟨before, after, rfl, hbefore, hafter⟩ := h
  rcases List.mem_append.mp hb with hb | hb
  · exact ho.asymm (hbefore b hb)
  · rcases List.mem_cons.mp hb with rfl | hb
    · exact ho.irrefl b
    · exact hafter b hb

/-- An element in front that another one exceeds is passed over for good. -/
theorem FirstBest.skip (ho : Ranks exceeds) {l : List α} {a b w : α}
    (h : FirstBest exceeds (b :: l) w) (hb : exceeds b a = true) :
    FirstBest exceeds (a :: b :: l) w := by
  have hwa : exceeds w a = true := by
    rcases ho.between hb w with hbw | hwa
    · rw [h.not_exceeds ho List.mem_cons_self] at hbw
      cases hbw
    · exact hwa
  obtain ⟨before, after, hl, hbefore, hafter⟩ := h
  refine ⟨a :: before, after, by rw [hl, List.cons_append], ?_, hafter⟩
  intro c hc
  rcases List.mem_cons.mp hc with rfl | hc
  · exact hwa
  · exact hbefore c hc

/-- A second element that does not exceed the first one is passed over. -/
theorem FirstBest.insert (ho : Ranks exceeds) {l : List α} {a b w : α}
    (h : FirstBest exceeds (a :: l) w) (hb : exceeds b a = false) :
    FirstBest exceeds (a :: b :: l) w := by
  obtain ⟨before, after, hl, hbefore, hafter⟩ := h
  cases before with
  | nil =>
      rw [List.nil_append, List.cons.injEq] at hl
      obtain ⟨rfl, rfl⟩ := hl
      refine ⟨[], b :: l, rfl, by simp, ?_⟩
      intro c hc
      rcases List.mem_cons.mp hc with rfl | hc
      · exact hb
      · exact hafter c hc
  | cons d before =>
      rw [List.cons_append, List.cons.injEq] at hl
      obtain ⟨rfl, rfl⟩ := hl
      refine ⟨a :: b :: before, after, rfl, ?_, hafter⟩
      intro c hc
      rcases List.mem_cons.mp hc with rfl | hc
      · exact hbefore c List.mem_cons_self
      · rcases List.mem_cons.mp hc with rfl | hc
        · -- what exceeds the first element exceeds what does not
          rcases ho.between (hbefore a List.mem_cons_self) c with h | h
          · exact h
          · rw [hb] at h
            cases h
        · exact hbefore c (List.mem_cons_of_mem _ hc)

/-- The induction is on the rest of the list, from any element that is the best one so far. -/
theorem firstBest_foldl (ho : Ranks exceeds) (a : α) (l : List α) :
    FirstBest exceeds (a :: l) (l.foldl (better exceeds) a) := by
  induction l generalizing a with
  | nil => exact ⟨[], [], rfl, by simp, by simp⟩
  | cons b l ih =>
      rw [List.foldl_cons, better]
      split
      · next hb => exact (ih b).skip ho hb
      · next hb => exact (ih a).insert ho (by simpa using hb)

/-- **The first of the best elements is picked.** -/
theorem firstBest_of_best? (ho : Ranks exceeds) {l : List α} {a : α}
    (h : best? exceeds l = some a) : FirstBest exceeds l a := by
  cases l with
  | nil => cases h
  | cons b l =>
      rw [best?, Option.some.injEq] at h
      rw [← h]
      exact firstBest_foldl ho b l

end Storyline
