import Storyline.Proofs.Regex.Steps

/-!
# The items of a regular expression

The reader takes an expression item by item: a character, an escape, a class, the start or the end
of a group, and so on. `items` lists them with their texts, which make up the expression unless
blanks and comments do not count (`Reader.flatMap_text_of_run`).
-/

set_option autoImplicit false

namespace Storyline.Regex

/-- What the reader takes in one step, and its states before and after it. -/
structure Item where
  before : Reader
  text : Text
  after : Reader

namespace Reader

/-- The state after the items. -/
def afterItems (s : Reader) (is : List Item) : Reader := is.getLast?.elim s Item.after

theorem afterItems_cons (s : Reader) (i : Item) (is : List Item) :
    s.afterItems (i :: is) = i.after.afterItems is := by
  cases is with
  | nil => rfl
  | cons j is => rw [afterItems, afterItems, List.getLast?_cons_cons]; rfl

variable [ClassNames]

/-- The first item of a text, and what follows it. -/
def item? (s : Reader) (t : Text) : Option (Item × Text) :=
  let t := s.flags.skip t
  t.head?.bind fun c => (s.step? c t.tail).map fun x =>
    (⟨s, t.take (t.length - x.2.length), x.1⟩, x.2)

/-- The items of a text, up to a number. -/
def items : (rounds : Nat) → Reader → Text → List Item
  | 0, _, _ => []
  | n + 1, s, t => (s.item? t).elim [] fun x => x.1 :: items n x.1.after x.2

section

variable {s s' : Reader} {i : Item} {t t' : Text}

theorem item?_eq_none (h : s.flags.skip t = []) : s.item? t = none := by
  rw [item?, h]
  rfl

theorem item?_of_step? {c : Char} {r : Text} (hskip : s.flags.skip t = c :: r)
    (hstep : s.step? c r = some (s', t')) :
    ∃ w, c :: r = w ++ t' ∧ s.item? t = some (⟨s, w, s'⟩, t') := by
  obtain ⟨u, rfl⟩ := step?_suffix hstep
  refine ⟨c :: u, rfl, ?_⟩
  have htake : (c :: (u ++ t')).take ((c :: (u ++ t')).length - t'.length) = c :: u := by
    have hlength : (c :: (u ++ t')).length - t'.length = (c :: u).length := by
      simp only [List.length_cons, List.length_append]
      omega
    rw [hlength, ← List.cons_append, List.take_left]
  rw [item?, hskip]
  simp only [List.head?_cons, List.tail_cons, Option.bind_some, hstep, Option.map_some, htake]

/-- An item is what one step takes. -/
theorem step?_of_item? (h : s.item? t = some (i, t')) : (∃ c r, s.flags.skip t = c :: r ∧
    s.step? c r = some (i.after, t') ∧ c :: r = i.text ++ t') ∧ i.before = s := by
  cases hskip : s.flags.skip t with
  | nil =>
      rw [item?_eq_none hskip] at h
      cases h
  | cons c r =>
      cases hstep : s.step? c r with
      | none =>
          rw [item?, hskip] at h
          simp [hstep] at h
      | some x =>
          obtain ⟨w, hw, hitem⟩ := item?_of_step? hskip hstep
          rw [h] at hitem
          cases hitem
          exact ⟨⟨c, r, rfl, hstep, hw⟩, rfl⟩

theorem items_eq_cons {n : Nat} {is : List Item} (h : items n s t = i :: is) :
    ∃ m t', s.item? t = some (i, t') ∧ items m i.after t' = is := by
  cases n with
  | zero => cases h
  | succ n =>
      rw [items] at h
      cases hitem : s.item? t with
      | none =>
          rw [hitem] at h
          cases h
      | some x =>
          rw [hitem] at h
          obtain ⟨rfl, hrest⟩ := List.cons.inj h
          exact ⟨n, x.2, rfl, hrest⟩

/-- A run is at its end, or takes an item and goes on. -/
theorem items_of_run {n : Nat} (h : run n s t = some s') :
    (s.flags.skip t = [] ∧ items n s t = [] ∧ s = s') ∨ ∃ m i t₁, n = m + 1 ∧
      s.item? t = some (i, t₁) ∧ items n s t = i :: items m i.after t₁ ∧
      run m i.after t₁ = some s' := by
  rw [run.eq_def] at h
  cases hskip : s.flags.skip t with
  | nil =>
      simp only [hskip] at h
      refine .inl ⟨rfl, ?_, Option.some.inj h⟩
      cases n with
      | zero => rfl
      | succ n =>
          rw [items, item?_eq_none hskip]
          rfl
  | cons c r =>
      cases n with
      | zero =>
          simp only [hskip] at h
          cases h
      | succ n =>
          simp only [hskip] at h
          cases hstep : s.step? c r with
          | none =>
              rw [hstep] at h
              cases h
          | some x =>
              obtain ⟨s₁, t₁⟩ := x
              rw [hstep] at h
              obtain ⟨w, -, hitem⟩ := item?_of_step? hskip hstep
              refine .inr ⟨n, _, t₁, rfl, hitem, ?_, h⟩
              rw [items, hitem]
              rfl

/-- Where blanks count, the texts of the items of a run make up the text. -/
theorem flatMap_text_of_run {n : Nat} (h : run n s t = some s') (hs : s.flags.extended = false)
    (hplain : ∀ i ∈ items n s t, i.after.flags.extended = false) :
    (items n s t).flatMap Item.text = t := by
  induction n generalizing s t with
  | zero =>
      rcases items_of_run h with ⟨ht, hitems, -⟩ | ⟨m, i, t₁, hm, -⟩
      · rw [Flags.skip_of_not_extended hs] at ht
        rw [hitems, ht]
        rfl
      · cases hm
  | succ n ih =>
      rcases items_of_run h with ⟨ht, hitems, -⟩ | ⟨m, i, t₁, hm, hitem, hitems, hrest⟩
      · rw [Flags.skip_of_not_extended hs] at ht
        rw [hitems, ht]
        rfl
      · cases hm
        rw [hitems] at hplain ⊢
        obtain ⟨hi, hplain⟩ := List.forall_mem_cons.mp hplain
        obtain ⟨⟨c, r, hskip, -, htext⟩, -⟩ := step?_of_item? hitem
        rw [Flags.skip_of_not_extended hs] at hskip
        rw [List.flatMap_cons, ih hrest hi hplain, hskip, htext]

end

end Reader

/-- The items of an expression. -/
def items [ClassNames] (t : Text) : List Item := Reader.items t.length {} t

end Storyline.Regex
