import Storyline.Pattern.Specificity

/-!
# What the counter of literals passes over

`Specificity.countLiterals` goes over a regular expression without reading it, and keeps only a
scope. `Counts` says to which scope a text leads it, and how many characters it counts on the way;
these relations compose.
-/

set_option autoImplicit false

namespace Storyline.Regex

open Specificity (Scope countLiterals)

/-! ## Texts that the counter passes over -/

/-- From the first scope the counter comes to the second one over the text, and has counted `k`
characters. -/
def Counts (sc : Scope) (w : Text) (sc' : Scope) (k : Nat) : Prop :=
  ∀ t, countLiterals sc (w ++ t) = k + countLiterals sc' t

namespace Counts

variable {d : Nat}

theorem nil (sc : Scope) : Counts sc [] sc 0 := fun _ => (Nat.zero_add _).symm

theorem append {sc sc' sc'' : Scope} {w w' : Text} {k k' : Nat} (h : Counts sc w sc' k)
    (h' : Counts sc' w' sc'' k') : Counts sc (w ++ w') sc'' (k + k') := by
  intro t
  rw [List.append_assoc, h, h', Nat.add_assoc]

theorem cons {sc sc' sc'' : Scope} {c : Char} {w : Text} {k : Nat} (h : Counts sc [c] sc' 0)
    (h' : Counts sc' w sc'' k) : Counts sc (c :: w) sc'' k := by
  have happend := h.append h'
  rwa [Nat.zero_add] at happend

theorem openGroup : Counts (.groups d) ['('] (.groups (d + 1)) 0 := fun t => by
  simp [countLiterals]

theorem closeGroup : Counts (.groups (d + 1)) [')'] (.groups d) 0 := fun t => by
  simp [countLiterals]

theorem escape (c : Char) : Counts (.groups d) ['\\', c] (.groups d)
    (if d = 0 && !c.isAlphanum then 1 else 0) := fun t => by
  simp [countLiterals]

/-- Characters that change the scope, or the meaning of the next one. -/
def Special (c : Char) : Prop := c ∈ ['\\', '(', ')', '[', '\x7B']

instance (c : Char) : Decidable (Special c) := inferInstanceAs (Decidable (c ∈ _))

theorem plain {c : Char} (hc : ¬ Special c) : Counts (.groups d) [c] (.groups d)
    (if d = 0 && !".^$*+?|".toList.contains c then 1 else 0) := fun t => by
  simp only [Special, List.mem_cons, List.not_mem_nil, or_false, not_or] at hc
  obtain ⟨hbackslash, hopen, hclose, hclass, hbrace⟩ := hc
  rw [List.singleton_append, countLiterals]
  · exact fun h _ => hbackslash h
  · exact fun _ _ h _ => hbackslash h
  · exact hopen
  · exact hclose
  · exact hclass
  · exact hbrace

theorem operators {w : Text} (hw : ∀ c ∈ w, c ∈ ".^$*+?|".toList) :
    Counts (.groups d) w (.groups d) 0 := by
  have hplain : ∀ c ∈ ".^$*+?|".toList, ¬ Special c := by simp [Special]
  induction w with
  | nil => exact .nil _
  | cons c w ih =>
      obtain ⟨hc, hw⟩ := List.forall_mem_cons.mp hw
      have hcount := plain (d := d) (hplain c hc)
      rw [List.contains_iff_mem.mpr hc, Bool.not_true, Bool.and_false, if_neg Bool.false_ne_true]
        at hcount
      exact hcount.cons (ih hw)

theorem braces {w : Text} (hw : '\x7D' ∉ w) :
    Counts (.groups d) ('\x7B' :: (w ++ ['\x7D'])) (.groups d) 0 := by
  have hinside : Counts (.braces d) (w ++ ['\x7D']) (.groups d) 0 := by
    intro t
    induction w with
    | nil => simp [countLiterals]
    | cons c w ih =>
        have hc : c ≠ '\x7D' := fun h => hw (h ▸ List.mem_cons_self)
        rw [List.cons_append, List.cons_append, countLiterals, if_neg hc]
        exact ih fun h => hw (List.mem_cons_of_mem c h)
  have hopen : Counts (.groups d) ['\x7B'] (.braces d) 0 := fun t => by simp [countLiterals]
  exact hopen.cons hinside

end Counts

/-! ## Classes -/

/-- What follows the first item of a class, if the first closing bracket that has no backslash ends
the class. -/
inductive Enclosed : Text → Prop
  | close : Enclosed [']']
  | escaped (c : Char) {t : Text} : Enclosed t → Enclosed ('\\' :: c :: t)
  | plain {c : Char} {t : Text} (hbackslash : c ≠ '\\') (hclose : c ≠ ']') :
    Enclosed t → Enclosed (c :: t)

theorem Enclosed.of_plain {w : Text} (hw : ∀ c ∈ w, c ≠ '\\' ∧ c ≠ ']') :
    Enclosed (w ++ [']']) := by
  induction w with
  | nil => exact .close
  | cons c w ih =>
      obtain ⟨⟨hbackslash, hclose⟩, hw⟩ := List.forall_mem_cons.mp hw
      exact .plain hbackslash hclose (ih hw)

/-- A class in which no other closing bracket stands than one at its start and escaped ones. Carets
before a closing bracket are at the start. -/
def IsSimpleClass (w : Text) : Prop := ∃ carets c t, w = '[' :: (carets ++ c :: t) ∧
  (∀ a ∈ carets, a = '^') ∧ c ≠ '^' ∧ if c = ']' then Enclosed t else Enclosed (c :: t)

theorem Enclosed.counts {w : Text} (h : Enclosed w) {d : Nat} :
    Counts (.bracket d false) w (.groups d) 0 := by
  intro t
  induction h with
  | close => simp [countLiterals]
  | escaped c _ ih => rw [List.cons_append, List.cons_append, countLiterals, ih]
  | plain hbackslash hclose _ ih =>
      rw [List.cons_append, countLiterals, if_neg (by simp [hclose]), Bool.false_and, ih]
      · exact fun h _ => hbackslash h
      · exact fun _ _ h _ => hbackslash h

/-- The counter finds the end of a simple class. -/
theorem IsSimpleClass.counts {w : Text} (h : IsSimpleClass w) {d : Nat} :
    Counts (.groups d) w (.groups d) 0 := by
  obtain ⟨carets, c, t, rfl, hcarets, hc, ht⟩ := h
  -- the character after the carets is never taken for the end
  have hfirst : Counts (.bracket d true) (c :: t) (.groups d) 0 := by
    split at ht
    · next hclose =>
        subst hclose
        have hitem : Counts (.bracket d true) [']'] (.bracket d false) 0 := fun v => by
          simp [countLiterals]
        exact hitem.cons ht.counts
    · next hclose =>
        cases ht with
        | close => exact absurd rfl hclose
        | escaped a ht => exact fun v => by simpa [countLiterals] using ht.counts v
        | plain hbackslash _ ht =>
            have hitem : Counts (.bracket d true) [c] (.bracket d false) 0 := fun v => by
              rw [List.singleton_append, countLiterals, if_neg (by simp [hclose])]
              · simp [hc]
              · exact fun h _ => hbackslash h
              · exact fun _ _ h _ => hbackslash h
            exact hitem.cons ht.counts
  have hall : Counts (.bracket d true) (carets ++ c :: t) (.groups d) 0 := by
    induction carets with
    | nil => exact hfirst
    | cons a carets ih =>
        obtain ⟨ha, hrest⟩ := List.forall_mem_cons.mp hcarets
        subst ha
        exact .cons (fun v => by simp [countLiterals]) (ih hrest)
  exact .cons (fun v => by simp [countLiterals]) hall

/-- Inside groups, a text that the counter passes over. -/
inductive Harmless : Text → Prop
  | nil : Harmless []
  | plain {c : Char} {t : Text} (hc : ¬ Counts.Special c) : Harmless t → Harmless (c :: t)
  | escaped (c : Char) {t : Text} : Harmless t → Harmless ('\\' :: c :: t)
  | bracket {w t : Text} (hw : IsSimpleClass w) : Harmless t → Harmless (w ++ t)

theorem Harmless.of_plain {w : Text} (hw : ∀ c ∈ w, ¬ Counts.Special c) : Harmless w := by
  induction w with
  | nil => exact .nil
  | cons c w ih =>
      obtain ⟨hc, hw⟩ := List.forall_mem_cons.mp hw
      exact .plain hc (ih hw)

theorem Harmless.counts {w : Text} (h : Harmless w) {d : Nat} :
    Counts (.groups (d + 1)) w (.groups (d + 1)) 0 := by
  induction h with
  | nil => exact .nil _
  | plain hc _ ih => exact (Counts.plain (d := d + 1) hc).cons ih
  | escaped c _ ih => exact (Counts.escape (d := d + 1) c).append ih
  | bracket hw _ ih => exact hw.counts.append ih

end Storyline.Regex
