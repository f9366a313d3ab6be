import Storyline.Regex.CharSet
import Storyline.Text

/-!
# Characters of the typed placeholders

The sets that placeholders of numbers and truth values are matched with are those of Unicode. Among
the ASCII characters they mean what one expects: the decimal digits (`contains_digit`) and the two
cases of a letter (`toLower_eq_of_contains_fold`). Beyond them there are the digits of other scripts
and a few more variants of letters, but no blanks, of which there are few (`blank_forall`).
-/

set_option autoImplicit false

namespace Storyline.Unicode

/-! ## ASCII -/

/-- All characters are ASCII characters. -/
def Ascii (t : Text) : Prop := ∀ c ∈ t, c.toNat < 0x80

instance (t : Text) : Decidable (Ascii t) := List.decidableBAll (fun c : Char => c.toNat < 0x80) t

theorem ascii_append {s t : Text} : Ascii (s ++ t) ↔ Ascii s ∧ Ascii t := List.forall_mem_append

theorem ascii_cons {c : Char} {t : Text} : Ascii (c :: t) ↔ c.toNat < 0x80 ∧ Ascii t :=
  List.forall_mem_cons

/-- What holds of all small code points holds of the ASCII characters. -/
theorem ascii_forall {p : Char → Prop} (h : ∀ n < 0x80, p (Char.ofNat n)) {c : Char}
    (hc : c.toNat < 0x80) : p c := by
  have hp := h c.toNat hc
  rwa [Char.ofNat_toNat] at hp

theorem toNat_lt_of_isDigit {c : Char} (h : c.isDigit = true) : c.toNat < 0x80 := by
  simp only [Char.isDigit, Bool.and_eq_true, decide_eq_true_eq, UInt32.le_iff_toNat_le] at h
  exact Nat.lt_of_le_of_lt h.2 (by decide)

/-- Making ASCII capitals small does not lead into the ASCII characters. -/
theorem toNat_lt_of_toLower {c : Char} (h : c.toLower.toNat < 0x80) : c.toNat < 0x80 := by
  unfold Char.toLower at h
  split at h
  · next hupper => exact Nat.lt_of_le_of_lt (UInt32.le_iff_toNat_le.mp hupper.2) (by decide)
  · exact h

/-! ## Sets of a typed placeholder -/

theorem contains_digit {c : Char} (hc : c.toNat < 0x80) : CharSet.digit.contains c = c.isDigit :=
  ascii_forall (p := fun c => CharSet.digit.contains c = c.isDigit) (by decide +kernel) hc

/-- Only one of the runs has ASCII characters to fold, the one of the capitals. -/
theorem FoldRun.exists_all : ∃ rs, all = ⟨0x41, 0x5A, 1, 0x61⟩ :: rs ∧ ∀ r ∈ rs, 0x80 ≤ r.first :=
  ⟨all.tail, rfl, by decide +kernel⟩

theorem FoldRun.covers_iff {r : FoldRun} {n : Nat} :
    r.covers n = true ↔ (r.first ≤ n ∧ n ≤ r.last) ∧ (n - r.first) % r.step = 0 := by
  simp [covers]

/-- A run sends to `n` what it covers at the distance of `n` from its target. -/
theorem FoldRun.source?_eq_some {r : FoldRun} {n m : Nat} :
    r.source? n = some m ↔ r.covers m = true ∧ r.apply m = n := by
  rw [source?, Option.ite_none_right_eq_some, Bool.and_eq_true, decide_eq_true_eq, apply]
  constructor
  · rintro ⟨⟨htarget, hcovers⟩, hm⟩
    obtain rfl : n - r.target + r.first = m := Option.some.inj hm
    exact ⟨hcovers, by omega⟩
  · rintro ⟨hcovers, hn⟩
    have hfirst := (covers_iff.mp hcovers).1.1
    obtain rfl : n - r.target + r.first = m := by omega
    exact ⟨⟨by omega, hcovers⟩, rfl⟩

/-- The runs fold characters, which have no code points among the surrogates. -/
theorem FoldRun.isValidChar {r : FoldRun} {n : Nat} (hr : r ∈ all) (hn : r.covers n = true) :
    n.isValidChar := by
  have hbounds : ∀ r ∈ all, r.last < 0xD800 ∨ 0xDFFF < r.first ∧ r.last < 0x110000 := by
    decide +kernel
  obtain ⟨⟨hfirst, hlast⟩, -⟩ := covers_iff.mp hn
  rcases hbounds r hr with h | h
  · exact .inl (by omega)
  · exact .inr (by omega)

theorem foldCode_of_lt {n : Nat} (hn : n < 0x80) :
    foldCode n = if 0x41 ≤ n ∧ n ≤ 0x5A then n + 0x20 else n := by
  obtain ⟨rs, hall, hrest⟩ := FoldRun.exists_all
  have hnone : rs.find? (·.covers n) = none := List.find?_eq_none.mpr fun r hr hcovers => by
    have := hrest r hr
    have := (FoldRun.covers_iff.mp hcovers).1.1
    omega
  by_cases h : 0x41 ≤ n ∧ n ≤ 0x5A
  · have hcovers : FoldRun.covers ⟨0x41, 0x5A, 1, 0x61⟩ n = true :=
      FoldRun.covers_iff.mpr ⟨h, Nat.mod_one _⟩
    simp only [if_pos h, foldCode, hall, List.find?_cons, hcovers, FoldRun.apply]
    omega
  · have hcovers : FoldRun.covers ⟨0x41, 0x5A, 1, 0x61⟩ n = false :=
      Bool.eq_false_iff.mpr fun hcovers => h (FoldRun.covers_iff.mp hcovers).1
    simp only [if_neg h, foldCode, hall, List.find?_cons, hcovers, hnone]

/-- Simple folding makes ASCII capitals small and leaves other ASCII characters. -/
theorem foldCode_toNat {c : Char} (hc : c.toNat < 0x80) : foldCode c.toNat = c.toLower.toNat := by
  rw [foldCode_of_lt hc]
  exact ascii_forall (p := fun c => (if 0x41 ≤ c.toNat ∧ c.toNat ≤ 0x5A then c.toNat + 0x20 else
    c.toNat) = c.toLower.toNat) (by decide) hc

/-- Two ASCII characters that are case variants differ in case only. -/
theorem toLower_eq_of_mem_variants {c x : Char} (hc : c.toNat < 0x80) (hx : x.toNat < 0x80)
    (h : x ∈ variants c) : x.toLower = c.toLower := by
  have hfold : foldCode x.toNat = foldCode c.toNat := by
    obtain ⟨m, hm, rfl⟩ := List.mem_map.mp h
    rcases List.mem_cons.mp hm with rfl | hm
    · -- what a character is folded to is folded to itself
      rw [foldCode_toNat hc, Char.ofNat_toNat] at hx ⊢
      rw [foldCode_toNat hx]
      exact ascii_forall (p := fun c => c.toLower.toLower.toNat = c.toLower.toNat) (by decide) hc
    · obtain ⟨r, hr, hsource⟩ := List.mem_filterMap.mp hm
      obtain ⟨hcovers, happly⟩ := FoldRun.source?_eq_some.mp hsource
      have hnat : (Char.ofNat m).toNat = m := by
        rw [Char.ofNat, dif_pos (FoldRun.isValidChar hr hcovers)]
        rfl
      rw [hnat] at hx ⊢
      obtain ⟨hfirst, hlast⟩ := (FoldRun.covers_iff.mp hcovers).1
      -- among the runs only that of the capitals covers `m`
      obtain ⟨rs, hall, hrest⟩ := FoldRun.exists_all
      rw [hall] at hr
      rcases List.mem_cons.mp hr with rfl | hr
      · have hleast : 0x41 ≤ m := hfirst
        have hcode : m - 0x41 + 0x61 = foldCode c.toNat := happly
        rw [foldCode_of_lt hx, if_pos ⟨hfirst, hlast⟩]
        omega
      · have := hrest r hr
        omega
  rw [foldCode_toNat hc, foldCode_toNat hx] at hfold
  exact Char.toNat_inj.mp hfold

/-- An ASCII character in the folding of a set of them is a member up to its case. -/
theorem toLower_eq_of_contains_fold {s : CharSet} {c : Char}
    (hs : ∀ x, s.contains x = true → x.toNat < 0x80) (hc : c.toNat < 0x80)
    (h : (CharSet.fold s).contains c = true) :
    ∃ x, s.contains x = true ∧ x.toLower = c.toLower := by
  rw [CharSet.contains, Bool.or_eq_true, List.any_eq_true] at h
  rcases h with h | ⟨x, hx, h⟩
  · exact ⟨c, h, rfl⟩
  · exact ⟨x, h, toLower_eq_of_mem_variants hc (hs x h) hx⟩

/-! ## Blanks -/

theorem Ranges.exists_of_holds {rs : Ranges} {n : Nat} (h : rs.holds n = true) :
    ∃ r ∈ rs, r.1 ≤ n ∧ n ≤ r.2 := by
  induction rs with
  | nil => cases h
  | cons r rs ih =>
      obtain ⟨lo, hi⟩ := r
      rw [holds_cons] at h
      by_cases hlo : n < lo
      · rw [if_pos hlo] at h
        cases h
      · by_cases hhi : n ≤ hi
        · exact ⟨(lo, hi), List.mem_cons_self, Nat.le_of_not_lt hlo, hhi⟩
        · rw [if_neg hlo, if_neg hhi] at h
          obtain ⟨r, hr, hn⟩ := ih h
          exact ⟨r, List.mem_cons_of_mem _ hr, hn⟩

/-- What holds of all code points in the ranges of white space holds of the blanks. -/
theorem blank_forall {p : Char → Prop}
    (h : ∀ r ∈ Ranges.whiteSpace, ∀ k < r.2 - r.1 + 1, p (Char.ofNat (r.1 + k))) {c : Char}
    (hc : isBlank c = true) : p c := by
  obtain ⟨r, hr, hlo, hhi⟩ := Ranges.exists_of_holds hc
  have hp := h r hr (c.toNat - r.1) (by omega)
  rwa [Nat.add_sub_cancel' hlo, Char.ofNat_toNat] at hp

/-- A blank has no other case. -/
theorem contains_fold_of_isBlank {s : CharSet} {c : Char} (hc : isBlank c = true) :
    (CharSet.fold s).contains c = s.contains c := by
  have hvariants : variants c = [c] :=
    blank_forall (p := fun c => variants c = [c]) (by decide +kernel) hc
  rw [CharSet.contains, hvariants, List.any_cons, List.any_nil, Bool.or_false, Bool.or_self]

end Storyline.Unicode
