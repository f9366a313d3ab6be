import Mathlib.Data.List.Basic
import Mathlib.Data.List.TakeWhile
import Storyline.Number.Decimal
import Storyline.Number.Integer
import Storyline.Proofs.Unicode

/-!
# Reading numbers

A row of digits after a sign is read as an integer of a type just if the type holds the number that
it denotes (`IntegerType.readsAs_parse`), and digits with a point and an exponent are always read
(`Numeral.exists_parse`). Nothing is read that has other characters than those of ASCII.
-/

set_option autoImplicit false

namespace Storyline

open Unicode (Ascii)

theorem Text.ascii_of_sameLetters {s w : Text} (h : sameLetters s w = true) (hw : Ascii (lower w)) :
    Ascii s := by
  intro c hc
  have hlower : lower s = lower w := beq_iff_eq.mp h
  have hmem : c.toLower ∈ lower s := List.mem_map_of_mem hc
  rw [hlower] at hmem
  exact Unicode.toNat_lt_of_toLower (hw _ hmem)

/-! ## Parts of numerals -/

namespace Decimal

/-- A row of decimal digits. -/
def Digits (t : Text) : Prop := t ≠ [] ∧ ∀ c ∈ t, c.isDigit = true

/-- A sign, which may be left out. -/
def Sign (t : Text) : Prop := t = [] ∨ t = ['+'] ∨ t = ['-']

/-- Digits with at most one point among them. -/
inductive Mantissa : Text → Prop
  | whole {w : Text} (hw : Digits w) : Mantissa w
  | point {w f : Text} (hw : Digits w) (hf : ∀ c ∈ f, c.isDigit = true) : Mantissa (w ++ '.' :: f)
  | fraction {f : Text} (hf : Digits f) : Mantissa ('.' :: f)

/-- A power of ten, which may be left out. -/
inductive Exponent : Text → Prop
  | none : Exponent []
  | power {c : Char} {s ds : Text} (hc : c = 'e' ∨ c = 'E') (hs : Sign s) (hds : Digits ds) :
    Exponent (c :: (s ++ ds))

/-- The integer of the given sign and magnitude. -/
def withSign (negative : Bool) (n : Nat) : Int := if negative then -(n : Int) else n

@[simp] theorem withSign_false (n : Nat) : withSign false n = n := rfl

@[simp] theorem withSign_true (n : Nat) : withSign true n = -(n : Int) := rfl

/-- The integer that digits after a sign denote. -/
def integer (t : Text) : Int := withSign (takeSign t).1 (ofDigits (takeSign t).2)

variable {s t ds : Text}

theorem Digits.exists_cons (h : Digits ds) : ∃ c t, ds = c :: t ∧ c.isDigit = true := by
  obtain ⟨c, t, rfl⟩ := List.exists_cons_of_ne_nil h.1
  exact ⟨c, t, rfl, h.2 c List.mem_cons_self⟩

/-- A digit is no sign. -/
theorem Digits.head? (h : Digits ds) : ∀ c ∈ ds.head?, c ≠ '+' ∧ c ≠ '-' := by
  obtain ⟨d, t, rfl, hd⟩ := h.exists_cons
  rintro c ⟨⟩
  constructor
  · rintro rfl
    cases hd
  · rintro rfl
    cases hd

/-! ## Splitting numerals -/

theorem takeSign_of_head? (h : ∀ c ∈ t.head?, c ≠ '+' ∧ c ≠ '-') : takeSign t = (false, t) := by
  unfold takeSign
  split
  · exact absurd rfl (h '+' rfl).1
  · exact absurd rfl (h '-' rfl).2
  · rfl

theorem takeSign_append (hs : Sign s) (h : ∀ c ∈ t.head?, c ≠ '+' ∧ c ≠ '-') :
    takeSign (s ++ t) = (s == ['-'], t) := by
  rcases hs with rfl | rfl | rfl
  · exact takeSign_of_head? h
  · rfl
  · rfl

theorem takeDigits_append (hds : ∀ c ∈ ds, c.isDigit = true)
    (h : ∀ c ∈ t.head?, c.isDigit = false) : takeDigits (ds ++ t) = (ds, t) := by
  rw [takeDigits, List.takeWhile_append_of_pos hds, List.dropWhile_append_of_pos hds]
  cases t with
  | nil => simp
  | cons c t => simp [h c rfl]

theorem ascii_of_takeSign (h : Ascii (takeSign t).2) : Ascii t := by
  unfold takeSign at h
  split at h
  · exact Unicode.ascii_cons.mpr ⟨by decide, h⟩
  · exact Unicode.ascii_cons.mpr ⟨by decide, h⟩
  · exact h

theorem ascii_of_takeDigits (h : Ascii (takeDigits t).2) : Ascii t := by
  rw [← List.takeWhile_append_dropWhile (p := Char.isDigit) (l := t)]
  exact Unicode.ascii_append.mpr
    ⟨fun c hc => Unicode.toNat_lt_of_isDigit (List.mem_takeWhile_imp hc), h⟩

theorem ascii_of_takeFraction (h : Ascii (takeFraction t).2) : Ascii t := by
  unfold takeFraction at h
  split at h
  · exact Unicode.ascii_cons.mpr ⟨by decide, ascii_of_takeDigits h⟩
  · exact h

end Decimal

/-! ## Integers -/

namespace IntegerType

open Decimal

/-- What reading the number `n` as an integer of the type comes to: `n` if the type holds it. -/
def ReadsAs (τ : IntegerType) (n : Int) (r : Except IntegerError Int) : Prop :=
  if τ.holds n then r = .ok n else ∃ e, r = .error e

variable {τ : IntegerType}

theorem holds_iff {n : Int} : τ.holds n = true ↔ τ.least ≤ n ∧ n ≤ τ.greatest := by
  simp [holds]

theorem least_nonpos : τ.least ≤ 0 := by
  unfold least
  split <;> omega

theorem greatest_nonneg : 0 ≤ τ.greatest := by
  have hpow : 0 < Nat.pow 2 (if τ.signed then τ.bits - 1 else τ.bits) := Nat.pow_pos Nat.zero_lt_two
  exact Int.le_sub_one_of_lt (Int.natCast_pos.mpr hpow)

/-- With a number the type holds all of smaller magnitude. -/
theorem holds_of_le {negative : Bool} {m n : Nat} (hle : m ≤ n)
    (h : τ.holds (withSign negative n) = true) : τ.holds (withSign negative m) = true := by
  have := τ.least_nonpos
  have := τ.greatest_nonneg
  rw [holds_iff] at *
  cases negative <;> simp only [withSign_false, withSign_true] at * <;> omega

/-- The number that digits denote after a number `n`. -/
def digitsFrom (n : Nat) (t : Text) : Nat :=
  t.foldl (fun n c => n * 10 + (c.toNat - '0'.toNat)) n

theorem le_digitsFrom (n : Nat) (t : Text) : n ≤ digitsFrom n t := by
  induction t generalizing n with
  | nil => exact Nat.le_refl n
  | cons c t ih => exact Nat.le_trans (by omega) (ih (n * 10 + (c.toNat - '0'.toNat)))

/-- A digit is read if the type holds the number with it. -/
theorem parseDigits_cons {negative : Bool} {k : Nat} {c : Char} {t : Text} (hc : c.isDigit = true) :
    τ.parseDigits negative (withSign negative k) (c :: t) =
      let m := withSign negative (k * 10 + (c.toNat - '0'.toNat))
      if m < τ.least then .error .tooSmall
      else if τ.greatest < m then .error .tooLarge
      else τ.parseDigits negative m t := by
  have hm (d : Nat) : withSign negative k * 10 + (if negative then -(d : Int) else d) =
      withSign negative (k * 10 + d) := by
    cases negative
    · simp
    · simp only [withSign_true, if_true]
      omega
  simp only [parseDigits, digit?, if_pos hc, hm]

/-- **Reading digits** after a number that the type holds gives the number of all digits, if the
type holds it. -/
theorem readsAs_parseDigits {negative : Bool} {k : Nat} {ds : Text}
    (hds : ∀ c ∈ ds, c.isDigit = true) (hk : τ.holds (withSign negative k) = true) :
    τ.ReadsAs (withSign negative (digitsFrom k ds))
      (τ.parseDigits negative (withSign negative k) ds) := by
  induction ds generalizing k with
  | nil => exact (if_pos hk).mpr rfl
  | cons c ds ih =>
      obtain ⟨hc, hds⟩ := List.forall_mem_cons.mp hds
      rw [parseDigits_cons hc]
      by_cases hm : τ.holds (withSign negative (k * 10 + (c.toNat - '0'.toNat))) = true
      · obtain ⟨hleast, hgreatest⟩ := holds_iff.mp hm
        simp only [if_neg (Int.not_lt.mpr hleast), if_neg (Int.not_lt.mpr hgreatest)]
        exact ih hds hm
      · -- later digits only take the number farther out of range
        have hout : ¬ τ.holds (withSign negative (digitsFrom k (c :: ds))) = true :=
          fun h => hm (holds_of_le (le_digitsFrom _ ds) h)
        rw [ReadsAs, if_neg hout]
        rw [holds_iff] at hm
        dsimp only
        split
        · exact ⟨_, rfl⟩
        · split
          · exact ⟨_, rfl⟩
          · omega

/-- Without a sign all characters are read as digits. -/
theorem parse_of_head? {t : Text} (hne : t ≠ []) (h : ∀ c ∈ t.head?, c ≠ '+' ∧ c ≠ '-') :
    τ.parse t = τ.parseDigits false 0 t := by
  unfold parse
  split
  · exact absurd rfl hne
  · exact absurd rfl (h '+' rfl).1
  · exact absurd rfl (h '-' rfl).2
  · exact absurd rfl (h '+' rfl).1
  · exact absurd rfl (h '-' rfl).2
  · rfl

/-- **Reading an integer.** Digits after a sign are read as the number that they denote, if the type
holds it. Only types with negative numbers know a minus sign. -/
theorem readsAs_parse {s ds : Text} (hs : Sign s) (hds : Digits ds)
    (hsigned : s = ['-'] → τ.signed = true) :
    τ.ReadsAs (integer (s ++ ds)) (τ.parse (s ++ ds)) := by
  have hdigits (negative : Bool) : τ.ReadsAs (withSign negative (ofDigits ds))
      (τ.parseDigits negative 0 ds) := by
    have hzero : withSign negative 0 = 0 := by cases negative <;> rfl
    have hholds : τ.holds (withSign negative 0) = true :=
      holds_iff.mpr ⟨hzero ▸ τ.least_nonpos, hzero ▸ τ.greatest_nonneg⟩
    have hreads := readsAs_parseDigits hds.2 hholds
    rwa [hzero] at hreads
  rw [integer, takeSign_append hs hds.head?]
  obtain ⟨d, t, rfl, hd⟩ := hds.exists_cons
  rcases hs with rfl | rfl | rfl
  · rw [List.nil_append, parse_of_head? hds.1 hds.head?]
    exact hdigits false
  · exact hdigits false
  · have hparse : τ.parse (['-'] ++ d :: t) = τ.parseDigits true 0 (d :: t) := if_pos (hsigned rfl)
    rw [hparse]
    exact hdigits true

/-- Only digits are read as digits. -/
theorem isDigit_of_parseDigits {negative : Bool} {n m : Int} {t : Text}
    (h : τ.parseDigits negative n t = .ok m) : ∀ c ∈ t, c.isDigit = true := by
  induction t generalizing n with
  | nil => simp
  | cons c t ih =>
      cases hc : c.isDigit with
      | false => simp [parseDigits, digit?, hc] at h
      | true =>
          simp only [parseDigits, digit?, hc, if_true] at h
          generalize n * 10 + (if negative then -((c.toNat - '0'.toNat : Nat) : Int)
            else (c.toNat - '0'.toNat : Nat)) = k at h
          split at h
          · cases h
          · split at h
            · cases h
            · exact List.forall_mem_cons.mpr ⟨hc, ih h⟩

/-- An integer is written in ASCII. -/
theorem ascii_of_parse {n : Int} {t : Text} (h : τ.parse t = .ok n) : Ascii t := by
  have hdigits {negative : Bool} {t : Text} (h : τ.parseDigits negative 0 t = .ok n) : Ascii t :=
    fun c hc => Unicode.toNat_lt_of_isDigit (isDigit_of_parseDigits h c hc)
  unfold parse at h
  split at h
  · cases h
  · cases h
  · cases h
  · exact Unicode.ascii_cons.mpr ⟨by decide, hdigits h⟩
  · split at h
    · exact Unicode.ascii_cons.mpr ⟨by decide, hdigits h⟩
    · exact hdigits h
  · exact hdigits h

end IntegerType

/-! ## Numerals -/

namespace Decimal

variable {t m e : Text}

/-- A power of ten does not go on with the digits before it. -/
theorem Exponent.head? (h : Exponent e) : ∀ c ∈ e.head?, c.isDigit = false ∧ c ≠ '.' := by
  cases h with
  | none => simp
  | power hc =>
      rintro c ⟨⟩
      rcases hc with rfl | rfl <;> decide

theorem Mantissa.head? (h : Mantissa m) : ∀ c ∈ (m ++ t).head?, c ≠ '+' ∧ c ≠ '-' := by
  have hdigits {w u : Text} (hw : Digits w) : ∀ c ∈ (w ++ u).head?, c ≠ '+' ∧ c ≠ '-' := by
    rw [List.head?_append_of_ne_nil w hw.1]
    exact hw.head?
  cases h with
  | whole hw => exact hdigits hw
  | point hw =>
      rw [List.append_assoc]
      exact hdigits hw
  | fraction =>
      rintro c ⟨⟩
      decide

theorem isSome_exponent? (h : Exponent e) : (exponent? e).isSome = true := by
  cases h with
  | none => rfl
  | @power c s ds hc hs hds =>
      have htake : takeDigits ds = (ds, []) := by
        simpa using takeDigits_append (t := []) hds.2 (by simp)
      simp [exponent?, hc, takeSign_append hs hds.head?, htake, hds.1]

theorem takeFraction_of_head? (h : ∀ c ∈ t.head?, c ≠ '.') : takeFraction t = ([], t) := by
  unfold takeFraction
  split
  · exact absurd rfl (h '.' rfl)
  · rfl

/-- Digits with a point and a power of ten are a decimal number. -/
theorem isSome_parse? (hm : Mantissa m) (he : Exponent e) : (parse? (m ++ e)).isSome = true := by
  have hexponent := isSome_exponent? he
  have hdigit := fun c hc => (he.head? c hc).1
  have hpoint := takeFraction_of_head? fun c hc => (he.head? c hc).2
  cases hm with
  | whole hw => simp [parse?, takeDigits_append hw.2 hdigit, hpoint, hw.1, hexponent]
  | @point w f hw hf =>
      have hwhole : takeDigits (w ++ '.' :: (f ++ e)) = (w, '.' :: (f ++ e)) :=
        takeDigits_append hw.2 (by rintro c ⟨⟩; rfl)
      have hfraction : takeFraction ('.' :: (f ++ e)) = (f, e) := takeDigits_append hf hdigit
      rw [List.append_assoc, List.cons_append]
      simp [parse?, hwhole, hfraction, hw.1, hexponent]
  | @fraction f hf =>
      have hwhole : takeDigits ('.' :: (f ++ e)) = ([], '.' :: (f ++ e)) := rfl
      have hfraction : takeFraction ('.' :: (f ++ e)) = (f, e) := takeDigits_append hf.2 hdigit
      rw [List.cons_append]
      simp [parse?, hwhole, hfraction, hf.1, hexponent]

theorem ascii_of_exponent? {n : Int} (h : exponent? t = some n) : Ascii t := by
  cases t with
  | nil => exact fun c hc => by cases hc
  | cons c t =>
      rw [exponent?, Option.ite_none_right_eq_some] at h
      obtain ⟨hc, h⟩ := h
      refine Unicode.ascii_cons.mpr ⟨?_, ascii_of_takeSign (ascii_of_takeDigits ?_)⟩
      · rcases hc with rfl | rfl <;> decide
      · -- nothing follows the digits
        rw [Option.ite_none_left_eq_some] at h
        have hrest : ¬ (takeDigits (takeSign t).2).1 = [] ∧ (takeDigits (takeSign t).2).2 = [] := by
          simpa using h.1
        rw [hrest.2]
        exact List.forall_mem_nil _

/-- A decimal number is written in ASCII. -/
theorem ascii_of_parse? {d : Decimal} (h : parse? t = some d) : Ascii t := by
  rw [parse?, Option.ite_none_left_eq_some] at h
  obtain ⟨n, hn, -⟩ := Option.map_eq_some_iff.mp h.2
  exact ascii_of_takeDigits (ascii_of_takeFraction (ascii_of_exponent? hn))

end Decimal

namespace Numeral

open Decimal

variable {t : Text}

/-- The names of infinity and of no number. -/
def names : List Text := ["nan".toList, "inf".toList, "infinity".toList]

theorem isSome_unsigned? {negative : Bool} : (unsigned? negative t).isSome = true ↔
    (∃ w ∈ names, Text.sameLetters t w = true) ∨ (Decimal.parse? t).isSome = true := by
  have hnames : (∃ w ∈ names, Text.sameLetters t w = true) ↔
      Text.sameLetters t "nan".toList = true ∨ Text.sameLetters t "inf".toList = true ∨
        Text.sameLetters t "infinity".toList = true := by
    simp only [names, List.mem_cons, List.not_mem_nil, or_false, exists_eq_or_imp, exists_eq_left]
  rw [hnames, unsigned?, ← Bool.or_eq_true (Text.sameLetters t "inf".toList)]
  split
  · next h => simp only [h, Option.isSome_some, true_or]
  · next h =>
      split
      · next h' => simp only [h', Option.isSome_some, or_true, true_or]
      · next h' => simp only [h, h', Option.isSome_map, Bool.false_eq_true, false_or]

/-- A text is a numeral if what follows its sign is a name or a decimal number. -/
theorem exists_parse : (∃ n, parse t = .ok n) ↔
    (∃ w ∈ names, Text.sameLetters (takeSign t).2 w = true) ∨
      (Decimal.parse? (takeSign t).2).isSome = true := by
  rw [← @isSome_unsigned? _ (takeSign t).1]
  cases t with
  | nil => simp [parse]; decide
  | cons c t =>
      rw [parse, if_neg (by simp)]
      dsimp only
      cases unsigned? (takeSign (c :: t)).1 (takeSign (c :: t)).2 <;> simp

/-- **Reading a numeral.** Digits with a point and a power of ten are read, after a sign. -/
theorem exists_parse_decimal {s m e : Text} (hs : Sign s) (hm : Mantissa m) (he : Exponent e) :
    ∃ n, parse (s ++ (m ++ e)) = .ok n := by
  refine exists_parse.mpr (.inr ?_)
  rw [takeSign_append hs hm.head?]
  exact isSome_parse? hm he

theorem exists_parse_name {w : Text} (hw : w ∈ names) (h : Text.sameLetters t w = true) :
    ∃ n, parse t = .ok n := by
  refine exists_parse.mpr (.inl ⟨w, hw, ?_⟩)
  have hhead : ∀ c ∈ t.head?, c ≠ '+' ∧ c ≠ '-' := by
    intro c hc
    have hnames : ∀ w ∈ names,
        (Text.lower w).head? ≠ some '+' ∧ (Text.lower w).head? ≠ some '-' := by decide
    have hlower : (Text.lower t).head? = some c.toLower := by
      rw [Text.lower, List.head?_map, hc, Option.map_some]
    rw [beq_iff_eq.mp h] at hlower
    constructor
    · rintro rfl
      exact (hnames w hw).1 hlower
    · rintro rfl
      exact (hnames w hw).2 hlower
  rwa [takeSign_of_head? hhead]

/-- A numeral is written in ASCII. -/
theorem ascii_of_parse {n : Numeral} (h : parse t = .ok n) : Ascii t := by
  refine ascii_of_takeSign ?_
  rcases exists_parse.mp ⟨n, h⟩ with ⟨w, hw, hsame⟩ | hdecimal
  · have hnames : ∀ w ∈ names, Ascii (Text.lower w) := by decide
    exact Text.ascii_of_sameLetters hsame (hnames w hw)
  · obtain ⟨d, hd⟩ := Option.isSome_iff_exists.mp hdecimal
    exact ascii_of_parse? hd

end Numeral

end Storyline
