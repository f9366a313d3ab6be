import Storyline.Proofs.Conversion

/-!
# Integers among parameters

Which texts are integers is said by a small grammar: decimal digits after a sign that may be left
out, where a minus sign is known only if there are negative numbers (`IntegerType.Writes`). A text
is read just if it is of this form and the type holds the number that it writes
(`IntegerType.parse_eq_ok_iff`), however long it is and whatever zeros lead it. So a converter of
integers gives the very number that is written, if it is in the range that its hint stands for
(`IntegerType.ranges`), or an error that quotes the text (`Converters.convert_integer`).
-/

set_option autoImplicit false

namespace Storyline

variable {κ : Type}

namespace IntegerType

open Decimal

variable {τ : IntegerType} {negative : Prop} {t : Text} {n : Int}

/-! ## Texts that write integers -/

/-- The text writes the number: digits in base ten, after a sign that may be left out. A minus sign
is admitted where there are negative numbers. -/
inductive Writes (negative : Prop) : Text → Int → Prop
  | digits {ds : Text} (hds : Digits ds) : Writes negative ds (ofDigits ds)
  | plus {ds : Text} (hds : Digits ds) : Writes negative ('+' :: ds) (ofDigits ds)
  | minus {ds : Text} (hnegative : negative) (hds : Digits ds) :
    Writes negative ('-' :: ds) (-(ofDigits ds : Int))

/-- A text writes at most one number. -/
theorem Writes.eq_integer (h : Writes negative t n) : n = integer t := by
  have hinteger {s ds : Text} (hs : Sign s) (hds : Digits ds) :
      withSign (s == ['-']) (ofDigits ds) = integer (s ++ ds) := by
    rw [integer, takeSign_append hs hds.head?]
  cases h with
  | digits hds => exact hinteger (s := []) (.inl rfl) hds
  | plus hds => exact hinteger (s := ['+']) (.inr (.inl rfl)) hds
  | minus _ hds => exact hinteger (s := ['-']) (.inr (.inr rfl)) hds

/-- What is written is read, if the type holds it. -/
theorem Writes.readsAs (h : Writes (τ.signed = true) t n) : τ.ReadsAs n (τ.parse t) := by
  rw [h.eq_integer]
  cases h with
  | digits hds => exact readsAs_parse (s := []) (.inl rfl) hds nofun
  | plus hds => exact readsAs_parse (s := ['+']) (.inr (.inl rfl)) hds nofun
  | minus hsigned hds => exact readsAs_parse (s := ['-']) (.inr (.inr rfl)) hds fun _ => hsigned

/-- Only texts that write a number are read. -/
theorem exists_writes_of_parse (h : τ.parse t = .ok n) : ∃ m, Writes (τ.signed = true) t m := by
  have hdigits {negative : Bool} {ds : Text} (hne : ds ≠ [])
      (h : τ.parseDigits negative 0 ds = .ok n) : Digits ds := ⟨hne, isDigit_of_parseDigits h⟩
  unfold parse at h
  split at h
  · cases h
  · cases h
  · cases h
  · next ds hne => exact ⟨_, .plus (hdigits hne h)⟩
  · next ds hne =>
      cases hsigned : τ.signed with
      | true =>
          rw [hsigned, if_pos rfl] at h
          exact ⟨_, .minus rfl (hdigits hne h)⟩
      | false =>
          -- the sign is no digit
          rw [hsigned, if_neg Bool.false_ne_true] at h
          exact absurd (isDigit_of_parseDigits h '-' List.mem_cons_self) (by decide)
  · next hne _ _ _ _ => exact ⟨_, .digits (hdigits hne h)⟩

/-- **Reading integers is exact.** A text is read as the number that it writes, just if the type
holds that number. -/
theorem parse_eq_ok_iff :
    τ.parse t = .ok n ↔ Writes (τ.signed = true) t n ∧ τ.holds n = true := by
  constructor
  · intro h
    obtain ⟨m, hm⟩ := exists_writes_of_parse h
    have hreads := hm.readsAs
    rw [h, ReadsAs] at hreads
    split at hreads
    · next hholds =>
        obtain rfl : n = m := Except.ok.inj hreads
        exact ⟨hm, hholds⟩
    · obtain ⟨e, he⟩ := hreads
      cases he
  · rintro ⟨hwrites, hholds⟩
    have hreads := hwrites.readsAs
    rwa [ReadsAs, if_pos hholds] at hreads

/-! ## Ranges -/

/-- The integers that hints stand for, from the least to the greatest. -/
def ranges : List (String × Int × Int) :=
  [("u8", 0, 255), ("u16", 0, 65535), ("u32", 0, 4294967295), ("u64", 0, 18446744073709551615),
   ("u128", 0, 340282366920938463463374607431768211455), ("usize", 0, 18446744073709551615),
   ("i8", -128, 127), ("i16", -32768, 32767), ("i32", -2147483648, 2147483647),
   ("i64", -9223372036854775808, 9223372036854775807),
   ("i128", -170141183460469231731687303715884105728, 170141183460469231731687303715884105727),
   ("isize", -9223372036854775808, 9223372036854775807)]

/-- These are the ranges of all types. -/
theorem map_all_eq_ranges : all.map (fun τ => (τ.name, τ.least, τ.greatest)) = ranges := by
  decide +kernel

theorem exists_of_mem_ranges {hint : String} {lo hi : Int} (h : (hint, lo, hi) ∈ ranges) :
    ∃ τ ∈ all, τ.name = hint ∧ τ.least = lo ∧ τ.greatest = hi := by
  rw [← map_all_eq_ranges] at h
  obtain ⟨τ, hτ, heq⟩ := List.mem_map.mp h
  obtain ⟨hname, hbounds⟩ := Prod.mk.inj heq
  obtain ⟨hleast, hgreatest⟩ := Prod.mk.inj hbounds
  exact ⟨τ, hτ, hname, hleast, hgreatest⟩

/-- The signed types are those with negative numbers. -/
theorem signed_iff (τ : IntegerType) : τ.signed = true ↔ τ.least < 0 := by
  have hpos : 0 < Nat.pow 2 (τ.bits - 1) := Nat.pow_pos (by decide)
  rw [least]
  cases τ.signed with
  | true =>
      rw [if_pos rfl]
      exact iff_of_true rfl (Int.neg_neg_of_pos (Int.natCast_pos.mpr hpos))
  | false =>
      rw [if_neg Bool.false_ne_true]
      exact iff_of_false Bool.false_ne_true (Int.lt_irrefl 0)

/-! ## Values -/

/-- The value holds the number, as an integer that can be negative or as one that cannot. -/
inductive Makes (negative : Prop) (n : Int) : Value κ → Prop
  | integer (hnegative : negative) : Makes negative n (.integer n)
  | unsigned {k : Nat} (hnegative : ¬ negative) (hk : (k : Int) = n) :
    Makes negative n (.unsigned k)

theorem makes_iff (hholds : τ.holds n = true) {v : Value κ} :
    Makes (τ.signed = true) n v ↔ v = if τ.signed then .integer n else .unsigned n.toNat := by
  cases hsigned : τ.signed with
  | true =>
      constructor
      · rintro (_ | ⟨hfalse, -⟩)
        · rfl
        · exact absurd rfl hfalse
      · rintro rfl
        exact .integer rfl
  | false =>
      -- all numbers of the type are natural
      have hnonneg : 0 ≤ n := by
        have hle := (holds_iff.mp hholds).1
        rwa [least, hsigned] at hle
      constructor
      · rintro (htrue | ⟨-, rfl⟩)
        · cases htrue
        · rfl
      · rintro rfl
        exact .unsigned Bool.false_ne_true (Int.toNat_of_nonneg hnonneg)

/-- No signed type is wider than 128 bits. -/
theorem holds_i128_of_signed : ∀ τ ∈ all, τ.signed = true → ∀ n, τ.holds n = true →
    i128.holds n = true := by
  have hrange : ∀ τ ∈ all, τ.signed = true →
      i128.least ≤ τ.least ∧ τ.greatest ≤ i128.greatest := by decide +kernel
  intro τ hτ hsigned n hn
  obtain ⟨hleast, hgreatest⟩ := hrange τ hτ hsigned
  rw [holds_iff] at *
  exact ⟨Int.le_trans hleast hn.1, Int.le_trans hn.2 hgreatest⟩

/-- The number is given back if 128 bits can hold it. -/
theorem Makes.asInteger? (hτ : τ ∈ all) (hholds : τ.holds n = true) {v : Value κ}
    (h : Makes (τ.signed = true) n v) : v.asInteger? = if i128.holds n then some n else none := by
  cases h with
  | integer hsigned => rw [if_pos (holds_i128_of_signed τ hτ hsigned n hholds), Value.asInteger?]
  | unsigned hsigned hk => rw [← hk, Value.asInteger?]

end IntegerType

/-! ## Converters -/

namespace Converters

open IntegerType

/-- What the converter of a type makes of a text. -/
theorem integer_eq_ok_iff {τ : IntegerType} {s : Text} {v : Value κ} :
    Converter.integer τ s = .ok v ↔ ∃ n, Writes (τ.signed = true) (Text.trim s) n ∧
      τ.holds n = true ∧ Makes (τ.signed = true) n v := by
  constructor
  · intro hv
    obtain ⟨n, hn⟩ := Converter.exists_ok_of_quoting hv
    obtain ⟨hwrites, hholds⟩ := parse_eq_ok_iff.mp hn
    rw [Converter.integer, Converter.quoting_of_ok hn, Except.ok.injEq] at hv
    exact ⟨n, hwrites, hholds, (makes_iff hholds).mpr hv.symm⟩
  · rintro ⟨n, hwrites, hholds, hv⟩
    have hn := parse_eq_ok_iff.mpr ⟨hwrites, hholds⟩
    rw [Converter.integer, Converter.quoting_of_ok hn, (makes_iff hholds).mp hv]

/-- **The conversion of integers is exact and never wraps.** Under the hint for a type of integers a
text has a value just if, trimmed, it writes a number in the range of the type, and the value is
this number. It can be had as an integer of 128 bits just if it is one. All other texts are refused
with an error that quotes them. -/
theorem convert_integer {hint : String} {lo hi : Int} (h : (hint, lo, hi) ∈ ranges) (s : Text) :
    (∀ v : Value κ, default.convert (some hint.toList) s = .ok v ↔
      ∃ n, Writes (lo < 0) (Text.trim s) n ∧ (lo ≤ n ∧ n ≤ hi) ∧ Makes (lo < 0) n v) ∧
    (∀ (v : Value κ) (n least greatest : Int), default.convert (some hint.toList) s = .ok v →
      Writes (lo < 0) (Text.trim s) n → ("i128", least, greatest) ∈ ranges →
      v.asInteger? = if least ≤ n ∧ n ≤ greatest then some n else none) ∧
    ((∀ n, Writes (lo < 0) (Text.trim s) n → ¬ (lo ≤ n ∧ n ≤ hi)) →
      ∃ e : IntegerError, (default (κ := κ)).convert (some hint.toList) s =
        .error ⟨s!"'{(Text.trim s).toString}': {e.message}"⟩) := by
  obtain ⟨τ, hτ, rfl, rfl, rfl⟩ := exists_of_mem_ranges h
  have hconvert : (default (κ := κ)).convert (some τ.name.toList) s = Converter.integer τ s := by
    simp only [convert, Option.bind_some, find?_integer τ hτ]
  simp only [hconvert, ← signed_iff, ← holds_iff]
  refine ⟨fun v => integer_eq_ok_iff, fun v n lo hi hv hwrites h128 => ?_, fun hnone => ?_⟩
  · obtain ⟨m, hm, hholds, hv⟩ := integer_eq_ok_iff.mp hv
    obtain rfl : n = m := hwrites.eq_integer.trans hm.eq_integer.symm
    obtain ⟨ρ, hρ, hname, rfl, rfl⟩ := exists_of_mem_ranges h128
    obtain rfl : ρ = i128 := by
      revert ρ
      decide
    rw [hv.asInteger? hτ hholds]
    simp only [holds_iff]
  · cases hparse : τ.parse (Text.trim s) with
    | ok n =>
        obtain ⟨hwrites, hholds⟩ := parse_eq_ok_iff.mp hparse
        exact absurd hholds (hnone n hwrites)
    | error e => exact ⟨e, by simp only [Converter.integer, Converter.quoting, hparse]⟩

/-- The least number of a type with blanks and zeros around it, the greatest of all, which is no
integer of 128 bits, and a sign that the type does not know. -/
theorem convert_integer_limits :
    (default (κ := Unit)).convert (some "i8".toList) " -0128 ".toList = .ok (.integer (-128)) ∧
      (∃ v : Value Unit, default.convert (some "u128".toList)
          "340282366920938463463374607431768211455".toList = .ok v ∧
        v = .unsigned 340282366920938463463374607431768211455 ∧ v.asInteger? = none) ∧
      ∃ e : IntegerError, (default (κ := Unit)).convert (some "u8".toList) "-1".toList =
        .error ⟨s!"'-1': {e.message}"⟩ := by
  have hleast : Writes ((-128 : Int) < 0) (Text.trim " -0128 ".toList) (-128) :=
    @Writes.minus _ "0128".toList (by decide) ⟨by decide, List.all_eq_true.mp (by decide)⟩
  have hgreatest : Writes ((0 : Int) < 0)
      (Text.trim "340282366920938463463374607431768211455".toList)
      340282366920938463463374607431768211455 :=
    .digits ⟨by decide, List.all_eq_true.mp (by decide +kernel)⟩
  have hnone (n : Int) (h : Writes ((0 : Int) < 0) (Text.trim "-1".toList) n) :
      ¬ (0 ≤ n ∧ n ≤ 255) := by
    rcases h with ⟨-, hds⟩ | - | ⟨hnegative, -⟩
    · exact absurd (hds '-' List.mem_cons_self) (by decide)
    · exact absurd hnegative (by decide)
  have hi8 : ("i8", -128, 127) ∈ ranges := by decide
  have hu128 : ("u128", 0, 340282366920938463463374607431768211455) ∈ ranges := by decide
  have hu8 : ("u8", 0, 255) ∈ ranges := by decide
  obtain ⟨hok, -, -⟩ := convert_integer (κ := Unit) hi8 " -0128 ".toList
  obtain ⟨hok', hsame, -⟩ := convert_integer (κ := Unit) hu128
    "340282366920938463463374607431768211455".toList
  obtain ⟨-, -, herror⟩ := convert_integer (κ := Unit) hu8 "-1".toList
  have hv := (hok' _).mpr ⟨_, hgreatest, by decide, .unsigned (by decide) rfl⟩
  have hi128 : ("i128", -170141183460469231731687303715884105728,
      170141183460469231731687303715884105727) ∈ ranges := by decide
  exact ⟨(hok _).mpr ⟨_, hleast, by decide, .integer (by decide)⟩,
    ⟨_, hv, rfl, (hsame _ _ _ _ hv hgreatest hi128).trans (by decide +kernel)⟩, herror hnone⟩

end Converters

end Storyline
