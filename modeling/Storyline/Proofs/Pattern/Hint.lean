import Storyline.Proofs.Number
import Storyline.Proofs.Pattern.Source
import Storyline.Proofs.Regex.Language

/-!
# What the hints of numbers and truth values match

The languages of these hints, as far as they are ASCII: rows of digits (`digits_of_denotes`), for
signed integers after a sign (`exists_sign_of_denotes`), numerals (`exists_parse_of_denotes`), and
four words (`exists_word_of_denotes`). No text of them, ASCII or not, has a blank (`not_isBlank`).
-/

set_option autoImplicit false

namespace Storyline

open Regex Decimal
open Unicode (Ascii isBlank ascii_append ascii_forall)

namespace HintClass

/-! ## Expressions -/

/-- A row of at least so many digits. -/
def digits (least : Nat) : Regex := .rep (.char .digit) least none true

/-- An expression that may be left out. -/
def optional (r : Regex) : Regex := .rep r 0 (some 1) true

/-- The signs. -/
def signs : CharSet := .union (.union .empty (.single '+')) (.single '-')

/-- Digits with at most one point among them. -/
def mantissa : Regex :=
  .alt (.seq (digits 1) (.seq (.char (.fold (.single '.'))) (digits 0)))
    (.alt (.seq (.char (.fold (.single '.'))) (digits 1)) (digits 1))

/-- A power of ten. -/
def exponent : Regex :=
  .seq (.char (.fold (.single 'e'))) (.seq (optional (.char (.fold signs))) (digits 1))

/-- The case variants of a word. -/
def ofWord (x : Text) : Regex := seqOf (x.map fun c => .char (.fold (.single c)))

theorem regex_unsigned : unsigned.regex = digits 1 := rfl

theorem regex_signed : signed.regex = .seq (optional (.char signs)) (digits 1) := rfl

theorem regex_float : float.regex =
    .alt (.seq (optional (.char (.fold signs))) (.seq mantissa (optional exponent)))
      (.alt (ofWord "nan".toList) (.alt (ofWord "inf".toList) (ofWord "infinity".toList))) := by
  decide +kernel

theorem regex_boolean : boolean.regex =
    .alt (ofWord "true".toList) (.alt (ofWord "false".toList)
      (.alt (ofWord "yes".toList) (ofWord "no".toList))) := by
  decide +kernel

/-! ## Characters -/

theorem contains_signs {c : Char} : signs.contains c = true ↔ c = '+' ∨ c = '-' := by
  simp only [signs, CharSet.contains, Bool.or_eq_true, Bool.false_eq_true, false_or,
    contains_single]

/-- A character that no ASCII character is another case of stands for itself. -/
theorem eq_of_contains_fold {S : CharSet} {c : Char}
    (hS : ∀ x, S.contains x = true → x = '+' ∨ x = '-' ∨ x = '.') (hc : c.toNat < 0x80)
    (h : (CharSet.fold S).contains c = true) : S.contains c = true := by
  have hsame : ('+'.toLower = c.toLower → '+' = c) ∧ ('-'.toLower = c.toLower → '-' = c) ∧
      ('.'.toLower = c.toLower → '.' = c) :=
    ascii_forall (p := fun c => ('+'.toLower = c.toLower → '+' = c) ∧
      ('-'.toLower = c.toLower → '-' = c) ∧ ('.'.toLower = c.toLower → '.' = c)) (by decide) hc
  have hascii (x : Char) (hx : S.contains x = true) : x.toNat < 0x80 := by
    rcases hS x hx with rfl | rfl | rfl <;> decide
  obtain ⟨x, hx, hlower⟩ := Unicode.toLower_eq_of_contains_fold hascii hc h
  have hx' : x = c := by
    rcases hS x hx with rfl | rfl | rfl
    · exact hsame.1 hlower
    · exact hsame.2.1 hlower
    · exact hsame.2.2 hlower
  exact hx' ▸ hx

theorem toLower_eq_of_contains_single {a c : Char} (ha : a.toNat < 0x80) (hc : c.toNat < 0x80)
    (h : (CharSet.fold (.single a)).contains c = true) : a.toLower = c.toLower := by
  obtain ⟨x, hx, hlower⟩ :=
    Unicode.toLower_eq_of_contains_fold (fun x hx => contains_single.mp hx ▸ ha) hc h
  exact contains_single.mp hx ▸ hlower

/-! ## Parts of numbers -/

variable {w : Text}

theorem isDigit_of_denotes {least : Nat} (hw : Ascii w) (h : (digits least).Denotes w) :
    ∀ c ∈ w, c.isDigit = true := fun c hc => by
  rw [← Unicode.contains_digit (hw c hc)]
  exact (denotes_rep_char.mp h).2 c hc

theorem digits_of_denotes (hw : Ascii w) (h : (digits 1).Denotes w) : Digits w :=
  ⟨List.length_pos_iff.mp (denotes_rep_char.mp h).1, isDigit_of_denotes hw h⟩

theorem sign_of_denotes {S : CharSet} (hS : S = signs ∨ S = .fold signs) (hw : Ascii w)
    (h : (optional (.char S)).Denotes w) : Sign w := by
  rcases denotes_optional.mp h with rfl | h
  · exact .inl rfl
  · obtain ⟨c, hc, rfl⟩ := denotes_char.mp h
    have hsign : signs.contains c = true := by
      rcases hS with rfl | rfl
      · exact hc
      · refine eq_of_contains_fold (fun x hx => ?_) (hw c (List.mem_singleton_self c)) hc
        rcases contains_signs.mp hx with rfl | rfl <;> simp
    rcases contains_signs.mp hsign with rfl | rfl
    · exact .inr (.inl rfl)
    · exact .inr (.inr rfl)

theorem point_of_denotes (hw : Ascii w) (h : (char (.fold (.single '.'))).Denotes w) :
    w = ['.'] := by
  obtain ⟨c, hc, rfl⟩ := denotes_char.mp h
  have hpoint : (CharSet.single '.').contains c = true :=
    eq_of_contains_fold (fun x hx => .inr (.inr (contains_single.mp hx)))
      (hw c (List.mem_singleton_self c)) hc
  rw [contains_single.mp hpoint]

theorem mantissa_of_denotes (hw : Ascii w) (h : mantissa.Denotes w) : Mantissa w := by
  rcases denotes_alt.mp h with h | h
  · obtain ⟨u, v, rfl, hu, hv⟩ := (denotes_seq rfl rfl).mp h
    obtain ⟨p, f, rfl, hp, hf⟩ := (denotes_seq rfl rfl).mp hv
    obtain ⟨hwhole, hrest⟩ := ascii_append.mp hw
    obtain ⟨hpoint, hfraction⟩ := ascii_append.mp hrest
    rw [point_of_denotes hpoint hp]
    exact .point (digits_of_denotes hwhole hu) (isDigit_of_denotes hfraction hf)
  · rcases denotes_alt.mp h with h | h
    · obtain ⟨p, f, rfl, hp, hf⟩ := (denotes_seq rfl rfl).mp h
      obtain ⟨hpoint, hfraction⟩ := ascii_append.mp hw
      rw [point_of_denotes hpoint hp]
      exact .fraction (digits_of_denotes hfraction hf)
    · exact .whole (digits_of_denotes hw h)

theorem exponent_of_denotes (hw : Ascii w) (h : (optional exponent).Denotes w) : Exponent w := by
  rcases denotes_optional.mp h with rfl | h
  · exact .none
  · obtain ⟨u, v, rfl, hu, hv⟩ := (denotes_seq rfl rfl).mp h
    obtain ⟨s, ds, rfl, hs, hds⟩ := (denotes_seq rfl rfl).mp hv
    obtain ⟨hletter, hrest⟩ := ascii_append.mp hw
    obtain ⟨hsign, hdigits⟩ := ascii_append.mp hrest
    obtain ⟨c, hc, rfl⟩ := denotes_char.mp hu
    have hascii : c.toNat < 0x80 := hletter c (List.mem_singleton_self c)
    have hlower := toLower_eq_of_contains_single (by decide) hascii hc
    have he : c = 'e' ∨ c = 'E' :=
      ascii_forall (p := fun c => 'e'.toLower = c.toLower → c = 'e' ∨ c = 'E') (by decide) hascii
        hlower
    change Exponent (c :: (s ++ ds))
    exact .power he (sign_of_denotes (.inr rfl) hsign hs) (digits_of_denotes hdigits hds)

theorem sameLetters_of_spans {x pre post : Text} {m : Marks} (hx : Ascii x) (hw : Ascii w)
    (h : Spans (ofWord x) pre w post m) : Text.sameLetters w x = true := by
  refine beq_iff_eq.mpr ?_
  induction x generalizing pre w m with
  | nil =>
      obtain ⟨rfl, -⟩ := spans_seqOf_nil.mp h
      rfl
  | cons a x ih =>
      obtain ⟨u, v, m₁, m₂, rfl, -, hchar, hrest⟩ := spans_seqOf_cons.mp h
      obtain ⟨c, hc, rfl, -⟩ := spans_char.mp hchar
      obtain ⟨ha, hx⟩ := Unicode.ascii_cons.mp hx
      obtain ⟨hascii, hv⟩ := Unicode.ascii_cons.mp hw
      exact congrArg₂ List.cons (toLower_eq_of_contains_single ha hascii hc).symm (ih hx hv hrest)

/-- A word in any case. -/
theorem sameLetters_of_denotes {x : Text} (hx : Ascii x) (hw : Ascii w) (h : (ofWord x).Denotes w) :
    Text.sameLetters w x = true :=
  h.elim fun _ h => sameLetters_of_spans hx hw h

/-! ## Hints -/

theorem exists_sign_of_denotes (hw : Ascii w) (h : signed.regex.Denotes w) :
    ∃ s ds, w = s ++ ds ∧ Sign s ∧ Digits ds := by
  rw [regex_signed] at h
  obtain ⟨s, ds, rfl, hs, hds⟩ := (denotes_seq rfl rfl).mp h
  obtain ⟨hsign, hdigits⟩ := ascii_append.mp hw
  exact ⟨s, ds, rfl, sign_of_denotes (.inl rfl) hsign hs, digits_of_denotes hdigits hds⟩

/-- A text for a floating-point number is a numeral. -/
theorem exists_parse_of_denotes (hw : Ascii w) (h : float.regex.Denotes w) :
    ∃ n, Numeral.parse w = .ok n := by
  rw [regex_float] at h
  have hname {x : Text} (hx : x ∈ Numeral.names) (h : (ofWord x).Denotes w) :
      ∃ n, Numeral.parse w = .ok n := by
    have hascii : ∀ x ∈ Numeral.names, Ascii x := by decide
    exact Numeral.exists_parse_name hx (sameLetters_of_denotes (hascii x hx) hw h)
  rcases denotes_alt.mp h with h | h
  · obtain ⟨s, v, rfl, hs, hv⟩ := (denotes_seq rfl rfl).mp h
    obtain ⟨m, e, rfl, hm, he⟩ := (denotes_seq rfl rfl).mp hv
    obtain ⟨hsign, hrest⟩ := ascii_append.mp hw
    obtain ⟨hmantissa, hexponent⟩ := ascii_append.mp hrest
    exact Numeral.exists_parse_decimal (sign_of_denotes (.inr rfl) hsign hs)
      (mantissa_of_denotes hmantissa hm) (exponent_of_denotes hexponent he)
  · rcases denotes_alt.mp h with h | h
    · exact hname (by simp [Numeral.names]) h
    · rcases denotes_alt.mp h with h | h
      · exact hname (by simp [Numeral.names]) h
      · exact hname (by simp [Numeral.names]) h

/-- The words for truth values. -/
def truthWords : List (String × Bool) :=
  [("true", true), ("yes", true), ("false", false), ("no", false)]

/-- A text for a truth value is one of the words. -/
theorem exists_word_of_denotes (hw : Ascii w) (h : boolean.regex.Denotes w) :
    ∃ x ∈ truthWords, Text.sameLetters w x.1.toList = true := by
  have hword {x : String × Bool} (hx : x ∈ truthWords) (h : (ofWord x.1.toList).Denotes w) :
      ∃ x ∈ truthWords, Text.sameLetters w x.1.toList = true := by
    have hascii : ∀ x ∈ truthWords, Ascii x.1.toList := by decide
    exact ⟨x, hx, sameLetters_of_denotes (hascii x hx) hw h⟩
  rw [regex_boolean] at h
  rcases denotes_alt.mp h with h | h
  · exact hword (x := ("true", true)) (by decide) h
  · rcases denotes_alt.mp h with h | h
    · exact hword (x := ("false", false)) (by decide) h
    · rcases denotes_alt.mp h with h | h
      · exact hword (x := ("yes", true)) (by decide) h
      · exact hword (x := ("no", false)) (by decide) h

/-- The hints whose texts are numbers or truth values. -/
def strict : List HintClass := [unsigned, signed, float, boolean]

/-- The sets that the expressions of these hints are made of, up to case. -/
def strictSets : List CharSet :=
  .digit :: signs :: ".aefilnorstuy".toList.map .single

theorem exists_strictSet : ∀ cls ∈ strict, ∀ S ∈ cls.regex.sets,
    ∃ T ∈ strictSets, S = T ∨ S = .fold T := by
  simp only [strict, List.forall_mem_cons, regex_unsigned, regex_signed, regex_float, regex_boolean]
  decide +kernel

/-- No text for such a hint has a blank in it. -/
theorem not_isBlank {cls : HintClass} (hcls : cls ∈ strict) (h : cls.regex.Denotes w) :
    ∀ c ∈ w, isBlank c = false := by
  intro c hc
  obtain ⟨m, hspans⟩ := h
  obtain ⟨S, hmem, hS⟩ := hspans.exists_set hc
  obtain ⟨T, hT, hcase⟩ := exists_strictSet cls hcls S hmem
  by_contra hblank
  rw [Bool.not_eq_false] at hblank
  have hnot : ∀ T ∈ strictSets, T.contains c = false :=
    Unicode.blank_forall (p := fun c => ∀ T ∈ strictSets, T.contains c = false) (by decide +kernel)
      hblank
  rcases hcase with rfl | rfl
  · rw [hnot S hT] at hS
    cases hS
  · rw [Unicode.contains_fold_of_isBlank hblank, hnot T hT] at hS
    cases hS

end HintClass

end Storyline
