import Storyline.Proofs.Pattern.Cut
import Storyline.Proofs.Pattern.Hint
import Storyline.Proofs.Step.Binding
import Storyline.Proofs.Step.Ranking

/-!
# Hints and converters

A placeholder for a number or a truth value matches what its hint says, and the converter of the
hint reads what was matched. The two agree on ASCII texts: all that is matched has a value, except
for integers that their type does not hold (`Outcome`). Digits and letters from elsewhere are
matched, but no converter reads them.
-/

set_option autoImplicit false

namespace Storyline

open Regex
open Unicode (Ascii isBlank)

variable {κ σ : Type}

/-! ## Outcomes -/

/-- What the text `s` for a number or a truth value is converted to: a value of the type that the
hint `h` names, unless the text denotes an integer that the type does not hold. -/
inductive Converters.Outcome (h s : Text) : Except ConversionError (Value κ) → Prop
  | unsigned {τ : IntegerType} {n : Nat} (hτ : τ ∈ IntegerType.all) (hh : h = τ.name.toList)
    (hsigned : τ.signed = false) (hn : Decimal.integer s = n) (hholds : τ.holds n = true) :
    Outcome h s (.ok (.unsigned n))
  | signed {τ : IntegerType} {n : Int} (hτ : τ ∈ IntegerType.all) (hh : h = τ.name.toList)
    (hsigned : τ.signed = true) (hn : Decimal.integer s = n) (hholds : τ.holds n = true) :
    Outcome h s (.ok (.integer n))
  | overflow {τ : IntegerType} (hτ : τ ∈ IntegerType.all) (hh : h = τ.name.toList)
    (hholds : τ.holds (Decimal.integer s) = false) (e : ConversionError) : Outcome h s (.error e)
  | float {f : BinaryFormat} {n : Numeral}
    (hh : h = "f32".toList ∧ f = .single ∨ h = "f64".toList ∧ f = .double)
    (hn : Numeral.parse s = .ok n) : Outcome h s (.ok (.float (f.ofNumeral n)))
  | boolean {w : String} {b : Bool} (hh : h = "bool".toList) (hw : (w, b) ∈ HintClass.truthWords)
    (hs : Text.sameLetters s w.toList = true) : Outcome h s (.ok (.boolean b))

/-! ## Hints for numbers and truth values -/

/-- The hint is for numbers or truth values. -/
def HintClass.Strict (hint : Option Text) : Prop := HintClass.ofHint hint ∈ strict

instance (hint : Option Text) : Decidable (HintClass.Strict hint) :=
  inferInstanceAs (Decidable (HintClass.ofHint hint ∈ HintClass.strict))

theorem HintClass.Strict.ne_text {hint : Option Text} (h : Strict hint) : ofHint hint ≠ .text := by
  intro htext
  rw [Strict, htext] at h
  exact absurd h (by decide)

theorem HintClass.ofHint_integer : ∀ τ ∈ IntegerType.all,
    ofHint (some τ.name.toList) = if τ.signed then signed else unsigned := by
  decide +kernel

/-- The hints for numbers or truth values. -/
theorem HintClass.Strict.cases {h : Text} (hh : Strict (some h)) :
    (∃ τ ∈ IntegerType.all, h = τ.name.toList) ∨ (h = "f32".toList ∨ h = "f64".toList) ∨
      h = "bool".toList := by
  by_contra hnot
  simp only [not_or, not_exists, not_and] at hnot
  obtain ⟨hinteger, ⟨h32, h64⟩, hbool⟩ := hnot
  have hnone : IntegerType.all.find? (fun τ => τ.name.toList == h) = none :=
    List.find?_eq_none.mpr fun τ hτ heq => hinteger τ hτ (beq_iff_eq.mp heq).symm
  have hclass : ofHint (some h) ∉ strict := by
    simp only [ofHint, hnone, h32, h64, hbool, or_self, if_false]
    split
    · decide
    · split <;> decide
  exact hclass hh

theorem Converters.find?_integer : ∀ τ ∈ IntegerType.all,
    (default (κ := κ)).find? τ.name.toList = some (.integer τ) := by
  simp only [IntegerType.all, List.forall_mem_cons]
  exact ⟨rfl, rfl, rfl, rfl, rfl, rfl, rfl, rfl, rfl, rfl, rfl, rfl, List.forall_mem_nil _⟩

/-! ## Converters -/

namespace Converter

variable {ε α : Type} {parse : Text → Except ε α} {message : ε → String} {value : α → Value κ}
  {s : Text}

theorem quoting_of_ok {a : α} (h : parse (Text.trim s) = .ok a) :
    quoting parse message value s = .ok (value a) := by
  simp only [quoting, h]

theorem exists_ok_of_quoting {v : Value κ} (h : quoting parse message value s = .ok v) :
    ∃ a, parse (Text.trim s) = .ok a := by
  unfold quoting at h
  cases hp : parse (Text.trim s) with
  | ok a => exact ⟨a, rfl⟩
  | error e => simp [hp] at h

/-- Where a reader accepts ASCII only, a text with other characters has no value. -/
theorem quoting_of_not_ascii (hparse : ∀ t a, parse t = .ok a → Ascii t) (htrim : Text.trim s = s)
    (hs : ¬ Ascii s) : ∃ e, quoting parse message value s = .error e := by
  cases hq : quoting parse message value s with
  | error e => exact ⟨e, rfl⟩
  | ok v =>
      obtain ⟨a, ha⟩ := exists_ok_of_quoting hq
      rw [htrim] at ha
      exact absurd (hparse s a ha) hs

/-- **Integers.** A number has a value just if its type holds it. -/
theorem outcome_integer {τ : IntegerType} (hτ : τ ∈ IntegerType.all) (htrim : Text.trim s = s)
    (h : τ.ReadsAs (Decimal.integer s) (τ.parse s)) :
    Converters.Outcome (κ := κ) τ.name.toList s (integer τ s) := by
  rw [IntegerType.ReadsAs] at h
  cases hholds : τ.holds (Decimal.integer s) with
  | false =>
      rw [hholds, if_neg Bool.false_ne_true] at h
      obtain ⟨e, he⟩ := h
      have herror : integer (κ := κ) τ s = .error ⟨s!"'{s.toString}': {e.message}"⟩ := by
        simp only [integer, quoting, htrim, he]
      rw [herror]
      exact .overflow hτ rfl hholds _
  | true =>
      rw [hholds, if_pos rfl, ← htrim] at h
      rw [integer, quoting_of_ok h, htrim]
      cases hsigned : τ.signed with
      | true => exact .signed hτ rfl hsigned rfl hholds
      | false =>
          -- all numbers of the type are natural
          have hleast : 0 ≤ Decimal.integer s := by
            have hle := (IntegerType.holds_iff.mp hholds).1
            rwa [IntegerType.least, hsigned] at hle
          have hn : Decimal.integer s = (Decimal.integer s).toNat :=
            (Int.toNat_of_nonneg hleast).symm
          exact .unsigned hτ rfl hsigned hn (hn ▸ hholds)

/-- **Truth values.** Each of the words has its value. -/
theorem outcome_boolean (htrim : Text.trim s = s)
    (hs : ∃ w ∈ HintClass.truthWords, Text.sameLetters s w.1.toList = true) :
    Converters.Outcome (κ := κ) "bool".toList s (boolean s) := by
  simp only [HintClass.truthWords, List.mem_cons, List.not_mem_nil, or_false, exists_eq_or_imp,
    exists_eq_left] at hs
  unfold boolean
  rw [htrim]
  dsimp only
  split
  · next h =>
      rcases Bool.or_eq_true_iff.mp h with h | h
      · exact .boolean (w := "true") rfl (by decide) h
      · exact .boolean (w := "yes") rfl (by decide) h
  · next hyes =>
      split
      · next h =>
          rcases Bool.or_eq_true_iff.mp h with h | h
          · exact .boolean (w := "false") rfl (by decide) h
          · exact .boolean (w := "no") rfl (by decide) h
      · next hno =>
          simp only [Bool.or_eq_true, not_or] at hyes hno
          rcases hs with h | h | h | h
          · exact absurd h hyes.1
          · exact absurd h hyes.2
          · exact absurd h hno.1
          · exact absurd h hno.2

/-- A truth value is written in ASCII. -/
theorem boolean_of_not_ascii (htrim : Text.trim s = s) (hs : ¬ Ascii s) :
    ∃ e, boolean (κ := κ) s = .error e := by
  have hne {w : Text} (hw : Ascii (Text.lower w)) : Text.sameLetters s w = false :=
    Bool.eq_false_iff.mpr fun h => hs (Text.ascii_of_sameLetters h hw)
  unfold boolean
  simp only [htrim, hne (w := "true".toList) (by decide), hne (w := "yes".toList) (by decide),
    hne (w := "false".toList) (by decide), hne (w := "no".toList) (by decide)]
  exact ⟨_, rfl⟩

end Converter

/-! ## Hints and their converters -/

namespace Converters

open HintClass (Strict)

variable {h s : Text}

/-- A matched text has no blanks that a converter could trim. -/
theorem trim_of_denotes (hh : Strict (some h)) (hs : (HintClass.ofHint (some h)).regex.Denotes s) :
    Text.trim s = s := by
  have hnot := HintClass.not_isBlank hh hs
  exact Text.trim_eq_self_iff.mpr ⟨fun c hc => hnot c (List.mem_of_mem_head? hc),
    fun c hc => hnot c (List.mem_of_mem_getLast? hc)⟩

/-- The text for an integer is a number of digits after a sign. -/
theorem readsAs_of_denotes {τ : IntegerType} (hτ : τ ∈ IntegerType.all)
    (hs : (HintClass.ofHint (some τ.name.toList)).regex.Denotes s) (hascii : Ascii s) :
    τ.ReadsAs (Decimal.integer s) (τ.parse s) := by
  rw [HintClass.ofHint_integer τ hτ] at hs
  cases hsigned : τ.signed with
  | true =>
      rw [hsigned, if_pos rfl] at hs
      obtain ⟨sign, ds, rfl, hsign, hds⟩ := HintClass.exists_sign_of_denotes hascii hs
      exact IntegerType.readsAs_parse hsign hds fun _ => hsigned
  | false =>
      rw [hsigned, if_neg Bool.false_ne_true] at hs
      have hds : Decimal.Digits s := HintClass.digits_of_denotes hascii hs
      exact IntegerType.readsAs_parse (s := []) (.inl rfl) hds nofun

/-- **What a hint matches is converted.** An ASCII text that a hint for numbers or truth values
matches has a value of its type, unless it is an integer out of range. -/
theorem outcome_of_denotes (hh : Strict (some h))
    (hs : (HintClass.ofHint (some h)).regex.Denotes s) (hascii : Ascii s) :
    Outcome h s ((default (κ := κ)).convert (some h) s) := by
  have htrim := trim_of_denotes hh hs
  have hfloat {f : BinaryFormat}
      (hh : h = "f32".toList ∧ f = .single ∨ h = "f64".toList ∧ f = .double)
      (hs : HintClass.float.regex.Denotes s) : Outcome h s (Converter.float (κ := κ) f s) := by
    obtain ⟨n, hn⟩ := HintClass.exists_parse_of_denotes hascii hs
    have hvalue : Converter.float (κ := κ) f s = .ok (.float (f.ofNumeral n)) :=
      Converter.quoting_of_ok (htrim.symm ▸ hn)
    exact hvalue ▸ .float hh hn
  rcases hh.cases with ⟨τ, hτ, rfl⟩ | (rfl | rfl) | rfl
  · simp only [convert, Option.bind_some, find?_integer τ hτ]
    exact Converter.outcome_integer hτ htrim (readsAs_of_denotes hτ hs hascii)
  · exact hfloat (.inl ⟨rfl, rfl⟩) hs
  · exact hfloat (.inr ⟨rfl, rfl⟩) hs
  · exact Converter.outcome_boolean htrim (HintClass.exists_word_of_denotes hascii hs)

/-- What is not ASCII has no value, whatever the hint matches. -/
theorem exists_error_of_denotes (hh : Strict (some h))
    (hs : (HintClass.ofHint (some h)).regex.Denotes s) (hascii : ¬ Ascii s) :
    ∃ e, (default (κ := κ)).convert (some h) s = .error e := by
  have htrim := trim_of_denotes hh hs
  rcases hh.cases with ⟨τ, hτ, rfl⟩ | (rfl | rfl) | rfl
  · simp only [convert, Option.bind_some, find?_integer τ hτ]
    exact Converter.quoting_of_not_ascii (fun _ _ => IntegerType.ascii_of_parse) htrim hascii
  · exact Converter.quoting_of_not_ascii (fun _ _ => Numeral.ascii_of_parse) htrim hascii
  · exact Converter.quoting_of_not_ascii (fun _ _ => Numeral.ascii_of_parse) htrim hascii
  · exact Converter.boolean_of_not_ascii htrim hascii

/-- A refused ASCII text is an integer out of range. -/
theorem overflow_of_error (hh : Strict (some h))
    (hs : (HintClass.ofHint (some h)).regex.Denotes s) (hascii : Ascii s) {e : ConversionError}
    (he : (default (κ := κ)).convert (some h) s = .error e) :
    ∃ τ ∈ IntegerType.all, h = τ.name.toList ∧ τ.holds (Decimal.integer s) = false := by
  have houtcome := outcome_of_denotes (κ := κ) hh hs hascii
  rw [he] at houtcome
  cases houtcome with
  | overflow hτ hname hholds => exact ⟨_, hτ, hname, hholds⟩

end Converters

/-! ## Steps with typed parameters -/

/-- The definition has a pattern with placeholders, all of them for numbers or truth values. -/
structure StepDefinition.Typed [ClassNames] (d : StepDefinition κ σ) : Prop where
  exists_source : ∃ source, Pattern.ofPlaceholders source = .ok d.pattern
  hints_eq : d.hints = d.pattern.params.map (·.hint)
  strict : ∀ hint ∈ d.hints, HintClass.Strict hint

/-- The values that a pattern with placeholders captures fit its hints. -/
theorem Pattern.fits_of_captures [ClassNames] {source t : Text} {p : Pattern} {vs : List Text}
    (hp : ofPlaceholders source = .ok p) (hvs : p.captures t = some vs) {i : Nat} {q : Param}
    {v : Text} (hq : p.params[i]? = some q) (hv : vs[i]? = some v) : Fits q.hint v := by
  cases hlex : lex source with
  | error e => simp [ofPlaceholders, hlex] at hp
  | ok ts =>
      rw [ofPlaceholders_of_lex hlex] at hp
      cases hp
      obtain ⟨gs, hgs, rfl⟩ := Option.map_eq_some_iff.mp hvs
      exact (cut_of_search hgs).fits hq hv

/-- What is found for a line are the values that the definition captures in some text. -/
theorem Matcher.captures_of_find {m : Matcher κ σ} {prev : Option StepKeyword} {line : Text}
    {h : Hit κ σ} (hf : m.find prev line = .hit h) :
    ∃ t, h.definition.pattern.captures t = some h.captures := by
  unfold find at hf
  split at hf
  · cases hf
  · next k t _ =>
      have hmem : h ∈ m.winners (k.resolve prev) t := by
        cases hw : m.winners (k.resolve prev) t with
        | nil => simp [hw, Finding.ofWinners] at hf
        | cons h' hs =>
            cases hs with
            | nil =>
                simp only [hw, Finding.ofWinners, Finding.hit.injEq] at hf
                exact hf ▸ List.mem_cons_self
            | cons => simp [hw, Finding.ofWinners] at hf
      exact ⟨t, captures_of_mem_winners hmem⟩
  · cases hf

/-! ## Agreement -/

namespace Matcher

/-- A definition that applies is found where there is no other. -/
theorem find_of_captures {name : String} {d : StepDefinition κ σ} {ks : Keywords}
    {cs : Converters κ} {prev : Option StepKeyword} {line t : Text} {k : StepKeyword}
    {vs : List Text} (hline : ks.classify line = some (.step k, t))
    (hk : d.keyword = k.resolve prev) (hvs : d.pattern.captures t = some vs) :
    (Matcher.mk [⟨name, [d]⟩] ks cs).find prev line = .hit ⟨name, d, vs⟩ := by
  have hkey : (d.keyword == k.resolve prev) = true := by rw [hk, beq_self_eq_true]
  have hhits : (StepCollection.mk name [d]).hits (k.resolve prev) t = [⟨name, d, vs⟩] := by
    simp only [StepCollection.hits, List.filter_cons, hkey, if_true, List.filter_nil,
      List.filterMap_cons, List.filterMap_nil, hvs, Option.map_some]
  simp only [find, hline, winners, List.filterMap_cons, List.filterMap_nil, hhits]
  simp [best?, Hit.winners, Finding.ofWinners]

/-- A step whose parameters are all for numbers or truth values fails with a value that is no ASCII
text, or with an integer out of range. -/
theorem overflow_of_unresolvable [ClassNames] {m : Matcher κ σ} {prev : Option StepKeyword}
    {line : Text} {hit : Hit κ σ} {c : StepCause} (hm : m.converters = .default)
    (hf : m.find prev line = .hit hit) (hd : hit.definition.Typed)
    (hc : (m.matchStep prev line).1.binding = .unresolvable c) :
    ∃ i h raw e, c = .conversion line (i + 1) h raw e ∧ hit.definition.hints[i]? = some (some h) ∧
      hit.captures[i]? = some raw ∧
      (Ascii raw → ∃ τ ∈ IntegerType.all, h = τ.name.toList ∧
        τ.holds (Decimal.integer raw) = false) := by
  have ha : hit.arguments .default line = .error c := by
    simp only [matchStep, step, hf, Finding.binding, hm] at hc
    split at hc
    · cases hc
    · next e he =>
        cases hc
        exact he
  obtain ⟨i, hint, raw, e, hhint, hraw, he, rfl, -⟩ := Hit.conversion_of_arguments ha
  have hstrict := hd.strict hint (List.mem_of_getElem? hhint)
  cases hint with
  | none => exact absurd rfl hstrict.ne_text
  | some h =>
      refine ⟨i, h, raw, e, rfl, hhint, hraw, fun hascii => ?_⟩
      obtain ⟨source, hsource⟩ := hd.exists_source
      obtain ⟨t, ht⟩ := captures_of_find hf
      rw [hd.hints_eq, List.getElem?_map] at hhint
      obtain ⟨p, hp, hhint⟩ := Option.map_eq_some_iff.mp hhint
      have hfits := (Pattern.fits_of_captures hsource ht hp hraw).2
      rw [hhint, if_neg hstrict.ne_text] at hfits
      exact Converters.overflow_of_error hstrict hfits hascii he

end Matcher

namespace Converters

/-- **Hints and converters agree on ASCII texts.** What the expression of a hint for numbers or
truth values matches is converted to a value of its type, unless it is an integer that the type does
not hold; what is not ASCII has no value. Hence a step with such parameters fails with a text that
is not ASCII, or with an integer out of range. -/
theorem convert_follows_hints [ClassNames] :
    (∀ (h s : Text) (r : Regex), HintClass.Strict (some h) →
      Regex.parse? (hintSource (some h)).toList = some r → r.Denotes s →
        (Ascii s → Outcome h s ((default (κ := κ)).convert (some h) s)) ∧
        (¬ Ascii s → ∃ e, (default (κ := κ)).convert (some h) s = .error e)) ∧
    ∀ (m : Matcher κ σ) (prev : Option StepKeyword) (line : Text) (hit : Hit κ σ) (c : StepCause),
      m.converters = default → m.find prev line = .hit hit → hit.definition.Typed →
        (m.matchStep prev line).1.binding = .unresolvable c →
        ∃ i h raw e, c = .conversion line (i + 1) h raw e ∧
          hit.definition.hints[i]? = some (some h) ∧ hit.captures[i]? = some raw ∧
          (Ascii raw → ∃ τ ∈ IntegerType.all, h = τ.name.toList ∧
            τ.holds (Decimal.integer raw) = false) := by
  refine ⟨fun h s r hh hr hs => ?_, fun m prev line hit c hm hf hd hc =>
    m.overflow_of_unresolvable hm hf hd hc⟩
  obtain rfl : (HintClass.ofHint (some h)).regex = r :=
    Option.some.inj ((HintClass.parse?_source _).symm.trans hr)
  exact ⟨outcome_of_denotes hh hs, exists_error_of_denotes hh hs⟩

/-- The least number of a type, and a step with a number that is too large. -/
theorem convert_follows_hints_limit :
    Outcome "i8".toList "-128".toList
        ((default (κ := Unit)).convert (some "i8".toList) "-128".toList) ∧
      ∃ (m : Matcher Unit Unit) (hit : Hit Unit Unit) (e : ConversionError),
        m.converters = default ∧ m.find none "Given a limit of 300".toList = .hit hit ∧
        hit.definition.Typed ∧ hit.captures = ["300".toList] ∧
        (m.matchStep none "Given a limit of 300".toList).1.binding =
          .unresolvable (.conversion "Given a limit of 300".toList 1 "u8".toList "300".toList e) ∧
        ∃ τ ∈ IntegerType.all, "u8".toList = τ.name.toList ∧
          τ.holds (Decimal.integer "300".toList) = false := by
  have hsigned : (HintClass.signed.regex).Denotes "-128".toList :=
    (denotes_seq rfl rfl).mpr ⟨['-'], "128".toList, rfl,
      denotes_optional.mpr (.inr (denotes_char.mpr ⟨'-', rfl, rfl⟩)),
      denotes_rep_char.mpr ⟨by decide, List.all_eq_true.mp (by decide +kernel)⟩⟩
  have hconvert := (convert_follows_hints (κ := Unit) (σ := Unit)).1 "i8".toList "-128".toList _
    (by decide +kernel) (HintClass.parse?_source .signed) hsigned
  refine ⟨hconvert.1 (by decide), ?_⟩
  -- a matcher whose only pattern has one number
  let ts : List Pattern.Token :=
    [.literal "a limit of ".toList, .placeholder ⟨"n".toList, some "u8".toList⟩]
  have hlex : Pattern.lex "a limit of $n:u8".toList = .ok ts := by
    simp [Pattern.lex, Pattern.scan, Pattern.assemble, Pattern.flush, Pattern.takePlaceholder,
      Pattern.takeName, Pattern.takeHint, Pattern.isNameStart, Pattern.isNameChar, Except.map, ts]
  let d : StepDefinition Unit Unit :=
    { keyword := .given, pattern := Pattern.ofTokens "a limit of $n:u8".toList ts,
      hints := [some "u8".toList], handler := fun _ w => (.done, w) }
  let m : Matcher Unit Unit := ⟨[⟨"limits", [d]⟩], .default, default⟩
  have hline : Keywords.default.classify "Given a limit of 300".toList =
      some (.step .given, "a limit of 300".toList) := by decide +kernel
  have hcaptures : d.pattern.captures "a limit of 300".toList = some ["300".toList] := by
    decide +kernel
  have hfind : m.find none "Given a limit of 300".toList = .hit ⟨"limits", d, ["300".toList]⟩ :=
    Matcher.find_of_captures hline rfl hcaptures
  have htyped : d.Typed :=
    ⟨⟨_, Pattern.ofPlaceholders_of_lex hlex⟩, rfl, by decide +kernel⟩
  have hbinding : (m.matchStep none "Given a limit of 300".toList).1.binding =
      .unresolvable (.conversion "Given a limit of 300".toList 1 "u8".toList "300".toList
        ⟨"'300': number too large to fit in target type"⟩) := by
    simp only [Matcher.matchStep, Matcher.step, hfind]
    rfl
  obtain ⟨i, h, raw, e, hc, -, -, hout⟩ :=
    (convert_follows_hints (κ := Unit)).2 m none _ _ _ rfl hfind htyped hbinding
  cases hc
  exact ⟨m, _, _, rfl, hfind, htyped, rfl, hbinding, hout (by decide)⟩

/-- A digit of another script and a letter that folds to an ASCII one are matched, but have no
value. -/
theorem convert_refuses_matched :
    (∃ r, Regex.parse? (hintSource (some "u8".toList)).toList = some r ∧ r.Denotes ['\u0663'] ∧
      (default (κ := Unit)).convert (some "u8".toList) ['\u0663'] =
        .error ⟨"'\u0663': invalid digit found in string"⟩) ∧
    ∃ r, Regex.parse? (hintSource (some "bool".toList)).toList = some r ∧
      r.Denotes ['y', 'e', '\u017F'] ∧
      (default (κ := Unit)).convert (some "bool".toList) ['y', 'e', '\u017F'] =
        .error ⟨"'ye\u017F' is not a boolean"⟩ := by
  refine ⟨⟨_, HintClass.parse?_source .unsigned, ?_, rfl⟩,
    _, HintClass.parse?_source .boolean, ?_, rfl⟩
  · rw [HintClass.regex_unsigned]
    exact denotes_rep_char.mpr ⟨by decide, List.all_eq_true.mp (by decide +kernel)⟩
  · have hs : (CharSet.fold (.single 's')).contains '\u017F' = true := by decide +kernel
    have hyes : (HintClass.ofWord "yes".toList).Denotes ['y', 'e', '\u017F'] :=
      (denotes_seq rfl rfl).mpr ⟨['y'], ['e', '\u017F'], rfl, denotes_char.mpr ⟨'y', rfl, rfl⟩,
        (denotes_seq rfl rfl).mpr ⟨['e'], ['\u017F'], rfl, denotes_char.mpr ⟨'e', rfl, rfl⟩,
          denotes_char.mpr ⟨'\u017F', hs, rfl⟩⟩⟩
    exact denotes_alt.mpr (.inr (denotes_alt.mpr (.inr (denotes_alt.mpr (.inl hyes)))))

end Converters

end Storyline
