import Storyline.Proofs.Pattern.Source
import Storyline.Proofs.Regex.Search
import Storyline.Proofs.Text

/-!
# What a pattern with placeholders describes

The tokens of a pattern cut a text into pieces (`Cut`): literal text stands for itself, up to the
number and kind of blanks where it has some, and a placeholder for a text that fits its hint. The
pattern describes just the texts that can be cut, and the values that it captures are the pieces of
such a cut (`ofPlaceholders_cuts`).
-/

set_option autoImplicit false

namespace Storyline.Pattern

open Regex
open Unicode (isBlank)

/-! ## Cuts -/

/-- The text with one space in place of each run of blanks. With `afterBlank` a run has begun before
the text. -/
def squeeze (afterBlank : Bool) : Text → Text
  | [] => []
  | c :: t =>
    if isBlank c then (if afterBlank then [] else [' ']) ++ squeeze true t else c :: squeeze false t

/-- The value fits the hint: it is in the language of the hint, or stands on one line where the
hint says nothing. -/
def Fits (hint : Option Text) (v : Text) : Prop :=
  v ≠ [] ∧
    if HintClass.ofHint hint = .text then '\n' ∉ v else (HintClass.ofHint hint).regex.Denotes v

/-- The tokens cut a text into pieces, one for each token. The values are the pieces for
placeholders. -/
inductive Cut : List Token → (values : List Text) → Text → Prop
  | nil : Cut [] [] []
  | literal {l w : Text} {ts : List Token} {vs : List Text} {t : Text}
    (h : squeeze false w = squeeze false l) (hrest : Cut ts vs t) :
    Cut (.literal l :: ts) vs (w ++ t)
  | placeholder {p : Placeholder} {v : Text} {ts : List Token} {vs : List Text} {t : Text}
    (h : Fits p.hint v) (hrest : Cut ts vs t) : Cut (.placeholder p :: ts) (v :: vs) (v ++ t)

/-! ## Literal text -/

/-- Blanks at the start of a text belong to the run that has begun. -/
theorem squeeze_blanks {u : Text} (hu : ∀ c ∈ u, isBlank c = true) (t : Text) :
    squeeze true (u ++ t) = squeeze true t := by
  induction u with
  | nil => rfl
  | cons c u ih =>
      obtain ⟨hc, hrest⟩ := List.forall_mem_cons.mp hu
      rw [List.cons_append, squeeze, if_pos hc, if_pos rfl, List.nil_append, ih hrest]

theorem squeeze_cons_of_not {c : Char} (hc : isBlank c = false) (b : Bool) (t : Text) :
    squeeze b (c :: t) = c :: squeeze false t := by
  rw [squeeze, hc]
  rfl

theorem squeeze_cons_of_blank {c : Char} (hc : isBlank c = true) (t : Text) :
    squeeze false (c :: t) = ' ' :: squeeze true t := by
  rw [squeeze, hc]
  rfl

/-- A text whose first blank cannot belong to a run before it is squeezed to nothing just if it is
empty. -/
theorem squeeze_eq_nil_iff {b : Bool} {w : Text}
    (hw : b = true → ∀ c ∈ w.head?, isBlank c = false) : squeeze b w = [] ↔ w = [] := by
  cases w with
  | nil => simp [squeeze]
  | cons c w =>
      cases hc : isBlank c with
      | false => simp [squeeze_cons_of_not hc]
      | true =>
          cases b with
          | false => simp [squeeze_cons_of_blank hc]
          | true => simp [hw rfl c rfl] at hc

/-- A text is squeezed to one that starts with `c` just if it starts with `c` itself. -/
theorem squeeze_eq_cons_iff {c : Char} (hc : isBlank c = false) {b : Bool} {w t : Text}
    (hw : b = true → ∀ a ∈ w.head?, isBlank a = false) :
    squeeze b w = c :: t ↔ ∃ v, w = c :: v ∧ squeeze false v = t := by
  constructor
  · intro h
    cases w with
    | nil => cases h
    | cons a w =>
        cases ha : isBlank a with
        | false =>
            rw [squeeze_cons_of_not ha] at h
            obtain ⟨rfl, htail⟩ := List.cons.inj h
            exact ⟨w, rfl, htail⟩
        | true =>
            cases b with
            | true => simp [hw rfl a rfl] at ha
            | false =>
                rw [squeeze_cons_of_blank ha] at h
                obtain ⟨rfl, -⟩ := List.cons.inj h
                cases hc
  · rintro ⟨v, rfl, rfl⟩
    exact squeeze_cons_of_not hc b v

/-- A text is squeezed to one that starts with a space just if it starts with blanks. All of them
belong to the run. -/
theorem squeeze_eq_space_cons_iff {w t : Text} : squeeze false w = ' ' :: t ↔
    ∃ u v, w = u ++ v ∧ (u ≠ [] ∧ ∀ c ∈ u, isBlank c = true) ∧
      (∀ c ∈ v.head?, isBlank c = false) ∧ squeeze true v = t := by
  constructor
  · intro h
    cases w with
    | nil => cases h
    | cons a w =>
        cases ha : isBlank a with
        | false =>
            rw [squeeze_cons_of_not ha] at h
            obtain ⟨rfl, -⟩ := List.cons.inj h
            cases ha
        | true =>
            rw [squeeze_cons_of_blank ha] at h
            obtain ⟨-, htail⟩ := List.cons.inj h
            have hsplit : w.takeWhile isBlank ++ w.dropWhile isBlank = w :=
              List.takeWhile_append_dropWhile
            have hblank : ∀ c ∈ w.takeWhile isBlank, isBlank c = true :=
              fun c hc => List.mem_takeWhile_imp hc
            have hhead : ∀ c ∈ (w.dropWhile isBlank).head?, isBlank c = false :=
              Text.dropWhile_eq_self_iff.mp (List.dropWhile_idempotent isBlank w)
            refine ⟨a :: w.takeWhile isBlank, w.dropWhile isBlank, ?_,
              ⟨by simp, List.forall_mem_cons.mpr ⟨ha, hblank⟩⟩, hhead, ?_⟩
            · rw [List.cons_append, hsplit]
            · rw [← squeeze_blanks hblank, hsplit, htail]
  · rintro ⟨u, v, rfl, ⟨hu, hblank⟩, -, rfl⟩
    obtain ⟨a, u, rfl⟩ := List.exists_cons_of_ne_nil hu
    obtain ⟨ha, hblank⟩ := List.forall_mem_cons.mp hblank
    rw [List.cons_append, squeeze_cons_of_blank ha, squeeze_blanks hblank]

theorem spans_blankRun {pre w post : Text} {m : Marks} :
    Spans blankRun pre w post m ↔ w ≠ [] ∧ (∀ c ∈ w, isBlank c = true) ∧ m = [] := by
  have hlength : 1 ≤ w.length ↔ w ≠ [] := List.length_pos_iff
  rw [blankRun, spans_rep_char, hlength]
  rfl

/-- What the expressions for literal text match. After a blank no other blank may follow, since the
run has been matched as a whole. -/
theorem spans_literal {b : Bool} {l pre w post : Text} {m : Marks} :
    Spans (seqOf (literalRegexes b l)) pre w post m ↔
      squeeze b w = squeeze b l ∧ (b = true → ∀ c ∈ w.head?, isBlank c = false) ∧ m = [] := by
  induction l generalizing b pre w m with
  | nil =>
      rw [literalRegexes, spans_seqOf_nil]
      constructor
      · rintro ⟨rfl, rfl⟩
        simp
      · rintro ⟨hw, hhead, rfl⟩
        exact ⟨(squeeze_eq_nil_iff hhead).mp hw, rfl⟩
  | cons c l ih =>
      cases hc : isBlank c with
      | false =>
          rw [literalRegexes, hc, if_neg (by simp), spans_seqOf_cons, squeeze_cons_of_not hc]
          constructor
          · rintro ⟨u, v, m₁, m₂, rfl, rfl, hchar, hrest⟩
            obtain ⟨a, ha, rfl, rfl⟩ := spans_char.mp hchar
            obtain rfl := contains_single.mp ha
            obtain ⟨hv, -, rfl⟩ := ih.mp hrest
            refine ⟨?_, ?_, rfl⟩
            · rw [List.singleton_append, squeeze_cons_of_not hc, hv]
            · rintro - d ⟨⟩
              exact hc
          · rintro ⟨hw, hhead, rfl⟩
            obtain ⟨v, rfl, hv⟩ := (squeeze_eq_cons_iff hc hhead).mp hw
            have hchar : Spans (.char (.single c)) pre [c] (v ++ post) [] :=
              .char (contains_single.mpr rfl) _ _
            exact ⟨[c], v, [], [], rfl, rfl, hchar, ih.mpr ⟨hv, by simp, rfl⟩⟩
      | true =>
          cases b with
          | true =>
              -- the blank belongs to the run that has been matched
              rw [literalRegexes, if_pos hc, if_pos rfl, List.nil_append, ih, squeeze, if_pos hc,
                if_pos rfl, List.nil_append]
          | false =>
              rw [literalRegexes, if_pos hc, if_neg (by simp), List.singleton_append,
                spans_seqOf_cons, squeeze_cons_of_blank hc, squeeze_eq_space_cons_iff]
              constructor
              · rintro ⟨u, v, m₁, m₂, rfl, rfl, hrun, hrest⟩
                obtain ⟨hu, hblank, rfl⟩ := spans_blankRun.mp hrun
                obtain ⟨hv, hhead, rfl⟩ := ih.mp hrest
                exact ⟨⟨u, v, rfl, ⟨hu, hblank⟩, hhead rfl, hv⟩, by simp, rfl⟩
              · rintro ⟨⟨u, v, rfl, ⟨hu, hblank⟩, hhead, hv⟩, -, rfl⟩
                have hrun : Spans blankRun pre u (v ++ post) [] :=
                  spans_blankRun.mpr ⟨hu, hblank, rfl⟩
                exact ⟨u, v, [], [], rfl, rfl, hrun, ih.mpr ⟨hv, fun _ => hhead, rfl⟩⟩

/-! ## Placeholders -/

/-- The expressions of all hints match the same texts everywhere, have no groups of their own and
never match the empty text. -/
theorem regex_spec (c : HintClass) :
    c.regex.isLocal = true ∧ c.regex.groups = [] ∧ c.regex.nullable = false := by
  cases c <;> exact ⟨rfl, rfl, rfl⟩

theorem denotes_text {v : Text} : HintClass.text.regex.Denotes v ↔ v ≠ [] ∧ '\n' ∉ v := by
  have hregex : HintClass.text.regex = .rep (.char (.compl (.single '\n'))) 1 none false := rfl
  have hset (c : Char) : (CharSet.compl (.single '\n')).contains c = true ↔ c ≠ '\n' := by
    rw [CharSet.contains, Bool.not_eq_true', ← Bool.not_eq_true, contains_single]
  have hlength : 1 ≤ v.length ↔ v ≠ [] := List.length_pos_iff
  simp only [Denotes, hregex, spans_rep_char, hset, hlength]
  constructor
  · rintro ⟨m, hne, hall, -⟩
    exact ⟨hne, fun hmem => hall '\n' hmem rfl⟩
  · rintro ⟨hne, hnot⟩
    exact ⟨[], hne, fun c hc heq => hnot (heq ▸ hc), rfl⟩

theorem spans_hint {hint : Option Text} {pre v post : Text} {m : Marks} :
    Spans (HintClass.ofHint hint).regex pre v post m ↔ Fits hint v ∧ m = [] := by
  obtain ⟨hlocal, -, hnullable⟩ := regex_spec (HintClass.ofHint hint)
  have hne (h : Spans (HintClass.ofHint hint).regex pre v post m) : v ≠ [] := by
    intro hv
    rw [h.nullable hv] at hnullable
    cases hnullable
  have hfits : Fits hint v ↔ v ≠ [] ∧ (HintClass.ofHint hint).regex.Denotes v := by
    by_cases htext : HintClass.ofHint hint = .text
    · simp [Fits, htext, denotes_text]
    · simp [Fits, htext]
  rw [hfits]
  constructor
  · intro h
    obtain ⟨hdenotes, hm⟩ := (spans_iff_denotes hlocal).mp h
    exact ⟨⟨hne h, hdenotes⟩, hm⟩
  · rintro ⟨⟨-, hdenotes⟩, hm⟩
    exact (spans_iff_denotes hlocal).mpr ⟨hdenotes, hm⟩

/-! ## Matches are cuts -/

/-- A match of the tokens cuts the text, and the groups from number `n` on are the values. -/
theorem cut_of_spans {n : Nat} {ts : List Token} {pre w post : Text} {m : Marks}
    (h : Spans (seqOf (tokenRegexes n ts)) pre w post m) :
    ∃ vs, Cut ts vs w ∧ (∀ slot < 2 * n, m.lookup slot = none) ∧
      ∀ i v, vs[i]? = some v → Marks.group? m (n + i) (pre ++ w ++ post) = some v := by
  induction ts generalizing n pre w m with
  | nil =>
      obtain ⟨rfl, rfl⟩ := spans_seqOf_nil.mp h
      exact ⟨[], .nil, fun _ _ => rfl, by simp⟩
  | cons τ ts ih =>
      cases τ with
      | literal l =>
          obtain ⟨u, v, m₁, m₂, rfl, rfl, hl, hrest⟩ := spans_seqOf_append.mp h
          obtain ⟨hu, -, rfl⟩ := spans_literal.mp hl
          obtain ⟨vs, hcut, hslots, hgroups⟩ := ih hrest
          refine ⟨vs, .literal hu hcut, ?_, ?_⟩
          · rwa [List.append_nil]
          · rw [List.append_nil, ← List.append_assoc]
            exact hgroups
      | placeholder p =>
          obtain ⟨v, t, m₁, m₂, rfl, rfl, hgroup, hrest⟩ := spans_seqOf_cons.mp h
          cases hgroup with
          | @group _ _ _ _ _ _ m₀ hv =>
          obtain ⟨hfits, rfl⟩ := spans_hint.mp hv
          obtain ⟨vs, hcut, hslots, hgroups⟩ := ih hrest
          refine ⟨v :: vs, .placeholder hfits hcut, ?_, ?_⟩
          · -- the groups of the tokens that follow have greater numbers
            intro slot hslot
            have hstop : (slot == 2 * n + 1) = false := by simpa using (by omega : slot ≠ 2 * n + 1)
            have hstart : (slot == 2 * n) = false := by simpa using (by omega : slot ≠ 2 * n)
            rw [lookup_append, hslots slot (by omega), Option.none_or, List.singleton_append,
              List.lookup_cons, hstop, List.lookup_cons, hstart]
            rfl
          · intro i u hu
            have hassoc : pre ++ (v ++ t) ++ post = pre ++ v ++ t ++ post := by simp
            rw [hassoc]
            cases i with
            | zero =>
                -- later groups have not marked the slots of this one
                obtain rfl : v = u := by simpa using hu
                rw [Nat.add_zero, List.append_assoc,
                  group?_append_of_none (hslots _ (by omega)) (hslots _ (by omega))]
                exact group?_group n pre v (t ++ post)
            | succ i =>
                have hgroup := hgroups i u (by simpa using hu)
                have hindex : n + 1 + i = n + (i + 1) := by omega
                rw [hindex] at hgroup
                exact group?_append hgroup

/-- Every cut is a match. -/
theorem exists_spans_of_cut {ts : List Token} {vs : List Text} {w : Text} (h : Cut ts vs w)
    (n : Nat) (pre post : Text) : ∃ m, Spans (seqOf (tokenRegexes n ts)) pre w post m := by
  induction h generalizing n pre with
  | nil => exact ⟨[], .empty pre post⟩
  | @literal l w ts vs t h _ ih =>
      obtain ⟨m, hrest⟩ := ih n (pre ++ w)
      have hl : Spans (seqOf (literalRegexes false l)) pre w (t ++ post) [] :=
        spans_literal.mpr ⟨h, by simp, rfl⟩
      exact ⟨_, spans_seqOf_append.mpr ⟨w, t, [], m, rfl, rfl, hl, hrest⟩⟩
  | @placeholder p v ts vs t h _ ih =>
      obtain ⟨m, hrest⟩ := ih (n + 1) (pre ++ v)
      have hv : Spans (HintClass.ofHint p.hint).regex pre v (t ++ post) [] :=
        spans_hint.mpr ⟨h, rfl⟩
      exact ⟨_, spans_seqOf_cons.mpr ⟨v, t, _, m, rfl, rfl, .group hv, hrest⟩⟩

/-- The expression for a list of tokens matches whole texts only. -/
theorem spans_tokensRegex {ts : List Token} {pre w post : Text} {m : Marks} :
    Spans (tokensRegex ts) pre w post m ↔
      pre = [] ∧ post = [] ∧ Spans (seqOf (tokenRegexes 1 ts)) [] w [] m := by
  rw [tokensRegex, spans_seqOf_cons]
  constructor
  · rintro ⟨u, v, m₁, m₂, rfl, rfl, hstart, hrest⟩
    cases hstart with
    | assert hbefore =>
    obtain ⟨v, u, m₂, m₃, rfl, rfl, htokens, hend⟩ := spans_seqOf_append.mp hrest
    cases hend with
    | assert hafter =>
    have hpre : pre = [] := by simpa [Assertion.holds] using hbefore
    have hpost : post = [] := by simpa [Assertion.holds] using hafter
    subst hpre hpost
    simpa using htokens
  · rintro ⟨rfl, rfl, h⟩
    refine ⟨[], w, [], m, rfl, (List.append_nil m).symm, .assert rfl, ?_⟩
    exact spans_seqOf_append.mpr ⟨w, [], m, [], (List.append_nil w).symm, rfl, h, .assert rfl⟩

/-! ## Groups of a pattern -/

theorem groups_literalRegexes (b : Bool) (l : Text) :
    (literalRegexes b l).flatMap Regex.groups = [] := by
  induction l generalizing b with
  | nil => rfl
  | cons c l ih =>
      rw [literalRegexes]
      split
      · cases b <;> simp [ih, blankRun, Regex.groups]
      · simp [ih, Regex.groups]

/-- The groups of the tokens are numbered one after the other. -/
theorem groups_regexesWith {read : Text → List Regex}
    (hread : ∀ l, (read l).flatMap Regex.groups = []) (n : Nat) (ts : List Token) :
    (regexesWith read n ts).flatMap Regex.groups =
      (List.range' n (placeholderCount ts)).map fun i => (i, none) := by
  induction ts generalizing n with
  | nil => rfl
  | cons τ ts ih =>
      cases τ with
      | literal l => rw [regexesWith, List.flatMap_append, hread, ih]; rfl
      | placeholder p =>
          rw [regexesWith, List.flatMap_cons, ih, Regex.groups, (regex_spec _).2.1]
          rfl

theorem groups_tokenRegexes (n : Nat) (ts : List Token) :
    (tokenRegexes n ts).flatMap Regex.groups =
      (List.range' n (placeholderCount ts)).map fun i => (i, none) := by
  rw [tokenRegexes_eq]
  exact groups_regexesWith (groups_literalRegexes false) n ts

theorem groups_tokensRegex (ts : List Token) :
    (tokensRegex ts).groups = (List.range' 1 (placeholderCount ts)).map fun i => (i, none) := by
  rw [tokensRegex, groups_seqOf, List.flatMap_cons, List.flatMap_append, groups_tokenRegexes]
  simp [Regex.groups]

theorem groupCount_of_groups {r : Regex} {k : Nat}
    (h : r.groups = (List.range' 1 k).map fun i => (i, none)) : r.groupCount = k := by
  rw [groupCount, h, List.map_map]
  clear h
  induction k with
  | zero => rfl
  | succ k ih =>
      rw [List.range'_concat, List.map_append, List.foldl_append, ih]
      simp
      omega

theorem groupCount_tokensRegex (ts : List Token) :
    (tokensRegex ts).groupCount = placeholderCount ts :=
  groupCount_of_groups (groups_tokensRegex ts)

theorem Cut.length {ts : List Token} {vs : List Text} {t : Text} (h : Cut ts vs t) :
    vs.length = placeholderCount ts := by
  induction h with
  | nil => rfl
  | literal _ _ ih => exact ih
  | placeholder _ _ ih => exact congrArg (· + 1) ih

/-! ## Patterns -/

/-- What a search finds in a text is a cut of it. -/
theorem cut_of_search {ts : List Token} {t : Text} {gs : List (Option Text)}
    (h : (tokensRegex ts).search t = some gs) : Cut ts (gs.map (·.getD [])) t := by
  obtain ⟨pre, w, post, m, rfl, hspans, rfl⟩ := spans_of_search h
  obtain ⟨rfl, rfl, htokens⟩ := spans_tokensRegex.mp hspans
  obtain ⟨vs, hcut, -, hgroups⟩ := cut_of_spans htokens
  have hvalues : ((List.range (tokensRegex ts).groupCount).map fun i =>
      Marks.group? m (i + 1) ([] ++ w ++ [])).map (·.getD []) = vs := by
    rw [groupCount_tokensRegex, ← hcut.length]
    refine List.ext_getElem (by simp) fun i hi hi' => ?_
    have hgroup := hgroups i vs[i] (List.getElem?_eq_getElem hi')
    rw [Nat.add_comm] at hgroup
    simp only [List.getElem_map, List.getElem_range, hgroup, Option.getD_some]
  rw [hvalues, List.nil_append, List.append_nil]
  exact hcut

theorem isMatch_tokensRegex {ts : List Token} {t : Text} :
    (tokensRegex ts).isMatch t = true ↔ ∃ vs, Cut ts vs t := by
  constructor
  · intro h
    obtain ⟨gs, hgs⟩ := Option.isSome_iff_exists.mp h
    exact ⟨_, cut_of_search hgs⟩
  · rintro ⟨vs, hcut⟩
    obtain ⟨m, hspans⟩ := exists_spans_of_cut hcut 1 [] []
    exact isMatch_iff.mpr ⟨[], t, [], m, (List.append_nil t).symm,
      spans_tokensRegex.mpr ⟨rfl, rfl, hspans⟩⟩

/-- The values of a cut fit the hints of their parameters. -/
theorem Cut.fits {ts : List Token} {vs : List Text} {t : Text} (h : Cut ts vs t) {i : Nat}
    {p : Param} {v : Text} (hp : (ts.filterMap Token.param?)[i]? = some p) (hv : vs[i]? = some v) :
    Fits p.hint v := by
  induction h generalizing i with
  | nil => cases hv
  | literal _ _ ih => exact ih hp hv
  | placeholder hfits _ ih =>
      cases i with
      | zero =>
          cases hp
          cases hv
          exact hfits
      | succ i => exact ih hp hv

/-- **A pattern with placeholders describes what its tokens cut.** Every list of tokens compiles, to
an expression with one group for each placeholder; it matches a text just if the tokens cut it, and
the values that it captures are those of a cut. -/
theorem ofPlaceholders_cuts [ClassNames] {source : Text} {ts : List Token}
    (h : lex source = .ok ts) :
    ∃ p, ofPlaceholders source = .ok p ∧ p.params = ts.filterMap Token.param? ∧
      p.regex.groups = (List.range' 1 p.params.length).map (fun i => (i, none)) ∧
      ∀ t, (p.captures t).isSome = p.isMatch t ∧ (p.isMatch t = true ↔ ∃ vs, Cut ts vs t) ∧
        ∀ vs, p.captures t = some vs → Cut ts vs t := by
  have hcompile : ofPlaceholders source = .ok {
      source
      flavour := .placeholders
      expression := tokensSource ts
      regex := tokensRegex ts
      params := ts.filterMap Token.param?
      specificity := .ofTokens ts } := by
    simp only [ofPlaceholders, h, parse?_tokensSource]
  refine ⟨_, hcompile, rfl, groups_tokensRegex ts, fun t => ⟨?_, isMatch_tokensRegex, ?_⟩⟩
  · exact Option.isSome_map
  · intro vs hvs
    obtain ⟨gs, hgs, rfl⟩ := Option.map_eq_some_iff.mp hvs
    exact cut_of_search hgs

/-- A pattern with a number, a text and blanks between them. -/
theorem ofPlaceholders_cuts_transfer :
    lex "pay $n:u8\n to $who".toList = .ok [.literal "pay ".toList,
        .placeholder ⟨"n".toList, some "u8".toList⟩, .literal "\n to ".toList,
        .placeholder ⟨"who".toList, none⟩] ∧
      ∃ p, ofPlaceholders "pay $n:u8\n to $who".toList = .ok p ∧
        p.isMatch "pay 12 to Ann".toList = true := by
  have hlex : lex "pay $n:u8\n to $who".toList = .ok [.literal "pay ".toList,
      .placeholder ⟨"n".toList, some "u8".toList⟩, .literal "\n to ".toList,
      .placeholder ⟨"who".toList, none⟩] := by
    simp [lex, scan, assemble, flush, takePlaceholder, takeName, takeHint, isNameStart, isNameChar,
      Except.map]
  obtain ⟨p, hp, -, -, hall⟩ := ofPlaceholders_cuts hlex
  have hnumber : Fits (some "u8".toList) "12".toList :=
    ⟨by decide, [], spans_rep_char.mpr ⟨by decide, List.all_eq_true.mp (by decide), rfl⟩⟩
  have hname : Fits none "Ann".toList := ⟨by decide, show '\n' ∉ "Ann".toList by decide⟩
  have hcut := Cut.literal (l := "pay ".toList) (w := "pay ".toList) rfl
    (.placeholder (p := ⟨"n".toList, some "u8".toList⟩) hnumber
      (.literal (l := "\n to ".toList) (w := " to ".toList) rfl
        (.placeholder (p := ⟨"who".toList, none⟩) hname .nil)))
  exact ⟨hlex, p, hp, (hall _).2.1.mpr ⟨_, hcut⟩⟩

end Storyline.Pattern
