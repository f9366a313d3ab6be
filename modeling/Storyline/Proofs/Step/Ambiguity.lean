import Storyline.Proofs.Pattern.Specificity
import Storyline.Proofs.Step.Ranking

/-!
# Definitions that nothing decides between

If definitions of the highest rank stand in several collections, a step is ambiguous
(`exists_ambiguous`). Patterns with the same expression describe the same steps, and give such
definitions unless one of them counts more blanks after blanks (`specificity_counts_required`).
-/

set_option autoImplicit false

namespace Storyline

variable {κ σ : Type}

namespace Matcher

/-- Definitions of two collections for the same kind of step, with the same priority. -/
structure Rivals (m : Matcher κ σ) (c c' : StepCollection κ σ) (d e : StepDefinition κ σ) :
    Prop where
  apart : [c, c'].Sublist m.collections
  left : d ∈ c.definitions
  right : e ∈ c'.definitions
  keyword : d.keyword = e.keyword
  priority : d.priority = e.priority

theorem binding_of_splitStep {m : Matcher κ σ} {line t : Text} {k : StepKeyword}
    (h : m.keywords.splitStep line = some (k, t)) (prev : Option StepKeyword) :
    (m.matchStep prev line).1.binding =
      (Finding.ofWinners (m.winners (k.resolve prev) t)).binding m.converters line := by
  simp only [Keywords.splitStep] at h
  simp only [matchStep, step, find]
  split at h
  · next k' t' hclassify =>
      cases h
      rw [hclassify]
  · cases h

theorem exists_first?_of_mem {c : StepCollection κ σ} {d : StepDefinition κ σ} {k : StepKeyword}
    {t : Text} {r : Rank} (hd : d ∈ c.definitions) (hmatch : d.isMatch k t = true)
    (hrank : d.rank = r) : ∃ d₀, c.first? k t r = some d₀ := by
  refine Option.isSome_iff_exists.mp (List.find?_isSome.mpr ⟨d, hd, ?_⟩)
  simp [hmatch, StepDefinition.hasRank_iff, hrank]

/-- Where rivals have the same rank and no definition has a higher one, the step is ambiguous. -/
theorem exists_ambiguous {m : Matcher κ σ} {c c' : StepCollection κ σ}
    {d e : StepDefinition κ σ} (h : m.Rivals c c' d e) {k : StepKeyword} {t : Text}
    (hd : d.isMatch k t = true) (he : e.isMatch k t = true) (hrank : e.rank = d.rank)
    (htop : ∀ f, m.Applies k t f → ¬ d.rank.Below f.rank) (line : Text) : ∃ patterns names,
      (Finding.ofWinners (m.winners k t)).binding m.converters line =
        .unresolvable (.ambiguous line patterns names) ∧ [c.name, c'.name].Sublist names := by
  have happlies : m.Applies k t d := ⟨c, h.apart.subset (by simp), h.left, hd⟩
  rcases m.decides_winners line k t with ⟨hnone, -⟩ | ⟨r, hr, hleaders⟩
  · exact absurd happlies (hnone d)
  · have hr : d.rank = r := by
      obtain ⟨f, hf, hfr⟩ := hr.attained
      obtain rfl := StepDefinition.hasRank_iff.mp hfr
      have hle := hr.greatest d d.rank happlies (StepDefinition.hasRank_iff.mpr rfl)
      exact hle.resolve_left (htop f hf)
    -- both collections have a leader of the highest rank, if perhaps another definition
    obtain ⟨d₀, hd₀⟩ := exists_first?_of_mem h.left hd hr
    obtain ⟨e₀, he₀⟩ := exists_first?_of_mem h.right he (hrank.trans hr)
    have hsublist : [(c.name, d₀), (c'.name, e₀)].Sublist (m.leaders k t r) := by
      rw [leaders]
      simpa [hd₀, he₀] using h.apart.filterMap fun c => (c.first? k t r).map (c.name, ·)
    have hnames := hsublist.map Prod.fst
    generalize m.leaders k t r = leaders at hsublist hleaders hnames
    cases leaders with
    | nil => cases hleaders
    | cons l leaders =>
        cases leaders with
        | nil => exact absurd hsublist.length_le (by simp)
        | cons l' leaders => exact ⟨_, _, hleaders, hnames⟩

/-- A definition for given steps that does nothing. -/
def idle (p : Pattern) : StepDefinition Unit Unit :=
  { keyword := .given, pattern := p, hints := p.params.map (·.hint)
    handler := fun _ w => (.done, w) }

/-- Two collections with a definition each. -/
def paired (p q : Pattern) : Matcher Unit Unit :=
  ⟨[⟨"first", [idle p]⟩, ⟨"second", [idle q]⟩], .default, .default⟩

theorem rivals_paired (p q : Pattern) :
    (paired p q).Rivals ⟨"first", [idle p]⟩ ⟨"second", [idle q]⟩ (idle p) (idle q) :=
  ⟨List.Sublist.refl _, List.mem_singleton_self _, List.mem_singleton_self _, rfl, rfl⟩

theorem eq_idle_of_applies {p q : Pattern} {k : StepKeyword} {t : Text}
    {f : StepDefinition Unit Unit} (h : (paired p q).Applies k t f) : f = idle p ∨ f = idle q := by
  obtain ⟨c, hc, hmem, -⟩ := h
  rcases List.mem_pair.mp hc with rfl | rfl
  · exact .inl (List.mem_singleton.mp hmem)
  · exact .inr (List.mem_singleton.mp hmem)

/-- **A pattern counts what a text must have, and blanks that follow a blank.** A text that it
describes has the literal characters that are counted apart from the latter, beside those of its
values. Of two patterns with the same expression and hints neither is more specific, unless they
differ in the number of these blanks; if they do not, no step is bound to one of them only because
its collection was asked. -/
theorem specificity_counts_required [ClassNames] {source source' : Text} {p q : Pattern}
    {ts us : List Pattern.Token} (hp : Pattern.ofPlaceholders source = .ok p)
    (hts : Pattern.lex source = .ok ts) (hq : Pattern.ofPlaceholders source' = .ok q)
    (hus : Pattern.lex source' = .ok us) :
    (∀ t vs, p.captures t = some vs → p.specificity.literalChars + vs.flatten.length ≤
        t.length + Pattern.repeatedBlanks ts) ∧
      (p.regex = q.regex → p.params.map (·.hint) = q.params.map (·.hint) →
        (p.specificity = q.specificity ↔
          Pattern.repeatedBlanks ts = Pattern.repeatedBlanks us) ∧
        (Pattern.repeatedBlanks ts = Pattern.repeatedBlanks us →
          ∀ (m : Matcher κ σ) (c c' : StepCollection κ σ) (d e : StepDefinition κ σ)
            (prev : Option StepKeyword) (line t : Text) (k : StepKeyword),
            m.Rivals c c' d e → d.pattern = p → e.pattern = q →
            m.keywords.splitStep line = some (k, t) →
            d.isMatch (k.resolve prev) t = true →
            (∀ f, m.Applies (k.resolve prev) t f → ¬ d.rank.Below f.rank) →
            ∃ patterns names, (m.matchStep prev line).1.binding =
                .unresolvable (.ambiguous line patterns names) ∧
              [c.name, c'.name].Sublist names)) := by
  obtain rfl : Pattern.ofTokens source ts = p :=
    Except.ok.inj ((Pattern.ofPlaceholders_of_lex hts).symm.trans hp)
  obtain rfl : Pattern.ofTokens source' us = q :=
    Except.ok.inj ((Pattern.ofPlaceholders_of_lex hus).symm.trans hq)
  constructor
  · intro t vs hvs
    obtain ⟨gs, hgs, rfl⟩ := Option.map_eq_some_iff.mp hvs
    have hlength := (Pattern.cut_of_search hgs).required_add_length_le
    have hcount : (Pattern.ofTokens source ts).specificity.literalChars =
        Pattern.required ts + Pattern.repeatedBlanks ts :=
      congrArg Specificity.literalChars (Pattern.ofTokens_eq ts)
    omega
  · intro hregex hhints
    have hiff := Pattern.ofTokens_eq_iff hregex hhints
    refine ⟨hiff, fun hblanks m c c' d e prev line t k hrivals hdp heq hline hd htop => ?_⟩
    have hmatch : e.isMatch (k.resolve prev) t = true := by
      rw [← hd, StepDefinition.isMatch, StepDefinition.isMatch, hrivals.keyword, hdp, heq,
        Pattern.isMatch, Pattern.isMatch, hregex]
    have hrank : e.rank = d.rank := by
      rw [StepDefinition.rank, StepDefinition.rank, hrivals.priority, hdp, heq]
      exact congrArg (Rank.mk e.priority) (hiff.mpr hblanks).symm
    rw [binding_of_splitStep hline]
    exact exists_ambiguous hrivals hd hmatch hrank htop line

/-- A space and a tab stand for the same blanks. -/
theorem specificity_counts_required_tab : ∃ (p q : Pattern) (m : Matcher Unit Unit),
    Pattern.ofPlaceholders "pay $n:u8".toList = .ok p ∧
    Pattern.ofPlaceholders "pay\t$count:u8".toList = .ok q ∧
    p.captures "pay 12".toList = some ["12".toList] ∧ p.specificity.literalChars + 2 ≤ 6 ∧
    p.regex = q.regex ∧ p.specificity = q.specificity ∧
    ∃ patterns names, (m.matchStep none "Given pay 12".toList).1.binding =
        .unresolvable (.ambiguous "Given pay 12".toList patterns names) ∧
      ["first", "second"].Sublist names := by
  let ts : List Pattern.Token :=
    [.literal "pay ".toList, .placeholder ⟨"n".toList, some "u8".toList⟩]
  let us : List Pattern.Token :=
    [.literal "pay\t".toList, .placeholder ⟨"count".toList, some "u8".toList⟩]
  let p := Pattern.ofTokens "pay $n:u8".toList ts
  let q := Pattern.ofTokens "pay\t$count:u8".toList us
  have hts : Pattern.lex "pay $n:u8".toList = .ok ts := by decide +kernel
  have hus : Pattern.lex "pay\t$count:u8".toList = .ok us := by decide +kernel
  have hp := Pattern.ofPlaceholders_of_lex hts
  have hq := Pattern.ofPlaceholders_of_lex hus
  obtain ⟨hbound, hsame⟩ := specificity_counts_required (κ := Unit) (σ := Unit) hp hts hq hus
  have hregex : p.regex = q.regex := by decide +kernel
  obtain ⟨hiff, hambiguous⟩ := hsame hregex (by decide +kernel)
  have hcaptures : p.captures "pay 12".toList = some ["12".toList] := by decide +kernel
  have hspecificity : p.specificity = q.specificity := hiff.mpr (by decide +kernel)
  have htop (f : StepDefinition Unit Unit) (hf : (paired p q).Applies .given "pay 12".toList f) :
      ¬ (idle p).rank.Below f.rank := by
    have hrank : f.rank = (idle p).rank := by
      rcases eq_idle_of_applies hf with rfl | rfl
      · rfl
      · exact congrArg (Rank.mk 0) hspecificity.symm
    rw [hrank]
    exact (idle p).rank.not_below_self
  refine ⟨p, q, paired p q, hp, hq, hcaptures, hbound _ _ hcaptures, hregex, hspecificity, ?_⟩
  exact hambiguous (by decide +kernel) (paired p q) _ _ _ _ none _ _ .given (rivals_paired p q) rfl
    rfl (by decide +kernel) (by decide +kernel) htop

/-- A second blank is counted although no text needs it, and decides between the patterns. -/
theorem repeated_blank_decides : ∃ (p q : Pattern) (m : Matcher Unit Unit)
    (c c' : StepCollection Unit Unit) (d e : StepDefinition Unit Unit),
    Pattern.ofPlaceholders "a b".toList = .ok p ∧ Pattern.ofPlaceholders "a  b".toList = .ok q ∧
    p.regex = q.regex ∧ p.params = q.params ∧ q.captures "a b".toList = some [] ∧
    q.specificity.literalChars = 4 ∧ m.Rivals c c' d e ∧ d.pattern = p ∧ e.pattern = q ∧
    (m.matchStep none "Given a b".toList).1.binding = .bound e ⟨"Given a b".toList, []⟩ := by
  let p := Pattern.ofTokens "a b".toList [.literal "a b".toList]
  let q := Pattern.ofTokens "a  b".toList [.literal "a  b".toList]
  have hline : Keywords.default.classify "Given a b".toList =
      some (.step .given, "a b".toList) := by decide +kernel
  have hp : p.captures "a b".toList = some [] := by decide +kernel
  have hq : q.captures "a b".toList = some [] := by decide +kernel
  have hhits (name : String) (r : Pattern) (hr : r.captures "a b".toList = some []) :
      (StepCollection.mk name [idle r]).hits .given "a b".toList = [⟨name, idle r, []⟩] := by
    simp only [StepCollection.hits, idle, List.filter_cons, beq_self_eq_true, if_true,
      List.filter_nil, List.filterMap_cons, List.filterMap_nil, hr, Option.map_some]
  have hkind : StepKeyword.given.resolve none = .given := rfl
  have hfind : (paired p q).find none "Given a b".toList = .hit ⟨"second", idle q, []⟩ := by
    simp only [find, paired, hline, hkind, winners, List.filterMap_cons, List.filterMap_nil,
      hhits "first" p hp, hhits "second" q hq]
    rfl
  refine ⟨p, q, paired p q, _, _, idle p, idle q, Pattern.ofPlaceholders_of_lex (by decide +kernel),
    Pattern.ofPlaceholders_of_lex (by decide +kernel), by decide +kernel, rfl, hq, rfl,
    rivals_paired p q, rfl, rfl, ?_⟩
  simp only [matchStep, step, hfind]
  rfl

end Matcher

end Storyline
