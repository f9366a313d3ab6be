import Mathlib.Data.List.Basic
import Storyline.Proofs.Best
import Storyline.Proofs.Step.Binding

/-!
# Which definition a step means

A definition with a greater priority ranks above all others; then the one with fewer parameters
does, then the one with more literal characters, then the one with more hints (`Rank.Below`).

The matcher finds the best definition of each collection, and then the best of these. What it
decides can be said of all definitions at once: if `r` is the greatest rank of those that apply to
a step, then the step means the first definition of rank `r`, provided that only one collection has
any (`Matcher.matchStep_decides`).
-/

set_option autoImplicit false

namespace Storyline

variable {κ σ : Type}

/-! ## Ranks -/

namespace Rank

/-- The rank is lower than another one. -/
def Below (a b : Rank) : Prop :=
  a.priority < b.priority ∨ a.priority = b.priority ∧
    (b.specificity.placeholders < a.specificity.placeholders ∨
      b.specificity.placeholders = a.specificity.placeholders ∧
        (a.specificity.literalChars < b.specificity.literalChars ∨
          a.specificity.literalChars = b.specificity.literalChars ∧
            a.specificity.typedPlaceholders < b.specificity.typedPlaceholders))

theorem compare_eq_lt {a b : Rank} : a.compare b = .lt ↔ a.Below b := by
  simp only [compare, Specificity.compare, Ordering.then_eq_lt, Int.compare_eq_lt,
    Int.compare_eq_eq, Nat.compare_eq_lt, Nat.compare_eq_eq, Below]

theorem not_below_self (a : Rank) : ¬ a.Below a := by
  unfold Below
  omega

theorem Below.trans {a b c : Rank} (h : a.Below b) (h' : b.Below c) : a.Below c := by
  unfold Below at *
  omega

theorem Below.between {a c : Rank} (h : a.Below c) (b : Rank) : a.Below b ∨ b.Below c := by
  unfold Below at *
  omega

/-- Of two different ranks one is lower than the other. -/
theorem below_or_eq_or_below (a b : Rank) : a.Below b ∨ a = b ∨ b.Below a := by
  obtain ⟨p, l, h, t⟩ := a
  obtain ⟨p', l', h', t'⟩ := b
  simp only [Below, Rank.mk.injEq, Specificity.mk.injEq]
  omega

end Rank

theorem Hit.outranks_iff {a b : Hit κ σ} : a.outranks b = true ↔ b.rank.Below a.rank := by
  rw [outranks, beq_iff_eq, Rank.compare_eq_lt]

theorem Hit.ranks_outranks : Ranks (outranks : Hit κ σ → Hit κ σ → Bool) where
  irrefl a := by
    rw [← Bool.not_eq_true, outranks_iff]
    exact a.rank.not_below_self
  trans h h' := by
    rw [outranks_iff] at *
    exact h'.trans h
  between h b := by
    rw [outranks_iff] at h
    rw [outranks_iff, outranks_iff]
    exact (h.between b.rank).symm

/-! ## Definitions that apply -/

/-- The rank is that of the definition: its own priority, and the counts of its pattern. -/
def StepDefinition.HasRank (d : StepDefinition κ σ) (r : Rank) : Prop :=
  d.priority = r.priority ∧ d.pattern.specificity = r.specificity

instance (d : StepDefinition κ σ) (r : Rank) : Decidable (d.HasRank r) :=
  inferInstanceAs (Decidable (_ ∧ _))

/-- Definitions are compared by the ranks that they have. -/
theorem StepDefinition.hasRank_iff {d : StepDefinition κ σ} {r : Rank} :
    d.HasRank r ↔ d.rank = r := by
  rw [HasRank, rank, ← Rank.mk.injEq]

/-- The first definition of the collection that applies to the step and has the given rank. -/
def StepCollection.first? (c : StepCollection κ σ) (k : StepKeyword) (t : Text) (r : Rank) :
    Option (StepDefinition κ σ) :=
  c.definitions.find? fun d => d.isMatch k t && d.HasRank r

theorem StepDefinition.isMatch_eq (d : StepDefinition κ σ) (k : StepKeyword) (t : Text) :
    d.isMatch k t = (d.keyword == k && (d.pattern.captures t).isSome) := by
  rw [isMatch, Pattern.isMatch, Pattern.captures, Option.isSome_map]
  rfl

namespace Matcher

/-- A definition of one of the collections applies to the step. -/
def Applies (m : Matcher κ σ) (k : StepKeyword) (t : Text) (d : StepDefinition κ σ) : Prop :=
  ∃ c ∈ m.collections, d ∈ c.definitions ∧ d.isMatch k t = true

/-- The greatest rank of all definitions that apply to the step. -/
structure IsTop (m : Matcher κ σ) (k : StepKeyword) (t : Text) (r : Rank) : Prop where
  attained : ∃ d, m.Applies k t d ∧ d.HasRank r
  greatest : ∀ d s, m.Applies k t d → d.HasRank s → s.Below r ∨ s = r

/-- For each collection with definitions of the given rank that apply to the step, in order, its
name and the first of them. -/
def leaders (m : Matcher κ σ) (k : StepKeyword) (t : Text) (r : Rank) :
    List (String × StepDefinition κ σ) :=
  m.collections.filterMap fun c => (c.first? k t r).map (c.name, ·)

end Matcher

/-! ## One collection -/

namespace StepCollection

variable (c : StepCollection κ σ) (k : StepKeyword) (t : Text)

/-- The hits are the definitions that apply, in order. -/
theorem map_definition_hits :
    (c.hits k t).map Hit.definition = c.definitions.filter fun d => d.isMatch k t := by
  rw [hits, List.filterMap_filter, List.map_filterMap, ← List.filterMap_eq_filter]
  refine congrArg (List.filterMap · c.definitions) (funext fun d => ?_)
  cases hk : d.keyword == k with
  | false => simp [StepDefinition.isMatch_eq, hk, Option.guard]
  | true =>
      cases hs : d.pattern.captures t <;>
        simp [StepDefinition.isMatch_eq, hk, hs, Option.guard]

theorem of_mem_hits {h : Hit κ σ} (hh : h ∈ c.hits k t) :
    h.collection = c.name ∧ h.definition.pattern.captures t = some h.captures := by
  unfold hits at hh
  obtain ⟨d, -, hd⟩ := List.mem_filterMap.mp hh
  obtain ⟨caps, hc, rfl⟩ := Option.map_eq_some_iff.mp hd
  exact ⟨rfl, hc⟩

/-- The first definition of a rank is that of the first hit of the rank. -/
theorem first?_eq (r : Rank) :
    c.first? k t r = ((c.hits k t).find? fun h => h.rank == r).map Hit.definition := by
  have hfind : ((c.hits k t).map Hit.definition).find? (fun d => d.rank == r) =
      ((c.hits k t).find? fun h => h.rank == r).map Hit.definition := List.find?_map
  rw [← hfind, map_definition_hits, List.find?_filter]
  simp only [first?, StepDefinition.hasRank_iff, Bool.decide_and, Bool.decide_eq_true,
    beq_eq_decide]

/-- **The best hit stands for all.** Where no hit ranks above `r`, the best one has rank `r` only if
some hit has, and then it is the first of them. -/
theorem filter_best_hits {r : Rank} (hr : ∀ h ∈ c.hits k t, h.rank.Below r ∨ h.rank = r) :
    (best? Hit.outranks (c.hits k t)).filter (fun h => h.rank == r) =
      (c.hits k t).find? fun h => h.rank == r := by
  cases hb : best? Hit.outranks (c.hits k t) with
  | none =>
      rw [best?_eq_none.mp hb]
      rfl
  | some h =>
      have hbest := firstBest_of_best? Hit.ranks_outranks hb
      by_cases hrank : h.rank = r
      · -- all hits before the best one rank below `r`
        obtain ⟨before, after, hl, hbefore, -⟩ := hbest
        rw [Option.filter_some, if_pos (by simpa using hrank)]
        refine (List.find?_eq_some_iff_append.mpr
          ⟨by simpa using hrank, before, after, hl, ?_⟩).symm
        intro b hbmem
        have hbelow := Hit.outranks_iff.mp (hbefore b hbmem)
        rw [hrank] at hbelow
        have hne : b.rank ≠ r := fun heq => r.not_below_self (heq ▸ hbelow)
        simpa using hne
      · -- a hit of rank `r` would rank above the best one
        rw [Option.filter_some, if_neg (by simpa using hrank)]
        refine (List.find?_eq_none.mpr fun b hbmem => ?_).symm
        intro heq
        rw [beq_iff_eq] at heq
        have hnot := hbest.not_exceeds Hit.ranks_outranks hbmem
        rw [← Bool.not_eq_true, Hit.outranks_iff, heq] at hnot
        exact (hr h hbest.mem).elim hnot hrank

end StepCollection

/-! ## All collections -/

namespace Matcher

variable (m : Matcher κ σ) (k : StepKeyword) (t : Text)

/-- The best hits of the collections, in order. -/
def bests : List (Hit κ σ) := m.collections.filterMap fun c => best? Hit.outranks (c.hits k t)

variable {m k t}

/-- A definition that applies ranks no higher than the best hit of its collection. -/
theorem exists_best {d : StepDefinition κ σ} (hd : m.Applies k t d) :
    ∃ b ∈ m.bests k t, ¬ b.rank.Below d.rank := by
  obtain ⟨c, hc, hmem, hmatch⟩ := hd
  have hd' : d ∈ (c.hits k t).map Hit.definition := by
    rw [c.map_definition_hits k t]
    exact List.mem_filter.mpr ⟨hmem, hmatch⟩
  obtain ⟨h, hh, rfl⟩ := List.mem_map.mp hd'
  cases hb : best? Hit.outranks (c.hits k t) with
  | none =>
      rw [best?_eq_none.mp hb] at hh
      cases hh
  | some b =>
      refine ⟨b, List.mem_filterMap.mpr ⟨c, hc, hb⟩, ?_⟩
      have hnot := (firstBest_of_best? Hit.ranks_outranks hb).not_exceeds Hit.ranks_outranks hh
      rw [← Bool.not_eq_true, Hit.outranks_iff] at hnot
      exact hnot

/-- A hit is one of a definition that applies. -/
theorem applies_of_mem_hits {c : StepCollection κ σ} (hc : c ∈ m.collections) {h : Hit κ σ}
    (hh : h ∈ c.hits k t) : m.Applies k t h.definition := by
  have hd : h.definition ∈ (c.hits k t).map Hit.definition := List.mem_map_of_mem hh
  rw [c.map_definition_hits k t] at hd
  obtain ⟨hmem, hmatch⟩ := List.mem_filter.mp hd
  exact ⟨c, hc, hmem, hmatch⟩

/-- The best of the best hits has the greatest rank of all definitions that apply. -/
theorem isTop_of_best {top : Hit κ σ} (h : best? Hit.outranks (m.bests k t) = some top) :
    m.IsTop k t top.rank := by
  have htop := firstBest_of_best? Hit.ranks_outranks h
  refine ⟨?_, fun d s hd hs => ?_⟩
  · obtain ⟨c, hc, hb⟩ := List.mem_filterMap.mp htop.mem
    exact ⟨top.definition, applies_of_mem_hits hc (firstBest_of_best? Hit.ranks_outranks hb).mem,
      StepDefinition.hasRank_iff.mpr rfl⟩
  · obtain rfl := StepDefinition.hasRank_iff.mp hs
    obtain ⟨b, hb, hnot⟩ := exists_best hd
    have hnot' := htop.not_exceeds Hit.ranks_outranks hb
    rw [← Bool.not_eq_true, Hit.outranks_iff] at hnot'
    -- neither does `d` rank above `b`, nor `b` above the best
    rcases d.rank.below_or_eq_or_below top.rank with hlt | heq | hgt
    · exact .inl hlt
    · exact .inr heq
    · exact ((hgt.between b.rank).elim hnot' hnot).elim

/-- **Two stages are one.** The hits that are left of the best ones are those of the first
definitions of the greatest rank, one for each collection that has any. -/
theorem map_winners {top : Hit κ σ} (h : best? Hit.outranks (m.bests k t) = some top) :
    (m.winners k t).map (fun h => (h.collection, h.definition)) = m.leaders k t top.rank := by
  have hr := (isTop_of_best h).greatest
  have hwinners : m.winners k t = (m.bests k t).filter fun h => h.rank == top.rank := by
    show Hit.winners (m.bests k t) = _
    rw [Hit.winners, h]
  rw [hwinners, bests, List.filter_filterMap, List.map_filterMap, leaders]
  -- now collection by collection
  refine List.filterMap_congr fun c hc => ?_
  have hbelow (b : Hit κ σ) (hb : b ∈ c.hits k t) : b.rank.Below top.rank ∨ b.rank = top.rank :=
    hr _ _ (applies_of_mem_hits hc hb) (StepDefinition.hasRank_iff.mpr rfl)
  rw [c.filter_best_hits k t hbelow, c.first?_eq]
  cases hf : (c.hits k t).find? fun h => h.rank == top.rank with
  | none => rfl
  | some b => simp [(c.of_mem_hits k t (List.mem_of_find?_eq_some hf)).1]

end Matcher

/-! ## The decision -/

/-- How a definition binds a step: with one argument for each value that was captured, or, if a
converter refuses one of the values, not at all. -/
def BoundBy (cs : Converters κ) (line t : Text) (d : StepDefinition κ σ) (b : Binding κ σ) : Prop :=
  ∃ captures, d.pattern.captures t = some captures ∧
    ((∃ as, b = .bound d as ∧ ∀ (i : Nat) p hint raw, d.pattern.params[i]? = some p →
        d.hints[i]? = some hint → captures[i]? = some raw →
        ∃ v, cs.convert hint raw = .ok v ∧ as.items[i]? = some ⟨p.name, raw, v⟩) ∨
      ∃ (i : Nat) (hint : Option Text) (raw : Text) (why : ConversionError),
        d.hints[i]? = some hint ∧ captures[i]? = some raw ∧ cs.convert hint raw = .error why ∧
        b = .unresolvable (.conversion line (i + 1) (hint.getD []) raw why))

/-- What a step of kind `k` with text `t` means, decided by all definitions that apply to it. -/
def Matcher.Decides (m : Matcher κ σ) (line : Text) (k : StepKeyword) (t : Text)
    (b : Binding κ σ) : Prop :=
  ((∀ d, ¬ m.Applies k t d) ∧ b = .pending) ∨
  ∃ r, m.IsTop k t r ∧
    match m.leaders k t r with
    | [] => False
    | [(_, d)] => BoundBy m.converters line t d b
    | ls => b = .unresolvable
        (.ambiguous line (ls.map fun l => l.2.pattern.source) (ls.map fun l => l.1))

namespace Hit

/-- How a hit binds a step is how its definition does. -/
theorem boundBy (cs : Converters κ) (line t : Text) {h : Hit κ σ}
    (hc : h.definition.pattern.captures t = some h.captures) :
    BoundBy cs line t h.definition ((Finding.hit h).binding cs line) := by
  refine ⟨h.captures, hc, ?_⟩
  simp only [Finding.binding]
  cases ha : h.arguments cs line with
  | ok as =>
      refine .inl ⟨as, rfl, fun i p hint raw hp hhint hraw => ?_⟩
      exact item_of_arguments ha hp hhint hraw
  | error e =>
      obtain ⟨i, hint, raw, why, hhint, hraw, hwhy, rfl, -⟩ := conversion_of_arguments ha
      exact .inr ⟨i, hint, raw, why, hhint, hraw, hwhy, rfl⟩

end Hit

namespace Matcher

theorem captures_of_mem_winners {m : Matcher κ σ} {k : StepKeyword} {t : Text} {h : Hit κ σ}
    (hh : h ∈ m.winners k t) : h.definition.pattern.captures t = some h.captures := by
  have hbest : h ∈ m.bests k t := by
    unfold winners Hit.winners at hh
    split at hh
    · cases hh
    · exact (List.mem_filter.mp hh).1
  obtain ⟨c, -, hb⟩ := List.mem_filterMap.mp hbest
  exact (c.of_mem_hits k t (firstBest_of_best? Hit.ranks_outranks hb).mem).2

/-- What is found for a step with a keyword. -/
theorem decides_winners (m : Matcher κ σ) (line : Text) (k : StepKeyword) (t : Text) :
    m.Decides line k t ((Finding.ofWinners (m.winners k t)).binding m.converters line) := by
  cases hb : best? Hit.outranks (m.bests k t) with
  | none =>
      have hw : m.winners k t = [] := by
        show Hit.winners (m.bests k t) = _
        rw [Hit.winners, hb]
      refine .inl ⟨fun d hd => ?_, by rw [hw]; rfl⟩
      obtain ⟨b, hmem, -⟩ := exists_best hd
      rw [best?_eq_none.mp hb] at hmem
      cases hmem
  | some top =>
      refine .inr ⟨top.rank, isTop_of_best hb, ?_⟩
      rw [← map_winners hb]
      cases hw : m.winners k t with
      | nil =>
          -- the best hit itself is left
          have htop : top ∈ m.winners k t := by
            show top ∈ Hit.winners (m.bests k t)
            rw [Hit.winners, hb]
            exact List.mem_filter.mpr
              ⟨(firstBest_of_best? Hit.ranks_outranks hb).mem, beq_self_eq_true _⟩
          rw [hw] at htop
          cases htop
      | cons h hs =>
          cases hs with
          | nil => exact h.boundBy m.converters line t (captures_of_mem_winners (by rw [hw]; simp))
          | cons h' hs =>
              show Binding.unresolvable _ = _
              simp [Finding.ambiguity]

/-- **How a step line is matched.** A comment is ignorable, and a line without a step keyword is
pending. For any other line all definitions that apply decide, whatever their collections. -/
theorem matchStep_decides (m : Matcher κ σ) (prev : Option StepKeyword) (line : Text) :
    (m.matchStep prev line).1.line = line ∧
    match m.keywords.isIgnorable line, m.keywords.splitStep line with
    | true, _ => (m.matchStep prev line).1.binding = .ignorable
    | false, none => (m.matchStep prev line).1.binding = .pending
    | false, some (k, t) =>
      m.Decides line (k.resolve prev) t (m.matchStep prev line).1.binding := by
  refine ⟨rfl, ?_⟩
  simp only [matchStep, step, find, Keywords.isIgnorable, Keywords.splitStep]
  cases m.keywords.classify line with
  | none => rfl
  | some kt =>
      obtain ⟨keyword, t⟩ := kt
      cases keyword with
      | ignorable => rfl
      | step k => exact m.decides_winners line (k.resolve prev) t
      | _ => rfl

end Matcher

end Storyline
