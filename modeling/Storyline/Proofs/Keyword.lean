import Storyline.Keyword
import Storyline.Proofs.Best
import Storyline.Proofs.Text

/-!
# Which keyword starts a line

The reader of a line picks a marker with the longest literal among those that fit
(`Keywords.classify_spec`). With the English literals a line that starts with the literal of a
marker other than a step keyword is always recognised (`Keywords.classify_default`).
-/

set_option autoImplicit false

namespace Storyline.Keywords

/-- A literal that is longer than another one ranks above it. -/
theorem ranks_longer (ks : Keywords) :
    Ranks fun a b : Keyword × Text => decide ((ks.literal b.1).length < (ks.literal a.1).length)
    where
  irrefl a := by simp
  trans h h' := by
    simp only [decide_eq_true_eq] at *
    omega
  between h b := by
    simp only [decide_eq_true_eq] at *
    omega

/-- **The keyword of a line** is a marker that fits, and none that fits has a longer literal. -/
theorem classify_spec {ks : Keywords} {line rest : Text} {k : Keyword}
    (h : ks.classify line = some (k, rest)) :
    k ∈ Keyword.markers ∧ ks.rest? k line = some rest ∧
      ∀ j ∈ Keyword.markers, (ks.rest? j line).isSome →
        (ks.literal j).length ≤ (ks.literal k).length := by
  have hbest := firstBest_of_best? ks.ranks_longer h
  have fits {j : Keyword} {r : Text} : (j, r) ∈ Keyword.markers.filterMap
      (fun k => (ks.rest? k line).map (k, ·)) ↔ j ∈ Keyword.markers ∧ ks.rest? j line = some r := by
    simp only [List.mem_filterMap, Option.map_eq_some_iff, Prod.mk.injEq]
    exact ⟨fun ⟨_, hj, _, hr, rfl, rfl⟩ => ⟨hj, hr⟩, fun ⟨hj, hr⟩ => ⟨j, hj, r, hr, rfl, rfl⟩⟩
  refine ⟨(fits.mp hbest.mem).1, (fits.mp hbest.mem).2, ?_⟩
  intro j hj hfits
  obtain ⟨r, hr⟩ := Option.isSome_iff_exists.mp hfits
  have hnot := hbest.not_exceeds ks.ranks_longer (fits.mpr ⟨hj, hr⟩)
  simpa using hnot

/-- Which keyword starts a line depends only on which markers fit. -/
theorem keyword_classify (ks : Keywords) (line : Text) :
    (ks.classify line).map Prod.fst =
      best? (fun a b => (ks.literal b).length < (ks.literal a).length)
        (Keyword.markers.filter fun k => (ks.rest? k line).isSome) := by
  have hfst (l : List Keyword) :
      (l.filterMap fun k => (ks.rest? k line).map (k, ·)).map Prod.fst =
        l.filter fun k => (ks.rest? k line).isSome := by
    induction l with
    | nil => rfl
    | cons k l ih => cases hk : ks.rest? k line <;> simp [hk, ih]
  rw [← hfst, ← map_best?]
  rfl

/-- A line feed ends a word as the end of the line does. -/
theorem isSome_rest?_append {ks : Keywords} {k : Keyword} (hk : '\n' ∉ ks.literal k)
    (line more : Text) :
    (ks.rest? k (line ++ '\n' :: more)).isSome = (ks.rest? k line).isSome := by
  have hblank (r : Text) : (r ++ '\n' :: more).head?.all Unicode.isBlank =
      r.head?.all Unicode.isBlank := by
    cases r with
    | nil => rfl
    | cons c r => rfl
  simp only [rest?, Text.after?_append hk]
  cases Text.after? (ks.literal k) line with
  | none => rfl
  | some r =>
      simp only [Option.map_some, hblank]
      split
      · rfl
      · split <;> rfl

/-- **A line keeps its keyword when lines are added to it**, unless a literal has several lines. -/
theorem keyword_classify_append {ks : Keywords} (hks : ∀ k ∈ Keyword.markers, '\n' ∉ ks.literal k)
    (line more : Text) :
    (ks.classify (line ++ '\n' :: more)).map Prod.fst = (ks.classify line).map Prod.fst := by
  rw [keyword_classify, keyword_classify]
  congr 1
  refine List.filter_congr fun k hk => ?_
  exact isSome_rest?_append (hks k hk) line more

/-- In English no marker but a step keyword is hidden by another one that also fits. -/
theorem classify_default {k : Keyword} (hk : k.startsLine = true) (hw : k.isWord = false)
    (t : Text) : default.classify (default.literal k ++ t) = some (k, Text.trim t) := by
  cases k with
  | step k => cases hw
  | exampleRow => cases hk
  | headerSeparator => cases hk
  | valueSeparator => cases hk
  | ignorableSeparator => cases hk
  | pending => cases hk
  | notPerformed => cases hk
  | failed => cases hk
  | _ => rfl

end Storyline.Keywords
