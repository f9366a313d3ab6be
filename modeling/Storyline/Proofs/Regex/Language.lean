import Storyline.Proofs.Regex.Spans

/-!
# Languages of regular expressions

The language of an expression without assertions and groups is made of the languages of its parts.
All characters of a matched text are in sets of the expression (`Spans.exists_set`).
-/

set_option autoImplicit false

namespace Storyline.Regex

variable {r s : Regex} {S : CharSet} {w : Text}

theorem denotes_char : (char S).Denotes w ↔ ∃ c, S.contains c = true ∧ w = [c] := by
  simp only [Denotes, spans_char]
  constructor
  · rintro ⟨-, c, hc, hw, -⟩
    exact ⟨c, hc, hw⟩
  · rintro ⟨c, hc, hw⟩
    exact ⟨[], c, hc, hw, rfl⟩

theorem denotes_rep_char {least : Nat} {g : Bool} : (rep (char S) least none g).Denotes w ↔
    least ≤ w.length ∧ ∀ c ∈ w, S.contains c = true := by
  simp only [Denotes, spans_rep_char]
  constructor
  · rintro ⟨-, hlength, hall, -⟩
    exact ⟨hlength, hall⟩
  · rintro ⟨hlength, hall⟩
    exact ⟨[], hlength, hall, rfl⟩

theorem denotes_seq (hr : r.isLocal = true) (hs : s.isLocal = true) : (seq r s).Denotes w ↔
    ∃ u v, w = u ++ v ∧ r.Denotes u ∧ s.Denotes v := by
  constructor
  · rintro ⟨m, h⟩
    cases h with
    | seq hu hv =>
        exact ⟨_, _, rfl, ((spans_iff_denotes hr).mp hu).1, ((spans_iff_denotes hs).mp hv).1⟩
  · rintro ⟨u, v, rfl, hu, hv⟩
    exact ⟨_, .seq ((spans_iff_denotes hr).mpr ⟨hu, rfl⟩) ((spans_iff_denotes hs).mpr ⟨hv, rfl⟩)⟩

theorem denotes_alt : (alt r s).Denotes w ↔ r.Denotes w ∨ s.Denotes w := by
  constructor
  · rintro ⟨m, h⟩
    cases h with
    | altLeft h => exact .inl ⟨m, h⟩
    | altRight h => exact .inr ⟨m, h⟩
  · rintro (⟨m, h⟩ | ⟨m, h⟩)
    · exact ⟨m, .altLeft h⟩
    · exact ⟨m, .altRight h⟩

/-- An expression that may be left out. -/
theorem denotes_optional {g : Bool} : (rep r 0 (some 1) g).Denotes w ↔ w = [] ∨ r.Denotes w := by
  constructor
  · rintro ⟨m, h⟩
    rcases h.rep_cases with ⟨-, rfl, -⟩ | ⟨u, v, m₁, m₂, rfl, -, -, hr, hrest⟩
    · exact .inl rfl
    · -- no round is left for the rest
      rcases hrest.rep_cases with ⟨-, rfl, -⟩ | ⟨_, _, _, _, -, -, hmost, -, -⟩
      · rw [List.append_nil] at hr ⊢
        exact .inr ⟨m₁, hr⟩
      · exact absurd rfl hmost
  · rintro (rfl | ⟨m, h⟩)
    · exact ⟨[], .stop (.inl rfl) [] []⟩
    · have hround : Spans (rep r 0 (some 1) g) [] (w ++ []) [] ([] ++ m) :=
        .round nofun h (.stop (.inl rfl) _ [])
      rw [List.append_nil] at hround
      exact ⟨_, hround⟩

/-! ## Characters of a match -/

/-- The sets of characters in the expression. -/
def sets : Regex → List CharSet
  | empty => []
  | char s => [s]
  | assert _ => []
  | seq r s => r.sets ++ s.sets
  | alt r s => r.sets ++ s.sets
  | rep r _ _ _ => r.sets
  | group _ _ r => r.sets

/-- Each character of a matched text was read by a set of the expression. -/
theorem Spans.exists_set {pre post : Text} {m : Marks} (h : Spans r pre w post m) {c : Char}
    (hc : c ∈ w) : ∃ S ∈ r.sets, S.contains c = true := by
  induction h with
  | empty => cases hc
  | @char S a hS => exact ⟨S, List.mem_singleton_self S, List.mem_singleton.mp hc ▸ hS⟩
  | assert => cases hc
  | seq _ _ ihr ihs =>
      rcases List.mem_append.mp hc with hc | hc
      · obtain ⟨S, hmem, hS⟩ := ihr hc
        exact ⟨S, List.mem_append_left _ hmem, hS⟩
      · obtain ⟨S, hmem, hS⟩ := ihs hc
        exact ⟨S, List.mem_append_right _ hmem, hS⟩
  | altLeft _ ih =>
      obtain ⟨S, hmem, hS⟩ := ih hc
      exact ⟨S, List.mem_append_left _ hmem, hS⟩
  | altRight _ ih =>
      obtain ⟨S, hmem, hS⟩ := ih hc
      exact ⟨S, List.mem_append_right _ hmem, hS⟩
  | stop => cases hc
  | round _ _ _ ihr ihrest =>
      rcases List.mem_append.mp hc with hc | hc
      · exact ihr hc
      · exact ihrest hc
  | group _ ih => exact ih hc

end Storyline.Regex
