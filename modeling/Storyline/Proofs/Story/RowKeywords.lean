import Storyline.Proofs.Keyword.Longest
import Storyline.Proofs.Step.Kind
import Storyline.Proofs.Story.Recognition
import Storyline.Proofs.Table.Substitution

/-!
# Rows keep the kinds of steps

The values of a row are put into steps before these are matched, so that their keywords are looked
for in texts that hold values. A step starts with its marker, and the marker stands in front of the
first bracket. What a value could do is to make a longer marker fit, but no English marker goes on
where the marker of a step ends (`Keywords.Settled`). So each step keeps its marker
(`Keywords.Settled.keyword_substitute`), and with all of them each step of the list keeps its kind
(`Story.parse_row_kinds`).
-/

set_option autoImplicit false

namespace Storyline

open Story (IsStepMarker)

/-! ## Settled tables -/

namespace Keywords

/-- The marker of a step settles how its line is read: no angle bracket stands in it, and no other
marker goes on from it, except with a character that goes on a word. -/
structure Settled (ks : Keywords) : Prop where
  plain : ∀ k, IsStepMarker k → '<' ∉ ks.literal k
  goes_on : ∀ k, IsStepMarker k → ∀ j ∉ Keyword.labels, j ≠ k → ks.literal k <+: ks.literal j →
    k.isWord = true ∧
      ((ks.literal j).drop (ks.literal k).length).head?.all Unicode.isBlank = false

theorem valid_default : Keywords.default.Valid := validate_eq_ok_iff.mp (by rfl)

theorem settled_default : Keywords.default.Settled where
  plain k hk := by
    rcases hk with rfl | ⟨j, rfl⟩
    · decide
    · cases j <;> decide
  goes_on k hk := by
    rcases hk with rfl | ⟨j, rfl⟩
    · decide
    · cases j <;> decide

variable {ks : Keywords} {line : Text} {k : Keyword}

/-- Where the marker of a step fits, no longer one does. -/
theorem Settled.longest (h : ks.Settled) (hk : IsStepMarker k) (hmem : k ∉ Keyword.labels)
    (hfits : ks.Fits k line) : ks.Longest k line := by
  refine ⟨hmem, hfits, fun j hj hfj => Nat.le_of_not_lt fun hlt => ?_⟩
  obtain ⟨more, hmore⟩ := List.prefix_of_prefix_length_le hfits.starts hfj.starts hlt.le
  have hne : j ≠ k := by
    rintro rfl
    exact absurd hlt (Nat.lt_irrefl _)
  obtain ⟨hword, hnext⟩ := h.goes_on k hk j hj hne ⟨more, hmore⟩
  have hends := (fits_iff.mp hfits).2 hword
  obtain ⟨rest, hrest⟩ := hfj.starts
  -- the character after the marker is that of the longer one
  rw [← hmore, List.drop_left] at hnext
  rw [← hrest, ← hmore, List.append_assoc, List.drop_left] at hends
  cases more with
  | nil => cases hnext
  | cons c more =>
      have hblank : Unicode.isBlank c = true := hends
      have hnot : Unicode.isBlank c = false := hnext
      rw [hblank] at hnot
      cases hnot

/-- A marker in front of the first bracket still fits when values are put into the line. -/
theorem Fits.substitute (hfits : ks.Fits k line) (hplain : '<' ∉ ks.literal k) (row : Row) :
    ks.Fits k (row.substitute line) := by
  obtain ⟨rest, rfl⟩ := hfits.starts
  have hends := hfits.ends
  rw [List.drop_left] at hends
  rw [Row.substitute_append hplain]
  refine ⟨List.prefix_append _ _, fun s hs => ?_⟩
  rw [List.drop_left]
  cases rest with
  | nil => rfl
  | cons c rest =>
      -- the blank that ends the word is not replaced
      have hblank : Unicode.isBlank c = true := hends s hs
      have hc : '<' ∉ [c] := by
        intro hmem
        rw [← List.mem_singleton.mp hmem] at hblank
        exact absurd hblank (by decide)
      rw [show c :: rest = [c] ++ rest from rfl, Row.substitute_append hc]
      exact hblank

/-- **No value changes the marker of a step.** -/
theorem Settled.keyword_substitute (h : ks.Settled) (hv : ks.Valid) (hk : IsStepMarker k)
    (hclass : (ks.classify line).map Prod.fst = some k) (row : Row) :
    (ks.classify (row.substitute line)).map Prod.fst = some k := by
  obtain ⟨⟨k', rest⟩, hfound, rfl⟩ := Option.map_eq_some_iff.mp hclass
  have hlongest := (hv.longest_of_classify hfound).1
  have hfits := hlongest.fits.substitute (h.plain k' hk) row
  rw [hv.classify_eq_some_iff.mpr ⟨h.longest hk hlongest.marker hfits, rfl⟩]
  rfl

-- where another marker goes on with a blank, a value can make it fit
example :
    let ks := Keywords.default.set (.step .action) "Given that".toList
    let row : Row := ⟨[['x']], ["that".toList]⟩
    ks.validate.toOption = some () ∧
      (ks.classify "Given <x>".toList).map Prod.fst = some (.step .given) ∧
      (ks.classify (row.substitute "Given <x>".toList)).map Prod.fst = some (.step .action) := by
  decide

/-! ## The kinds of lists of lines -/

/-- The step keyword of a line is its marker. -/
theorem map_splitStep (ks : Keywords) (line : Text) :
    (ks.splitStep line).map Prod.fst =
      ((ks.classify line).map Prod.fst).bind Keyword.stepKeyword? := by
  unfold splitStep
  cases ks.classify line with
  | none => rfl
  | some found =>
      obtain ⟨k, rest⟩ := found
      cases k <;> rfl

theorem exists_splitStep {j : StepKeyword}
    (h : (ks.classify line).map Prod.fst = some (.step j)) :
    ∃ t, ks.splitStep line = some (j, t) := by
  have hmap := ks.map_splitStep line
  rw [h] at hmap
  obtain ⟨⟨j', t⟩, hsplit, hj⟩ := Option.map_eq_some_iff.mp hmap
  exact ⟨t, by rw [hsplit, ← hj]⟩

theorem primary?_congr {line' : Text}
    (h : (ks.classify line).map Prod.fst = (ks.classify line').map Prod.fst) :
    ks.primary? line = ks.primary? line' := by
  rw [primary?, primary?, map_splitStep, map_splitStep, h]

/-- Lines with the same markers leave the same kind for what follows. -/
theorem lastPrimary?_map {lines : List Text} {f : Text → Text}
    (h : ∀ l ∈ lines, (ks.classify (f l)).map Prod.fst = (ks.classify l).map Prod.fst) :
    ks.lastPrimary? (lines.map f) = ks.lastPrimary? lines := by
  unfold lastPrimary?
  rw [List.filterMap_map]
  exact congrArg List.getLast? (List.filterMap_congr fun l hl => primary?_congr (h l hl))

end Keywords

/-! ## Lists of the same kinds -/

namespace Matcher

variable {κ σ : Type} {m : Matcher κ σ}

/-- A line with the marker of a step or of a comment is ignorable if it is that of a comment, and
otherwise it is matched as a step of the kind that the lines before it give. -/
theorem exists_binding_of_marker {lines : List Text} {i : Nat} {line : Text} {k : Keyword}
    (hline : lines[i]? = some line) (hk : IsStepMarker k)
    (hclass : (m.keywords.classify line).map Prod.fst = some k) :
    ∃ b, (m.prepare lines)[i]? = some ⟨line, b⟩ ∧ (b = .ignorable ↔ k = .ignorable) ∧
      ∀ j, k = .step j → ∃ t, m.keywords.splitStep line = some (j, t) ∧
        m.Decides line (j.resolve (m.keywords.lastPrimary? (lines.take i))) t b := by
  let prev := m.keywords.lastPrimary? (lines.take i)
  refine ⟨(m.find prev line).binding m.converters line, m.getElem?_prepare hline,
    (find_of_marker hclass hk prev).2, ?_⟩
  rintro j rfl
  obtain ⟨t, hsplit⟩ := Keywords.exists_splitStep hclass
  refine ⟨t, hsplit, ?_⟩
  rw [m.find_of_splitStep hsplit]
  exact m.decides_winners line (j.resolve prev) t

/-- The lists have their ignorable lines at the same positions, and at each of the others both have
a step with the same keyword, which is matched as a step of the same kind. -/
structure SameKinds (m : Matcher κ σ) (lines lines' : List Text) : Prop where
  length_eq : lines.length = lines'.length
  matched : ∀ (i : Nat) (line line' : Text), lines[i]? = some line → lines'[i]? = some line' →
    ∃ b b', (m.prepare lines)[i]? = some ⟨line, b⟩ ∧ (m.prepare lines')[i]? = some ⟨line', b'⟩ ∧
      (b = .ignorable ↔ b' = .ignorable) ∧
      (b ≠ .ignorable → ∃ k kind t t',
        m.keywords.splitStep line = some (k, t) ∧ m.keywords.splitStep line' = some (k, t') ∧
        m.keywords.KindAfter (lines.take i) k kind ∧
        m.keywords.KindAfter (lines'.take i) k kind ∧
        m.Decides line kind t b ∧ m.Decides line' kind t' b')

/-- A list is matched in the same kinds after a change to its lines that keeps their markers. -/
theorem sameKinds_map {lines : List Text} {f : Text → Text}
    (h : ∀ l ∈ lines, ∃ k, IsStepMarker k ∧ (m.keywords.classify l).map Prod.fst = some k ∧
      (m.keywords.classify (f l)).map Prod.fst = some k) : m.SameKinds lines (lines.map f) := by
  refine ⟨List.length_map f |>.symm, fun i line line' hi hi' => ?_⟩
  obtain rfl : f line = line' := by
    rw [List.getElem?_map, hi] at hi'
    exact Option.some.inj hi'
  obtain ⟨k, hk, hclass, hclass'⟩ := h line (List.mem_of_getElem? hi)
  obtain ⟨b, hb, hignorable, hkind⟩ := exists_binding_of_marker hi hk hclass
  obtain ⟨b', hb', hignorable', hkind'⟩ := exists_binding_of_marker hi' hk hclass'
  -- the lines before keep their markers too
  have hprev : m.keywords.lastPrimary? ((lines.map f).take i) =
      m.keywords.lastPrimary? (lines.take i) := by
    rw [← List.map_take]
    refine Keywords.lastPrimary?_map fun l hl => ?_
    obtain ⟨_, -, hl, hl'⟩ := h l (List.mem_of_mem_take hl)
    rw [hl, hl']
  refine ⟨b, b', hb, hb', hignorable.trans hignorable'.symm, fun hne => ?_⟩
  rcases hk with hk | ⟨j, rfl⟩
  · exact absurd (hignorable.mpr hk) hne
  · obtain ⟨t, ht, hdecides⟩ := hkind j rfl
    obtain ⟨t', ht', hdecides'⟩ := hkind' j rfl
    rw [hprev] at hdecides'
    exact ⟨j, _, t, t', ht, ht', Keywords.kindAfter_iff.mpr rfl,
      Keywords.kindAfter_iff.mpr (by rw [hprev]), hdecides, hdecides'⟩

end Matcher

/-! ## Rows of scenarios -/

namespace Story

variable {κ σ : Type}

/-- Every step of a story that was read has the marker of a step or of a comment. -/
theorem exists_marker_of_parse {ks : Keywords} (hks : ∀ k ∈ Keyword.markers, '\n' ∉ ks.literal k)
    {path t : Text} {s : Story} (h : parse ks path t = .ok s) {step : Text}
    (hstep : step ∈ s.steps) :
    ∃ k, IsStepMarker k ∧ (ks.classify step).map Prod.fst = some k := by
  obtain ⟨d, hkept, -, rfl⟩ := exists_keeps_of_parse h
  obtain ⟨steps, p, hmade, hmem⟩ := hkept.story.exists_madeOf hstep
  obtain ⟨-, k, rest, hclass, hk⟩ := hmade.exists_marker hmem
  refine ⟨k, hk, ?_⟩
  rw [keyword_firstLine hks, hclass]
  rfl

/-- **Rows keep the kinds of steps.** With the English keywords, each step of a scenario has the
same marker with the values of a row as without them, whatever the values are, and whether or not
the row is one of the scenario's own. So the steps that are prepared for a row are of the same kinds
as without values. -/
theorem parse_row_kinds {path t : Text} {s : Story} (h : parse .default path t = .ok s) :
    ∀ sc ∈ s.scenarios, ∀ row : Row,
      (∀ step ∈ sc.steps, ∃ k, IsStepMarker k ∧
        (Keywords.default.classify step).map Prod.fst = some k ∧
        (Keywords.default.classify (row.substitute step)).map Prod.fst = some k) ∧
      ∀ m : Matcher κ σ, m.keywords = .default →
        m.SameKinds sc.steps (sc.steps.map row.substitute) := by
  intro sc hsc row
  have hmarker (step : Text) (hstep : step ∈ sc.steps) : ∃ k, IsStepMarker k ∧
      (Keywords.default.classify step).map Prod.fst = some k ∧
      (Keywords.default.classify (row.substitute step)).map Prod.fst = some k := by
    have hmem : step ∈ s.steps :=
      List.mem_append_right _ (List.mem_flatMap.mpr ⟨sc, hsc, hstep⟩)
    obtain ⟨k, hk, hclass⟩ := exists_marker_of_parse (by decide) h hmem
    exact ⟨k, hk, hclass,
      Keywords.settled_default.keyword_substitute Keywords.valid_default hk hclass row⟩
  refine ⟨hmarker, fun m hm => Matcher.sameKinds_map ?_⟩
  rw [hm]
  exact hmarker

/-- A step that is one column, a comment, and a keyword alone on its line, with values that look
like steps or are empty. -/
theorem parse_row_kinds_continued :
    let t := ("Scenario: s\nWhen <a>\n!-- <a>\nAnd\nStories: <a>\n" ++
      "Examples:\n|a|\n|Then <b>|\n||").toList
    let sc : Scenario := {
      title := ['s']
      steps := ["When <a>".toList, "!-- <a>".toList, "And\nStories: <a>".toList]
      examples := { headers := [['a']], rows := [["Then <b>".toList], [[]]] } }
    let row : Row := ⟨[['a']], ["Then <b>".toList]⟩
    parse .default [] t = .ok { path := [], scenarios := [sc] } ∧
      row.headers = sc.examples.headers ∧ row.values ∈ sc.examples.rows ∧
      (∀ step ∈ sc.steps, ∃ k, IsStepMarker k ∧
        (Keywords.default.classify step).map Prod.fst = some k ∧
        (Keywords.default.classify (row.substitute step)).map Prod.fst = some k) ∧
      ∀ m : Matcher Unit Unit, m.keywords = .default →
        m.SameKinds sc.steps
          ["When Then <b>".toList, "!-- Then <b>".toList, "And\nStories: Then <b>".toList] := by
  intro t sc row
  have h : parse .default [] t = .ok { path := [], scenarios := [sc] } :=
    eq_ok_of_toOption (by decide +kernel)
  exact ⟨h, rfl, List.mem_cons_self, parse_row_kinds h sc (List.mem_singleton_self sc) row⟩

end Story

end Storyline
