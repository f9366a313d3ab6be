import Storyline.Proofs.Story.Outline

/-!
# The lines that errors tell

An error that tells a line tells the offending one. It is a line of the keyword that the error
speaks of (`StoryError.Describes`), nothing is wrong before it, and nothing that follows it matters,
apart from the end of an empty list of given stories (`exists_offending_line`).

All errors but one are found at the line that they tell (`Draft.Refuses`). An empty list is found
where it ends, with the number that its section keeps; `exists_list_of_lines` leads back from there
to the keyword.
-/

set_option autoImplicit false

namespace Storyline

namespace StoryError

/-- The number of the line that an error tells. -/
def line? : StoryError → Option Nat
  | keywords _ => none
  | emptyGivenStories n => some n
  | misplacedGivenStories n => some n
  | duplicateNarrative n => some n
  | misplacedNarrative n => some n
  | misplacedLifecycle n => some n
  | misplacedExamples n => some n
  | unexpectedLine n _ => some n
  | malformedTable _ _ => none

/-- The error speaks of a line like this one: it has the keyword, or the very text. -/
def Describes (ks : Keywords) (line : Text) : StoryError → Prop
  | keywords _ => False
  | emptyGivenStories _ => ks.keyword? line = some .givenStories
  | misplacedGivenStories _ => ks.keyword? line = some .givenStories
  | duplicateNarrative _ => ks.keyword? line = some .narrative
  | misplacedNarrative _ => ks.keyword? line = some .narrative
  | misplacedLifecycle _ => ks.keyword? line = some .lifecycle
  | misplacedExamples _ => ks.keyword? line = some .examples
  | unexpectedLine _ t => line = t
  | malformedTable _ _ => False

/-- The error is that of an empty list of given stories, which is found where the list ends. -/
def IsEmptyList : StoryError → Prop
  | emptyGivenStories _ => True
  | _ => False

end StoryError

namespace Story

variable {ks : Keywords}

namespace Draft

/-! ## The errors of a line -/

/-- The errors that reading line `n` in a draft can lead to. -/
inductive Refuses (ks : Keywords) (d : Draft) (n : Nat) (line : Text) : StoryError → Prop
  /-- The line ends a list of given stories that lists nothing. -/
  | emptyList {m : Nat} (hp : d.place.givensLine? = some m) :
      Refuses ks d n line (.emptyGivenStories m)
  /-- The line ends a scenario with a malformed table. -/
  | table (title : Text) (e : TableError) : Refuses ks d n line (.malformedTable title e)
  /-- The line itself has no place where it stands. -/
  | line {e : StoryError} {c : Draft} (hc : d.closeGivens = .ok c) (hn : e.line? = some n)
      (hl : e.Describes ks line) (he : ¬ e.IsEmptyList) : Refuses ks d n line e

/-- All failures have a property. -/
def Fails {α : Type} (P : StoryError → Prop) (r : Except StoryError α) : Prop :=
  ∀ e, r = .error e → P e

namespace Fails

variable {α : Type} {P : StoryError → Prop}

theorem ok (a : α) : Fails P (.ok a : Except StoryError α) := by
  intro e he
  cases he

theorem error {e : StoryError} (h : P e) : Fails P (.error e : Except StoryError α) := by
  intro e' he
  cases he
  exact h

end Fails

theorem fails_closeGivens (d : Draft) :
    Fails (fun e => ∃ m, d.place.givensLine? = some m ∧ e = .emptyGivenStories m)
      d.closeGivens := by
  obtain ⟨s, p, o⟩ := d
  cases p with
  | storyGivens m =>
      simp only [closeGivens]
      split
      · exact .error ⟨m, rfl, rfl⟩
      · exact .ok _
  | scenarioGivens m =>
      simp only [closeGivens]
      split
      · exact .error ⟨m, rfl, rfl⟩
      · exact .ok _
  | _ => exact .ok _

/-- Text is refused only outside the lists of given stories. -/
theorem fails_text (d : Draft) (n : Nat) (line : Text) :
    Fails (fun e => d.closeGivens = .ok d ∧ e = .unexpectedLine n line) (d.text n line) := by
  obtain ⟨s, p, o⟩ := d
  cases p with
  | lifecycle b =>
      rcases b with _ | _ | _
      · exact .error ⟨rfl, rfl⟩
      · simp only [text]
        split
        · exact .error ⟨rfl, rfl⟩
        · exact .ok _
      · simp only [text]
        split
        · exact .error ⟨rfl, rfl⟩
        · exact .ok _
  | scenario =>
      simp only [text]
      split
      · exact .error ⟨rfl, rfl⟩
      · split
        · exact .ok _
        · exact .ok _
  | _ => exact .ok _

theorem fails_openNarrative (d : Draft) (n : Nat) (rest : Text) :
    Fails (fun e => e = .duplicateNarrative n ∨ e = .misplacedNarrative n)
      (d.openNarrative n rest) := by
  unfold openNarrative
  split
  · exact .error (.inl rfl)
  · split
    · exact .error (.inr rfl)
    · exact .ok _

theorem fails_openGivens (d : Draft) (n : Nat) (rest : Text) :
    Fails (fun e => e = .misplacedGivenStories n) (d.openGivens n rest) := by
  unfold openGivens
  split
  · exact .ok _
  · exact .ok _
  · split
    · exact .ok _
    · exact .error rfl
  · exact .error rfl

theorem fails_openLifecycle (d : Draft) (n : Nat) :
    Fails (fun e => e = .misplacedLifecycle n) (d.openLifecycle n) := by
  unfold openLifecycle
  split
  · exact .error rfl
  · exact .ok _

/-- The table that is malformed is that of the open scenario. -/
theorem fails_finishScenario (seps : Separators) (d : Draft) :
    Fails (fun e => ∃ o source, d.current = some o ∧
      e = .malformedTable o.scenario.title source) (d.finishScenario seps) := by
  obtain ⟨s, p, o⟩ := d
  cases o with
  | none => exact .ok _
  | some o =>
      simp only [finishScenario]
      split
      · exact .error ⟨o, _, rfl, rfl⟩
      · exact .ok _

theorem fails_openScenario (seps : Separators) (d : Draft) (title : Text) :
    Fails (fun e => ∃ title source, e = .malformedTable title source)
      (d.openScenario seps title) := by
  unfold openScenario
  cases hf : d.finishScenario seps with
  | error e =>
      obtain ⟨o, source, -, he⟩ := d.fails_finishScenario seps e hf
      exact .error ⟨_, source, he⟩
  | ok c => exact .ok _

theorem fails_openExamples (d : Draft) (n : Nat) (rest : Text) :
    Fails (fun e => e = .misplacedExamples n) (d.openExamples n rest) := by
  unfold openExamples
  split
  · exact .error rfl
  · exact .ok _

theorem fails_step (d : Draft) (n : Nat) (line : Text) :
    Fails (fun e => e = .unexpectedLine n line) (d.step n line) := by
  unfold step
  split
  · exact .error rfl
  · exact .error rfl
  · exact .ok _
  · exact .ok _
  · exact .ok _

/-- A part opens, or its keyword is what is wrong, or the scenario that it ends is. -/
theorem fails_openPart (d : Draft) (n : Nat) {line rest : Text} {k : Keyword}
    (hk : ks.keyword? line = some k) :
    Fails (fun e => (∃ title source, e = .malformedTable title source) ∨
      e.line? = some n ∧ e.Describes ks line ∧ ¬ e.IsEmptyList) (d.openPart ks n line k rest) := by
  intro e he
  unfold openPart at he
  split at he
  · rcases d.fails_openNarrative n rest e he with rfl | rfl
    · exact .inr ⟨rfl, hk, id⟩
    · exact .inr ⟨rfl, hk, id⟩
  · cases d.fails_openGivens n rest e he
    exact .inr ⟨rfl, hk, id⟩
  · cases d.fails_openLifecycle n e he
    exact .inr ⟨rfl, hk, id⟩
  · exact .inl (d.fails_openScenario ks.separators rest e he)
  · cases d.fails_openExamples n rest e he
    exact .inr ⟨rfl, hk, id⟩
  · cases d.fails_step n line e he
    exact .inr ⟨rfl, rfl, id⟩

/-- **What is wrong with a line** is an empty list or a table that it ends, or the line itself. -/
theorem fails_line (d : Draft) (n : Nat) (line : Text) :
    Fails (d.Refuses ks n line) (d.line ks n line) := by
  have htext : Fails (d.Refuses ks n line) (d.text n line) := fun e he => by
    obtain ⟨hc, rfl⟩ := d.fails_text n line e he
    exact .line hc rfl rfl id
  unfold Draft.line
  split
  · exact htext
  · next k rest hclass =>
    split
    · exact .ok _
    · exact htext
    · exact .ok _
    · exact htext
    · intro e he
      have hk : ks.keyword? line = some k := by rw [Keywords.keyword?, hclass]; rfl
      rw [structural_eq] at he
      cases hc : d.closeGivens with
      | error e' =>
          rw [hc] at he
          cases he
          obtain ⟨m, hp, rfl⟩ := d.fails_closeGivens e hc
          exact .emptyList hp
      | ok c =>
          rw [hc] at he
          rcases c.fails_openPart n hk e he with ⟨title, source, rfl⟩ | ⟨hn, hl, hne⟩
          · exact .table title source
          · exact .line hc hn hl hne

/-- Lines that cannot be read cannot be read from one of them on. -/
theorem lines_eq_error {d : Draft} {ls : List (Nat × Text)} {e : StoryError}
    (h : d.lines ks ls = .error e) :
    ∃ before n line after c, ls = before ++ (n, line) :: after ∧ d.lines ks before = .ok c ∧
      c.line ks n line = .error e := by
  induction ls generalizing d with
  | nil => cases h
  | cons l ls ih =>
      rw [lines_cons] at h
      cases hl : d.line ks l.1 l.2 with
      | error e' =>
          rw [hl] at h
          cases h
          exact ⟨[], l.1, l.2, ls, d, rfl, rfl, hl⟩
      | ok d' =>
          rw [hl] at h
          obtain ⟨before, n, line, after, c, rfl, hc, he⟩ := ih h
          refine ⟨l :: before, n, line, after, c, rfl, ?_, he⟩
          rw [lines_cons, hl]
          exact hc

/-! ## The end of a text -/

theorem closeGivens_current {d c : Draft} (h : d.closeGivens = .ok c) : c.current = d.current := by
  obtain ⟨s, p, o⟩ := d
  cases p with
  | storyGivens m =>
      simp only [closeGivens] at h
      split at h
      · cases h
      · cases h
        rfl
  | scenarioGivens m =>
      simp only [closeGivens] at h
      split at h
      · cases h
      · cases h
        rfl
  | _ =>
      cases h
      rfl

/-- Where no empty list ends, only the table of the open scenario can be wrong. -/
theorem finish_cases (ks : Keywords) {d c : Draft} (hc : d.closeGivens = .ok c) :
    (∃ s, d.finish ks = .ok s) ∨ ∃ o source, d.current = some o ∧
      d.finish ks = .error (.malformedTable o.scenario.title source) := by
  rw [finish_eq, hc]
  change (∃ s, (c.finishScenario ks.separators).map _ = .ok s) ∨ ∃ o source, d.current = some o ∧
    (c.finishScenario ks.separators).map _ = _
  cases hf : c.finishScenario ks.separators with
  | error e =>
      obtain ⟨o, source, ho, rfl⟩ := c.fails_finishScenario ks.separators e hf
      exact .inr ⟨o, source, closeGivens_current hc ▸ ho, rfl⟩
  | ok f => exact .inl ⟨f.story, rfl⟩

/-- At the end of a text no line is left that could be wrong. -/
theorem fails_finish (d : Draft) :
    Fails (fun e => ∀ n, e.line? = some n →
      d.place.givensLine? = some n ∧ e = .emptyGivenStories n) (d.finish ks) := by
  intro e he n hn
  cases hc : d.closeGivens with
  | error e' =>
      rw [finish_eq, hc] at he
      cases he
      obtain ⟨m, hp, rfl⟩ := d.fails_closeGivens e hc
      cases hn
      exact ⟨hp, rfl⟩
  | ok c =>
      rcases finish_cases ks hc with ⟨s, hs⟩ | ⟨o, source, -, hs⟩
      · rw [hs] at he
        cases he
      · rw [hs] at he
        cases he
        cases hn

/-! ## The line of a list -/

/-- **The number that a list of given stories keeps** is that of its keyword. -/
theorem exists_list_of_lines {path : Text} {ls : List (Nat × Text)} {d : Draft}
    (h : lines ks { story := { path } } ls = .ok d) {m : Nat}
    (hm : d.place.givensLine? = some m) :
    ∃ before line after, ls = before ++ (m, line) :: after ∧
      ks.keyword? line = some .givenStories := by
  induction ls using List.reverseRecOn generalizing d with
  | nil =>
      cases h
      cases hm
  | append_singleton ls l ih =>
      rw [lines_append] at h
      obtain ⟨d', hd', hl⟩ := bind_eq_ok_iff.mp h
      rw [lines_cons] at hl
      obtain ⟨e, he, hed⟩ := bind_eq_ok_iff.mp hl
      cases hed
      obtain ⟨hcons, -⟩ := reflects_lines ks path ls d' hd'
      rcases (hcons.outline_line ks l.1 l.2 d he).givensLine? hm with ⟨hk, rfl⟩ | hlist
      · exact ⟨ls, l.2, [], rfl, hk⟩
      · -- the line goes on with a list that is open before it
        obtain ⟨before, line, after, rfl, hk⟩ := ih hd' hlist
        exact ⟨before, line, after ++ [l], by simp, hk⟩

/-- Before the keyword of a list nothing is wrong. -/
theorem exists_before_list {path : Text} {ls : List (Nat × Text)} {d : Draft}
    (h : lines ks { story := { path } } ls = .ok d) {m : Nat}
    (hm : d.place.givensLine? = some m) :
    ∃ before line after d' c, ls = before ++ (m, line) :: after ∧
      ks.keyword? line = some .givenStories ∧
      lines ks { story := { path } } before = .ok d' ∧ d'.closeGivens = .ok c := by
  obtain ⟨before, line, after, rfl, hk⟩ := exists_list_of_lines h hm
  rw [lines_append] at h
  obtain ⟨d', hd', hrest⟩ := bind_eq_ok_iff.mp h
  rw [lines_cons] at hrest
  obtain ⟨e, he, -⟩ := bind_eq_ok_iff.mp hrest
  obtain ⟨⟨k, rest⟩, hclass, rfl⟩ := Option.map_eq_some_iff.mp hk
  rw [line_of_classify_eq_some ks hclass rfl rfl, structural_eq] at he
  obtain ⟨c, hc, -⟩ := bind_eq_ok_iff.mp he
  exact ⟨before, line, after, d', c, rfl, hk, hd', hc⟩

end Draft

/-! ## Errors of a text -/

/-- The first lines that cannot be read are found where they stand, or at the end of the text. -/
theorem parse_error_cases {path t : Text} {e : StoryError} (h : parse ks path t = .error e) :
    (∃ source, e = .keywords source) ∨
      (∃ before n line after d, numberedLines t = before ++ (n, line) :: after ∧
        Draft.lines ks { story := { path } } before = .ok d ∧ d.line ks n line = .error e) ∨
      ∃ d, Draft.lines ks { story := { path } } (numberedLines t) = .ok d ∧
        d.finish ks = .error e := by
  cases hks : ks.validate with
  | error source =>
      rw [parse, hks] at h
      cases h
      exact .inl ⟨source, rfl⟩
  | ok u =>
      rw [parse_eq hks] at h
      cases hlines : Draft.lines ks { story := { path } } (numberedLines t) with
      | error e' =>
          rw [hlines] at h
          cases h
          obtain ⟨before, n, line, after, d, ht, hd, hl⟩ := Draft.lines_eq_error hlines
          exact .inr (.inl ⟨before, n, line, after, d, ht, hd, hl⟩)
      | ok d =>
          rw [hlines] at h
          exact .inr (.inr ⟨d, rfl, h⟩)

/-- An empty list that is found after some lines is told by its keyword among them. -/
theorem exists_line_of_list {path t : Text} {ls rest : List (Nat × Text)}
    (ht : numberedLines t = ls ++ rest) {d : Draft}
    (hd : Draft.lines ks { story := { path } } ls = .ok d) {n : Nat}
    (hp : d.place.givensLine? = some n) :
    ∃ before line after d' c, numberedLines t = before ++ (n, line) :: after ∧
      Draft.lines ks { story := { path } } before = .ok d' ∧ d'.closeGivens = .ok c ∧
      (StoryError.emptyGivenStories n).Describes ks line := by
  obtain ⟨before, line, after, d', c, rfl, hk, hd', hc⟩ := Draft.exists_before_list hd hp
  exact ⟨before, line, after ++ rest, d', c, by simp [ht], hd', hc, hk⟩

/-- The line that an error tells is one that the error describes. The lines before it are read and
end no empty list, and the line is refused after them, if the error is not that of an empty list. -/
theorem exists_line_of_error {path t : Text} {e : StoryError} {n : Nat}
    (h : parse ks path t = .error e) (hn : e.line? = some n) :
    ∃ before line after d c, numberedLines t = before ++ (n, line) :: after ∧
      Draft.lines ks { story := { path } } before = .ok d ∧ d.closeGivens = .ok c ∧
      e.Describes ks line ∧ (¬ e.IsEmptyList → d.line ks n line = .error e) := by
  rcases parse_error_cases h with ⟨source, rfl⟩ | ⟨before, m, line, after, d, ht, hd, hl⟩ |
    ⟨d, hd, hfinish⟩
  · cases hn
  · cases d.fails_line m line e hl with
    | emptyList hp =>
        cases hn
        obtain ⟨xs, l, ys, d', c, hxs, hd', hc, hl'⟩ := exists_line_of_list ht hd hp
        exact ⟨xs, l, ys, d', c, hxs, hd', hc, hl', fun hne => absurd trivial hne⟩
    | table title source => cases hn
    | line hc hm hdesc hne =>
        cases hm.symm.trans hn
        exact ⟨before, line, after, d, _, ht, hd, hc, hdesc, fun _ => hl⟩
  · obtain ⟨hp, rfl⟩ := d.fails_finish e hfinish n hn
    obtain ⟨xs, l, ys, d', c, hxs, hd', hc, hl'⟩ :=
      exists_line_of_list (List.append_nil _).symm hd hp
    exact ⟨xs, l, ys, d', c, hxs, hd', hc, hl', fun hne => absurd trivial hne⟩

/-- A line that is refused after the lines before it is the error of every text that starts so. -/
theorem parse_eq_error_of_lines (hks : ks.validate = .ok ()) {path t : Text}
    {before after : List (Nat × Text)} {n : Nat} {line : Text}
    (ht : numberedLines t = before ++ (n, line) :: after) {d : Draft}
    (hd : Draft.lines ks { story := { path } } before = .ok d) {e : StoryError}
    (he : d.line ks n line = .error e) : parse ks path t = .error e := by
  rw [parse_eq_of_lines hks ht hd, Draft.lines_cons, he]
  rfl

theorem validate_of_error {path t : Text} {e : StoryError} {n : Nat}
    (h : parse ks path t = .error e) (hn : e.line? = some n) : ks.validate = .ok () := by
  cases hks : ks.validate with
  | error source =>
      rw [parse, hks] at h
      cases h
      cases hn
  | ok u => rfl

/-- **An error tells the offending line.** It is a line of the text that is not blank and that the
error describes. The lines before it are a story, but for the table of a scenario that is still open
at their end. Whatever follows the line, the error stays the same, unless it is that of a list of
given stories, which can go on in the next lines. -/
theorem exists_offending_line {path t : Text} {e : StoryError} {n : Nat}
    (h : parse ks path t = .error e) (hn : e.line? = some n) :
    ∃ before line after, t.splitOn '\n' = before ++ line :: after ∧ before.length + 1 = n ∧
      Text.trim line ≠ [] ∧ e.Describes ks (Text.trim line) ∧
      (∀ t', t'.splitOn '\n' = before → (∃ s, parse ks path t' = .ok s) ∨
        ∃ d o source, Draft.lines ks { story := { path } } (numbered 1 before) = .ok d ∧
          d.current = some o ∧
          parse ks path t' = .error (.malformedTable o.scenario.title source)) ∧
      (¬ e.IsEmptyList → ∀ t' others, t'.splitOn '\n' = before ++ line :: others →
        parse ks path t' = .error e) := by
  have hks := validate_of_error h hn
  obtain ⟨before, line, after, d, c, ht, hd, hc, hdesc, hline⟩ := exists_line_of_error h hn
  rw [numberedLines_eq_splitOn] at ht
  obtain ⟨xs, l, ys, hlines, hlength, rfl, hne, rfl⟩ := exists_of_numbered_eq ht
  refine ⟨xs, l, ys, hlines, by omega, hne, hdesc, ?_, ?_⟩
  · intro t' ht'
    have hparse : parse ks path t' = d.finish ks := by
      rw [parse_eq hks, numberedLines_eq_splitOn, ht', hd]
      rfl
    rw [hparse]
    rcases Draft.finish_cases ks hc with hs | ⟨o, source, ho, hs⟩
    · exact .inl hs
    · exact .inr ⟨d, o, source, hd, ho, hs⟩
  · intro hlist t' others ht'
    have hnumbered : numberedLines t' =
        numbered 1 xs ++ (n, Text.trim l) :: numbered (n + 1) others := by
      rw [numberedLines_eq_splitOn, ht', numbered_append, hlength, numbered_cons_of_ne hne]
    exact parse_eq_error_of_lines hks hnumbered hd (hline hlist)

/-- A narrative in a scenario whose table is malformed: the lines before the narrative are no story
either, and those after it do not matter. -/
theorem offending_line_after_table :
    let first := ["Scenario: x".toList, [], "Examples: |a|a|".toList]
    let narrative := "  Narrative: b".toList
    let t := Text.join ['\n'] (first ++ [narrative, "GivenStories:".toList])
    parse .default [] t = .error (.misplacedNarrative 4) ∧
      parse .default [] (Text.join ['\n'] first) =
        .error (.malformedTable ['x'] (.duplicateHeader ['a'])) ∧
      ∀ t' others, t'.splitOn '\n' = first ++ narrative :: others →
        parse .default [] t' = .error (.misplacedNarrative 4) := by
  intro first narrative t
  have herror : parse .default [] t = .error (.misplacedNarrative 4) := by rfl
  refine ⟨herror, by rfl, ?_⟩
  obtain ⟨before, line, after, hlines, hlength, -, -, -, hafter⟩ := exists_offending_line herror rfl
  have hsplit : first ++ narrative :: ["GivenStories:".toList] = before ++ line :: after := by
    rw [← hlines]
    decide +kernel
  obtain ⟨rfl, htail⟩ := List.append_inj hsplit (by simp [first] at hlength ⊢; omega)
  cases htail
  exact hafter id

end Story

end Storyline
