import Storyline.Proofs.Story.Outline

/-!
# The place of the narrative

A story has at most one narrative, and neither the lifecycle nor a scenario nor a step precedes it.
A line that opens another one, or opens one too late, is an error that tells which of the two it is
(`parse_narrative`). Given stories can precede the narrative, since the end of their list leads back
to the section of the description (`narrative_after_given_stories`).
-/

set_option autoImplicit false

namespace Storyline.Story

variable {ks : Keywords}

namespace Draft

/-- Reads the lines before a keyword, and ends a list of given stories that goes up to it. -/
def linesBefore (ks : Keywords) (path : Text) (ls : List (Nat × Text)) : Except StoryError Draft :=
  lines ks { story := { path } } ls >>= closeGivens

theorem reflects_linesBefore (ks : Keywords) (path : Text) (ls : List (Nat × Text)) :
    Yields (fun c => c.Consistent ∧ c.outline.Reflects ks (ls.map Prod.snd))
      (linesBefore ks path ls) := by
  refine (reflects_lines ks path ls).bind fun d hd => ?_
  obtain ⟨hd, hreflects⟩ := hd
  refine (hd.closeGivens.and hd.outline_closeGivens).mono fun c hc => ?_
  obtain ⟨hc, hout, -⟩ := hc
  exact ⟨hc, hout ▸ hreflects.closed⟩

theorem openNarrative_eq_duplicate {d : Draft} (h : d.outline.narrated = true) (n : Nat)
    (rest : Text) : d.openNarrative n rest = .error (.duplicateNarrative n) :=
  if_pos h

theorem Consistent.openNarrative_eq_misplaced {d : Draft} (h : d.Consistent)
    (hn : d.outline.narrated = false) (hb : d.outline.inBody = true) (n : Nat) (rest : Text) :
    d.openNarrative n rest = .error (.misplacedNarrative n) := by
  have hplace : d.place ≠ .description := by
    intro hp
    cases h with
    | description s hs => cases hb
    | _ => cases hp
  have hnone : ¬ d.story.narrative.isSome := by simpa [outline] using hn
  rw [Draft.openNarrative, if_neg hnone, if_pos hplace]

end Draft

/-- A text is read up to the keyword of a narrative, which comes after all lists that are open. -/
theorem parse_eq_linesBefore (hks : ks.validate = .ok ()) (path : Text) {t : Text}
    {before after : List (Nat × Text)} {n : Nat} {line rest : Text}
    (ht : numberedLines t = before ++ (n, line) :: after)
    (hline : ks.classify line = some (.narrative, rest)) :
    parse ks path t = Draft.linesBefore ks path before >>= fun c =>
      (c.openNarrative n rest >>= fun d => d.lines ks after) >>= fun d => d.finish ks := by
  have hopen (d : Draft) :
      d.line ks n line = d.closeGivens >>= fun c => c.openNarrative n rest := by
    rw [Draft.line_of_classify_eq_some ks hline rfl rfl, Draft.structural_eq]
    rfl
  rw [parse_eq hks, ht, Draft.lines_append, Draft.linesBefore]
  cases Draft.lines ks { story := { path } } before with
  | error e => rfl
  | ok d =>
      change (d.lines ks ((n, line) :: after) >>= fun d => d.finish ks) = d.closeGivens >>= _
      rw [Draft.lines_cons, hopen]
      cases d.closeGivens <;> rfl

/-- A narrative that opens twice or too late is an error of its line, unless there is an error
before it. -/
theorem parse_late_narrative (hks : ks.validate = .ok ()) (path : Text) {t : Text}
    {before after : List (Nat × Text)} {n : Nat} {line : Text}
    (ht : numberedLines t = before ++ (n, line) :: after)
    (hline : ks.keyword? line = some .narrative) :
    (∀ e, Draft.linesBefore ks path before = .error e → parse ks path t = .error e) ∧
      ∀ c, Draft.linesBefore ks path before = .ok c →
        (HasNarrative ks (before.map Prod.snd) →
          parse ks path t = .error (.duplicateNarrative n)) ∧
        (¬ HasNarrative ks (before.map Prod.snd) → HasBody ks (before.map Prod.snd) →
          parse ks path t = .error (.misplacedNarrative n)) := by
  obtain ⟨⟨k, rest⟩, hclass, hk⟩ := Option.map_eq_some_iff.mp hline
  cases hk
  have hparse := parse_eq_linesBefore hks path ht hclass
  constructor
  · intro e he
    rw [hparse, he]
    rfl
  · intro c hc
    obtain ⟨hcons, hreflects⟩ := Draft.reflects_linesBefore ks path before c hc
    rw [← hreflects.narrated, ← hreflects.inBody]
    have hopen {e : StoryError} (he : c.openNarrative n rest = .error e) :
        parse ks path t = .error e := by
      rw [hparse, hc]
      simp [he, bind, Except.bind]
    refine ⟨fun hn => hopen (Draft.openNarrative_eq_duplicate hn n rest), fun hn hb => ?_⟩
    exact hopen (hcons.openNarrative_eq_misplaced (Bool.eq_false_iff.mpr hn) hb n rest)

/-- The lines before the narrative of a story open neither a narrative nor what comes after one. -/
theorem nothing_opened_before {path t : Text} {s : Story} (h : parse ks path t = .ok s)
    {before after : List (Nat × Text)} {n : Nat} {line : Text}
    (ht : numberedLines t = before ++ (n, line) :: after)
    (hline : ks.keyword? line = some .narrative) :
    ¬ HasNarrative ks (before.map Prod.snd) ∧ ¬ HasBody ks (before.map Prod.snd) := by
  obtain ⟨hks, -⟩ := parse_eq_ok_iff.mp h
  obtain ⟨hearlier, hlate⟩ := parse_late_narrative hks path ht hline
  cases hbefore : Draft.linesBefore ks path before with
  | error e =>
      rw [hearlier e hbefore] at h
      cases h
  | ok c =>
      obtain ⟨hduplicate, hmisplaced⟩ := hlate c hbefore
      have hn : ¬ HasNarrative ks (before.map Prod.snd) := fun hn => by
        rw [hduplicate hn] at h
        cases h
      refine ⟨hn, fun hb => ?_⟩
      rw [hmisplaced hn hb] at h
      cases h

/-- **A story has at most one narrative, and no lifecycle, scenario or step precedes it.** A line
that opens one more is a duplicate, and one that opens the only one too late is misplaced. -/
theorem parse_narrative {path t : Text} {before after : List (Nat × Text)} {n : Nat} {line : Text}
    (ht : numbered 1 (t.splitOn '\n') = before ++ (n, line) :: after)
    (hline : ks.keyword? line = some .narrative) :
    (∀ s, parse ks path t = .ok s →
        ¬ HasNarrative ks (before.map Prod.snd) ∧ ¬ HasNarrative ks (after.map Prod.snd) ∧
          ¬ HasBody ks (before.map Prod.snd)) ∧
      (ks.validate = .ok () →
        (∀ e, Draft.linesBefore ks path before = .error e → parse ks path t = .error e) ∧
        ∀ c, Draft.linesBefore ks path before = .ok c →
          (HasNarrative ks (before.map Prod.snd) →
            parse ks path t = .error (.duplicateNarrative n)) ∧
          (¬ HasNarrative ks (before.map Prod.snd) → HasBody ks (before.map Prod.snd) →
            parse ks path t = .error (.misplacedNarrative n))) := by
  rw [← numberedLines_eq_splitOn] at ht
  refine ⟨fun s hs => ?_, fun hks => parse_late_narrative hks path ht hline⟩
  obtain ⟨hnarrative, hbody⟩ := nothing_opened_before hs ht hline
  refine ⟨hnarrative, ?_, hbody⟩
  -- the narrative comes before one that is opened after it
  rintro ⟨l, hl, hagain⟩
  obtain ⟨⟨m, l⟩, hmem, rfl⟩ := List.mem_map.mp hl
  obtain ⟨between, more, rfl⟩ := List.append_of_mem hmem
  have hsplit : numberedLines t = (before ++ (n, line) :: between) ++ (m, l) :: more := by
    rw [ht, List.append_assoc, List.cons_append]
  exact (nothing_opened_before hs hsplit hagain).1 ⟨line, by simp, hline⟩

/-- A narrative after a step that it should precede, and one after a narrative. -/
theorem parse_narrative_late :
    let text (first : Text) := first ++ "\nGiven a lamp\nNarrative:".toList
    let before (first : Text) := [(1, first), (2, "Given a lamp".toList)]
    ¬ HasNarrative .default ((before "A lamp".toList).map Prod.snd) ∧
      parse .default [] (text "A lamp".toList) = .error (.misplacedNarrative 3) ∧
      HasNarrative .default ((before "Narrative: a lamp".toList).map Prod.snd) ∧
      parse .default [] (text "Narrative: a lamp".toList) = .error (.duplicateNarrative 3) := by
  intro text before
  have hline : Keywords.default.keyword? "Narrative:".toList = some .narrative := by decide
  have hnone : ¬ HasNarrative .default ((before "A lamp".toList).map Prod.snd) := by decide
  have hstep : numbered 1 ((text "A lamp".toList).splitOn '\n') =
      before "A lamp".toList ++ (3, "Narrative:".toList) :: [] := by decide +kernel
  have hfirst : HasNarrative .default ((before "Narrative: a lamp".toList).map Prod.snd) := by
    decide
  have hagain : numbered 1 ((text "Narrative: a lamp".toList).splitOn '\n') =
      before "Narrative: a lamp".toList ++ (3, "Narrative:".toList) :: [] := by decide +kernel
  refine ⟨hnone, ?_, hfirst, ?_⟩
  · exact (((parse_narrative hstep hline).2 rfl).2 _ rfl).2 hnone (by decide)
  · exact (((parse_narrative hagain hline).2 rfl).2 _ rfl).1 hfirst

/-- Given stories before the narrative are no error. -/
theorem narrative_after_given_stories :
    let t := "GivenStories: a\nNarrative: b".toList
    let before := [(1, "GivenStories: a".toList)]
    numbered 1 (t.splitOn '\n') = before ++ (2, "Narrative: b".toList) :: [] ∧
      Keywords.default.keyword? "GivenStories: a".toList = some .givenStories ∧
      Keywords.default.keyword? "Narrative: b".toList = some .narrative ∧
      parse .default [] t = .ok {
        path := []
        givenStories := ["a".toList]
        narrative := some { text := "b".toList } } := by
  exact ⟨by decide +kernel, by decide, by decide, eq_ok_of_toOption (by decide +kernel)⟩

end Storyline.Story
