import Storyline.Story.Draft

/-!
# The path of a story

Reading a text never touches the path that the story is read under (`path_of_parse`).
-/

set_option autoImplicit false

namespace Storyline.Story

namespace Draft

/-- A step of reading that leads from the draft to another one with the same path, or fails. -/
def SamePath (d : Draft) (next : Except StoryError Draft) : Prop :=
  ∀ d', next = .ok d' → d'.story.path = d.story.path

theorem samePath_ok {d d' : Draft} (h : d'.story.path = d.story.path) : d.SamePath (.ok d') := by
  intro d'' hd
  cases hd
  exact h

theorem samePath_error {d : Draft} (e : StoryError) : d.SamePath (.error e) := by
  intro d' hd
  cases hd

@[simp] theorem addToNarrative_path (d : Draft) (t : Text) :
    (d.addToNarrative t).story.path = d.story.path := by
  unfold addToNarrative
  split <;> rfl

@[simp] theorem addGivens_path (d : Draft) (t : Text) :
    (d.addGivens t).story.path = d.story.path := by
  unfold addGivens
  split <;> rfl

theorem samePath_text (d : Draft) (n : Nat) (line : Text) : d.SamePath (d.text n line) := by
  unfold text
  split
  · exact samePath_ok rfl
  · exact samePath_ok (by simp)
  · exact samePath_ok (by simp)
  · exact samePath_ok (by simp)
  · exact samePath_error _
  · split
    · exact samePath_error _
    · exact samePath_ok rfl
  · split
    · exact samePath_error _
    · exact samePath_ok rfl
  · split
    · exact samePath_error _
    · split
      · exact samePath_ok rfl
      · exact samePath_ok rfl
  · exact samePath_ok rfl

theorem samePath_closeGivens (d : Draft) : d.SamePath d.closeGivens := by
  unfold closeGivens
  dsimp only
  split
  · split
    · exact samePath_error _
    · exact samePath_ok rfl
  · split
    · exact samePath_error _
    · exact samePath_ok rfl
  · exact samePath_ok rfl

theorem samePath_finishScenario (seps : Separators) (d : Draft) :
    d.SamePath (d.finishScenario seps) := by
  unfold finishScenario
  split
  · exact samePath_ok rfl
  · split
    · exact samePath_error _
    · exact samePath_ok rfl

theorem samePath_openScenario (seps : Separators) (d : Draft) (title : Text) :
    d.SamePath (d.openScenario seps title) := by
  unfold openScenario
  cases h : d.finishScenario seps with
  | error e => exact samePath_error e
  | ok d' => exact samePath_ok (d.samePath_finishScenario seps d' h)

theorem samePath_step (d : Draft) (n : Nat) (line : Text) : d.SamePath (d.step n line) := by
  unfold step
  split
  · exact samePath_error _
  · exact samePath_error _
  · exact samePath_ok rfl
  · exact samePath_ok rfl
  · exact samePath_ok rfl

theorem samePath_openNarrative (d : Draft) (n : Nat) (rest : Text) :
    d.SamePath (d.openNarrative n rest) := by
  unfold openNarrative
  split
  · exact samePath_error _
  · split
    · exact samePath_error _
    · exact samePath_ok (by simp)

theorem samePath_openGivens (d : Draft) (n : Nat) (rest : Text) :
    d.SamePath (d.openGivens n rest) := by
  unfold openGivens
  split
  · exact samePath_ok (by simp)
  · exact samePath_ok (by simp)
  · split
    · exact samePath_ok (by simp)
    · exact samePath_error _
  · exact samePath_error _

theorem samePath_openLifecycle (d : Draft) (n : Nat) : d.SamePath (d.openLifecycle n) := by
  unfold openLifecycle
  split
  · exact samePath_error _
  · exact samePath_ok rfl

theorem samePath_openExamples (d : Draft) (n : Nat) (rest : Text) :
    d.SamePath (d.openExamples n rest) := by
  unfold openExamples
  split
  · exact samePath_error _
  · refine samePath_ok ?_
    split <;> rfl

theorem samePath_openPart (ks : Keywords) (d : Draft) (n : Nat) (line : Text) (k : Keyword)
    (rest : Text) : d.SamePath (d.openPart ks n line k rest) := by
  unfold openPart
  split
  · exact d.samePath_openNarrative n rest
  · exact d.samePath_openGivens n rest
  · exact d.samePath_openLifecycle n
  · exact d.samePath_openScenario _ rest
  · exact d.samePath_openExamples n rest
  · exact d.samePath_step n line

/-- Any structural line closes the given stories first. -/
theorem samePath_structural (ks : Keywords) (d : Draft) (n : Nat) (line : Text) (k : Keyword)
    (rest : Text) : d.SamePath (d.structural ks n line k rest) := by
  unfold structural
  cases hd : d.closeGivens with
  | error e => exact samePath_error e
  | ok c =>
      intro d' hd'
      have hc : c.story.path = d.story.path := d.samePath_closeGivens c hd
      exact (c.samePath_openPart ks n line k rest d' hd').trans hc

theorem samePath_line (ks : Keywords) (d : Draft) (n : Nat) (line : Text) :
    d.SamePath (d.line ks n line) := by
  unfold Draft.line
  split
  · exact d.samePath_text n line
  · split
    · exact samePath_ok (by simp)
    · exact d.samePath_text n line
    · exact samePath_ok rfl
    · exact d.samePath_text n line
    · exact d.samePath_structural ks n line _ _

theorem samePath_lines (ks : Keywords) (d : Draft) (ls : List (Nat × Text)) :
    d.SamePath (d.lines ks ls) := by
  induction ls generalizing d with
  | nil => exact samePath_ok rfl
  | cons l ls ih =>
      show d.SamePath (d.line ks l.1 l.2 >>= fun d => d.lines ks ls)
      cases h : d.line ks l.1 l.2 with
      | error e => exact samePath_error e
      | ok c => exact fun d' hd => (ih c d' hd).trans (d.samePath_line ks l.1 l.2 c h)

end Draft

/-- **A story is known by the path that it is read under.** -/
theorem path_of_parse {ks : Keywords} {path t : Text} {s : Story}
    (h : parse ks path t = .ok s) : s.path = path := by
  unfold parse at h
  cases hv : ks.validate with
  | error e => simp [hv] at h
  | ok u =>
      simp only [hv] at h
      cases hl : Draft.lines ks { story := { path } } (numberedLines t) with
      | error e => simp [hl] at h
      | ok d =>
          simp only [hl, Draft.finish] at h
          have hd : d.story.path = path := Draft.samePath_lines ks _ _ d hl
          cases hc : d.closeGivens with
          | error e => simp [hc] at h
          | ok c =>
              simp only [hc] at h
              cases hf : c.finishScenario ks.separators with
              | error e => simp [hf, Except.map] at h
              | ok f =>
                  simp only [hf, Except.map, Except.ok.injEq] at h
                  rw [← h, c.samePath_finishScenario ks.separators f hf,
                    d.samePath_closeGivens c hc, hd]

end Storyline.Story
