import Storyline.Proofs.Story.Reading

/-!
# Sections of a story that is being read

A scenario is open just in the sections that belong to one, and only the section of the examples has
lines of a table (`Draft.Consistent`). Every line keeps it so (`Draft.Consistent.line`), which
leaves no draft in which text could get lost for want of a scenario or a narrative.
-/

set_option autoImplicit false

namespace Storyline.Story

/-- All successful results have a property. -/
def Yields (P : Draft → Prop) (r : Except StoryError Draft) : Prop := ∀ d, r = .ok d → P d

namespace Yields

variable {P Q : Draft → Prop}

theorem ok {d : Draft} (h : P d) : Yields P (.ok d) := by
  intro d' hd
  cases hd
  exact h

theorem error (e : StoryError) : Yields P (.error e) := by
  intro d' hd
  cases hd

theorem bind {r : Except StoryError Draft} {f : Draft → Except StoryError Draft} (h : Yields P r)
    (hf : ∀ d, P d → Yields Q (f d)) : Yields Q (r >>= f) := by
  intro d hd
  obtain ⟨c, hc, hfc⟩ := bind_eq_ok_iff.mp hd
  exact hf c (h c hc) d hfc

theorem mono {r : Except StoryError Draft} (h : Yields P r) (hPQ : ∀ d, P d → Q d) : Yields Q r :=
  fun d hd => hPQ d (h d hd)

theorem and {r : Except StoryError Draft} (h : Yields P r) (h' : Yields Q r) :
    Yields (fun d => P d ∧ Q d) r := fun d hd => ⟨h d hd, h' d hd⟩

end Yields

/-- The narrative with more text in one of its clauses. -/
def addTo (n : Narrative) (t : Text) : Clause → Narrative
  | .text => { n with text := append ['\n'] n.text t }
  | .inOrderTo => { n with inOrderTo := append [' '] n.inOrderTo t }
  | .asA => { n with asA := append [' '] n.asA t }
  | .iWantTo => { n with iWantTo := append [' '] n.iWantTo t }

namespace Draft

theorem addToNarrative_eq (s : Story) (n : Narrative) (c : Clause) (t : Text) :
    addToNarrative ⟨{ s with narrative := some n }, .narrative c, none⟩ t =
      ⟨{ s with narrative := some (addTo n t c) }, .narrative c, none⟩ := by
  cases c <;> rfl

/-- What is open fits the section: a scenario in the sections of a scenario and a narrative in the
narrative. Given stories precede the steps of a scenario, lines of a table come last, and no
scenario precedes the sections outside. -/
inductive Consistent : Draft → Prop
  | description (s : Story) (hs : s.scenarios = []) : Consistent ⟨s, .description, none⟩
  | narrative (s : Story) (hs : s.scenarios = []) (c : Clause) (n : Narrative) :
      Consistent ⟨{ s with narrative := some n }, .narrative c, none⟩
  | givens (s : Story) (hs : s.scenarios = []) (n : Nat) : Consistent ⟨s, .storyGivens n, none⟩
  | lifecycle (s : Story) (hs : s.scenarios = []) (b : Option Block) :
      Consistent ⟨s, .lifecycle b, none⟩
  | scenario (s : Story) (sc : Scenario) : Consistent ⟨s, .scenario, some ⟨sc, []⟩⟩
  | scenarioGivens (s : Story) (n : Nat) (sc : Scenario) (h : sc.steps = []) :
      Consistent ⟨s, .scenarioGivens n, some ⟨sc, []⟩⟩
  | examples (s : Story) (o : OpenScenario) : Consistent ⟨s, .examples, some o⟩

namespace Consistent

variable {d : Draft}

theorem text (h : d.Consistent) (n : Nat) (line : Text) : Yields Consistent (d.text n line) := by
  cases h with
  | description s hs => exact .ok (.description _ (by exact hs))
  | narrative s hs c m =>
      change Yields Consistent (.ok (addToNarrative _ line))
      rw [addToNarrative_eq]
      exact .ok (.narrative s hs c _)
  | givens s hs m => exact .ok (.givens _ (by exact hs) m)
  | lifecycle s hs b =>
      match b with
      | none => exact .error _
      | some .before =>
          simp only [Draft.text]
          cases continueLast? s.lifecycle.before line with
          | none => exact .error _
          | some steps => exact .ok (.lifecycle _ (by exact hs) _)
      | some .after =>
          simp only [Draft.text]
          cases continueLast? s.lifecycle.after line with
          | none => exact .error _
          | some steps => exact .ok (.lifecycle _ (by exact hs) _)
  | scenario s sc =>
      simp only [Draft.text]
      cases continueLast? sc.steps line with
      | none => exact .ok (.scenario s _)
      | some steps => exact .ok (.scenario s _)
  | scenarioGivens s m sc hs => exact .ok (.scenarioGivens s m _ hs)
  | examples s o => exact .ok (.examples s _)

theorem closeGivens (h : d.Consistent) : Yields Consistent d.closeGivens := by
  cases h with
  | description s hs => exact .ok (.description s hs)
  | narrative s hs c m => exact .ok (.narrative s hs c m)
  | givens s hs m =>
      simp only [Draft.closeGivens]
      split
      · exact .error _
      · exact .ok (.description s hs)
  | lifecycle s hs b => exact .ok (.lifecycle s hs b)
  | scenario s sc => exact .ok (.scenario s sc)
  | scenarioGivens s m sc hs =>
      simp only [Draft.closeGivens]
      split
      · exact .error _
      · exact .ok (.scenario s sc)
  | examples s o => exact .ok (.examples s o)

theorem openNarrative (h : d.Consistent) (n : Nat) (rest : Text) :
    Yields Consistent (d.openNarrative n rest) := by
  -- only the description can precede a narrative, and there no scenario is open
  cases h with
  | description s hs =>
      simp only [Draft.openNarrative]
      split
      · exact .error _
      · simp only [ne_eq, not_true_eq_false, if_false]
        rw [addToNarrative_eq]
        exact .ok (.narrative s hs .text _)
  | narrative s hs c m => exact .error _
  | _ =>
      simp only [Draft.openNarrative]
      split
      · exact .error _
      · exact .error _

theorem openGivens (h : d.Consistent) (n : Nat) (rest : Text) :
    Yields Consistent (d.openGivens n rest) := by
  cases h with
  | description s hs => exact .ok (.givens _ (by exact hs) n)
  | narrative s hs c m => exact .ok (.givens _ (by exact hs) n)
  | givens s hs m => exact .error _
  | lifecycle s hs b => exact .error _
  | scenario s sc =>
      simp only [Draft.openGivens]
      split
      · next hs => exact .ok (.scenarioGivens s n _ (List.isEmpty_iff.mp hs))
      · exact .error _
  | scenarioGivens s m sc hs => exact .error _
  | examples s o => exact .error _

theorem openLifecycle (h : d.Consistent) (n : Nat) : Yields Consistent (d.openLifecycle n) := by
  cases h with
  | description s hs => exact .ok (.lifecycle s hs none)
  | narrative s hs c m => exact .ok (.lifecycle _ (by exact hs) none)
  | givens s hs m => exact .ok (.lifecycle s hs none)
  | lifecycle s hs b => exact .ok (.lifecycle s hs none)
  | scenario s sc => exact .error _
  | scenarioGivens s m sc hs => exact .error _
  | examples s o => exact .error _

theorem openExamples (h : d.Consistent) (n : Nat) (rest : Text) :
    Yields Consistent (d.openExamples n rest) := by
  unfold Draft.openExamples
  split
  · exact .error _
  · refine .ok ?_
    cases h with
    | scenario s sc => split <;> exact .examples s _
    | scenarioGivens s m sc hs => split <;> exact .examples s _
    | _ => simp at *

theorem step (h : d.Consistent) (n : Nat) (line : Text) : Yields Consistent (d.step n line) := by
  cases h with
  | description s hs => exact .ok (.scenario s _)
  | narrative s hs c m => exact .ok (.scenario _ _)
  | givens s hs m => exact .ok (.scenario s _)
  | lifecycle s hs b =>
      match b with
      | none => exact .error _
      | some .before => exact .ok (.lifecycle _ (by exact hs) _)
      | some .after => exact .ok (.lifecycle _ (by exact hs) _)
  | scenario s sc => exact .ok (.scenario s _)
  | scenarioGivens s m sc hs => exact .ok (.scenario s _)
  | examples s o => exact .error _

/-- An open scenario replaces whatever was open before. -/
theorem openScenario (ks : Keywords) (d : Draft) (title : Text) :
    Yields Consistent (d.openScenario ks.separators title) := by
  unfold Draft.openScenario
  cases d.finishScenario ks.separators with
  | error e => exact .error e
  | ok c => exact .ok (.scenario c.story _)

theorem openPart (h : d.Consistent) (ks : Keywords) (n : Nat) (line : Text) (k : Keyword)
    (rest : Text) : Yields Consistent (d.openPart ks n line k rest) := by
  unfold Draft.openPart
  split
  · exact h.openNarrative n rest
  · exact h.openGivens n rest
  · exact h.openLifecycle n
  · exact openScenario ks d rest
  · exact h.openExamples n rest
  · exact h.step n line

/-- **Every line keeps what is open and the section in step.** -/
theorem line (h : d.Consistent) (ks : Keywords) (n : Nat) (line : Text) :
    Yields Consistent (d.line ks n line) := by
  unfold Draft.line
  split
  · exact h.text n line
  · split
    · next hp =>
      cases h with
      | narrative s hs c m =>
          rw [addToNarrative_eq]
          exact .ok (.narrative s hs _ _)
      | _ => cases hp
    · exact h.text n line
    · next hp =>
      cases h with
      | lifecycle s hs b => exact .ok (.lifecycle s hs _)
      | _ => cases hp
    · exact h.text n line
    · rw [structural_eq]
      exact h.closeGivens.bind fun d h => h.openPart ks n line _ _

theorem lines (h : d.Consistent) (ks : Keywords) (ls : List (Nat × Text)) :
    Yields Consistent (d.lines ks ls) := by
  induction ls generalizing d with
  | nil => exact .ok h
  | cons l ls ih =>
      rw [lines_cons]
      exact (h.line ks l.1 l.2).bind fun d h => ih h

end Consistent

end Draft

end Storyline.Story
