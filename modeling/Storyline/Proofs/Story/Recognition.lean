import Storyline.Proofs.Story.Conservation
import Storyline.Step.Matching

/-!
# Steps are recognised again

A story keeps each step as one text, with its keyword and all its lines, and the matcher finds out
about the keyword once more. The lines that were added do not mislead it
(`Keywords.keyword_classify_append`), because a step starts with the line that was read as a step
(`exists_marker_of_mem_steps`). So the matcher sees the keyword that the reader saw
(`parse_recognised`).
-/

set_option autoImplicit false

namespace Storyline

namespace Story

/-! ## The lines of steps -/

/-- All steps of a story, as they are written. -/
def steps (s : Story) : List Text :=
  s.lifecycle.before ++ s.lifecycle.after ++ s.scenarios.flatMap (·.steps)

/-- The keyword stands at the start of a step or of a comment between steps. -/
def IsStepMarker (k : Keyword) : Prop := k = .ignorable ∨ ∃ j, k = .step j

theorem Part.roleOf_eq_step {k : Keyword} (h : roleOf k = .step) : IsStepMarker k := by
  cases k with
  | step j => exact .inr ⟨j, rfl⟩
  | ignorable => exact .inl rfl
  | _ => cases h

/-- A line that opens nothing is said in full, and one that starts a step has its marker. -/
theorem Part.share_spec (ks : Keywords) (p : Part) (line : Text) :
    ((p.share ks line).role ≠ .marker → (p.share ks line).content = line) ∧
      ((p.share ks line).role = .step →
        ∃ k rest, ks.classify line = some (k, rest) ∧ IsStepMarker k) := by
  cases hclass : ks.classify line with
  | none => simp [share, hclass]
  | some found =>
      obtain ⟨k, rest⟩ := found
      by_cases hadmits : p.admits k
      · simp only [share, hclass, hadmits, if_true]
        exact ⟨fun hrole => if_neg hrole, fun hrole => ⟨k, rest, rfl, roleOf_eq_step hrole⟩⟩
      · simp [share, hclass, hadmits]

theorem exists_share_of_mem {ks : Keywords} {ls : List Text} {p : Part} {sh : Share}
    (h : sh ∈ sharesFrom ks p ls) : ∃ q, ∃ line ∈ ls, sh = Part.share ks q line := by
  induction ls generalizing p with
  | nil => cases h
  | cons l ls ih =>
      rcases List.mem_cons.mp h with rfl | h
      · exact ⟨p, l, List.mem_cons_self, rfl⟩
      · obtain ⟨q, line, hline, hsh⟩ := ih h
        exact ⟨q, line, List.mem_cons_of_mem _ hline, hsh⟩

/-- A step is made of lines of the text, and its first line is one that starts a step. -/
theorem MadeOf.exists_marker {ks : Keywords} {t : Text} {steps : List Text} {p : Part}
    (h : MadeOf steps p (shares ks t)) {step : Text} (hstep : step ∈ steps) :
    Text.lines step ⊆ contentLines t ∧
      ∃ k rest, ks.classify (firstLine step) = some (k, rest) ∧ IsStepMarker k := by
  constructor
  · intro l hl
    have hmem : l ∈ linesOf (· ≠ .marker) p (shares ks t) :=
      h.lines ▸ List.mem_flatMap_of_mem hstep hl
    obtain ⟨sh, hsh, rfl⟩ := List.mem_map.mp hmem
    obtain ⟨hsh, hrole⟩ := List.mem_filter.mp hsh
    obtain ⟨q, line, hline, rfl⟩ := exists_share_of_mem hsh
    rw [(Part.share_spec ks q line).1 (by simp_all)]
    exact hline
  · have hmem : firstLine step ∈ linesOf (· = .step) p (shares ks t) :=
      h.starts ▸ List.mem_map_of_mem hstep
    obtain ⟨sh, hsh, hfirst⟩ := List.mem_map.mp hmem
    obtain ⟨hsh, hrole⟩ := List.mem_filter.mp hsh
    obtain ⟨q, line, hline, rfl⟩ := exists_share_of_mem hsh
    have hstart : (Part.share ks q line).role = .step := by simp_all
    rw [← hfirst, (Part.share_spec ks q line).1 (by simp [hstart])]
    exact (Part.share_spec ks q line).2 hstart

/-- Every step belongs to a block of the lifecycle or to a scenario. -/
theorem Stores.exists_madeOf {ks : Keywords} {ss : List Share} {s : Story} (h : Stores ks ss s)
    {step : Text} (hstep : step ∈ s.steps) : ∃ steps p, MadeOf steps p ss ∧ step ∈ steps := by
  rcases List.mem_append.mp hstep with hstep | hstep
  · rcases List.mem_append.mp hstep with hstep | hstep
    · exact ⟨_, _, h.lifecycle .before, hstep⟩
    · exact ⟨_, _, h.lifecycle .after, hstep⟩
  · obtain ⟨sc, hsc, hstep⟩ := List.mem_flatMap.mp hstep
    obtain ⟨i, hi⟩ := List.mem_iff_getElem?.mp hsc
    exact ⟨_, _, (h.scenario i sc hi).1.steps, hstep⟩

/-- A text is its first line, or goes on after a line feed. -/
theorem firstLine_cases (t : Text) :
    t = firstLine t ∨ ∃ more, t = firstLine t ++ '\n' :: more := by
  induction t with
  | nil => exact .inl rfl
  | cons c t ih =>
      by_cases hc : c = '\n'
      · exact .inr ⟨t, by simp [firstLine, hc]⟩
      · have hfirst : firstLine (c :: t) = c :: firstLine t :=
          List.takeWhile_cons_of_pos (by simpa using hc)
        rw [hfirst]
        rcases ih with h | ⟨more, h⟩
        · exact .inl (congrArg (c :: ·) h)
        · exact .inr ⟨more, congrArg (c :: ·) h⟩

/-- The lines after the first one do not matter for the keyword. -/
theorem keyword_firstLine {ks : Keywords} (hks : ∀ k ∈ Keyword.markers, '\n' ∉ ks.literal k)
    (t : Text) : (ks.classify t).map Prod.fst = (ks.classify (firstLine t)).map Prod.fst := by
  rcases firstLine_cases t with h | ⟨more, h⟩
  · rw [← h]
  · have happend := Keywords.keyword_classify_append hks (firstLine t) more
    rwa [← h] at happend

end Story

/-! ## Matching -/

variable {κ σ : Type}

theorem Finding.ofWinners_ne (hs : List (Hit κ σ)) :
    ofWinners hs ≠ .ignorable ∧ ofWinners hs ≠ .noKeyword := by
  match hs with
  | [] => simp [ofWinners]
  | [h] => simp [ofWinners]
  | h :: h' :: hs => simp [ofWinners]

/-- Only comments are ignorable. -/
theorem Finding.binding_eq_ignorable_iff {cs : Converters κ} {line : Text} {f : Finding κ σ} :
    f.binding cs line = .ignorable ↔ f = .ignorable := by
  cases f with
  | hit h =>
      simp only [binding]
      split <;> simp
  | _ => simp [binding]

/-- A line with the marker of a step is a step for the matcher, and a comment for the matcher if its
marker is that of a comment. -/
theorem Matcher.find_of_marker {m : Matcher κ σ} {line : Text} {k : Keyword}
    (h : (m.keywords.classify line).map Prod.fst = some k) (hk : Story.IsStepMarker k)
    (prev : Option StepKeyword) :
    m.find prev line ≠ .noKeyword ∧
      ((m.matchStep prev line).1.binding = .ignorable ↔ k = .ignorable) := by
  obtain ⟨⟨k', rest⟩, hclass, rfl⟩ := Option.map_eq_some_iff.mp h
  change _ ∧ ((m.find prev line).binding m.converters line = .ignorable ↔ _)
  rw [Finding.binding_eq_ignorable_iff]
  -- the marker alone says which way the search goes, whatever it finds for a step
  rcases hk with hk | ⟨j, hk⟩
  · cases hk
    simp [find, hclass]
  · cases hk
    simp [find, hclass, Finding.ofWinners_ne]

namespace Story

/-- **The matcher sees the keyword that the reader saw.** A step that was read starts with a line of
the text that has the marker of a step, and has the same marker with all its lines. So no step that
was read is without keyword for the matcher, and those are ignorable whose line was. -/
theorem parse_recognised {ks : Keywords} (hks : ∀ k ∈ Keyword.markers, '\n' ∉ ks.literal k)
    {path t : Text} {s : Story} (h : parse ks path t = .ok s) :
    ∀ step ∈ s.steps, ∃ k rest, Text.lines step ⊆ contentLines t ∧
      ks.classify (firstLine step) = some (k, rest) ∧ (k = .ignorable ∨ ∃ j, k = .step j) ∧
      (ks.classify step).map Prod.fst = some k ∧
      ∀ (m : Matcher κ σ) (prev : Option StepKeyword), m.keywords = ks →
        m.find prev step ≠ .noKeyword ∧
          ((m.matchStep prev step).1.binding = .ignorable ↔ k = .ignorable) := by
  intro step hstep
  obtain ⟨d, hkept, -, rfl⟩ := exists_keeps_of_parse h
  obtain ⟨steps, p, hmade, hstep⟩ := hkept.story.exists_madeOf hstep
  obtain ⟨hlines, k, rest, hclass, hk⟩ := hmade.exists_marker hstep
  have hmarker : (ks.classify step).map Prod.fst = some k := by
    rw [keyword_firstLine hks, hclass]
    rfl
  refine ⟨k, rest, hlines, hclass, hk, hmarker, fun m prev hm => ?_⟩
  cases hm
  exact Matcher.find_of_marker hmarker hk prev

/-- A comment and a step of two lines each, where the lines of the step begin like another
keyword. -/
theorem parse_recognised_continued :
    let t := "Lifecycle:\nAfter:\n!-- clean\nup\nScenario: add\nGiven\nStories: 2".toList
    let s : Story := {
      path := []
      lifecycle := { after := ["!-- clean\nup".toList] }
      scenarios := [{ title := "add".toList, steps := ["Given\nStories: 2".toList] }] }
    parse .default [] t = .ok s ∧
      ∀ step ∈ s.steps, ∃ k rest, Text.lines step ⊆ contentLines t ∧
        Keywords.default.classify (firstLine step) = some (k, rest) ∧
        (k = .ignorable ∨ ∃ j, k = .step j) ∧
        (Keywords.default.classify step).map Prod.fst = some k ∧
        ∀ (m : Matcher Unit Unit) (prev : Option StepKeyword), m.keywords = .default →
          m.find prev step ≠ .noKeyword ∧
            ((m.matchStep prev step).1.binding = .ignorable ↔ k = .ignorable) := by
  intro t s
  have h : parse .default [] t = .ok s := eq_ok_of_toOption (by decide +kernel)
  have hks : ∀ k ∈ Keyword.markers, '\n' ∉ Keywords.default.literal k := by decide
  exact ⟨h, parse_recognised hks h⟩

-- a literal of two lines is found in a step of which the reader saw only one
example :
    let ks := Keywords.default.set .narrative "Given a\nb".toList
    let step := "Given a\nb".toList
    ks.validate.toOption = some () ∧
      (parse ks [] step).toOption.map (·.steps) = some [step] ∧
      (ks.classify (firstLine step)).map Prod.fst = some (.step .given) ∧
      (ks.classify step).map Prod.fst = some .narrative := by
  decide

end Story

end Storyline
