import Storyline.Proofs.Story.Conservation

/-!
# Nothing is read where nothing is open

Where a line belongs to a narrative, a scenario or a step that is not there, the reader of stories
has no place for it: it goes on as if there had been no line, or refuses the line (`Fallback`). A
reader that stops with the name of the fallback instead (`Checked.line`) reads all lines in the same
way, so no fallback is ever taken. What is open and the section are always in step, and every line
that is read is held where it belongs (`Draft.lines_keep_open`).
-/

set_option autoImplicit false

namespace Storyline.Story

/-- What the reader does for want of something open. -/
inductive Fallback
  /-- Text of the narrative is dropped where there is no narrative. -/
  | narrativeText
  /-- The paths of given stories are dropped where no scenario is open. -/
  | givenPaths
  /-- A line of a table is dropped where no scenario is open. -/
  | tableLine
  /-- Text of a scenario is refused where none is open. -/
  | scenarioText
  /-- A line that goes on with a step of a scenario is refused where it has no steps. -/
  | continuedStep
deriving DecidableEq, Repr

/-! ## A reader without fallbacks -/

namespace Checked

/-- What comes of a line without fallbacks. -/
abbrev Result := Except (Fallback ⊕ StoryError) Draft

/-- What the reader itself makes of a line. -/
def answer (r : Except StoryError Draft) : Result := r.mapError .inr

def addToNarrative (d : Draft) (t : Text) : Result :=
  match d.place, d.story.narrative with
  | .narrative _, some _ => .ok (d.addToNarrative t)
  | _, _ => .error (.inl .narrativeText)

def addGivens (d : Draft) (t : Text) : Result :=
  match d.place, d.current with
  | .storyGivens _, _ => .ok (d.addGivens t)
  | .scenarioGivens _, some _ => .ok (d.addGivens t)
  | _, _ => .error (.inl .givenPaths)

def addTableLine (d : Draft) (line : Text) : Result :=
  if d.current.isSome then .ok (d.addTableLine line) else .error (.inl .tableLine)

/-- Reads text into the open scenario: after the steps it goes on with the last one. -/
def scenarioText (d : Draft) (n : Nat) (line : Text) : Result :=
  if d.current.isNone then .error (.inl .scenarioText)
  else if d.current.any fun o =>
      !o.scenario.steps.isEmpty && (continueLast? o.scenario.steps line).isNone then
    .error (.inl .continuedStep)
  else answer (d.text n line)

def text (d : Draft) (n : Nat) (line : Text) : Result :=
  match d.place with
  | .description => answer (d.text n line)
  | .narrative _ => addToNarrative d line
  | .storyGivens _ => addGivens d line
  | .lifecycle _ => answer (d.text n line)
  | .scenario => scenarioText d n line
  | .scenarioGivens _ => addGivens d line
  | .examples => addTableLine d line

def openNarrative (d : Draft) (n : Nat) (rest : Text) : Result :=
  if d.story.narrative.isSome then .error (.inr (.duplicateNarrative n))
  else if d.place ≠ .description then .error (.inr (.misplacedNarrative n))
  else
    addToNarrative
      { d with place := .narrative .text, story := { d.story with narrative := some {} } } rest

def openGivens (d : Draft) (n : Nat) (rest : Text) : Result :=
  match d.current, d.place with
  | none, .description => addGivens { d with place := .storyGivens n } rest
  | none, .narrative _ => addGivens { d with place := .storyGivens n } rest
  | some o, .scenario =>
    if o.scenario.steps.isEmpty then addGivens { d with place := .scenarioGivens n } rest
    else .error (.inr (.misplacedGivenStories n))
  | _, _ => .error (.inr (.misplacedGivenStories n))

def openExamples (d : Draft) (n : Nat) (rest : Text) : Result :=
  if d.current.isNone || d.place = .examples then .error (.inr (.misplacedExamples n))
  else if rest.isEmpty then .ok { d with place := .examples }
  else addTableLine { d with place := .examples } rest

def openPart (ks : Keywords) (d : Draft) (n : Nat) (line : Text) (k : Keyword) (rest : Text) :
    Result :=
  match k with
  | .narrative => openNarrative d n rest
  | .givenStories => openGivens d n rest
  | .examples => openExamples d n rest
  | k => answer (d.openPart ks n line k rest)

/-- Reads a line, with a fallback as an error of its own. -/
def line (ks : Keywords) (d : Draft) (n : Nat) (line : Text) : Result :=
  match ks.classify line with
  | none => text d n line
  | some (k, rest) =>
    match clause? k, block? k, d.place with
    | some c, _, .narrative _ => addToNarrative { d with place := .narrative c } rest
    | some _, _, _ => text d n line
    | none, some b, .lifecycle _ => .ok { d with place := .lifecycle (some b) }
    | none, some _, _ => text d n line
    | none, none, _ => answer d.closeGivens >>= fun d => openPart ks d n line k rest

/-- Reads numbered lines. -/
def lines (ks : Keywords) (d : Draft) (ls : List (Nat × Text)) : Result :=
  ls.foldlM (fun d l => line ks d l.1 l.2) d

/-! ## Agreement of the two readers -/

variable {d : Draft}

theorem answer_bind (r : Except StoryError Draft) (f : Draft → Except StoryError Draft) :
    answer (r >>= f) = answer r >>= fun d => answer (f d) := by
  cases r <;> rfl

/-- After steps a line always goes on with the last one. -/
theorem scenarioText_eq {d : Draft} {o : OpenScenario} (ho : d.current = some o) (n : Nat)
    (line : Text) : scenarioText d n line = answer (d.text n line) := by
  have hcontinues : (!o.scenario.steps.isEmpty &&
      (continueLast? o.scenario.steps line).isNone) = false := by
    rw [Bool.and_eq_false_imp]
    intro hne
    rw [Option.isNone_eq_false_iff, Option.isSome_iff_ne_none, ne_eq, continueLast?_eq_none]
    simpa using hne
  simp only [scenarioText, ho, Option.isNone_some, Option.any_some, hcontinues,
    Bool.false_eq_true, if_false]

/-- Text finds what it belongs to. -/
theorem text_eq (h : d.Consistent) (n : Nat) (line : Text) :
    text d n line = answer (d.text n line) := by
  cases h with
  | scenario s sc => exact scenarioText_eq rfl n line
  | _ => rfl

theorem openNarrative_eq (d : Draft) (n : Nat) (rest : Text) :
    openNarrative d n rest = answer (d.openNarrative n rest) := by
  unfold openNarrative Draft.openNarrative
  split
  · rfl
  · split
    · rfl
    · rfl

theorem openGivens_eq (h : d.Consistent) (n : Nat) (rest : Text) :
    openGivens d n rest = answer (d.openGivens n rest) := by
  cases h with
  | scenario s sc =>
      simp only [openGivens, Draft.openGivens]
      split
      · rfl
      · rfl
  | _ => rfl

theorem openExamples_eq (d : Draft) (n : Nat) (rest : Text) :
    openExamples d n rest = answer (d.openExamples n rest) := by
  unfold openExamples Draft.openExamples
  split
  · rfl
  · next hopen =>
      -- only in a scenario a table is opened
      have hsome : d.current.isSome = true := by
        cases hd : d.current with
        | none => simp [hd] at hopen
        | some o => rfl
      split
      · rfl
      · exact if_pos hsome

theorem openPart_eq (h : d.Consistent) (ks : Keywords) (n : Nat) (line : Text) (k : Keyword)
    (rest : Text) : openPart ks d n line k rest = answer (d.openPart ks n line k rest) := by
  cases k with
  | narrative => exact openNarrative_eq d n rest
  | givenStories => exact openGivens_eq h n rest
  | examples => exact openExamples_eq d n rest
  | _ => rfl

/-- **No line leads to a fallback** where what is open fits the section. -/
theorem line_eq (h : d.Consistent) (ks : Keywords) (n : Nat) (l : Text) :
    line ks d n l = answer (d.line ks n l) := by
  have htext := text_eq h n l
  cases hclass : ks.classify l with
  | none => simpa only [line, Draft.line, hclass] using htext
  | some found =>
      obtain ⟨k, rest⟩ := found
      simp only [line, Draft.line, hclass]
      cases clause? k with
      | some c =>
          -- the keyword of a clause has a meaning in the narrative only
          cases h with
          | narrative s hs c' m => rfl
          | _ => exact htext
      | none =>
          cases block? k with
          | some b =>
              cases h with
              | lifecycle s hs b' => rfl
              | _ => exact htext
          | none =>
              dsimp only
              rw [Draft.structural_eq, answer_bind]
              cases hclose : d.closeGivens with
              | error e => rfl
              | ok e => exact openPart_eq (h.closeGivens e hclose) ks n l k rest

theorem lines_eq (h : d.Consistent) (ks : Keywords) (ls : List (Nat × Text)) :
    lines ks d ls = answer (d.lines ks ls) := by
  induction ls generalizing d with
  | nil => rfl
  | cons l ls ih =>
      rw [Draft.lines_cons, answer_bind]
      change (line ks d l.1 l.2 >>= fun d => lines ks d ls) = _
      rw [line_eq h]
      cases hread : d.line ks l.1 l.2 with
      | error e => rfl
      | ok e => exact ih (h.line ks l.1 l.2 e hread)

end Checked

/-! ## All drafts -/

namespace Draft

variable {ks : Keywords} {path : Text} {ls : List (Nat × Text)} {d : Draft}

theorem Consistent.isSome_current_iff (h : d.Consistent) : d.current.isSome = true ↔
    d.place = .scenario ∨ (∃ n, d.place = .scenarioGivens n) ∨ d.place = .examples := by
  cases h <;> simp

/-- **What is open and the section are in step** after any lines of a story. A scenario is open just
in the sections of one, with no steps where its given stories are listed and with no table before
the examples, and a narrative is there in its section. Hence none of the lines that may follow leads
to a fallback, and all that was said is held in its place. -/
theorem lines_keep_open (h : Draft.lines ks { story := { path } } ls = .ok d) :
    (d.current.isSome = true ↔
      d.place = .scenario ∨ (∃ n, d.place = .scenarioGivens n) ∨ d.place = .examples) ∧
    (∀ n o, d.place = .scenarioGivens n → d.current = some o → o.scenario.steps = []) ∧
    (∀ o, d.current = some o → d.place ≠ .examples → o.table = []) ∧
    (∀ c, d.place = .narrative c → d.story.narrative.isSome = true) ∧
    (∀ ms, Checked.lines ks d ms = Checked.answer (d.lines ks ms)) ∧
    ((∀ l ∈ ls, '\n' ∉ l.2 ∧ l.2 ≠ []) →
      d.Keeps ks (sharesFrom ks .description (ls.map Prod.snd))) := by
  have hstart : Consistent { story := { path } } := .description _ rfl
  have hd : d.Consistent := hstart.lines ks ls d h
  refine ⟨hd.isSome_current_iff, fun n o hp ho => ?_, fun o ho hp => ?_, fun c hp => ?_,
    Checked.lines_eq hd ks, fun hls => ?_⟩
  · cases hd with
    | scenarioGivens s m sc hsteps =>
        cases ho
        exact hsteps
    | _ => cases hp
  · cases hd with
    | scenario s sc => cases ho; rfl
    | scenarioGivens s m sc hsteps => cases ho; rfl
    | examples s o => exact absurd rfl hp
    | _ => cases ho
  · cases hd with
    | narrative s hs c' m => rfl
    | _ => cases hp
  · exact (keeps_nil ks path).lines hstart ls hls d h

/-- A narrative, and a scenario with given stories that go on in the next line. -/
theorem lines_keep_open_givens :
    let ls := [(1, "Narrative: n".toList), (2, "Scenario: add".toList),
      (3, "GivenStories: a".toList)]
    ∃ d, Draft.lines .default { story := { path := [] } } ls = .ok d ∧
      d.place = .scenarioGivens 3 ∧ d.current.isSome = true ∧
      (∀ o, d.current = some o → o.scenario.steps = [] ∧ o.table = []) ∧
      Checked.lines .default d [(4, ['b'])] = Checked.answer (d.lines .default [(4, ['b'])]) ∧
      d.Keeps .default (sharesFrom .default .description (ls.map Prod.snd)) := by
  intro ls
  have h : Draft.lines .default { story := { path := [] } } ls = .ok {
      story := { path := [], narrative := some { text := ['n'] } }
      place := .scenarioGivens 3
      current := some { scenario := { title := "add".toList, givenStories := [['a']] } } } :=
    eq_ok_of_toOption (by decide +kernel)
  obtain ⟨hopen, hsteps, htable, -, hchecked, hkeeps⟩ := lines_keep_open h
  exact ⟨_, h, rfl, hopen.mpr (.inr (.inl ⟨3, rfl⟩)),
    fun o ho => ⟨hsteps 3 o rfl ho, htable o ho (by simp)⟩, hchecked _, hkeeps (by simp [ls])⟩

end Draft

end Storyline.Story
