import Storyline.Proofs.Keyword
import Storyline.Proofs.Story.Shares

/-!
# The outline of a story that is being read

Where a keyword may stand depends on little of what was read before: on the section, on whether a
scenario is open, on whether there is a narrative, and on the given stories that the story or the
open scenario lists so far. This is the outline of a draft (`Draft.outline`). `Outline.Leads` says
all that a line can do to it, and `Outline.Reflects` what the outline tells of the lines that were
read, whatever they are (`Draft.reflects_lines`).
-/

set_option autoImplicit false

namespace Storyline

/-- The keyword that starts the line. -/
def Keywords.keyword? (ks : Keywords) (line : Text) : Option Keyword :=
  (ks.classify line).map Prod.fst

/-- The keyword opens a part that comes after the narrative: the lifecycle, a scenario or a step. -/
def Keyword.opensBody : Keyword → Bool
  | .lifecycle => true
  | .scenario => true
  | .step _ => true
  | .ignorable => true
  | _ => false

namespace Story

/-- The line at which the list of given stories that is being read starts. -/
def Section.givensLine? : Section → Option Nat
  | .storyGivens n => some n
  | .scenarioGivens n => some n
  | _ => none

def Section.isLifecycle : Section → Bool
  | .lifecycle _ => true
  | _ => false

theorem Section.isLifecycle_of_givensLine? {p : Section} {n : Nat} (h : p.givensLine? = some n) :
    p.isLifecycle = false := by
  cases p with
  | lifecycle b => cases h
  | _ => rfl

/-- What decides where the next keyword may stand. -/
structure Outline where
  place : Section
  inScenario : Bool
  narrated : Bool
  /-- The given stories that the open scenario lists so far, or the story if none is open. -/
  givens : List Text

namespace Outline

/-- The lifecycle or a scenario has been opened. -/
def inBody (o : Outline) : Bool := o.inScenario || o.place.isLifecycle

/-- The outline after more paths were listed. -/
def give (o : Outline) (t : Text) : Outline := { o with givens := o.givens ++ Text.entries t }

/-- The outline after a line of text, which lists paths where given stories are listed. -/
def text (o : Outline) (t : Text) : Outline := if o.place.givensLine?.isSome then o.give t else o

/-- The outline after the end of a list of given stories, if one is open. -/
def closed (o : Outline) : Outline :=
  { o with place :=
      if o.place.givensLine?.isSome then (if o.inScenario then .scenario else .description)
      else o.place }

@[simp] theorem inBody_closed (o : Outline) : o.closed.inBody = o.inBody := by
  obtain ⟨p, i, m, g⟩ := o
  cases p <;> cases i <;> rfl

theorem closed_isLifecycle (o : Outline) :
    o.closed.place.isLifecycle = o.place.isLifecycle := by
  obtain ⟨p, i, m, g⟩ := o
  cases p <;> cases i <;> rfl

theorem closed_givensLine? (o : Outline) : o.closed.place.givensLine? = none := by
  obtain ⟨p, i, m, g⟩ := o
  cases p <;> cases i <;> rfl

theorem closed_of_isLifecycle {o : Outline} (h : o.place.isLifecycle = true) : o.closed = o := by
  obtain ⟨p, i, m, g⟩ := o
  cases p with
  | lifecycle b => rfl
  | _ => cases h

theorem text_of_givensLine?_eq_none {o : Outline} (h : o.place.givensLine? = none) (t : Text) :
    o.text t = o := by
  simp [text, h]

@[simp] theorem place_text (o : Outline) (t : Text) : (o.text t).place = o.place := by
  unfold text
  split <;> rfl

@[simp] theorem inScenario_text (o : Outline) (t : Text) :
    (o.text t).inScenario = o.inScenario := by
  unfold text
  split <;> rfl

@[simp] theorem narrated_text (o : Outline) (t : Text) : (o.text t).narrated = o.narrated := by
  unfold text
  split <;> rfl

/-- What line `n` can do to an outline, by the keyword that starts it. -/
inductive Leads (n : Nat) : Option Keyword → Outline → Outline → Prop
  /-- Only the keywords of clauses and blocks can stand in a text. -/
  | text {k? : Option Keyword} (hk : ∀ k, k? = some k → clause? k ≠ none ∨ block? k ≠ none)
      (o : Outline) (t : Text) : Leads n k? o (o.text t)
  | clause {k : Keyword} (hk : clause? k ≠ none) {o : Outline} {c : Clause}
      (hp : o.place = .narrative c) (c' : Clause) :
      Leads n (some k) o { o with place := .narrative c' }
  | block {k : Keyword} (hk : block? k ≠ none) {o : Outline} {b : Option Block}
      (hp : o.place = .lifecycle b) (b' : Option Block) :
      Leads n (some k) o { o with place := .lifecycle b' }
  | narrative {o : Outline} (hn : o.narrated = false) (hb : o.inBody = false) :
      Leads n (some .narrative) o { o with place := .narrative .text, narrated := true }
  | givens {o : Outline} (hl : o.place.isLifecycle = false) {p : Section}
      (hp : p.givensLine? = some n) (t : Text) :
      Leads n (some .givenStories) o { o.give t with place := p }
  | lifecycle {o : Outline} (ho : o.inScenario = false) :
      Leads n (some .lifecycle) o { o with place := .lifecycle none }
  | scenario (o : Outline) :
      Leads n (some .scenario) o { o with place := .scenario, inScenario := true, givens := [] }
  | examples {o : Outline} (ho : o.inScenario = true) :
      Leads n (some .examples) o { o with place := .examples }
  | blockStep {k : Keyword} (hk : Part.roleOf k = .step) {o : Outline}
      (hl : o.place.isLifecycle = true) : Leads n (some k) o o
  | step {k : Keyword} (hk : Part.roleOf k = .step) {o : Outline}
      (hl : o.place.isLifecycle = false) :
      Leads n (some k) o { o with
        place := .scenario
        inScenario := true
        givens := if o.inScenario then o.givens else [] }

namespace Leads

variable {n : Nat} {k : Keyword} {k? : Option Keyword} {o o' : Outline}

/-- A list of given stories that ends first does not matter for what a keyword opens. -/
theorem of_closed (hc : clause? k = none) (hb : block? k = none)
    (h : Leads n (some k) o.closed o') : Leads n (some k) o o' := by
  cases h with
  | text hk o t =>
      rcases hk k rfl with hne | hne
      · exact absurd hc hne
      · exact absurd hb hne
  | clause hk hp c' => exact absurd hc hk
  | block hk hp b' => exact absurd hb hk
  | narrative hn hbody => exact .narrative hn (o.inBody_closed ▸ hbody)
  | givens hl hp t => exact .givens (o.closed_isLifecycle ▸ hl) hp t
  | lifecycle ho => exact .lifecycle ho
  | scenario o => exact .scenario _
  | examples ho => exact .examples ho
  | blockStep hk hl =>
      rw [closed_isLifecycle] at hl
      rw [closed_of_isLifecycle hl]
      exact .blockStep hk hl
  | step hk hl => exact .step hk (o.closed_isLifecycle ▸ hl)

/-- A keyword that leaves a line mere text opens nothing. -/
theorem opens_nothing (hk : clause? k ≠ none ∨ block? k ≠ none) :
    k ≠ .narrative ∧ k.opensBody = false ∧ k ≠ .scenario := by
  cases k <;> simp_all [clause?, block?, Keyword.opensBody]

theorem step_opensBody (hk : Part.roleOf k = .step) :
    k ≠ .narrative ∧ k.opensBody = true ∧ k ≠ .scenario := by
  cases k <;> simp_all [Part.roleOf, Keyword.opensBody]

theorem of_step (hk : Part.roleOf k = .step)
    (h : o.place.isLifecycle = true ∧ o' = o ∨ o.place.isLifecycle = false ∧ o' = { o with
      place := .scenario
      inScenario := true
      givens := if o.inScenario then o.givens else [] }) : Leads n (some k) o o' := by
  rcases h with ⟨hl, rfl⟩ | ⟨hl, rfl⟩
  · exact .blockStep hk hl
  · exact .step hk hl

/-- A narrative comes from its keyword. -/
theorem narrated_iff (h : Leads n k? o o') :
    o'.narrated = true ↔ o.narrated = true ∨ k? = some .narrative := by
  cases h with
  | text hk o t =>
      have hne : k? ≠ some .narrative := fun he => (opens_nothing (hk _ he)).1 rfl
      simp [hne]
  | clause hk hp c' => simp [(opens_nothing (.inl hk)).1]
  | block hk hp b' => simp [(opens_nothing (.inr hk)).1]
  | blockStep hk hl => simp [(step_opensBody hk).1]
  | step hk hl => simp [(step_opensBody hk).1]
  | givens hl hp t => simp [give]
  | _ => simp

/-- What comes after the narrative is opened by the keywords of the body, and never left. -/
theorem inBody_iff (h : Leads n k? o o') :
    o'.inBody = true ↔ o.inBody = true ∨ k?.any Keyword.opensBody = true := by
  cases h with
  | text hk o t =>
      have hnot : k?.any Keyword.opensBody = false := by
        cases k? with
        | none => rfl
        | some k => exact (opens_nothing (hk k rfl)).2.1
      simp [inBody, hnot]
  | clause hk hp c' =>
      simp [inBody, hp, Section.isLifecycle, (opens_nothing (.inl hk)).2.1]
  | block hk hp b' => simp [inBody, hp, Section.isLifecycle]
  | narrative hn hb => simp_all [inBody, Section.isLifecycle, Keyword.opensBody]
  | givens hl hp t =>
      simp [inBody, hl, Section.isLifecycle_of_givensLine? hp, give, Keyword.opensBody]
  | lifecycle ho => simp [inBody, Section.isLifecycle, Keyword.opensBody]
  | scenario o => simp [inBody, Keyword.opensBody]
  | examples ho => simp [inBody, ho]
  | blockStep hk hl => simp [inBody, hl]
  | step hk hl => simp [inBody, (step_opensBody hk).2.1]

/-- While given stories are listed, or some are, no scenario has been opened since their keyword. -/
theorem listed (h : Leads n k? o o')
    (hlisted : o'.givens ≠ [] ∨ o'.place.givensLine? ≠ none) :
    k? = some .givenStories ∨
      k? ≠ some .scenario ∧ (o.givens ≠ [] ∨ o.place.givensLine? ≠ none) := by
  cases h with
  | text hk o t =>
      have hne : k? ≠ some .scenario := fun he => (opens_nothing (hk _ he)).2.2 rfl
      refine .inr ⟨hne, ?_⟩
      by_cases hp : o.place.givensLine? = none
      · rw [text_of_givensLine?_eq_none hp] at hlisted
        exact hlisted
      · exact .inr hp
  | clause hk hp c' =>
      exact .inr ⟨by simpa using (opens_nothing (.inl hk)).2.2, by simp_all [Section.givensLine?]⟩
  | block hk hp b' =>
      exact .inr ⟨by simpa using (opens_nothing (.inr hk)).2.2, by simp_all [Section.givensLine?]⟩
  | givens hl hp t => exact .inl rfl
  | scenario o => simp [Section.givensLine?] at hlisted
  | blockStep hk hl => exact .inr ⟨by simpa using (step_opensBody hk).2.2, hlisted⟩
  | step hk hl =>
      refine .inr ⟨by simpa using (step_opensBody hk).2.2, .inl ?_⟩
      intro hnil
      simp [Section.givensLine?, hnil] at hlisted
  | _ => exact .inr ⟨by simp, by simp_all [Section.givensLine?]⟩

/-- A list of given stories is opened by its keyword, with the number of that line. -/
theorem givensLine? (h : Leads n k? o o') {m : Nat} (hm : o'.place.givensLine? = some m) :
    k? = some .givenStories ∧ m = n ∨ o.place.givensLine? = some m := by
  cases h with
  | text hk o t => exact .inr (o.place_text t ▸ hm)
  | givens hl hp t => exact .inl ⟨rfl, Option.some.inj (hm.symm.trans hp)⟩
  | blockStep hk hl => exact .inr hm
  | _ => cases hm

end Leads

end Outline

namespace Draft

/-- The outline of a draft. -/
def outline (d : Draft) : Outline where
  place := d.place
  inScenario := d.current.isSome
  narrated := d.story.narrative.isSome
  givens := d.current.elim d.story.givenStories fun o => o.scenario.givenStories

namespace Consistent

variable {d : Draft}

/-! ## The outline after each operation -/

theorem outline_text (h : d.Consistent) (n : Nat) (line : Text) :
    Yields (fun e => e.outline = d.outline.text line) (d.text n line) := by
  cases h with
  | description s hs => exact .ok rfl
  | narrative s hs c m =>
      change Yields _ (.ok (addToNarrative _ line))
      rw [addToNarrative_eq]
      exact .ok rfl
  | givens s hs m => exact .ok rfl
  | lifecycle s hs b =>
      rcases b with _ | _ | _
      · exact .error _
      · simp only [Draft.text]
        cases continueLast? s.lifecycle.before line with
        | none => exact .error _
        | some steps => exact .ok rfl
      · simp only [Draft.text]
        cases continueLast? s.lifecycle.after line with
        | none => exact .error _
        | some steps => exact .ok rfl
  | scenario s sc =>
      simp only [Draft.text]
      cases continueLast? sc.steps line with
      | none => exact .ok rfl
      | some steps => exact .ok rfl
  | scenarioGivens s m sc hs => exact .ok rfl
  | examples s o => exact .ok rfl

/-- A list of given stories that lists nothing is an error at its line. -/
theorem closeGivens_eq_error (h : d.Consistent) {n : Nat} (hn : d.place.givensLine? = some n)
    (hnil : d.outline.givens = []) : d.closeGivens = .error (.emptyGivenStories n) := by
  cases h with
  | givens s hs m =>
      cases hn
      exact if_pos (List.isEmpty_iff.mpr hnil)
  | scenarioGivens s m sc hs =>
      cases hn
      exact if_pos (List.isEmpty_iff.mpr hnil)
  | _ => cases hn

theorem outline_closeGivens (h : d.Consistent) :
    Yields (fun e => e.outline = d.outline.closed ∧
      (d.place.givensLine? ≠ none → d.outline.givens ≠ [])) d.closeGivens := by
  cases h with
  | givens s hs m =>
      simp only [Draft.closeGivens]
      split
      · exact .error _
      · next hne => exact .ok ⟨rfl, fun _ hnil => hne (List.isEmpty_iff.mpr hnil)⟩
  | scenarioGivens s m sc hs =>
      simp only [Draft.closeGivens]
      split
      · exact .error _
      · next hne => exact .ok ⟨rfl, fun _ hnil => hne (List.isEmpty_iff.mpr hnil)⟩
  | _ => exact .ok ⟨rfl, fun hne => absurd rfl hne⟩

theorem outline_openNarrative (h : d.Consistent) (n : Nat) (rest : Text) :
    Yields (fun e => (d.outline.narrated = false ∧ d.outline.inBody = false) ∧
      e.outline = { d.outline with place := .narrative .text, narrated := true })
      (d.openNarrative n rest) := by
  cases h with
  | description s hs =>
      simp only [Draft.openNarrative]
      split
      · exact .error _
      · next hnone =>
        rw [if_neg (by simp), addToNarrative_eq]
        exact .ok ⟨⟨by simpa [outline] using hnone, rfl⟩, rfl⟩
  | narrative s hs c m => exact .error _
  | _ =>
      simp only [Draft.openNarrative]
      split
      · exact .error _
      · exact .error _

theorem outline_openGivens (h : d.Consistent) (n : Nat) (rest : Text) :
    Yields (fun e => d.place.isLifecycle = false ∧ ∃ p : Section, p.givensLine? = some n ∧
      e.outline = { d.outline.give rest with place := p }) (d.openGivens n rest) := by
  cases h with
  | description s hs => exact .ok ⟨rfl, _, rfl, rfl⟩
  | narrative s hs c m => exact .ok ⟨rfl, _, rfl, rfl⟩
  | givens s hs m => exact .error _
  | lifecycle s hs b => exact .error _
  | scenario s sc =>
      simp only [Draft.openGivens]
      split
      · exact .ok ⟨rfl, _, rfl, rfl⟩
      · exact .error _
  | scenarioGivens s m sc hs => exact .error _
  | examples s o => exact .error _

theorem outline_openLifecycle (d : Draft) (n : Nat) :
    Yields (fun e => d.outline.inScenario = false ∧
      e.outline = { d.outline with place := .lifecycle none }) (d.openLifecycle n) := by
  unfold Draft.openLifecycle
  split
  · exact .error _
  · next hnone => exact .ok ⟨by simpa [outline] using hnone, rfl⟩

theorem outline_openScenario (seps : Separators) (d : Draft) (title : Text) :
    Yields (fun e => e.outline =
      { d.outline with place := .scenario, inScenario := true, givens := [] })
      (d.openScenario seps title) := by
  unfold Draft.openScenario Draft.finishScenario
  cases d.current with
  | none => exact .ok rfl
  | some o =>
      dsimp only
      cases if o.table.isEmpty then Except.ok {} else Table.ofLines seps o.table with
      | error e => exact .error _
      | ok examples => exact .ok rfl

theorem outline_openExamples (d : Draft) (n : Nat) (rest : Text) :
    Yields (fun e => d.outline.inScenario = true ∧
      e.outline = { d.outline with place := .examples }) (d.openExamples n rest) := by
  unfold Draft.openExamples
  obtain ⟨s, p, c⟩ := d
  cases c with
  | none => exact .error _
  | some o =>
      split
      · exact .error _
      · split
        · exact .ok ⟨rfl, rfl⟩
        · exact .ok ⟨rfl, rfl⟩

theorem outline_step (h : d.Consistent) (n : Nat) (line : Text) :
    Yields (fun e => (d.place.isLifecycle = true ∧ e.outline = d.outline) ∨
      (d.place.isLifecycle = false ∧ e.outline = { d.outline with
        place := .scenario
        inScenario := true
        givens := if d.outline.inScenario then d.outline.givens else [] })) (d.step n line) := by
  cases h with
  | lifecycle s hs b =>
      rcases b with _ | _ | _
      · exact .error _
      · exact .ok (.inl ⟨rfl, rfl⟩)
      · exact .ok (.inl ⟨rfl, rfl⟩)
  | examples s o => exact .error _
  | _ => exact .ok (.inr ⟨rfl, rfl⟩)

theorem outline_openPart (h : d.Consistent) (ks : Keywords) (n : Nat) (line : Text) {k : Keyword}
    (hk : k ∈ Keyword.markers) (hc : clause? k = none) (hb : block? k = none) (rest : Text) :
    Yields (fun e => Outline.Leads n (some k) d.outline e.outline)
      (d.openPart ks n line k rest) := by
  cases k with
  | narrative =>
      exact (h.outline_openNarrative n rest).mono fun e he => he.2 ▸ .narrative he.1.1 he.1.2
  | givenStories =>
      refine (h.outline_openGivens n rest).mono fun e he => ?_
      obtain ⟨hl, p, hp, he⟩ := he
      exact he ▸ .givens hl hp rest
  | lifecycle => exact (outline_openLifecycle d n).mono fun e he => he.2 ▸ .lifecycle he.1
  | scenario => exact (outline_openScenario ks.separators d rest).mono fun e he => he ▸ .scenario _
  | examples => exact (outline_openExamples d n rest).mono fun e he => he.2 ▸ .examples he.1
  | step k => exact (h.outline_step n line).mono fun e he => .of_step rfl he
  | ignorable => exact (h.outline_step n line).mono fun e he => .of_step rfl he
  | inOrderTo => cases hc
  | asA => cases hc
  | iWantTo => cases hc
  | before => cases hb
  | after => cases hb
  | _ => exact absurd hk (by decide)

/-- A keyword of a clause continues the narrative, and is text elsewhere. -/
theorem outline_clause (h : d.Consistent) {ks : Keywords} {line rest : Text} {k : Keyword}
    (hclass : ks.classify line = some (k, rest)) {c : Clause} (hc : clause? k = some c) (n : Nat) :
    Yields (fun e => Outline.Leads n (some k) d.outline e.outline) (d.line ks n line) := by
  have hne : clause? k ≠ none := by simp [hc]
  by_cases hp : ∃ c', d.place = .narrative c'
  · obtain ⟨c', hp⟩ := hp
    rw [line_of_clause ks hclass hc hp]
    cases h with
    | narrative s hs c'' m =>
        rw [addToNarrative_eq]
        exact .ok (.clause hne rfl c)
    | _ => cases hp
  · have hb : block? k = none := by cases k <;> first | rfl | cases hc
    rw [line_eq_text ks hclass (fun hk => hne hk.1) (fun _ c' h' => hp ⟨c', h'⟩)
      (fun hb' => absurd hb hb')]
    exact (h.outline_text n line).mono fun e he =>
      he ▸ .text (fun k' hk => Option.some.inj hk ▸ .inl hne) _ line

/-- A keyword of a block goes on with the lifecycle, and is text elsewhere. -/
theorem outline_block (h : d.Consistent) {ks : Keywords} {line rest : Text} {k : Keyword}
    (hclass : ks.classify line = some (k, rest)) (hc : clause? k = none) {b : Block}
    (hb : block? k = some b) (n : Nat) :
    Yields (fun e => Outline.Leads n (some k) d.outline e.outline) (d.line ks n line) := by
  have hne : block? k ≠ none := by simp [hb]
  by_cases hp : ∃ b', d.place = .lifecycle b'
  · obtain ⟨b', hp⟩ := hp
    rw [line_of_block ks hclass hc hb hp]
    exact .ok (.block hne hp (some b))
  · rw [line_eq_text ks hclass (fun hk => hne hk.2) (fun hc' => absurd hc hc')
      (fun _ b' h' => hp ⟨b', h'⟩)]
    exact (h.outline_text n line).mono fun e he =>
      he ▸ .text (fun k' hk => Option.some.inj hk ▸ .inr hne) _ line

/-- **What a line does to the outline** can be told from its keyword. -/
theorem outline_line (h : d.Consistent) (ks : Keywords) (n : Nat) (line : Text) :
    Yields (fun e => Outline.Leads n (ks.keyword? line) d.outline e.outline)
      (d.line ks n line) := by
  cases hclass : ks.classify line with
  | none =>
      rw [line_of_classify_eq_none ks hclass, Keywords.keyword?, hclass]
      exact (h.outline_text n line).mono fun e he => he ▸ .text (fun k hk => by cases hk) _ line
  | some found =>
      obtain ⟨k, rest⟩ := found
      rw [Keywords.keyword?, hclass]
      cases hc : clause? k with
      | some c => exact h.outline_clause hclass hc n
      | none =>
          cases hb : block? k with
          | some b => exact h.outline_block hclass hc hb n
          | none =>
              -- a list of given stories ends first, which the keyword cannot tell
              rw [line_of_classify_eq_some ks hclass hc hb, structural_eq]
              refine (h.closeGivens.and h.outline_closeGivens).bind fun e hclosed => ?_
              obtain ⟨he, hout, -⟩ := hclosed
              have hk := (Keywords.classify_spec hclass).1
              have hpart := he.outline_openPart ks n line hk hc hb rest
              exact hpart.mono fun e' he' => .of_closed hc hb (hout ▸ he')

end Consistent

end Draft

/-! ## The outline of the lines that were read -/

/-- One of the lines opens a narrative. -/
def HasNarrative (ks : Keywords) (ls : List Text) : Prop :=
  ∃ l ∈ ls, ks.keyword? l = some .narrative

instance (ks : Keywords) (ls : List Text) : Decidable (HasNarrative ks ls) :=
  inferInstanceAs (Decidable (∃ l ∈ ls, _))

/-- One of the lines opens the lifecycle, a scenario or a step. -/
def HasBody (ks : Keywords) (ls : List Text) : Prop :=
  ∃ l ∈ ls, (ks.keyword? l).any Keyword.opensBody = true

instance (ks : Keywords) (ls : List Text) : Decidable (HasBody ks ls) :=
  inferInstanceAs (Decidable (∃ l ∈ ls, _))

/-- Given stories are listed in the lines, and no scenario is opened after them. -/
def ListsGivens (ks : Keywords) (ls : List Text) : Prop :=
  ∃ xs l ys, ls = xs ++ l :: ys ∧ ks.keyword? l = some .givenStories ∧
    ∀ y ∈ ys, ks.keyword? y ≠ some .scenario

theorem listsGivens_cons_iff {ks : Keywords} {l : Text} {ls : List Text} :
    ListsGivens ks (l :: ls) ↔
      (ks.keyword? l = some .givenStories ∧ ∀ y ∈ ls, ks.keyword? y ≠ some .scenario) ∨
        ListsGivens ks ls := by
  constructor
  · rintro ⟨xs, m, ys, hls, hm, hys⟩
    cases xs with
    | nil =>
        cases hls
        exact .inl ⟨hm, hys⟩
    | cons x xs =>
        cases hls
        exact .inr ⟨xs, m, ys, rfl, hm, hys⟩
  · rintro (⟨hl, hls⟩ | ⟨xs, m, ys, rfl, hm, hys⟩)
    · exact ⟨[], l, ls, rfl, hl, hls⟩
    · exact ⟨l :: xs, m, ys, rfl, hm, hys⟩

instance decidableListsGivens (ks : Keywords) : (ls : List Text) → Decidable (ListsGivens ks ls)
  | [] => .isFalse fun ⟨_, _, _, h, _⟩ => by simp at h
  | _ :: ls =>
    have := decidableListsGivens ks ls
    decidable_of_iff _ listsGivens_cons_iff.symm

theorem ListsGivens.concat_self {ks : Keywords} {l : Text}
    (h : ks.keyword? l = some .givenStories) (ls : List Text) : ListsGivens ks (ls ++ [l]) :=
  ⟨ls, l, [], rfl, h, by simp⟩

theorem ListsGivens.concat {ks : Keywords} {ls : List Text} (h : ListsGivens ks ls) {l : Text}
    (hl : ks.keyword? l ≠ some .scenario) : ListsGivens ks (ls ++ [l]) := by
  obtain ⟨xs, m, ys, rfl, hm, hys⟩ := h
  refine ⟨xs, m, ys ++ [l], by simp, hm, fun y hy => ?_⟩
  rcases List.mem_append.mp hy with hy | hy
  · exact hys y hy
  · exact List.mem_singleton.mp hy ▸ hl

/-- What an outline tells of the lines that were read. -/
structure Outline.Reflects (ks : Keywords) (ls : List Text) (o : Outline) : Prop where
  narrated : o.narrated = true ↔ HasNarrative ks ls
  inBody : o.inBody = true ↔ HasBody ks ls
  /-- Not conversely: a step that opens a scenario starts a new list without a keyword. -/
  listed : o.givens ≠ [] ∨ o.place.givensLine? ≠ none → ListsGivens ks ls

theorem Outline.Reflects.concat {ks : Keywords} {ls : List Text} {o o' : Outline}
    (h : o.Reflects ks ls) {n : Nat} {l : Text} (hl : Leads n (ks.keyword? l) o o') :
    o'.Reflects ks (ls ++ [l]) where
  narrated := by
    rw [hl.narrated_iff, h.narrated]
    simp [HasNarrative, or_and_right, exists_or]
  inBody := by
    rw [hl.inBody_iff, h.inBody]
    simp only [HasBody, List.mem_append, List.mem_singleton, or_and_right, exists_or,
      exists_eq_left]
  listed hlisted := by
    rcases hl.listed hlisted with hgivens | ⟨hne, hlisted⟩
    · exact .concat_self hgivens ls
    · exact (h.listed hlisted).concat hne

/-- The end of a list of given stories opens nothing. -/
theorem Outline.Reflects.closed {ks : Keywords} {ls : List Text} {o : Outline}
    (h : o.Reflects ks ls) : o.closed.Reflects ks ls where
  narrated := h.narrated
  inBody := by rw [inBody_closed, h.inBody]
  listed hlisted := by
    rcases hlisted with hne | hne
    · exact h.listed (.inl hne)
    · exact absurd o.closed_givensLine? hne

namespace Draft

variable {ks : Keywords}

theorem Consistent.reflects_from {d : Draft} (h : d.Consistent) {ms : List Text}
    (hd : d.outline.Reflects ks ms) (ls : List (Nat × Text)) :
    Yields (fun e => e.Consistent ∧ e.outline.Reflects ks (ms ++ ls.map Prod.snd))
      (d.lines ks ls) := by
  induction ls generalizing d ms with
  | nil => exact .ok ⟨h, by simpa using hd⟩
  | cons l ls ih =>
      -- one more line is known, and the others are read from there
      rw [lines_cons]
      refine ((h.line ks l.1 l.2).and (h.outline_line ks l.1 l.2)).bind fun e he => ?_
      have htail := ih he.1 (hd.concat he.2)
      rwa [List.append_assoc] at htail

/-- **The outline tells which parts the lines have opened**, whatever lines were read. -/
theorem reflects_lines (ks : Keywords) (path : Text) (ls : List (Nat × Text)) :
    Yields (fun e => e.Consistent ∧ e.outline.Reflects ks (ls.map Prod.snd))
      (lines ks { story := { path } } ls) := by
  have hstart : (outline { story := { path } }).Reflects ks [] :=
    ⟨by simp [outline, HasNarrative],
      by simp [outline, Outline.inBody, Section.isLifecycle, HasBody],
      by simp [outline, Section.givensLine?]⟩
  exact (Consistent.description _ rfl).reflects_from hstart ls

end Draft

end Story

end Storyline
