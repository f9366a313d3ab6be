import Storyline.Proofs.Keyword
import Storyline.Proofs.Story.Shares

/-!
# Nothing that a story says is lost

A story that was read from a text holds in each of its parts exactly what the lines of that part say
(`parse_stores`). While the text is read this is so for the story and the open scenario together
(`Draft.Keeps`), and every line keeps it so (`Draft.Keeps.line`). Only the line that opens the
lifecycle, or one of its blocks, loses what follows its keyword (`block_marker_loses_step`).
-/

set_option autoImplicit false

namespace Storyline.Story

/-! ## Drafts -/

/-- The part of the story that a section belongs to after `n` scenarios. A scenario starts with its
title. -/
def Section.part (n : Nat) (started : Bool) : Section → Part
  | .description => .description
  | .narrative c => .narrative c
  | .storyGivens _ => .givens
  | .lifecycle b => .lifecycle b
  | .scenario => if started then .steps n else .title n
  | .scenarioGivens _ => .scenarioGivens n
  | .examples => .table n

namespace Draft

/-- The part of the story that is being read. -/
def part (d : Draft) : Part :=
  d.place.part d.story.scenarios.length (d.current.any fun o => !o.scenario.steps.isEmpty)

theorem part_isNarrative_iff (d : Draft) :
    d.part.isNarrative = true ↔ ∃ c, d.place = .narrative c := by
  unfold part
  cases d.place with
  | scenario =>
      rw [Section.part]
      split <;> simp [Part.isNarrative]
  | _ => simp [Section.part, Part.isNarrative]

theorem part_isLifecycle_iff (d : Draft) :
    d.part.isLifecycle = true ↔ ∃ b, d.place = .lifecycle b := by
  unfold part
  cases d.place with
  | scenario =>
      rw [Section.part]
      split <;> simp [Part.isLifecycle]
  | _ => simp [Section.part, Part.isLifecycle]

/-- The draft holds what is said so far, in its story and in the open scenario. -/
structure Keeps (ks : Keywords) (ss : List Share) (d : Draft) : Prop where
  story : Stores ks ss d.story
  current : ∀ o, d.current = some o → Fills d.story.scenarios.length ss o.scenario ∧
    o.table = said (.table d.story.scenarios.length) ss
  covers : Covers (d.story.scenarios.length + d.current.toList.length) ss

/-- The draft holds one line more, and reads on in its part. -/
structure Takes (ks : Keywords) (ss : List Share) (sh : Share) (d : Draft) : Prop where
  keeps : d.Keeps ks (ss ++ [sh])
  part : d.part = sh.part

namespace Keeps

variable {ks : Keywords} {ss : List Share} {sh : Share} {s : Story} {p q : Section}
  {o : OpenScenario}

/-- A line outside the scenarios. -/
theorem outside (h : Keeps ks ss ⟨s, p, none⟩) (hsh : sh.part.scenario? = none) {s' : Story}
    (hs : Stores ks (ss ++ [sh]) s') (hn : s'.scenarios = s.scenarios) :
    Keeps ks (ss ++ [sh]) ⟨s', q, none⟩ where
  story := hs
  current o ho := by cases ho
  covers := by
    have hc : Covers (s.scenarios.length + 0) (ss ++ [sh]) :=
      h.covers.concat (Nat.le_refl _) fun i hi => by simp [hsh] at hi
    rw [← hn] at hc
    exact hc

/-- A line of the open scenario. -/
theorem inside (h : Keeps ks ss ⟨s, p, some o⟩)
    (hsh : sh.part.scenario? = some s.scenarios.length) {o' : OpenScenario}
    (hf : Fills s.scenarios.length (ss ++ [sh]) o'.scenario)
    (ht : o'.table = said (.table s.scenarios.length) (ss ++ [sh])) :
    Keeps ks (ss ++ [sh]) ⟨s, q, some o'⟩ where
  story := h.story.frame hsh (Nat.le_refl _)
  current o'' ho := by
    cases ho
    exact ⟨hf, ht⟩
  covers := by
    refine h.covers.concat (Nat.le_refl _) fun i hi => ?_
    rw [hsh, Option.some.injEq] at hi
    simp [← hi]

/-- A line of the open scenario that is no line of its table. -/
theorem inside_of_ne (h : Keeps ks ss ⟨s, p, some o⟩)
    (hsh : sh.part.scenario? = some s.scenarios.length) (hne : sh.part ≠ .table s.scenarios.length)
    {sc : Scenario} (hf : Fills s.scenarios.length (ss ++ [sh]) sc) :
    Keeps ks (ss ++ [sh]) ⟨s, q, some ⟨sc, o.table⟩⟩ := by
  refine h.inside hsh hf ?_
  rw [said_concat_of_ne hne]
  exact (h.current o rfl).2

/-- Nothing has been said yet in a scenario that opens. -/
theorem fresh (h : Keeps ks ss ⟨s, p, none⟩) : Keeps ks ss ⟨s, q, some {}⟩ where
  story := h.story
  current o ho := by
    cases ho
    obtain ⟨hf, ht⟩ := Fills.fresh (i := s.scenarios.length) (by simpa using h.covers)
    exact ⟨hf, ht.symm⟩
  covers sh hsh i hi := Nat.lt_succ_of_lt (by simpa using h.covers sh hsh i hi)

/-- The section does not matter for what is held. -/
theorem move {o : Option OpenScenario} (h : Keeps ks ss ⟨s, p, o⟩) : Keeps ks ss ⟨s, q, o⟩ :=
  ⟨h.story, h.current, h.covers⟩

theorem text {d : Draft} (h : d.Keeps ks ss) (hd : d.Consistent) (n : Nat) {line : Text}
    (hl : '\n' ∉ line) (hne : line ≠ []) :
    Yields (Takes ks ss ⟨d.part, .plain, line⟩) (d.text n line) := by
  cases hd with
  | description s hs => exact .ok ⟨h.outside rfl (h.story.describe _ line) rfl, rfl⟩
  | narrative s hs c m =>
      change Yields _ (.ok (addToNarrative _ line))
      rw [addToNarrative_eq]
      exact .ok ⟨h.outside rfl (h.story.narrate m (fun _ => rfl) c _ line) rfl, rfl⟩
  | givens s hs m => exact .ok ⟨h.outside rfl (h.story.give _ line) rfl, rfl⟩
  | lifecycle s hs b =>
      match b with
      | none => exact .error _
      | some .before =>
          simp only [Draft.text]
          cases hs : continueLast? s.lifecycle.before line with
          | none => exact .error _
          | some steps =>
              have hb := (h.story.lifecycle .before).continued hl hs
              exact .ok ⟨h.outside rfl (h.story.cycle hb) rfl, rfl⟩
      | some .after =>
          simp only [Draft.text]
          cases hs : continueLast? s.lifecycle.after line with
          | none => exact .error _
          | some steps =>
              have hb := (h.story.lifecycle .after).continued hl hs
              exact .ok ⟨h.outside rfl (h.story.cycle hb) rfl, rfl⟩
  | scenario s sc =>
      obtain ⟨hf, -⟩ := h.current _ rfl
      simp only [Draft.text]
      cases hs : continueLast? sc.steps line with
      | none =>
          -- before the steps the line belongs to the title
          have hnil : sc.steps = [] := continueLast?_eq_none.mp hs
          have hpart : part ⟨s, .scenario, some ⟨sc, []⟩⟩ = .title s.scenarios.length := by
            simp [part, Section.part, hnil]
          rw [hpart]
          refine .ok ⟨h.inside_of_ne rfl (by simp) (hf.entitle _ line), ?_⟩
          simp [part, Section.part, hnil]
      | some steps =>
          have hcons : sc.steps ≠ [] ∧ steps ≠ [] := by
            obtain ⟨init, last, he, he'⟩ := continueLast?_eq_some_iff.mp hs
            simp [he, he']
          have hpart : part ⟨s, .scenario, some ⟨sc, []⟩⟩ = .steps s.scenarios.length := by
            simp [part, Section.part, hcons.1]
          rw [hpart]
          refine .ok ⟨h.inside_of_ne rfl (by simp) (hf.continued hl hs), ?_⟩
          simp [part, Section.part, hcons.2]
  | scenarioGivens s m sc hs =>
      exact .ok ⟨h.inside_of_ne rfl (by simp [part, Section.part])
        ((h.current _ rfl).1.give _ line), rfl⟩
  | examples s o =>
      obtain ⟨hf, ht⟩ := h.current _ rfl
      refine .ok ⟨h.inside rfl (hf.tabulate _ line) ?_, rfl⟩
      change o.table ++ [line] = _
      rw [ht]
      simp [part, Section.part, said_concat_self, hne]

/-- Ending a list of given stories leaves all that was said, and does not change where the next
keyword leads. -/
theorem closeGivens {d : Draft} (h : d.Keeps ks ss) (hd : d.Consistent) :
    Yields (fun e => e.Keeps ks ss ∧ ∀ k, e.part.opened k = d.part.opened k) d.closeGivens := by
  have same {d e : Draft} (hs : e.part.scenario? = d.part.scenario?)
      (hd : d.part.isLifecycle = false) (he : e.part.isLifecycle = false) (k : Keyword) :
      e.part.opened k = d.part.opened k := by
    cases k <;> simp [Part.opened, hs, hd, he]
  cases hd with
  | description s hs => exact .ok ⟨h, fun _ => rfl⟩
  | narrative s hs c m => exact .ok ⟨h, fun _ => rfl⟩
  | givens s hs m =>
      simp only [Draft.closeGivens]
      split
      · exact .error _
      · exact .ok ⟨h.move, same rfl rfl rfl⟩
  | lifecycle s hs b => exact .ok ⟨h, fun _ => rfl⟩
  | scenario s sc => exact .ok ⟨h, fun _ => rfl⟩
  | scenarioGivens s m sc hs =>
      simp only [Draft.closeGivens]
      split
      · exact .error _
      · have hpart : part ⟨s, .scenario, some ⟨sc, []⟩⟩ = .title s.scenarios.length := by
          simp [part, Section.part, hs]
        exact .ok ⟨h.move, same (by rw [Option.isSome_some, if_pos rfl, hpart]; rfl) rfl
          (by rw [Option.isSome_some, if_pos rfl, hpart]; rfl)⟩
  | examples s o => exact .ok ⟨h, fun _ => rfl⟩

theorem openNarrative {d : Draft} (h : d.Keeps ks ss) (hd : d.Consistent) (n : Nat) (rest : Text) :
    Yields (Takes ks ss ⟨.narrative .text, .marker, rest⟩) (d.openNarrative n rest) := by
  cases hd with
  | description s hs =>
      simp only [Draft.openNarrative]
      split
      · exact .error _
      · next hnone =>
        rw [if_neg (by simp), addToNarrative_eq]
        have hempty : ∀ c, Clause.of {} c = s.narrative.elim [] (Clause.of · c) := by
          intro c
          rw [Option.not_isSome_iff_eq_none.mp hnone]
          cases c <;> rfl
        exact .ok ⟨h.outside rfl (h.story.narrate {} hempty .text _ rest) rfl, rfl⟩
  | narrative s hs c m => exact .error _
  | _ =>
      simp only [Draft.openNarrative]
      split
      · exact .error _
      · exact .error _

theorem openGivens {d : Draft} (h : d.Keeps ks ss) (hd : d.Consistent) (n : Nat) (rest : Text) :
    Yields (Takes ks ss ⟨d.part.opened .givenStories, .marker, rest⟩) (d.openGivens n rest) := by
  cases hd with
  | description s hs => exact .ok ⟨h.outside rfl (h.story.give _ rest) rfl, rfl⟩
  | narrative s hs c m => exact .ok ⟨h.outside rfl (h.story.give _ rest) rfl, rfl⟩
  | givens s hs m => exact .error _
  | lifecycle s hs b => exact .error _
  | scenario s sc =>
      have hpart : (part ⟨s, .scenario, some ⟨sc, []⟩⟩).opened .givenStories =
          .scenarioGivens s.scenarios.length := by
        simp only [part, Section.part]
        split <;> rfl
      rw [hpart]
      simp only [Draft.openGivens]
      split
      · exact .ok ⟨h.inside_of_ne rfl (by simp) ((h.current _ rfl).1.give _ rest), rfl⟩
      · exact .error _
  | scenarioGivens s m sc hs => exact .error _
  | examples s o => exact .error _

theorem openLifecycle {d : Draft} (h : d.Keeps ks ss) (hd : d.Consistent) (n : Nat) (rest : Text) :
    Yields (Takes ks ss ⟨.lifecycle none, .marker, rest⟩) (d.openLifecycle n) := by
  have opens (s : Story) (p : Section) (h : Keeps ks ss ⟨s, p, none⟩) :
      Takes ks ss ⟨.lifecycle none, .marker, rest⟩ ⟨s, .lifecycle none, none⟩ :=
    ⟨h.outside rfl (h.story.cycleMarker none rest) rfl, rfl⟩
  cases hd with
  | description s hs => exact .ok (opens _ _ h)
  | narrative s hs c m => exact .ok (opens _ _ h)
  | givens s hs m => exact .ok (opens _ _ h)
  | lifecycle s hs b => exact .ok (opens _ _ h)
  | scenario s sc => exact .error _
  | scenarioGivens s m sc hs => exact .error _
  | examples s o => exact .error _

/-- A table that is accepted holds the cells of its lines. -/
theorem tabulates_of_ofLines {seps : Separators} {lines : List Text} {t : Table}
    (h : Table.ofLines seps lines = .ok t) : Tabulates seps lines t := by
  rw [Tabulates, ← h]
  exact Table.comesTo_ofLines lines

/-- The scenario that is finished holds its table, and none is open. -/
theorem finishScenario {d : Draft} (h : d.Keeps ks ss) :
    Yields (fun e => e.Keeps ks ss ∧ e.current = none ∧
      e.story.scenarios.length = d.story.scenarios.length + d.current.toList.length)
      (d.finishScenario ks.separators) := by
  unfold Draft.finishScenario
  cases ho : d.current with
  | none => exact .ok ⟨h, ho, rfl⟩
  | some o =>
      obtain ⟨hf, ht⟩ := h.current o ho
      -- no lines at all make the empty table, so that they need no case of their own
      have htable : (if o.table.isEmpty then .ok {} else Table.ofLines ks.separators o.table) =
          Table.ofLines ks.separators o.table := by
        split
        · next he => rw [List.isEmpty_iff.mp he]; rfl
        · rfl
      simp only [htable]
      cases hr : Table.ofLines ks.separators o.table with
      | error e => exact .error _
      | ok examples =>
          refine .ok ⟨⟨?_, (fun o ho => by cases ho), ?_⟩, rfl, by simp⟩
          · refine ⟨h.story.description, h.story.narrative, h.story.givenStories,
              h.story.lifecycle, h.story.outside, fun i sc hi => ?_⟩
            rcases Nat.lt_trichotomy i d.story.scenarios.length with hlt | rfl | hgt
            · rw [List.getElem?_append_left hlt] at hi
              exact h.story.scenario i sc hi
            · -- the scenario that was open
              rw [List.getElem?_concat_length, Option.some.injEq] at hi
              subst hi
              exact ⟨⟨hf.title, hf.givenStories, hf.steps⟩, ht ▸ tabulates_of_ofLines hr⟩
            · rw [List.getElem?_eq_none (by simpa using Nat.succ_le_of_lt hgt)] at hi
              cases hi
          · have hc := h.covers
            rw [ho] at hc
            simpa using hc

theorem openScenario {d : Draft} (h : d.Keeps ks ss) (hd : d.Consistent) (title : Text) :
    Yields (Takes ks ss ⟨d.part.opened .scenario, .marker, title⟩)
      (d.openScenario ks.separators title) := by
  unfold Draft.openScenario
  intro d' hd'
  obtain ⟨⟨s, p, c⟩, he, rfl⟩ : ∃ e, d.finishScenario ks.separators = .ok e ∧
      d' = ⟨e.story, .scenario, some { scenario := { title } }⟩ := by
    cases hf : d.finishScenario ks.separators with
    | error e => rw [hf] at hd'; cases hd'
    | ok e => rw [hf] at hd'; cases hd'; exact ⟨e, rfl, rfl⟩
  obtain ⟨hk, hnone, hlen⟩ := h.finishScenario _ he
  change c = none at hnone
  subst hnone
  -- the scenario that was open is counted, so that the next number is that of the new one
  have hpart : d.part.opened .scenario = .title s.scenarios.length := by
    change s.scenarios.length = _ at hlen
    rw [hlen]
    cases hd with
    | description s hs => simp [part, Section.part, Part.opened, Part.scenario?, hs]
    | narrative s hs c m => simp [part, Section.part, Part.opened, Part.scenario?, hs]
    | givens s hs m => simp [part, Section.part, Part.opened, Part.scenario?, hs]
    | lifecycle s hs b => simp [part, Section.part, Part.opened, Part.scenario?, hs]
    | scenario s sc =>
        simp only [part, Section.part]
        split <;> rfl
    | scenarioGivens s m sc hs => rfl
    | examples s o => rfl
  rw [hpart]
  have hfresh : Keeps ks ss ⟨s, p, some {}⟩ := hk.fresh
  have htitle := (hfresh.current _ rfl).1.entitle .marker title
  rw [append_nil] at htitle
  exact ⟨hfresh.inside_of_ne rfl (by simp) htitle, rfl⟩

theorem openExamples {d : Draft} (h : d.Keeps ks ss) (hd : d.Consistent) (n : Nat) (rest : Text) :
    Yields (Takes ks ss ⟨d.part.opened .examples, .marker, rest⟩) (d.openExamples n rest) := by
  have opens (s : Story) (p : Section) (sc : Scenario) (h : Keeps ks ss ⟨s, p, some ⟨sc, []⟩⟩) :
      Takes ks ss ⟨.table s.scenarios.length, .marker, rest⟩
        (if rest.isEmpty then ⟨s, .examples, some ⟨sc, []⟩⟩
          else addTableLine ⟨s, .examples, some ⟨sc, []⟩⟩ rest) := by
    obtain ⟨hf, ht⟩ := h.current _ rfl
    by_cases hr : rest = []
    · rw [if_pos (by simpa using hr)]
      refine ⟨h.inside rfl (hf.tabulate _ rest) ?_, rfl⟩
      rw [said_concat_self, ← ht, hr]
      rfl
    · rw [if_neg (by simpa using hr)]
      refine ⟨h.inside rfl (hf.tabulate _ rest) ?_, rfl⟩
      rw [said_concat_self, ← ht]
      simp [hr]
  cases hd with
  | scenario s sc =>
      have hpart : (part ⟨s, .scenario, some ⟨sc, []⟩⟩).opened .examples =
          .table s.scenarios.length := by
        simp only [part, Section.part]
        split <;> rfl
      rw [hpart]
      exact .ok (opens _ _ _ h)
  | scenarioGivens s m sc hs => exact .ok (opens _ _ _ h)
  | _ => exact .error _

theorem step {d : Draft} (h : d.Keeps ks ss) (hd : d.Consistent) (n : Nat) {line : Text}
    (hl : '\n' ∉ line) {p : Part}
    (hp : p = if d.part.isLifecycle then d.part else .steps (d.part.scenario?.getD 0)) :
    Yields (Takes ks ss ⟨p, .step, line⟩) (d.step n line) := by
  subst hp
  -- a step that precedes all scenarios opens the first one
  have opens (s : Story) (p : Section) (hs : s.scenarios = []) (h : Keeps ks ss ⟨s, p, none⟩) :
      Takes ks ss ⟨.steps 0, .step, line⟩
        ⟨s, .scenario, some { scenario := { steps := [line] } }⟩ := by
    have hfresh : Keeps ks ss ⟨s, p, some {}⟩ := h.fresh
    have hn : s.scenarios.length = 0 := by rw [hs]; rfl
    have hf := (hfresh.current _ rfl).1
    rw [hn] at hf
    refine ⟨hfresh.inside_of_ne (by rw [hn]; rfl) (by simp) (by rw [hn]; exact hf.start hl), ?_⟩
    simp [part, Section.part, hs]
  have goesOn (s : Story) (p : Section) (sc : Scenario) (h : Keeps ks ss ⟨s, p, some ⟨sc, []⟩⟩) :
      Takes ks ss ⟨.steps s.scenarios.length, .step, line⟩
        ⟨s, .scenario, some ⟨{ sc with steps := sc.steps ++ [line] }, []⟩⟩ := by
    refine ⟨h.inside_of_ne rfl (by simp) ((h.current _ rfl).1.start hl), ?_⟩
    simp [part, Section.part]
  cases hd with
  | description s hs => exact .ok (opens _ _ hs h)
  | narrative s hs c m => exact .ok (opens _ _ hs h)
  | givens s hs m => exact .ok (opens _ _ hs h)
  | lifecycle s hs b =>
      match b with
      | none => exact .error _
      | some .before =>
          have hb := (h.story.lifecycle .before).start hl
          exact .ok ⟨h.outside rfl (h.story.cycle hb) rfl, rfl⟩
      | some .after =>
          have hb := (h.story.lifecycle .after).start hl
          exact .ok ⟨h.outside rfl (h.story.cycle hb) rfl, rfl⟩
  | scenario s sc =>
      have hpart : part ⟨s, .scenario, some ⟨sc, []⟩⟩ = .steps s.scenarios.length ∨
          part ⟨s, .scenario, some ⟨sc, []⟩⟩ = .title s.scenarios.length := by
        simp only [part, Section.part]
        split
        · exact .inl rfl
        · exact .inr rfl
      rcases hpart with hpart | hpart
      · rw [hpart]
        exact .ok (goesOn _ _ _ h)
      · rw [hpart]
        exact .ok (goesOn _ _ _ h)
  | scenarioGivens s m sc hs => exact .ok (goesOn _ _ _ h)
  | examples s o => exact .error _

/-- A line that opens a part or starts a step. -/
theorem openPart {d : Draft} (h : d.Keeps ks ss) (hd : d.Consistent) (n : Nat) {line : Text}
    (hl : '\n' ∉ line) {k : Keyword} (hk : k ∈ Keyword.markers) (hc : clause? k = none)
    (hb : block? k = none) (rest : Text) :
    Yields (Takes ks ss
        ⟨d.part.opened k, Part.roleOf k, if Part.roleOf k = .marker then rest else line⟩)
      (d.openPart ks n line k rest) := by
  cases k with
  | narrative => exact h.openNarrative hd n rest
  | givenStories => exact h.openGivens hd n rest
  | lifecycle => exact h.openLifecycle hd n rest
  | scenario => exact h.openScenario hd rest
  | examples => exact h.openExamples hd n rest
  | step k => exact h.step hd n hl rfl
  | ignorable => exact h.step hd n hl rfl
  | inOrderTo => cases hc
  | asA => cases hc
  | iWantTo => cases hc
  | before => cases hb
  | after => cases hb
  | _ => exact absurd hk (by decide)

/-- A line whose keyword has no meaning in the section is text. -/
theorem line_of_not_admits {d : Draft} {line rest : Text} {k : Keyword}
    (h : ks.classify line = some (k, rest)) (hk : d.part.admits k = false) (n : Nat) :
    d.line ks n line = d.text n line := by
  refine line_eq_text ks h ?_ ?_ ?_ n
  · rintro ⟨hc, hb⟩
    rw [Part.admits_of_none hc hb] at hk
    cases hk
  · intro hc c hp
    obtain ⟨c', hc'⟩ := Option.ne_none_iff_exists'.mp hc
    rw [(Part.of_clause hc' d.part).1, d.part_isNarrative_iff.mpr ⟨c, hp⟩] at hk
    cases hk
  · intro hb b hp
    obtain ⟨b', hb'⟩ := Option.ne_none_iff_exists'.mp hb
    rw [(Part.of_block hb' d.part).1, d.part_isLifecycle_iff.mpr ⟨b, hp⟩] at hk
    cases hk

/-- The line that opens a clause of the narrative. -/
theorem clause {d : Draft} (h : d.Keeps ks ss) (hd : d.Consistent) {line rest : Text} {k : Keyword}
    (hclass : ks.classify line = some (k, rest)) {c c' : Clause} (hc : clause? k = some c)
    (hp : d.place = .narrative c') (n : Nat) :
    Yields (Takes ks ss ⟨.narrative c, .marker, rest⟩) (d.line ks n line) := by
  rw [line_of_clause ks hclass hc hp]
  cases hd with
  | narrative s hs c'' m =>
      rw [addToNarrative_eq]
      exact .ok ⟨h.outside rfl (h.story.narrate m (fun _ => rfl) c _ rest) rfl, rfl⟩
  | _ => cases hp

/-- The line that opens a block of the lifecycle. -/
theorem block {d : Draft} (h : d.Keeps ks ss) (hd : d.Consistent) {line rest : Text} {k : Keyword}
    (hclass : ks.classify line = some (k, rest)) {b : Block} {b' : Option Block}
    (hc : clause? k = none) (hb : block? k = some b) (hp : d.place = .lifecycle b') (n : Nat) :
    Yields (Takes ks ss ⟨.lifecycle (some b), .marker, rest⟩) (d.line ks n line) := by
  rw [line_of_block ks hclass hc hb hp]
  cases hd with
  | lifecycle s hs b'' =>
      exact .ok ⟨h.outside rfl (h.story.cycleMarker (some b) rest) rfl, rfl⟩
  | _ => cases hp

/-- **Every line is held where it belongs.** -/
theorem line {d : Draft} (h : d.Keeps ks ss) (hd : d.Consistent) (n : Nat) {line : Text}
    (hl : '\n' ∉ line) (hne : line ≠ []) :
    Yields (Takes ks ss (d.part.share ks line)) (d.line ks n line) := by
  cases hclass : ks.classify line with
  | none =>
      rw [line_of_classify_eq_none ks hclass]
      simpa only [Part.share, hclass] using h.text hd n hl hne
  | some found =>
      obtain ⟨k, rest⟩ := found
      cases hadmits : d.part.admits k with
      | false =>
          rw [line_of_not_admits hclass hadmits]
          simpa only [Part.share, hclass, hadmits, Bool.false_eq_true, if_false] using
            h.text hd n hl hne
      | true =>
          simp only [Part.share, hclass, hadmits, if_true, ← Keywords.eq_of_classify hclass]
          cases hc : clause? k with
          | some c =>
              obtain ⟨hnarr, hopened, hrole⟩ := Part.of_clause hc d.part
              obtain ⟨c', hp⟩ := d.part_isNarrative_iff.mp (hnarr ▸ hadmits)
              rw [hopened, hrole, if_pos rfl]
              exact h.clause hd hclass hc hp n
          | none =>
              cases hb : block? k with
              | some b =>
                  obtain ⟨hcycle, hopened, hrole⟩ := Part.of_block hb d.part
                  obtain ⟨b', hp⟩ := d.part_isLifecycle_iff.mp (hcycle ▸ hadmits)
                  rw [hopened, hrole, if_pos rfl]
                  exact h.block hd hclass hc hb hp n
              | none =>
                  -- all other keywords end a list of given stories first
                  rw [line_of_classify_eq_some ks hclass hc hb, structural_eq]
                  refine ((h.closeGivens hd).and hd.closeGivens).bind fun e he => ?_
                  rw [← he.1.2 k]
                  exact he.1.1.openPart he.2 n hl (Keywords.classify_spec hclass).1 hc hb rest

theorem lines {d : Draft} (h : d.Keeps ks ss) (hd : d.Consistent) (ls : List (Nat × Text))
    (hl : ∀ l ∈ ls, '\n' ∉ l.2 ∧ l.2 ≠ []) :
    Yields (fun e => e.Keeps ks (ss ++ sharesFrom ks d.part (ls.map Prod.snd)))
      (d.lines ks ls) := by
  induction ls generalizing d ss with
  | nil =>
      rw [List.map_nil, sharesFrom, List.append_nil]
      exact .ok h
  | cons l ls ih =>
      obtain ⟨hfeed, hne⟩ := hl l List.mem_cons_self
      rw [lines_cons, List.map_cons, sharesFrom]
      refine ((h.line hd l.1 hfeed hne).and (hd.line ks l.1 l.2)).bind fun e he => ?_
      have htail := ih he.1.keeps he.2 fun l hl' => hl l (List.mem_cons_of_mem _ hl')
      rw [he.1.part, List.append_assoc] at htail
      exact htail

end Keeps

end Draft

/-! ## Whole texts -/

theorem mem_contentLines {l t : Text} (h : l ∈ contentLines t) : '\n' ∉ l ∧ l ≠ [] := by
  obtain ⟨hmem, hne⟩ := List.mem_filter.mp h
  obtain ⟨m, hm, rfl⟩ := List.mem_map.mp hmem
  rw [← Text.lines_eq_splitOn] at hm
  exact ⟨fun hn => Text.not_mem_of_mem_lines hm (Text.trim_subset m hn), by simpa using hne⟩

theorem keeps_nil (ks : Keywords) (path : Text) : Draft.Keeps ks [] { story := { path } } where
  story := {
    description := rfl
    narrative := fun _ => rfl
    givenStories := rfl
    lifecycle := fun b => by cases b <;> exact ⟨rfl, rfl⟩
    outside := rfl
    scenario := fun i sc hi => by simp at hi }
  current := fun o ho => by cases ho
  covers := fun sh hsh => by cases hsh

/-- What is read from a text ends in a draft that holds all that the text says, and in which no
scenario is open. -/
theorem exists_keeps_of_parse {ks : Keywords} {path t : Text} {s : Story}
    (h : parse ks path t = .ok s) :
    ∃ d : Draft, d.Keeps ks (shares ks t) ∧ d.current = none ∧ d.story = s := by
  obtain ⟨-, hread⟩ := parse_eq_ok_iff.mp h
  obtain ⟨d, hd, hfinish⟩ := bind_eq_ok_iff.mp hread
  have hmap : (numberedLines t).map Prod.snd = contentLines t := map_snd_numbered_lines 1 t
  have hlines : ∀ l ∈ numberedLines t, '\n' ∉ l.2 ∧ l.2 ≠ [] := fun l hl =>
    mem_contentLines (hmap ▸ List.mem_map_of_mem hl)
  have hstart : Draft.Consistent { story := { path } } := .description _ rfl
  -- the induction over the lines starts from nothing said and nothing held
  have hkeeps : d.Keeps ks (shares ks t) := by
    have hk := (keeps_nil ks path).lines hstart _ hlines d hd
    rw [hmap, List.nil_append] at hk
    exact hk
  -- the end of the text closes what is open
  rw [Draft.finish_eq] at hfinish
  obtain ⟨e, he, hfinish⟩ := bind_eq_ok_iff.mp hfinish
  have hclosed := (hkeeps.closeGivens (hstart.lines ks _ d hd) e he).1
  cases hf : e.finishScenario ks.separators with
  | error e => rw [hf] at hfinish; cases hfinish
  | ok f =>
      rw [hf] at hfinish
      cases hfinish
      obtain ⟨hkept, hnone, -⟩ := hclosed.finishScenario f hf
      exact ⟨f, hkept, hnone, rfl⟩

/-- **A story holds what its text says**: what follows the marker of a line, or the whole line where
there is none or it starts a step, in the part to which the line belongs and in the order of the
lines. Of a line that opens the lifecycle or one of its blocks, only the marker counts. -/
theorem parse_stores {ks : Keywords} {path t : Text} {s : Story} (h : parse ks path t = .ok s) :
    Tells ks .description (contentLines t) (shares ks t) ∧ Stores ks (shares ks t) s ∧
      Covers s.scenarios.length (shares ks t) := by
  have hks : ks.Valid := Keywords.validate_eq_ok_iff.mp (parse_eq_ok_iff.mp h).1
  obtain ⟨d, hkept, hnone, rfl⟩ := exists_keeps_of_parse h
  have hcovers := hkept.covers
  rw [hnone] at hcovers
  exact ⟨tells_sharesFrom hks _ _, hkept.story, hcovers⟩

/-- Lines of all kinds, among them a keyword without meaning and continued lines. -/
theorem parse_stores_continued :
    let t := "Before: all\nGivenStories: a,\nb\nLifecycle:\nAfter:\nThen stop\n".toList ++
      "Scenario: add\ntwo\nWhen I add\n|2|\nExamples: |n|\n|2|".toList
    ∃ s, parse .default [] t = .ok s ∧
      Tells .default .description (contentLines t) (shares .default t) ∧
      Stores .default (shares .default t) s ∧ Covers s.scenarios.length (shares .default t) := by
  intro t
  have h : parse .default [] t = .ok {
      path := []
      description := "Before: all".toList
      givenStories := [['a'], ['b']]
      lifecycle := { after := ["Then stop".toList] }
      scenarios := [
        { title := "add two".toList
          steps := ["When I add\n|2|".toList]
          examples := { headers := [['n']], rows := [[['2']]] } }] } :=
    eq_ok_of_toOption (by decide +kernel)
  exact ⟨_, h, parse_stores h⟩

/-- A step that follows the keyword of a block on its line is accepted and lost. -/
theorem block_marker_loses_step :
    let t := "Lifecycle:\nBefore: Given a calculator\nScenario: add\nWhen I add 2".toList
    ⟨.lifecycle (some .before), .marker, "Given a calculator".toList⟩ ∈ shares .default t ∧
      parse .default "s.story".toList t = .ok {
        path := "s.story".toList
        scenarios := [{ title := "add".toList, steps := ["When I add 2".toList] }] } := by
  exact ⟨by decide, eq_ok_of_toOption (by decide +kernel)⟩

end Storyline.Story
