import Storyline.Proofs.Story.Reading

/-!
# Scenarios do not depend on each other

From the line of its scenario on, a text is read in the same way whatever stands before that line:
two drafts that are in the midst of the same scenario stay in step (`Draft.Alongside.line`), and the
story that is told before only comes along. So a text that starts with a scenario can be cut off and
read by itself (`parse_append_scenarios`).
-/

set_option autoImplicit false

namespace Storyline

/-- Two results are alike if both fail, or both succeed with related values. -/
inductive Alike {ε α β : Type} (R : α → β → Prop) : Except ε α → Except ε β → Prop
  | error (e e' : ε) : Alike R (.error e) (.error e')
  | ok {a : α} {b : β} (h : R a b) : Alike R (.ok a) (.ok b)

namespace Alike

variable {ε α β α' β' : Type} {R : α → β → Prop} {S : α' → β' → Prop}

theorem bind {x : Except ε α} {y : Except ε β} {f : α → Except ε α'} {g : β → Except ε β'}
    (h : Alike R x y) (hfg : ∀ a b, R a b → Alike S (f a) (g b)) :
    Alike S (x >>= f) (y >>= g) := by
  cases h with
  | error e e' => exact .error e e'
  | ok hab => exact hfg _ _ hab

theorem map {x : Except ε α} {y : Except ε β} {f : α → α'} {g : β → β'} (h : Alike R x y)
    (hfg : ∀ a b, R a b → S (f a) (g b)) : Alike S (x.map f) (y.map g) := by
  cases h with
  | error e e' => exact .error e e'
  | ok hab => exact .ok (hfg _ _ hab)

/-- What a result is like decides whether and with what it succeeds. -/
theorem ok_iff {x : Except ε α} {y : Except ε β} {f : β → α}
    (h : Alike (fun a b => a = f b) x y) (a : α) : x = .ok a ↔ ∃ b, y = .ok b ∧ a = f b := by
  cases h with
  | error e e' => simp
  | ok hab => simp [hab, eq_comm]

end Alike

namespace Story

/-- A story with the scenarios of another one after its own. -/
def followedBy (a b : Story) : Story := { a with scenarios := a.scenarios ++ b.scenarios }

/-- Sections inside a scenario, up to the line at which a list of given stories starts. -/
inductive SameSection : Section → Section → Prop
  | scenario : SameSection .scenario .scenario
  | givens (m n : Nat) : SameSection (.scenarioGivens m) (.scenarioGivens n)
  | examples : SameSection .examples .examples

namespace Draft

/-- Two drafts stand in the same scenario. The first one also has the story `base` before it. -/
inductive Alongside (base : Story) : Draft → Draft → Prop
  | intro {s : Story} {p q : Section} (o : OpenScenario) (h : SameSection p q) :
      Alongside base ⟨base.followedBy s, p, some o⟩ ⟨s, q, some o⟩

namespace Alongside

variable {base : Story} {d e : Draft}

theorem text (h : Alongside base d e) (m n : Nat) (line : Text) :
    Alike (Alongside base) (d.text m line) (e.text n line) := by
  obtain ⟨o, hp⟩ := h
  cases hp with
  | scenario =>
      simp only [Draft.text]
      cases continueLast? o.scenario.steps line with
      | none => exact .ok ⟨_, .scenario⟩
      | some steps => exact .ok ⟨_, .scenario⟩
  | givens i j => exact .ok ⟨_, .givens i j⟩
  | examples => exact .ok ⟨_, .examples⟩

theorem closeGivens (h : Alongside base d e) :
    Alike (Alongside base) d.closeGivens e.closeGivens := by
  obtain ⟨o, hp⟩ := h
  cases hp with
  | scenario => exact .ok ⟨o, .scenario⟩
  | givens i j =>
      by_cases ho : o.scenario.givenStories.isEmpty = true
      · simp only [Draft.closeGivens, Option.all_some, ho, if_true]
        exact .error _ _
      · simp only [Draft.closeGivens, Option.all_some, if_neg ho]
        exact .ok ⟨o, .scenario⟩
  | examples => exact .ok ⟨o, .examples⟩

theorem finishScenario (h : Alongside base d e) (seps : Separators) :
    Alike (fun d e => d.story = base.followedBy e.story)
      (d.finishScenario seps) (e.finishScenario seps) := by
  obtain ⟨o, hp⟩ := h
  simp only [Draft.finishScenario]
  cases if o.table.isEmpty then Except.ok {} else Table.ofLines seps o.table with
  | error e => exact .error _ _
  | ok examples => exact .ok (by simp [followedBy])

/-- Both stories end in the same way. -/
theorem finish (h : Alongside base d e) (ks : Keywords) :
    Alike (fun a b => a = base.followedBy b) (d.finish ks) (e.finish ks) := by
  rw [finish_eq, finish_eq]
  exact h.closeGivens.bind fun d e h => (h.finishScenario ks.separators).map fun _ _ h => h

/-- A narrative has no place inside a scenario, whatever the story before it holds. -/
theorem openNarrative (h : Alongside base d e) (m n : Nat) (rest : Text) :
    Alike (Alongside base) (d.openNarrative m rest) (e.openNarrative n rest) := by
  obtain ⟨o, hp⟩ := h
  -- which of the two errors it is depends on the story, that it is one does not
  have fails (s : Story) {p : Section} (n : Nat) (hp : p ≠ .description) :
      ∃ e, Draft.openNarrative ⟨s, p, some o⟩ n rest = .error e := by
    by_cases hs : s.narrative.isSome = true
    · exact ⟨.duplicateNarrative n, by simp [Draft.openNarrative, hs]⟩
    · exact ⟨.misplacedNarrative n, by simp [Draft.openNarrative, hs, hp]⟩
  rename_i s p q
  have hplaces : p ≠ .description ∧ q ≠ .description := by cases hp <;> simp
  obtain ⟨e, he⟩ := fails (base.followedBy s) m hplaces.1
  obtain ⟨e', he'⟩ := fails s n hplaces.2
  rw [he, he']
  exact .error e e'

theorem openGivens (h : Alongside base d e) (m n : Nat) (rest : Text) :
    Alike (Alongside base) (d.openGivens m rest) (e.openGivens n rest) := by
  obtain ⟨o, hp⟩ := h
  cases hp with
  | scenario =>
      by_cases ho : o.scenario.steps.isEmpty = true
      · simp only [Draft.openGivens, ho, if_true]
        exact .ok ⟨_, .givens m n⟩
      · simp only [Draft.openGivens, if_neg ho]
        exact .error _ _
  | givens i j => exact .error _ _
  | examples => exact .error _ _

theorem openScenario (h : Alongside base d e) (ks : Keywords) (title : Text) :
    Alike (Alongside base) (d.openScenario ks.separators title)
      (e.openScenario ks.separators title) := by
  refine (h.finishScenario ks.separators).map fun d' e' hs => ?_
  rw [hs]
  exact ⟨_, .scenario⟩

theorem openExamples (h : Alongside base d e) (m n : Nat) (rest : Text) :
    Alike (Alongside base) (d.openExamples m rest) (e.openExamples n rest) := by
  obtain ⟨o, hp⟩ := h
  have opens : ∀ (s : Story) (p : Section) (n : Nat), p ≠ .examples →
      Draft.openExamples ⟨s, p, some o⟩ n rest =
        .ok ⟨s, .examples, some (if rest.isEmpty then o else { o with table := o.table ++ [rest] })⟩
      := by
    intro s p n hp
    simp only [Draft.openExamples, Option.isNone_some, Bool.false_or, decide_eq_true_eq, hp,
      if_false]
    split <;> rfl
  cases hp with
  | scenario =>
      rw [opens _ _ m (by simp), opens _ _ n (by simp)]
      exact .ok ⟨_, .examples⟩
  | givens i j =>
      rw [opens _ _ m (by simp), opens _ _ n (by simp)]
      exact .ok ⟨_, .examples⟩
  | examples => exact .error _ _

theorem step (h : Alongside base d e) (m n : Nat) (line : Text) :
    Alike (Alongside base) (d.step m line) (e.step n line) := by
  obtain ⟨o, hp⟩ := h
  cases hp with
  | scenario => exact .ok ⟨_, .scenario⟩
  | givens i j => exact .ok ⟨_, .scenario⟩
  | examples => exact .error _ _

theorem openPart (h : Alongside base d e) (ks : Keywords) (m n : Nat) (line : Text) (k : Keyword)
    (rest : Text) :
    Alike (Alongside base) (d.openPart ks m line k rest) (e.openPart ks n line k rest) := by
  unfold Draft.openPart
  split
  · exact h.openNarrative m n rest
  · exact h.openGivens m n rest
  · obtain ⟨o, hp⟩ := h
    exact .error _ _
  · exact h.openScenario ks rest
  · exact h.openExamples m n rest
  · exact h.step m n line

/-- **Drafts that stand in the same scenario stay in step.** -/
theorem line (h : Alongside base d e) (ks : Keywords) (m n : Nat) (line : Text) :
    Alike (Alongside base) (d.line ks m line) (e.line ks n line) := by
  cases hclass : ks.classify line with
  | none =>
      rw [line_of_classify_eq_none ks hclass, line_of_classify_eq_none ks hclass]
      exact h.text m n line
  | some found =>
      obtain ⟨k, rest⟩ := found
      by_cases hk : clause? k = none ∧ block? k = none
      · rw [line_of_classify_eq_some ks hclass hk.1 hk.2,
          line_of_classify_eq_some ks hclass hk.1 hk.2, structural_eq, structural_eq]
        exact h.closeGivens.bind fun d e h => h.openPart ks m n line k rest
      · -- the keyword of a clause or a block has no meaning here
        have hd : (∀ c, d.place ≠ .narrative c) ∧ ∀ b, d.place ≠ .lifecycle b := by
          obtain ⟨o, hp⟩ := h
          cases hp <;> simp
        have he : (∀ c, e.place ≠ .narrative c) ∧ ∀ b, e.place ≠ .lifecycle b := by
          obtain ⟨o, hp⟩ := h
          cases hp <;> simp
        rw [line_eq_text ks hclass hk (fun _ => hd.1) fun _ => hd.2,
          line_eq_text ks hclass hk (fun _ => he.1) fun _ => he.2]
        exact h.text m n line

/-- The induction is on the lines, which may bear different numbers. -/
theorem lines (h : Alongside base d e) (ks : Keywords) {xs ys : List (Nat × Text)}
    (hxy : xs.map Prod.snd = ys.map Prod.snd) :
    Alike (Alongside base) (d.lines ks xs) (e.lines ks ys) := by
  induction xs generalizing d e ys with
  | nil =>
      rw [List.map_nil, eq_comm, List.map_eq_nil_iff] at hxy
      subst hxy
      exact .ok h
  | cons x xs ih =>
      cases ys with
      | nil => simp at hxy
      | cons y ys =>
          rw [List.map_cons, List.map_cons, List.cons.injEq] at hxy
          rw [lines_cons, lines_cons, hxy.1]
          exact (h.line ks x.1 y.1 y.2).bind fun d' e' h' => ih h' hxy.2

end Alongside

end Draft

/-! ## Cutting a text before a scenario -/

/-- The first line of the text that is not blank opens a scenario. -/
def OpensScenario (ks : Keywords) (t : Text) : Prop :=
  ∃ l, (contentLines t).head? = some l ∧ (ks.classify l).map Prod.fst = some .scenario

/-- Wherever it stands, a text that starts with a scenario is read from the line of the scenario
on. -/
theorem OpensScenario.exists_lines {ks : Keywords} {t : Text} (ht : OpensScenario ks t) :
    ∃ title, ∀ n, ∃ xs, xs.map Prod.snd = (contentLines t).tail ∧
      ∀ d : Draft, d.lines ks (numbered n (Text.lines t)) =
        d.finish ks >>= fun s => (Draft.inScenario s title).lines ks xs := by
  obtain ⟨l, hl, hk⟩ := ht
  obtain ⟨⟨k, title⟩, hclass, rfl : k = .scenario⟩ := Option.map_eq_some_iff.mp hk
  refine ⟨title, fun n => ?_⟩
  have hmap := map_snd_numbered_lines n t
  cases hx : numbered n (Text.lines t) with
  | nil =>
      rw [hx, List.map_nil] at hmap
      rw [← hmap] at hl
      cases hl
  | cons x xs =>
      rw [hx, List.map_cons] at hmap
      rw [← hmap, List.head?_cons, Option.some.injEq] at hl
      refine ⟨xs, by rw [← hmap, List.tail_cons], fun d => ?_⟩
      rw [Draft.lines_cons, hl, Draft.line_scenario ks hclass]
      cases d.finish ks <;> rfl

/-- Reading goes on from a story just as from nothing, and the story comes along. -/
theorem alike_inScenario (ks : Keywords) (a : Story) (path title : Text) {xs ys : List (Nat × Text)}
    (hxy : xs.map Prod.snd = ys.map Prod.snd) :
    Alike (fun c b => c = a.followedBy b)
      ((Draft.inScenario a title).lines ks xs >>= fun d => d.finish ks)
      ((Draft.inScenario { path } title).lines ks ys >>= fun d => d.finish ks) := by
  have hstart : Draft.Alongside a (Draft.inScenario (a.followedBy { path }) title)
      (Draft.inScenario { path } title) := ⟨{ scenario := { title } }, .scenario⟩
  have ha : a.followedBy { path } = a := by simp [followedBy]
  rw [ha] at hstart
  exact (hstart.lines ks hxy).bind fun d e h => h.finish ks

/-- **Scenarios are read independently of each other.** A text `t` that starts with a scenario can
be read by itself: after any text `s` it is accepted just if both are, and then its scenarios come
after those of `s`, and all else is as in `s`. -/
theorem parse_append_scenarios {ks : Keywords} {t : Text} (ht : OpensScenario ks t)
    (path path' s : Text) (story : Story) :
    parse ks path (s ++ '\n' :: t) = .ok story ↔
      ∃ a b, parse ks path s = .ok a ∧ parse ks path' t = .ok b ∧
        story = { a with scenarios := a.scenarios ++ b.scenarios } := by
  obtain ⟨title, hlines⟩ := ht.exists_lines
  obtain ⟨xs, hxmap, hx⟩ := hlines (1 + (Text.lines s).length)
  obtain ⟨ys, hymap, hy⟩ := hlines 1
  have hxy : xs.map Prod.snd = ys.map Prod.snd := hxmap.trans hymap.symm
  have hsame (a : Story) := (alike_inScenario ks a path' title hxy).ok_iff story
  -- the text `t` after the story that `s` tells, and alone
  have hafter : parse ks path (s ++ '\n' :: t) = .ok story ↔ ∃ a, parse ks path s = .ok a ∧
      ((Draft.inScenario a title).lines ks xs >>= fun d => d.finish ks) = .ok story := by
    simp only [parse_eq_ok_iff, numberedLines_append, Draft.lines_append, hx, bind_assoc,
      and_assoc, exists_and_left]
    rw [← bind_assoc, bind_eq_ok_iff]
  have halone (b : Story) : parse ks path' t = .ok b ↔ ks.validate = .ok () ∧
      ((Draft.inScenario { path := path' } title).lines ks ys >>= fun d => d.finish ks) =
        .ok b := by
    rw [parse_eq_ok_iff, numberedLines_eq, hy]
    rfl
  rw [hafter]
  constructor
  · rintro ⟨a, ha, hstory⟩
    obtain ⟨b, hb, rfl⟩ := (hsame a).mp hstory
    exact ⟨a, b, ha, (halone b).mpr ⟨(parse_eq_ok_iff.mp ha).1, hb⟩, rfl⟩
  · rintro ⟨a, b, ha, hb, rfl⟩
    exact ⟨a, ha, (hsame a).mpr ⟨b, ((halone b).mp hb).2, rfl⟩⟩

/-- An open lifecycle and an open list of given stories before the scenario that follows. -/
theorem parse_append_scenarios_unfinished :
    let s := "Lifecycle:\nAfter:\nThen it is off\nScenario: add\nGivenStories: reset".toList
    let t := "\n Scenario: rows\nWhen I add <n>\nExamples:\n|n|\n|1|".toList
    OpensScenario .default t ∧ parse .default [] (s ++ '\n' :: t) = .ok {
      path := []
      lifecycle := { after := ["Then it is off".toList] }
      scenarios := [
        { title := "add".toList, givenStories := ["reset".toList] },
        { title := "rows".toList
          steps := ["When I add <n>".toList]
          examples := { headers := [['n']], rows := [[['1']]] } }] } := by
  intro s t
  have ht : OpensScenario .default t := ⟨"Scenario: rows".toList, by decide, by decide⟩
  have hs : parse .default [] s = .ok {
      path := []
      lifecycle := { after := ["Then it is off".toList] }
      scenarios := [{ title := "add".toList, givenStories := ["reset".toList] }] } :=
    eq_ok_of_toOption (by decide +kernel)
  have hrows : parse .default [] t = .ok {
      path := []
      scenarios := [
        { title := "rows".toList
          steps := ["When I add <n>".toList]
          examples := { headers := [['n']], rows := [[['1']]] } }] } :=
    eq_ok_of_toOption (by decide +kernel)
  exact ⟨ht, (parse_append_scenarios ht [] [] s _).mpr ⟨_, _, hs, hrows, rfl⟩⟩

end Story

end Storyline
