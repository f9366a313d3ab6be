import Storyline.Proofs.Story.Outline

/-!
# Lists of given stories

A list of given stories goes on until a keyword opens another part of the story or starts a step.
The first list of a story or of a scenario has to list a path: else the text is no story, and the
error tells the line of the list (`parse_given_stories`). A list is not told apart from those before
it in the same place, so a later one can be empty (`later_list_is_empty`).
-/

set_option autoImplicit false

namespace Storyline

namespace Keywords

/-- The line ends a list of given stories. The keywords of clauses and blocks have no meaning
there. -/
def endsGivens (ks : Keywords) (line : Text) : Bool :=
  (ks.keyword? line).any fun k => (Story.clause? k).isNone && (Story.block? k).isNone

/-- The paths of a list of given stories: those in the line of its keyword and those in the plain
lines that follow. -/
def listedPaths (ks : Keywords) (rest : Text) (following : List (Nat × Text)) : List Text :=
  Text.listed rest ++
    (following.takeWhile fun l => !ks.endsGivens l.2).flatMap fun l => Text.listed l.2

end Keywords

namespace Story

variable {ks : Keywords}

namespace Draft

/-! ## The lines of a list -/

theorem line_of_not_endsGivens {line : Text} (h : ks.endsGivens line = false) {d : Draft} {m : Nat}
    (hp : d.place.givensLine? = some m) (n : Nat) : d.line ks n line = d.text n line := by
  cases hclass : ks.classify line with
  | none => exact line_of_classify_eq_none ks hclass d n
  | some found =>
      obtain ⟨k, rest⟩ := found
      refine line_eq_text ks hclass ?_ ?_ ?_ n
      · rintro ⟨hc, hb⟩
        simp [Keywords.endsGivens, Keywords.keyword?, hclass, hc, hb] at h
      · intro _ c hplace
        rw [hplace] at hp
        cases hp
      · intro _ b hplace
        rw [hplace] at hp
        cases hp

theorem line_of_endsGivens {line : Text} (h : ks.endsGivens line = true) :
    ∃ k rest, ∀ (d : Draft) (n : Nat),
      d.line ks n line = d.closeGivens >>= fun d => d.openPart ks n line k rest := by
  cases hclass : ks.classify line with
  | none => simp [Keywords.endsGivens, Keywords.keyword?, hclass] at h
  | some found =>
      obtain ⟨k, rest⟩ := found
      obtain ⟨hc, hb⟩ : clause? k = none ∧ block? k = none := by
        simpa [Keywords.endsGivens, Keywords.keyword?, hclass] using h
      refine ⟨k, rest, fun d n => ?_⟩
      rw [line_of_classify_eq_some ks hclass hc hb, structural_eq]

/-- The keyword of a list, which comes after all that is listed in its place so far. -/
theorem Consistent.opens_list {d : Draft} (h : d.Consistent) {line rest : Text}
    (hline : ks.classify line = some (.givenStories, rest)) (n : Nat) :
    Yields (fun e => e.Consistent ∧ e.place.givensLine? = some n ∧
      e.outline.givens = d.outline.givens ++ Text.entries rest) (d.line ks n line) := by
  rw [line_of_classify_eq_some ks hline rfl rfl, structural_eq]
  refine (h.closeGivens.and h.outline_closeGivens).bind fun c hclosed => ?_
  obtain ⟨hc, hout, -⟩ := hclosed
  refine ((hc.openGivens n rest).and (hc.outline_openGivens n rest)).mono fun e he => ?_
  obtain ⟨he, -, p, hp, hopened⟩ := he
  refine ⟨he, ?_, ?_⟩
  · rw [← hp]
    exact congrArg (fun o : Outline => o.place.givensLine?) hopened
  · rw [hopened, hout]
    rfl

/-- A text where given stories are listed is always read. -/
theorem text_of_givensLine? {d : Draft} {m : Nat} (hp : d.place.givensLine? = some m) (n : Nat)
    (line : Text) : d.text n line = .ok (d.addGivens line) := by
  obtain ⟨s, p, c⟩ := d
  cases p with
  | storyGivens => rfl
  | scenarioGivens => rfl
  | _ => cases hp

/-- **The plain lines of a list are read**, and add their paths to those listed before. -/
theorem Consistent.lines_of_list {d : Draft} (h : d.Consistent) {m : Nat}
    (hp : d.place.givensLine? = some m) {own : List (Nat × Text)}
    (hown : ∀ l ∈ own, ks.endsGivens l.2 = false) :
    ∃ e, d.lines ks own = .ok e ∧ e.Consistent ∧ e.place.givensLine? = some m ∧
      e.outline.givens = d.outline.givens ++ own.flatMap fun l => Text.entries l.2 := by
  induction own generalizing d with
  | nil => exact ⟨d, rfl, h, hp, by simp⟩
  | cons l own ih =>
      have htext := text_of_givensLine? hp l.1 l.2
      have hline : d.line ks l.1 l.2 = .ok (d.addGivens l.2) := by
        rw [line_of_not_endsGivens (hown l List.mem_cons_self) hp, htext]
      have hcons := h.line ks l.1 l.2 _ hline
      have hout : (d.addGivens l.2).outline = d.outline.give l.2 := by
        rw [h.outline_text l.1 l.2 _ htext, Outline.text, if_pos (by simp [outline, hp])]
      have hplace : (d.addGivens l.2).place = d.place := congrArg Outline.place hout
      obtain ⟨e, he, hce, hpe, hgivens⟩ :=
        ih hcons (hplace ▸ hp) fun l' hl' => hown l' (List.mem_cons_of_mem _ hl')
      refine ⟨e, ?_, hce, hpe, ?_⟩
      · rw [lines_cons, hline]
        exact he
      · rw [hgivens, hout]
        simp [Outline.give]

/-- Whatever ends a list, its emptiness is checked first. -/
theorem lines_finish_of_ends {ls : List (Nat × Text)}
    (h : ls.head?.all (fun l => ks.endsGivens l.2) = true) :
    ∃ F : Draft → Except StoryError Story, ∀ d : Draft,
      (d.lines ks ls >>= fun d => d.finish ks) = d.closeGivens >>= F := by
  cases ls with
  | nil => exact ⟨_, fun d => by rw [lines_nil]; exact finish_eq ks d⟩
  | cons l ls =>
      have hends : ks.endsGivens l.2 = true := by simpa using h
      obtain ⟨k, rest, hline⟩ := line_of_endsGivens hends
      refine ⟨fun d => (d.openPart ks l.1 l.2 k rest >>= fun d => d.lines ks ls) >>=
        fun d => d.finish ks, fun d => ?_⟩
      rw [lines_cons, hline]
      cases d.closeGivens <;> rfl

/-- From its keyword a list is read to its end, where it is closed. -/
theorem Consistent.reaches_end_of_list {d : Draft} (h : d.Consistent) {n : Nat} {line rest : Text}
    (hline : ks.classify line = some (.givenStories, rest)) {e : Draft}
    (hopen : d.line ks n line = .ok e) (following : List (Nat × Text)) :
    ∃ (c : Draft) (F : Draft → Except StoryError Story), c.Consistent ∧
      c.place.givensLine? = some n ∧
      c.outline.givens = d.outline.givens ++ ks.listedPaths rest following ∧
      (e.lines ks following >>= fun d => d.finish ks) = c.closeGivens >>= F := by
  obtain ⟨he, hplace, hgivens⟩ := h.opens_list hline n e hopen
  -- the plain lines of the list, and what ends it
  let own := following.takeWhile fun l => !ks.endsGivens l.2
  let after := following.dropWhile fun l => !ks.endsGivens l.2
  have hsplit : own ++ after = following := List.takeWhile_append_dropWhile
  have hown : ∀ l ∈ own, ks.endsGivens l.2 = false := fun l hl => by
    simpa using List.mem_takeWhile_imp hl
  have hafter : after.head?.all (fun l => ks.endsGivens l.2) = true := by
    have hhead := List.head?_dropWhile_not (fun l => !ks.endsGivens l.2) following
    cases hl : after.head? with
    | none => rfl
    | some l => simpa [after, hl] using hhead
  obtain ⟨c, hlines, hc, hplace, hlisted⟩ := he.lines_of_list hplace hown
  obtain ⟨F, hF⟩ := lines_finish_of_ends hafter
  refine ⟨c, F, hc, hplace, ?_, ?_⟩
  · rw [hlisted, hgivens, List.append_assoc, Keywords.listedPaths]
    simp only [Text.entries_eq_listed]
    rfl
  · rw [← hF c, ← hsplit, lines_append, hlines]
    rfl

/-- **The end of a list**: all that is listed in its place by then has to be something, or the line
of the list is an error. -/
theorem Consistent.list_ends {d : Draft} (h : d.Consistent) {n : Nat} {line rest : Text}
    (hline : ks.classify line = some (.givenStories, rest)) {e : Draft}
    (hopen : d.line ks n line = .ok e) (following : List (Nat × Text)) :
    let all := d.outline.givens ++ ks.listedPaths rest following
    let read := e.lines ks following >>= fun d => d.finish ks
    (∀ s, read = .ok s → all ≠ []) ∧ (all = [] → read = .error (.emptyGivenStories n)) := by
  intro all read
  obtain ⟨c, F, hc, hplace, hgivens, hlines⟩ := h.reaches_end_of_list hline hopen following
  have hall : all = c.outline.givens := hgivens.symm
  have hread : read = c.closeGivens >>= F := hlines
  rw [hall, hread]
  constructor
  · intro s hs
    obtain ⟨c', hclose, -⟩ := bind_eq_ok_iff.mp hs
    exact (hc.outline_closeGivens c' hclose).2 (by simp [hplace])
  · intro hnil
    rw [hc.closeGivens_eq_error hplace hnil]
    rfl

/-- What is listed before a list in its place comes from another list. -/
theorem exists_listed_before {path : Text} {before : List (Nat × Text)} {n : Nat}
    {line rest : Text} (hline : ks.classify line = some (.givenStories, rest)) {e : Draft}
    (he : lines ks { story := { path } } (before ++ [(n, line)]) = .ok e)
    (following : List (Nat × Text)) :
    ∃ earlier : List Text, (earlier ≠ [] → ListsGivens ks (before.map Prod.snd)) ∧
      let all := earlier ++ ks.listedPaths rest following
      let read := e.lines ks following >>= fun d => d.finish ks
      (∀ s, read = .ok s → all ≠ []) ∧ (all = [] → read = .error (.emptyGivenStories n)) := by
  rw [lines_append] at he
  obtain ⟨d, hd, he⟩ := bind_eq_ok_iff.mp he
  rw [lines_cons] at he
  obtain ⟨e', hopen, he⟩ := bind_eq_ok_iff.mp he
  cases he
  obtain ⟨hcons, hreflects⟩ := reflects_lines ks path before d hd
  exact ⟨d.outline.givens, fun hne => hreflects.listed (.inl hne),
    hcons.list_ends hline hopen following⟩

end Draft

/-- **The first list of given stories in its place has to list a path**: if it does not, the text is
no story, and the error tells the line of the list. -/
theorem parse_given_stories {path t : Text} {before following : List (Nat × Text)} {n : Nat}
    {line rest : Text} (ht : numbered 1 (t.splitOn '\n') = before ++ (n, line) :: following)
    (hline : ks.classify line = some (.givenStories, rest)) :
    (∀ s, parse ks path t = .ok s →
        ks.listedPaths rest following ≠ [] ∨ ListsGivens ks (before.map Prod.snd)) ∧
      (ks.validate = .ok () →
        (∃ d, Draft.lines ks { story := { path } } (before ++ [(n, line)]) = .ok d) →
        ks.listedPaths rest following = [] → ¬ ListsGivens ks (before.map Prod.snd) →
        parse ks path t = .error (.emptyGivenStories n)) := by
  have hsplit : numberedLines t = (before ++ [(n, line)]) ++ following := by
    rw [numberedLines_eq_splitOn, ht, List.append_assoc, List.singleton_append]
  constructor
  · intro s hs
    obtain ⟨hks, e, he⟩ := exists_lines_of_parse hs hsplit
    rw [parse_eq_of_lines hks hsplit he] at hs
    obtain ⟨earlier, hearlier, hread, -⟩ := Draft.exists_listed_before hline he following
    by_cases hnone : ks.listedPaths rest following = []
    · refine .inr (hearlier fun hnil => hread s hs ?_)
      rw [hnil, hnone]
      rfl
    · exact .inl hnone
  · rintro hks ⟨e, he⟩ hnone hfirst
    rw [parse_eq_of_lines hks hsplit he]
    obtain ⟨earlier, hearlier, -, hread⟩ := Draft.exists_listed_before hline he following
    have hnil : earlier = [] := Classical.byContradiction fun hne => hfirst (hearlier hne)
    refine hread ?_
    rw [hnil, hnone]
    rfl

/-- The list of a scenario after a list of the story: one that lists a path in its second line, and
one whose lines list none. -/
theorem parse_given_stories_of_scenario :
    let before := [(1, "GivenStories: a".toList), (2, "Scenario: b".toList)]
    let following (paths : Text) := [(4, paths), (5, "Given c".toList)]
    let text (paths : Text) :=
      "GivenStories: a\nScenario: b\nGivenStories: ,\n".toList ++ paths ++ "\nGiven c".toList
    ¬ ListsGivens .default (before.map Prod.snd) ∧
      (∃ s, parse .default [] (text "d".toList) = .ok s) ∧
      Keywords.default.listedPaths [','] (following "d".toList) ≠ [] ∧
      Keywords.default.listedPaths [','] (following [',']) = [] ∧
      parse .default [] (text [',']) = .error (.emptyGivenStories 3) := by
  intro before following text
  have hfirst : ¬ ListsGivens .default (before.map Prod.snd) := by decide
  have hline :
      Keywords.default.classify "GivenStories: ,".toList = some (.givenStories, [',']) := by
    decide
  have hpath : numbered 1 ((text "d".toList).splitOn '\n') =
      before ++ (3, "GivenStories: ,".toList) :: following "d".toList := by
    decide +kernel
  have hcomma : numbered 1 ((text [',']).splitOn '\n') =
      before ++ (3, "GivenStories: ,".toList) :: following [','] := by
    decide +kernel
  have hparse : parse .default [] (text "d".toList) = .ok {
      path := []
      givenStories := ["a".toList]
      scenarios := [{
        title := "b".toList
        givenStories := ["d".toList]
        steps := ["Given c".toList] }] } := eq_ok_of_toOption (by decide +kernel)
  have hnone : Keywords.default.listedPaths [','] (following [',']) = [] := by decide
  refine ⟨hfirst, ⟨_, hparse⟩, ?_, hnone, ?_⟩
  · exact ((parse_given_stories hpath hline).1 _ hparse).resolve_right hfirst
  · exact (parse_given_stories hcomma hline).2 rfl ⟨_, rfl⟩ hnone hfirst

/-- After a list that lists a path, a list that lists none is no error. -/
theorem later_list_is_empty :
    let t := "Scenario: x\nGivenStories: a\nGivenStories:\nGiven y".toList
    let before := [(1, "Scenario: x".toList), (2, "GivenStories: a".toList)]
    let following := [(4, "Given y".toList)]
    numbered 1 (t.splitOn '\n') = before ++ (3, "GivenStories:".toList) :: following ∧
      Keywords.default.classify "GivenStories:".toList = some (.givenStories, []) ∧
      Keywords.default.listedPaths [] following = [] ∧
      parse .default [] t = .ok {
        path := []
        scenarios := [{
          title := "x".toList
          givenStories := ["a".toList]
          steps := ["Given y".toList] }] } := by
  exact ⟨by decide +kernel, by decide, by decide, eq_ok_of_toOption (by decide +kernel)⟩

end Story

end Storyline
