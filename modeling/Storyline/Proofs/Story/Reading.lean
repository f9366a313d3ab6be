import Storyline.Proofs.Text
import Storyline.Story.Draft

/-!
# Reading a story line by line

Laws of the reader that need no knowledge of the sections. A text is read in the order of its
lines (`Draft.lines_append`), blank lines do not count (`map_snd_numbered`), and a line that opens a
scenario ends what was read before in the same way as the end of the text does
(`Draft.line_scenario`).
-/

set_option autoImplicit false

namespace Storyline

theorem bind_eq_ok_iff {ε α β : Type} {x : Except ε α} {f : α → Except ε β} {b : β} :
    x >>= f = .ok b ↔ ∃ a, x = .ok a ∧ f a = .ok b := by
  cases x with
  | error e => simp [bind, Except.bind]
  | ok a => simp [bind, Except.bind]

/-- Success can be decided where the values can be compared. -/
theorem eq_ok_of_toOption {ε α : Type} {r : Except ε α} {a : α} (h : r.toOption = some a) :
    r = .ok a := by
  cases r with
  | error e => cases h
  | ok b => exact congrArg Except.ok (Option.some.inj h)

namespace Story

/-! ## Joined texts and continued steps -/

/-- What is added to nothing is all there is. -/
theorem append_nil (joiner t : Text) : append joiner [] t = t := by
  unfold append
  split
  · next h => exact (List.isEmpty_iff.mp h).symm
  · rfl

/-- Adding to joined texts is joining one more, unless it is empty. -/
theorem append_join (joiner : Text) {ts : List Text} (h : ∀ t ∈ ts, t ≠ []) (t : Text) :
    append joiner (Text.join joiner ts) t = Text.join joiner (ts ++ [t].filter (· ≠ [])) := by
  by_cases ht : t = []
  · simp [append, ht]
  · have hkept : [t].filter (· ≠ []) = [t] := by simp [ht]
    rw [append, if_neg (by simpa using ht), hkept]
    by_cases hts : ts = []
    · simp [hts]
    · have hjoin : Text.join joiner ts ≠ [] := fun he => hts ((Text.join_eq_nil_iff h).mp he)
      rw [if_neg (by simpa using hjoin), Text.join_concat joiner hts]

theorem continueLast?_eq_none {steps : List Text} {line : Text} :
    continueLast? steps line = none ↔ steps = [] := by
  induction steps with
  | nil => simp [continueLast?]
  | cons s ss ih => cases ss <;> simp_all [continueLast?]

theorem continueLast?_concat (steps : List Text) (s line : Text) :
    continueLast? (steps ++ [s]) line = some (steps ++ [s ++ '\n' :: line]) := by
  induction steps with
  | nil => rfl
  | cons u us ih => cases us <;> simp_all [continueLast?]

/-- The line goes to the end of the last step, if there is a step. -/
theorem continueLast?_eq_some_iff {steps steps' : List Text} {line : Text} :
    continueLast? steps line = some steps' ↔
      ∃ init s, steps = init ++ [s] ∧ steps' = init ++ [s ++ '\n' :: line] := by
  constructor
  · intro h
    rcases steps.eq_nil_or_concat with rfl | ⟨init, s, rfl⟩
    · cases h
    · rw [List.concat_eq_append, continueLast?_concat, Option.some.injEq] at h
      exact ⟨init, s, List.concat_eq_append, h.symm⟩
  · rintro ⟨init, s, rfl, rfl⟩
    exact continueLast?_concat init s line

/-! ## Numbered lines -/

/-- The lines that are not blank, trimmed and with their numbers. `n` is the number of the first. -/
def numbered (n : Nat) (ls : List Text) : List (Nat × Text) :=
  ((ls.zipIdx n).map fun (l, n) => (n, Text.trim l)).filter (!·.2.isEmpty)

theorem numberedLines_eq (t : Text) : numberedLines t = numbered 1 (Text.lines t) := rfl

theorem numberedLines_eq_splitOn (t : Text) : numberedLines t = numbered 1 (t.splitOn '\n') := by
  rw [numberedLines_eq, Text.lines_eq_splitOn]

@[simp] theorem numbered_nil (n : Nat) : numbered n [] = [] := rfl

theorem numbered_cons_of_blank {l : Text} (h : Text.trim l = []) (n : Nat) (ls : List Text) :
    numbered n (l :: ls) = numbered (n + 1) ls := by
  simp [numbered, h]

theorem numbered_cons_of_ne {l : Text} (h : Text.trim l ≠ []) (n : Nat) (ls : List Text) :
    numbered n (l :: ls) = (n, Text.trim l) :: numbered (n + 1) ls := by
  simp [numbered, h]

theorem numbered_append (n : Nat) (ls ms : List Text) :
    numbered n (ls ++ ms) = numbered n ls ++ numbered (n + ls.length) ms := by
  simp [numbered, List.zipIdx_append]

/-- A line feed between two texts divides their numbered lines. -/
theorem numberedLines_append (s t : Text) :
    numberedLines (s ++ '\n' :: t) =
      numberedLines s ++ numbered (1 + (Text.lines s).length) (Text.lines t) := by
  rw [numberedLines_eq, Text.lines_append, numbered_append, ← numberedLines_eq]

/-- A numbered line is a line of the text, with as many lines before it as its number tells. -/
theorem exists_of_numbered_eq {k n : Nat} {ls : List Text} {before after : List (Nat × Text)}
    {line : Text} (h : numbered k ls = before ++ (n, line) :: after) :
    ∃ xs l ys, ls = xs ++ l :: ys ∧ k + xs.length = n ∧ Text.trim l = line ∧ line ≠ [] ∧
      numbered k xs = before := by
  induction ls generalizing k before with
  | nil => simp at h
  | cons l ls ih =>
      by_cases hl : Text.trim l = []
      · rw [numbered_cons_of_blank hl] at h
        obtain ⟨xs, m, ys, rfl, hn, hm, hne, hxs⟩ := ih h
        refine ⟨l :: xs, m, ys, rfl, ?_, hm, hne, ?_⟩
        · rw [← hn, List.length_cons]
          omega
        · rw [numbered_cons_of_blank hl, hxs]
      · rw [numbered_cons_of_ne hl] at h
        cases before with
        | nil =>
            obtain ⟨hhead, -⟩ := List.cons.inj h
            obtain ⟨rfl, rfl⟩ := Prod.mk.inj hhead
            exact ⟨[], l, ls, rfl, rfl, rfl, hl, rfl⟩
        | cons b bs =>
            obtain ⟨rfl, htail⟩ := List.cons.inj h
            obtain ⟨xs, m, ys, rfl, hn, hm, hne, hxs⟩ := ih htail
            refine ⟨l :: xs, m, ys, rfl, ?_, hm, hne, ?_⟩
            · rw [← hn, List.length_cons]
              omega
            · rw [numbered_cons_of_ne hl, hxs]

/-- The trimmed lines of a text that are not blank. -/
def contentLines (t : Text) : List Text :=
  ((t.splitOn '\n').map Text.trim).filter (!·.isEmpty)

/-- Whatever their numbers are, the lines that are read are those that are not blank. -/
theorem map_snd_numbered (n : Nat) (ls : List Text) :
    (numbered n ls).map Prod.snd = (ls.map Text.trim).filter (!·.isEmpty) := by
  induction ls generalizing n with
  | nil => rfl
  | cons l ls ih =>
      by_cases h : Text.trim l = []
      · rw [numbered_cons_of_blank h, ih, List.map_cons, h, List.filter_cons_of_neg (by simp)]
      · rw [numbered_cons_of_ne h, List.map_cons, ih, List.map_cons,
          List.filter_cons_of_pos (by simpa using h)]

theorem map_snd_numbered_lines (n : Nat) (t : Text) :
    (numbered n (Text.lines t)).map Prod.snd = contentLines t := by
  rw [map_snd_numbered, Text.lines_eq_splitOn, contentLines]

/-! ## Lines in order -/

namespace Draft

variable (ks : Keywords)

@[simp] theorem lines_nil (d : Draft) : d.lines ks [] = .ok d := rfl

theorem lines_cons (d : Draft) (l : Nat × Text) (ls : List (Nat × Text)) :
    d.lines ks (l :: ls) = d.line ks l.1 l.2 >>= fun d => d.lines ks ls := rfl

/-- Lines are read one after the other. -/
theorem lines_append (d : Draft) (ls ms : List (Nat × Text)) :
    d.lines ks (ls ++ ms) = d.lines ks ls >>= fun d => d.lines ks ms :=
  List.foldlM_append

theorem structural_eq (d : Draft) (n : Nat) (line : Text) (k : Keyword) (rest : Text) :
    d.structural ks n line k rest = d.closeGivens >>= fun d => d.openPart ks n line k rest := by
  unfold structural
  cases d.closeGivens <;> rfl

theorem finish_eq (d : Draft) :
    d.finish ks = d.closeGivens >>= fun d => (d.finishScenario ks.separators).map (·.story) := by
  unfold finish
  cases d.closeGivens <;> rfl

/-- A line without keyword is text. -/
theorem line_of_classify_eq_none {line : Text} (h : ks.classify line = none) (d : Draft) (n : Nat) :
    d.line ks n line = d.text n line := by
  simp only [Draft.line, h]

/-- A keyword that opens neither a clause nor a block has the same meaning everywhere. -/
theorem line_of_classify_eq_some {line rest : Text} {k : Keyword}
    (h : ks.classify line = some (k, rest)) (hc : clause? k = none) (hb : block? k = none)
    (d : Draft) (n : Nat) : d.line ks n line = d.structural ks n line k rest := by
  simp only [Draft.line, h, hc, hb]

/-- Outside the narrative the keywords of its clauses have no meaning, nor have those of the blocks
outside the lifecycle. -/
theorem line_eq_text {line rest : Text} {k : Keyword} (h : ks.classify line = some (k, rest))
    (hk : ¬ (clause? k = none ∧ block? k = none)) {d : Draft}
    (hn : clause? k ≠ none → ∀ c, d.place ≠ .narrative c)
    (hl : block? k ≠ none → ∀ b, d.place ≠ .lifecycle b) (n : Nat) :
    d.line ks n line = d.text n line := by
  simp only [Draft.line, h]
  split
  · next hc _ hp => exact absurd hp (hn (by simp_all) _)
  · rfl
  · next hb hp => exact absurd hp (hl (by simp_all) _)
  · rfl
  · next hc hb => exact absurd ⟨hc, hb⟩ hk

theorem line_of_clause {line rest : Text} {k : Keyword} (h : ks.classify line = some (k, rest))
    {c c' : Clause} (hc : clause? k = some c) {d : Draft} (hp : d.place = .narrative c') (n : Nat) :
    d.line ks n line = .ok ({ d with place := .narrative c }.addToNarrative rest) := by
  simp only [Draft.line, h, hc, hp]

theorem line_of_block {line rest : Text} {k : Keyword} (h : ks.classify line = some (k, rest))
    {b : Block} {b' : Option Block} (hc : clause? k = none) (hb : block? k = some b) {d : Draft}
    (hp : d.place = .lifecycle b') (n : Nat) :
    d.line ks n line = .ok { d with place := .lifecycle (some b) } := by
  simp only [Draft.line, h, hc, hb, hp]

/-! ## Opening a scenario -/

/-- The draft in which a scenario has just been opened after the story `s`. -/
def inScenario (s : Story) (title : Text) : Draft :=
  { story := s, place := .scenario, current := some { scenario := { title } } }

/-- **A scenario that opens ends the story before it.** Whatever is unfinished is finished, or found
faulty, in the same way as at the end of the text. -/
theorem structural_scenario (d : Draft) (n : Nat) (line title : Text) :
    d.structural ks n line .scenario title =
      (d.finish ks).map fun s => inScenario s title := by
  rw [structural_eq, finish_eq]
  cases d.closeGivens with
  | error e => rfl
  | ok c =>
      change (c.finishScenario ks.separators).map _ =
        ((c.finishScenario ks.separators).map (·.story)).map _
      cases c.finishScenario ks.separators <;> rfl

theorem line_scenario {line title : Text} (h : ks.classify line = some (.scenario, title))
    (d : Draft) (n : Nat) :
    d.line ks n line = (d.finish ks).map fun s => inScenario s title := by
  rw [line_of_classify_eq_some ks h rfl rfl, structural_scenario]

end Draft

/-! ## Whole texts -/

/-- With a valid table a text is read line by line. -/
theorem parse_eq {ks : Keywords} (hks : ks.validate = .ok ()) (path t : Text) :
    parse ks path t =
      Draft.lines ks { story := { path } } (numberedLines t) >>= fun d => d.finish ks := by
  unfold parse
  rw [hks]
  cases Draft.lines ks { story := { path } } (numberedLines t) <;> rfl

theorem parse_eq_ok_iff {ks : Keywords} {path t : Text} {s : Story} :
    parse ks path t = .ok s ↔ ks.validate = .ok () ∧
      (Draft.lines ks { story := { path } } (numberedLines t) >>= fun d => d.finish ks) =
        .ok s := by
  cases hks : ks.validate with
  | error e => simp [parse, hks]
  | ok u => simp [parse_eq hks]

/-- What is read of a text after the first lines of it have been read. -/
theorem parse_eq_of_lines {ks : Keywords} (hks : ks.validate = .ok ()) {path t : Text}
    {ls ms : List (Nat × Text)} (ht : numberedLines t = ls ++ ms) {d : Draft}
    (hd : Draft.lines ks { story := { path } } ls = .ok d) :
    parse ks path t = d.lines ks ms >>= fun d => d.finish ks := by
  rw [parse_eq hks, ht, Draft.lines_append, hd]
  rfl

/-- Of a story the first lines can be read. -/
theorem exists_lines_of_parse {ks : Keywords} {path t : Text} {s : Story}
    (h : parse ks path t = .ok s) {ls ms : List (Nat × Text)} (ht : numberedLines t = ls ++ ms) :
    ks.validate = .ok () ∧ ∃ d, Draft.lines ks { story := { path } } ls = .ok d := by
  obtain ⟨hks, hread⟩ := parse_eq_ok_iff.mp h
  rw [ht, Draft.lines_append] at hread
  obtain ⟨e, he, -⟩ := bind_eq_ok_iff.mp hread
  obtain ⟨d, hd, -⟩ := bind_eq_ok_iff.mp he
  exact ⟨hks, d, hd⟩

end Story

end Storyline
