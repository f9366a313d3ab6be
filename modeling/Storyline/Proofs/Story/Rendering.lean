import Mathlib.Tactic.MkIffOfInductiveProp
import Storyline.Proofs.Keyword
import Storyline.Proofs.Story.Sections
import Storyline.Proofs.Table

/-!
# Stories as text

A story can be written as a text in English (`Story.render`), one part after the other. A story
whose parts fit on their lines (`Story.Writable`) is read back from its text as it is
(`Story.parse_render`).
-/

set_option autoImplicit false

namespace Storyline.Story

/-! ## The text of a story -/

/-- The lines of a text. An empty text has none. -/
def textLines (t : Text) : List Text := if t = [] then [] else Text.lines t

/-- The line with the literal of a keyword and what follows it. -/
def keyLine (k : Keyword) (rest : Text) : Text := Keywords.default.literal k ++ ' ' :: rest

def clauseLines (k : Keyword) (clause : Text) : List Text :=
  if clause = [] then [] else [keyLine k clause]

def narrativeLines (n : Narrative) : List Text :=
  Keywords.default.literal .narrative ::
    (textLines n.text ++ clauseLines .inOrderTo n.inOrderTo ++ clauseLines .asA n.asA ++
      clauseLines .iWantTo n.iWantTo)

def givensLines (paths : List Text) : List Text :=
  if paths = [] then [] else [keyLine .givenStories (Text.join [',', ' '] paths)]

def stepLines (steps : List Text) : List Text := steps.flatMap Text.lines

def blockLines (k : Keyword) (steps : List Text) : List Text :=
  if steps = [] then [] else Keywords.default.literal k :: stepLines steps

def lifecycleLines (l : Lifecycle) : List Text :=
  if l = {} then []
  else
    Keywords.default.literal .lifecycle ::
      (blockLines .before l.before ++ blockLines .after l.after)

def examplesLines (t : Table) : List Text :=
  if t = {} then []
  else Keywords.default.literal .examples :: t.toLines Keywords.default.separators

def scenarioLines (sc : Scenario) : List Text :=
  keyLine .scenario sc.title ::
    (givensLines sc.givenStories ++ stepLines sc.steps ++ examplesLines sc.examples)

def toLines (s : Story) : List Text :=
  textLines s.description ++ s.narrative.elim [] narrativeLines ++ givensLines s.givenStories ++
    lifecycleLines s.lifecycle ++ s.scenarios.flatMap scenarioLines

/-- The text of a story. -/
def render (s : Story) : Text := Text.join ['\n'] s.toLines

/-! ## Stories that can be written -/

/-- A line of text that no keyword starts. -/
@[mk_iff]
structure IsPlain (l : Text) : Prop where
  ne_nil : l ≠ []
  trimmed : Text.trim l = l
  unmarked : Keywords.default.classify l = none

/-- What can follow a keyword on its line. -/
@[mk_iff]
structure IsEntry (t : Text) : Prop where
  trimmed : Text.trim t = t
  single : '\n' ∉ t

/-- A path that a list of given stories can hold. -/
@[mk_iff]
structure IsPath (p : Text) : Prop where
  ne_nil : p ≠ []
  trimmed : Text.trim p = p
  no_comma : ',' ∉ p
  single : '\n' ∉ p

/-- The keyword of a step or of a comment starts the line. -/
def StartsStep (l : Text) : Prop :=
  (Keywords.default.classify l).any fun found => found.1.isWord || found.1 == .ignorable

/-- A step, or a comment among the steps: the first line starts as one, and no keyword starts the
lines that continue it. -/
@[mk_iff]
structure IsStep (s : Text) : Prop where
  first : ∀ l ∈ (Text.lines s).head?, Text.trim l = l ∧ StartsStep l
  more : ∀ l ∈ (Text.lines s).tail, IsPlain l

/-- The cells of a line between bars, which must not look like a comment. -/
@[mk_iff]
structure IsRow (cs : List Text) : Prop where
  cells : ∀ x ∈ cs, Text.trim x = x ∧ '|' ∉ x ∧ '\n' ∉ x
  not_comment : ∀ x ∈ cs.head?, ¬ ['-', '-'] <+: x

@[mk_iff]
structure IsTable (t : Table) : Prop where
  headers_ne_nil : t.headers ≠ []
  nodup : t.headers.Nodup
  full : ∀ r ∈ t.rows, r.length = t.headers.length
  headers : IsRow t.headers
  rows : ∀ r ∈ t.rows, IsRow r

@[mk_iff]
structure IsNarrative (n : Narrative) : Prop where
  text : ∀ l ∈ textLines n.text, IsPlain l
  inOrderTo : IsEntry n.inOrderTo
  asA : IsEntry n.asA
  iWantTo : IsEntry n.iWantTo

@[mk_iff]
structure IsScenario (sc : Scenario) : Prop where
  title : IsEntry sc.title
  givens : ∀ p ∈ sc.givenStories, IsPath p
  steps : ∀ s ∈ sc.steps, IsStep s
  examples : sc.examples = {} ∨ IsTable sc.examples

/-- The parts of the story fit on the lines that are written for them. -/
@[mk_iff]
structure Writable (s : Story) : Prop where
  description : ∀ l ∈ textLines s.description, IsPlain l
  narrative : ∀ n ∈ s.narrative, IsNarrative n
  givens : ∀ p ∈ s.givenStories, IsPath p
  before : ∀ t ∈ s.lifecycle.before, IsStep t
  after : ∀ t ∈ s.lifecycle.after, IsStep t
  scenarios : ∀ sc ∈ s.scenarios, IsScenario sc

section

instance (l : Text) : Decidable (IsPlain l) := decidable_of_iff _ (isPlain_iff l).symm
instance (t : Text) : Decidable (IsEntry t) := decidable_of_iff _ (isEntry_iff t).symm
instance (p : Text) : Decidable (IsPath p) := decidable_of_iff _ (isPath_iff p).symm
instance (l : Text) : Decidable (StartsStep l) := inferInstanceAs (Decidable (_ = true))
instance (s : Text) : Decidable (IsStep s) := decidable_of_iff _ (isStep_iff s).symm
instance (cs : List Text) : Decidable (IsRow cs) := decidable_of_iff _ (isRow_iff cs).symm
instance (t : Table) : Decidable (IsTable t) := decidable_of_iff _ (isTable_iff t).symm
instance (n : Narrative) : Decidable (IsNarrative n) := decidable_of_iff _ (isNarrative_iff n).symm
instance (sc : Scenario) : Decidable (IsScenario sc) := decidable_of_iff _ (isScenario_iff sc).symm
instance (s : Story) : Decidable s.Writable := decidable_of_iff _ (writable_iff s).symm

end

/-! ## Lines with a keyword -/

/-- The keyword `k` starts the line, and `rest` follows it. -/
def Opens (l : Text) (k : Keyword) (rest : Text) : Prop :=
  Keywords.default.classify (Text.trim l) = some (k, rest)

section

variable {k : Keyword} (hk : k.startsLine = true) (hw : k.isWord = false)

theorem literal_spec (k : Keyword) : Keywords.default.literal k ≠ [] ∧
    Text.trim (Keywords.default.literal k) = Keywords.default.literal k ∧
      '\n' ∉ Keywords.default.literal k := by
  cases k with
  | step k => cases k <;> decide
  | _ => decide

include hk hw

theorem opens_literal : Opens (Keywords.default.literal k) k [] := by
  have hclass := Keywords.classify_default hk hw []
  rw [List.append_nil] at hclass
  rw [Opens, (literal_spec k).2.1, hclass]
  rfl

theorem opens_keyLine {t : Text} (ht : Text.trim t = t) : Opens (keyLine k t) k t := by
  by_cases hnil : t = []
  · subst hnil
    have htrim : Text.trim (keyLine k []) = Text.trim (Keywords.default.literal k) :=
      Text.trim_concat (by decide) _
    rw [Opens, htrim]
    exact opens_literal hk hw
  · obtain ⟨hlit, hlittrim, -⟩ := literal_spec k
    have hline : keyLine k t = Keywords.default.literal k ++ [' '] ++ t := by simp [keyLine]
    have htrim : Text.trim (keyLine k t) = keyLine k t := by
      rw [hline]
      exact Text.trim_between ⟨hlit, hlittrim⟩ ⟨hnil, ht⟩ [' ']
    rw [Opens, htrim, keyLine, Keywords.classify_default hk hw, Text.trim_cons (by decide), ht]

end

/-! ## Reading lines wherever they stand -/

/-- The texts are single lines, and from any line number on they lead from the draft `d` to one
with `P`. -/
structure Reads (d : Draft) (ls : List Text) (P : Draft → Prop) : Prop where
  single : ∀ l ∈ ls, '\n' ∉ l
  leads : ∀ n, ∃ e, d.lines .default (numbered n ls) = .ok e ∧ P e

namespace Reads

variable {d : Draft} {ls ms : List Text} {P Q : Draft → Prop}

theorem nil (h : P d) : Reads d [] P where
  single _ h := absurd h List.not_mem_nil
  leads _ := ⟨d, rfl, h⟩

theorem append (h : Reads d ls P) (hP : ∀ e, P e → Reads e ms Q) : Reads d (ls ++ ms) Q where
  single l hl := by
    obtain ⟨e, -, he⟩ := h.leads 0
    rcases List.mem_append.mp hl with hl | hl
    · exact h.single l hl
    · exact (hP e he).single l hl
  leads n := by
    obtain ⟨e, hlines, he⟩ := h.leads n
    obtain ⟨f, hlines', hf⟩ := (hP e he).leads (n + ls.length)
    refine ⟨f, ?_, hf⟩
    rw [numbered_append, Draft.lines_append, hlines]
    exact hlines'

theorem mono (h : Reads d ls P) (hPQ : ∀ e, P e → Q e) : Reads d ls Q where
  single := h.single
  leads n := by
    obtain ⟨e, hlines, he⟩ := h.leads n
    exact ⟨e, hlines, hPQ e he⟩

/-- One line that is not blank. -/
theorem line {l : Text} (hne : Text.trim l ≠ []) (hsingle : '\n' ∉ l)
    (h : ∀ n, ∃ e, d.line .default n (Text.trim l) = .ok e ∧ P e) : Reads d [l] P where
  single := List.forall_mem_singleton.mpr hsingle
  leads n := by
    obtain ⟨e, hline, he⟩ := h n
    refine ⟨e, ?_, he⟩
    rw [numbered_cons_of_ne hne, numbered_nil, Draft.lines_cons, hline]
    rfl

/-- A line of plain text. -/
theorem plain {l : Text} (hl : IsPlain l) (hsingle : '\n' ∉ l)
    (h : ∀ n, ∃ e, d.text n l = .ok e ∧ P e) : Reads d [l] P := by
  refine line (by rw [hl.trimmed]; exact hl.ne_nil) hsingle fun n => ?_
  rw [hl.trimmed, Draft.line_of_classify_eq_none _ hl.unmarked]
  exact h n

/-- A line with a keyword. -/
theorem opens {l rest : Text} {k : Keyword} (hl : Opens l k rest) (hsingle : '\n' ∉ l)
    (h : ∀ n, ∃ e, d.line .default n (Text.trim l) = .ok e ∧ P e) : Reads d [l] P := by
  refine line (fun hnil => ?_) hsingle h
  rw [Opens, hnil] at hl
  cases hl

/-- A line whose keyword has the same meaning everywhere. -/
theorem part {l rest : Text} {k : Keyword} (hl : Opens l k rest) (hsingle : '\n' ∉ l)
    (hc : clause? k = none) (hb : block? k = none)
    (h : ∀ n, ∃ e, (d.closeGivens >>= fun d => d.openPart .default n (Text.trim l) k rest) = .ok e ∧
      P e) : Reads d [l] P := by
  refine opens hl hsingle fun n => ?_
  rw [Draft.line_of_classify_eq_some _ hl hc hb, Draft.structural_eq]
  exact h n

/-- Plain lines go where the first of them goes. -/
theorem plains {α : Type} {D : α → Draft} {f : α → Text → α}
    (hD : ∀ a n l, (D a).text n l = .ok (D (f a l))) (hls : ∀ l ∈ ls, IsPlain l ∧ '\n' ∉ l)
    (a : α) : Reads (D a) ls (· = D (ls.foldl f a)) := by
  induction ls generalizing a with
  | nil => exact nil rfl
  | cons l ls ih =>
      obtain ⟨hl, hrest⟩ := List.forall_mem_cons.mp hls
      have hfirst : Reads (D a) [l] (· = D (f a l)) :=
        plain hl.1 hl.2 fun n => ⟨_, hD a n l, rfl⟩
      refine hfirst.append fun e he => ?_
      rw [he]
      exact ih hrest (f a l)

end Reads

/-! ## The description and the narrative -/

theorem single_of_mem_textLines {l t : Text} (h : l ∈ textLines t) : '\n' ∉ l := by
  by_cases ht : t = []
  · simp [textLines, ht] at h
  · rw [textLines, if_neg ht] at h
    exact Text.not_mem_of_mem_lines h

theorem join_textLines (t : Text) : Text.join ['\n'] (textLines t) = t := by
  by_cases ht : t = []
  · simp [textLines, ht]
  · rw [textLines, if_neg ht, Text.join_lines]

theorem foldl_append (joiner : Text) {ls ts : List Text} (hls : ∀ l ∈ ls, l ≠ [])
    (hts : ∀ t ∈ ts, t ≠ []) :
    ls.foldl (append joiner) (Text.join joiner ts) = Text.join joiner (ts ++ ls) := by
  induction ls generalizing ts with
  | nil => rw [List.foldl_nil, List.append_nil]
  | cons l ls ih =>
      obtain ⟨hl, hrest⟩ := List.forall_mem_cons.mp hls
      have hkept : [l].filter (· ≠ []) = [l] := by simp [hl]
      have hmore : ∀ t ∈ ts ++ [l], t ≠ [] := by
        simpa [or_imp, forall_and] using And.intro hts hl
      rw [List.foldl_cons, append_join joiner hts, hkept, ih hrest hmore, List.append_assoc,
        List.singleton_append]

/-- The lines of a text that grows at its end. -/
theorem reads_text {D : Text → Draft} (hD : ∀ t n l, (D t).text n l = .ok (D (append ['\n'] t l)))
    {t : Text} (ht : ∀ l ∈ textLines t, IsPlain l) : Reads (D []) (textLines t) (· = D t) := by
  have hjoin : (textLines t).foldl (append ['\n']) [] = t := by
    have hne : ∀ l ∈ textLines t, l ≠ [] := fun l hl => (ht l hl).ne_nil
    have hfold : (textLines t).foldl (append ['\n']) (Text.join ['\n'] []) =
        Text.join ['\n'] ([] ++ textLines t) := foldl_append ['\n'] hne (by simp)
    rwa [Text.join_nil, List.nil_append, join_textLines] at hfold
  have hplains := Reads.plains hD (fun l hl => ⟨ht l hl, single_of_mem_textLines hl⟩) []
  rwa [hjoin] at hplains

theorem single_keyLine (k : Keyword) {t : Text} (ht : '\n' ∉ t) : '\n' ∉ keyLine k t := by
  have hlit := (literal_spec k).2.2
  simp [keyLine, hlit, ht]

theorem addTo_nil (n : Narrative) (c : Clause) : addTo n [] c = n := by cases c <;> rfl

/-- A clause of the narrative, or none. -/
theorem reads_clause {k : Keyword} {c : Clause} (hc : clause? k = some c) (s : Story)
    (n : Narrative) (c' : Clause) {t : Text} (ht : IsEntry t) :
    Reads ⟨{ s with narrative := some n }, .narrative c', none⟩ (clauseLines k t)
      (fun d => ∃ c', d = ⟨{ s with narrative := some (addTo n t c) }, .narrative c', none⟩) := by
  by_cases hnil : t = []
  · subst hnil
    exact .nil ⟨c', by rw [addTo_nil]⟩
  · have hopens : Opens (keyLine k t) k t := by
      have hk : k.startsLine = true ∧ k.isWord = false := by
        cases k with
        | inOrderTo => exact ⟨rfl, rfl⟩
        | asA => exact ⟨rfl, rfl⟩
        | iWantTo => exact ⟨rfl, rfl⟩
        | _ => cases hc
      exact opens_keyLine hk.1 hk.2 ht.trimmed
    rw [clauseLines, if_neg hnil]
    refine .opens hopens (single_keyLine k ht.single) fun m => ⟨_, ?_, c, rfl⟩
    rw [Draft.line_of_clause _ hopens hc rfl, Draft.addToNarrative_eq]

theorem reads_narrative {s : Story} (hs : s.narrative = none) {n : Narrative} (hn : IsNarrative n) :
    Reads ⟨s, .description, none⟩ (narrativeLines n)
      (fun d => ∃ c, d = ⟨{ s with narrative := some n }, .narrative c, none⟩) := by
  have hopen : Reads ⟨s, .description, none⟩ [Keywords.default.literal .narrative]
      (· = ⟨{ s with narrative := some {} }, .narrative .text, none⟩) := by
    refine .part (opens_literal rfl rfl) (literal_spec _).2.2 rfl rfl fun m => ⟨_, ?_, rfl⟩
    simp only [Draft.closeGivens, bind, Except.bind, Draft.openPart, Draft.openNarrative, hs]
    rfl
  have htext : Reads ⟨{ s with narrative := some {} }, .narrative .text, none⟩ (textLines n.text)
      (· = ⟨{ s with narrative := some { text := n.text } }, .narrative .text, none⟩) :=
    reads_text (D := fun t => ⟨{ s with narrative := some { text := t } }, .narrative .text, none⟩)
      (fun _ _ _ => rfl) hn.text
  -- every clause is added to an empty one
  have hclauses : addTo (addTo (addTo { text := n.text } n.inOrderTo .inOrderTo) n.asA .asA)
      n.iWantTo .iWantTo = n := by
    simp only [addTo, append_nil]
  rw [narrativeLines, List.append_assoc, List.append_assoc]
  refine hopen.append ?_
  rintro _ rfl
  refine htext.append ?_
  rintro _ rfl
  refine (reads_clause rfl s _ .text hn.inOrderTo).append ?_
  rintro _ ⟨c, rfl⟩
  refine (reads_clause rfl s _ c hn.asA).append ?_
  rintro _ ⟨c, rfl⟩
  refine (reads_clause rfl s _ c hn.iWantTo).mono ?_
  rintro _ ⟨c, rfl⟩
  exact ⟨c, by rw [hclauses]⟩

/-! ## Given stories and the lifecycle -/

/-- A list of given stories, or none. -/
theorem reads_givens {d : Draft} {ps : List Text} (hps : ∀ p ∈ ps, IsPath p) {P : Draft → Prop}
    (hnone : ps = [] → P d)
    (hsome : ps ≠ [] → ∀ n, ∃ e, (d.closeGivens >>= fun d => d.openGivens n
      (Text.join [',', ' '] ps)) = .ok e ∧ P e) :
    Reads d (givensLines ps) P := by
  by_cases hnil : ps = []
  · rw [givensLines, if_pos hnil]
    exact .nil (hnone hnil)
  · have htrim : Text.trim (Text.join [',', ' '] ps) = Text.join [',', ' '] ps :=
      Text.trim_join fun p hp => ⟨(hps p hp).ne_nil, (hps p hp).trimmed⟩
    rw [givensLines, if_neg hnil]
    have hsingle : '\n' ∉ Text.join [',', ' '] ps :=
      Text.not_mem_join (by decide) fun p hp => (hps p hp).single
    exact .part (opens_keyLine rfl rfl htrim) (single_keyLine _ hsingle) rfl rfl (hsome hnil)

/-- The list that is being read ends, and the story holds all that was read. -/
def Between (s : Story) (d : Draft) : Prop := ∃ p, d.closeGivens = .ok ⟨s, p, none⟩

theorem entries_givens {ps : List Text} (hps : ∀ p ∈ ps, IsPath p) :
    Text.entries (Text.join [',', ' '] ps) = ps :=
  Text.entries_join fun p hp => ⟨(hps p hp).ne_nil, (hps p hp).trimmed, (hps p hp).no_comma⟩

theorem reads_storyGivens {s : Story} (hs : s.givenStories = []) {p : Section}
    (hp : p = .description ∨ ∃ c, p = .narrative c) {ps : List Text} (hps : ∀ p ∈ ps, IsPath p) :
    Reads ⟨s, p, none⟩ (givensLines ps) (Between { s with givenStories := ps }) := by
  have hclose : Draft.closeGivens ⟨s, p, none⟩ = .ok ⟨s, p, none⟩ := by
    rcases hp with rfl | ⟨c, rfl⟩ <;> rfl
  refine reads_givens hps ?_ ?_
  · rintro rfl
    refine ⟨p, ?_⟩
    rw [hclose, ← hs]
  · intro hne n
    have hopen : Draft.openGivens ⟨s, p, none⟩ n (Text.join [',', ' '] ps) =
        .ok ⟨{ s with givenStories := ps }, .storyGivens n, none⟩ := by
      rcases hp with rfl | ⟨c, rfl⟩ <;>
        simp only [Draft.openGivens, Draft.addGivens, entries_givens hps, hs, List.nil_append]
    refine ⟨⟨{ s with givenStories := ps }, .storyGivens n, none⟩, ?_, .description, ?_⟩
    · rw [hclose]
      exact hopen
    · simp [Draft.closeGivens, hne]

/-! ## Steps -/

/-- A draft for each list of steps, which takes steps and lines that continue them. -/
structure TakesSteps (D : List Text → Draft) : Prop where
  closed : ∀ steps, (D steps).closeGivens = .ok (D steps)
  step : ∀ steps n l, (D steps).step n l = .ok (D (steps ++ [l]))
  text : ∀ steps s n l, (D (steps ++ [s])).text n l = .ok (D (steps ++ [s ++ '\n' :: l]))

theorem openPart_of_startsStep {k : Keyword} (hk : (k.isWord || k == .ignorable) = true)
    (l rest : Text) (d : Draft) (n : Nat) :
    clause? k = none ∧ block? k = none ∧ d.openPart .default n l k rest = d.step n l := by
  cases k with
  | step k => exact ⟨rfl, rfl, rfl⟩
  | ignorable => exact ⟨rfl, rfl, rfl⟩
  | _ => cases hk

theorem foldl_continue (first : Text) (more : List Text) :
    more.foldl (fun s l => s ++ '\n' :: l) first = Text.join ['\n'] (first :: more) := by
  induction more generalizing first with
  | nil => rw [List.foldl_nil, Text.join_singleton]
  | cons l ls ih =>
      rw [List.foldl_cons, ih, Text.join_cons _ first (by simp)]
      cases ls with
      | nil => simp
      | cons m ms => simp [Text.join_cons]

section

variable {D : List Text → Draft} (hD : TakesSteps D)

include hD

theorem reads_step {d : Draft} {steps : List Text} (hd : d.closeGivens = .ok (D steps)) {s : Text}
    (hs : IsStep s) : Reads d (Text.lines s) (· = D (steps ++ [s])) := by
  obtain ⟨first, more, hlines⟩ := List.exists_cons_of_ne_nil (Text.lines_ne_nil s)
  have hsingle : ∀ l ∈ first :: more, '\n' ∉ l := fun l hl =>
    Text.not_mem_of_mem_lines (hlines ▸ hl)
  have htext : Text.join ['\n'] (first :: more) = s := by rw [← hlines, Text.join_lines]
  obtain ⟨htrim, hstarts⟩ := hs.first first (by rw [hlines]; rfl)
  have hmore : ∀ l ∈ more, IsPlain l := by
    have hplain := hs.more
    rwa [hlines] at hplain
  -- the first line starts the step, and the others are added to it one by one
  obtain ⟨⟨k, rest⟩, hclass, hk⟩ := (Option.any_eq_true _ _).mp hstarts
  have hopens : Opens first k rest := by rw [Opens, htrim, hclass]
  have hfirst : Reads d [first] (· = D (steps ++ [first])) := by
    have hpart := openPart_of_startsStep hk first rest
    refine .part hopens (hsingle first List.mem_cons_self) (hpart d 0).1 (hpart d 0).2.1
      fun n => ⟨_, ?_, rfl⟩
    rw [hd, htrim]
    exact (hpart _ n).2.2.trans (hD.step steps n first)
  have hcontinued : Reads (D (steps ++ [first])) more
      (· = D (steps ++ [more.foldl (fun s l => s ++ '\n' :: l) first])) :=
    Reads.plains (D := fun s => D (steps ++ [s])) (fun s n l => hD.text steps s n l)
      (fun l hl => ⟨hmore l hl, hsingle l (List.mem_cons_of_mem first hl)⟩) first
  rw [foldl_continue, htext] at hcontinued
  rw [hlines]
  refine hfirst.append ?_
  rintro _ rfl
  exact hcontinued

theorem reads_steps (steps : List Text) {ss : List Text} (hss : ∀ s ∈ ss, IsStep s) :
    Reads (D steps) (stepLines ss) (· = D (steps ++ ss)) := by
  induction ss generalizing steps with
  | nil => exact .nil (by rw [List.append_nil])
  | cons s ss ih =>
      obtain ⟨hs, hrest⟩ := List.forall_mem_cons.mp hss
      rw [stepLines, List.flatMap_cons]
      refine (reads_step hD (hD.closed steps) hs).append ?_
      rintro _ rfl
      have hmore := ih (steps ++ [s]) hrest
      rwa [List.append_assoc, List.singleton_append] at hmore

/-- Steps end the list that is being read. -/
theorem reads_first_steps {d : Draft} (hd : d.closeGivens = .ok (D [])) {ss : List Text}
    (hss : ∀ s ∈ ss, IsStep s) : Reads d (stepLines ss) (fun e => e.closeGivens = .ok (D ss)) := by
  cases ss with
  | nil => exact .nil hd
  | cons s ss =>
      obtain ⟨hs, hrest⟩ := List.forall_mem_cons.mp hss
      rw [stepLines, List.flatMap_cons]
      refine (reads_step hD hd hs).append ?_
      rintro _ rfl
      refine (reads_steps hD [s] hrest).mono ?_
      rintro _ rfl
      exact hD.closed (s :: ss)

end

/-! ## The lifecycle -/

theorem takesSteps_before (s : Story) : TakesSteps fun steps =>
    ⟨{ s with lifecycle := { before := steps } }, .lifecycle (some .before), none⟩ where
  closed _ := rfl
  step _ _ _ := rfl
  text steps t n l := by simp only [Draft.text, continueLast?_concat]

theorem takesSteps_after (s : Story) (before : List Text) : TakesSteps fun steps =>
    ⟨{ s with lifecycle := { before, after := steps } }, .lifecycle (some .after), none⟩ where
  closed _ := rfl
  step _ _ _ := rfl
  text steps t n l := by simp only [Draft.text, continueLast?_concat]

/-- A block of the lifecycle, or none. -/
theorem reads_block {k : Keyword} {b : Block} (hb : block? k = some b) {D : List Text → Draft}
    (hD : TakesSteps D) {s : Story} (hstart : D [] = ⟨s, .lifecycle (some b), none⟩)
    (b' : Option Block) {steps : List Text} (hsteps : ∀ t ∈ steps, IsStep t) {P : Draft → Prop}
    (hnone : steps = [] → P ⟨s, .lifecycle b', none⟩) (hsome : P (D steps)) :
    Reads ⟨s, .lifecycle b', none⟩ (blockLines k steps) P := by
  by_cases hnil : steps = []
  · rw [blockLines, if_pos hnil]
    exact .nil (hnone hnil)
  · have hk : clause? k = none ∧ k.startsLine = true ∧ k.isWord = false := by
      cases k with
      | before => exact ⟨rfl, rfl, rfl⟩
      | after => exact ⟨rfl, rfl, rfl⟩
      | _ => cases hb
    have hopens : Opens (Keywords.default.literal k) k [] := opens_literal hk.2.1 hk.2.2
    have hopen : Reads ⟨s, .lifecycle b', none⟩ [Keywords.default.literal k] (· = D []) := by
      refine .opens hopens (literal_spec k).2.2 fun n => ⟨_, ?_, rfl⟩
      rw [Draft.line_of_block _ hopens hk.1 hb rfl, hstart]
    rw [blockLines, if_neg hnil]
    refine hopen.append ?_
    rintro _ rfl
    refine (reads_steps hD [] hsteps).mono ?_
    rintro _ rfl
    exact hsome

theorem reads_lifecycle {s : Story} (hs : s.lifecycle = {}) {d : Draft} (hd : Between s d)
    {l : Lifecycle} (hbefore : ∀ t ∈ l.before, IsStep t) (hafter : ∀ t ∈ l.after, IsStep t) :
    Reads d (lifecycleLines l) (Between { s with lifecycle := l }) := by
  obtain ⟨p, hp⟩ := hd
  have hsame : { s with lifecycle := {} } = s := by rw [← hs]
  by_cases hnil : l = {}
  · subst hnil
    rw [lifecycleLines, if_pos rfl, hsame]
    exact .nil ⟨p, hp⟩
  · have hopen : Reads d [Keywords.default.literal .lifecycle]
        (· = ⟨s, .lifecycle none, none⟩) := by
      refine .part (opens_literal rfl rfl) (literal_spec _).2.2 rfl rfl fun n => ⟨_, ?_, rfl⟩
      rw [hp]
      rfl
    have hfirst : Reads ⟨s, .lifecycle none, none⟩ (blockLines .before l.before) fun e =>
        ∃ b, e = ⟨{ s with lifecycle := { before := l.before } }, .lifecycle b, none⟩ := by
      refine reads_block rfl (takesSteps_before s) (by rw [hsame]) none hbefore ?_ ⟨_, rfl⟩
      intro hnone
      exact ⟨none, by rw [hnone, hsame]⟩
    -- whether or not there are steps before, the steps after open a block of their own
    have hsecond (b : Option Block) :
        Reads ⟨{ s with lifecycle := { before := l.before } }, .lifecycle b, none⟩
          (blockLines .after l.after) (Between { s with lifecycle := l }) := by
      refine reads_block rfl (takesSteps_after s l.before) rfl b hafter ?_ ⟨_, rfl⟩
      intro hnone
      exact ⟨.lifecycle b, by rw [← hnone]; rfl⟩
    rw [lifecycleLines, if_neg hnil]
    refine hopen.append ?_
    rintro _ rfl
    refine hfirst.append ?_
    rintro _ ⟨b, rfl⟩
    exact hsecond b

/-! ## Scenarios -/

theorem takesSteps_scenario (s : Story) (sc : Scenario) : TakesSteps fun steps =>
    ⟨s, .scenario, some { scenario := { sc with steps } }⟩ where
  closed _ := rfl
  step _ _ _ := rfl
  text steps t n l := by simp only [Draft.text, continueLast?_concat]

theorem reads_scenarioGivens (s : Story) (title : Text) {ps : List Text}
    (hps : ∀ p ∈ ps, IsPath p) :
    Reads (Draft.inScenario s title) (givensLines ps) fun d =>
      d.closeGivens = .ok ⟨s, .scenario, some { scenario := { title, givenStories := ps } }⟩ := by
  refine reads_givens hps ?_ ?_
  · rintro rfl
    rfl
  · intro hne n
    refine ⟨⟨s, .scenarioGivens n, some { scenario := { title, givenStories := ps } }⟩, ?_, ?_⟩
    · simp only [Draft.inScenario, Draft.closeGivens, bind, Except.bind, Draft.openGivens,
        Draft.addGivens, entries_givens hps]
      rfl
    · simp [Draft.closeGivens, hne]

/-- A line between bars is plain. -/
theorem isPlain_rowLine {cs : List Text} (hcs : IsRow cs) :
    IsPlain (Table.rowLine ['|'] cs) ∧ '\n' ∉ Table.rowLine ['|'] cs := by
  have hjoin : '\n' ∉ Text.join ['|'] cs :=
    Text.not_mem_join (by decide) fun x hx => (hcs.cells x hx).2.2
  refine ⟨⟨List.cons_ne_nil _ _, Table.trim_rowLine (by decide), rfl⟩, ?_⟩
  simp [Table.rowLine_eq, hjoin]

/-- A line between bars is a comment just if its first cell starts like one. -/
theorem isComment_rowLine {cs : List Text} (hne : cs ≠ []) (hcs : IsRow cs) :
    Table.isComment Keywords.default.separators (Table.rowLine ['|'] cs) = false := by
  obtain ⟨x, xs, rfl⟩ := List.exists_cons_of_ne_nil hne
  have hx : ¬ ['-', '-'] <+: x := hcs.not_comment x rfl
  obtain ⟨rest, hrest⟩ : ∃ rest, Table.rowLine ['|'] (x :: xs) = '|' :: (x ++ '|' :: rest) := by
    by_cases hnil : xs = []
    · exact ⟨[], by simp [Table.rowLine_eq, hnil]⟩
    · exact ⟨Text.join ['|'] xs ++ ['|'], by simp [Table.rowLine_eq, Text.join_cons _ x hnil]⟩
  rw [hrest]
  change (['-', '-'].isPrefixOf (x ++ '|' :: rest)) = false
  -- the bar after the first cell keeps a comment from starting in the second one
  match x with
  | [] => rfl
  | [a] => simp [List.isPrefixOf]
  | a :: b :: x => simpa [List.isPrefixOf] using hx

theorem IsTable.writable {t : Table} (ht : IsTable t) :
    t.Writable Keywords.default.separators where
  headers_ne_nil := ht.headers_ne_nil
  nodup := ht.nodup
  full := ht.full
  header_cells x hx :=
    ⟨(ht.headers.cells x hx).1, List.forall_mem_singleton.mpr (ht.headers.cells x hx).2.1⟩
  value_cells r hr x hx :=
    ⟨((ht.rows r hr).cells x hx).1, List.forall_mem_singleton.mpr ((ht.rows r hr).cells x hx).2.1⟩
  not_comment l hl := by
    rcases List.mem_cons.mp hl with rfl | hl
    · exact isComment_rowLine ht.headers_ne_nil ht.headers
    · obtain ⟨r, hr, rfl⟩ := List.mem_map.mp hl
      have hne : r ≠ [] := by
        rintro rfl
        have hfull := ht.full [] hr
        rw [List.length_nil, eq_comm, List.length_eq_zero_iff] at hfull
        exact ht.headers_ne_nil hfull
      exact isComment_rowLine hne (ht.rows r hr)

theorem reads_examples {s : Story} {sc : Scenario} {d : Draft}
    (hd : d.closeGivens = .ok ⟨s, .scenario, some { scenario := sc }⟩) {t : Table}
    (ht : t = {} ∨ IsTable t) :
    Reads d (examplesLines t) fun e => e.finish .default =
      .ok { s with scenarios := s.scenarios ++ [{ sc with examples := t }] } := by
  by_cases hnil : t = {}
  · subst hnil
    rw [examplesLines, if_pos rfl]
    refine .nil ?_
    rw [Draft.finish_eq, hd]
    rfl
  · have hwritable := (ht.resolve_left hnil).writable
    have hopen : Reads d [Keywords.default.literal .examples]
        (· = ⟨s, .examples, some { scenario := sc }⟩) := by
      refine .part (opens_literal rfl rfl) (literal_spec _).2.2 rfl rfl fun n => ⟨_, ?_, rfl⟩
      rw [hd]
      rfl
    have hlines : ∀ l ∈ t.toLines Keywords.default.separators, IsPlain l ∧ '\n' ∉ l := by
      rintro l hl
      rcases List.mem_cons.mp hl with rfl | hl
      · exact isPlain_rowLine (ht.resolve_left hnil).headers
      · obtain ⟨r, hr, rfl⟩ := List.mem_map.mp hl
        exact isPlain_rowLine ((ht.resolve_left hnil).rows r hr)
    have htable := Reads.plains (D := fun table => ⟨s, .examples, some { scenario := sc, table }⟩)
      (f := fun table l => table ++ [l]) (fun _ _ _ => rfl) hlines []
    rw [examplesLines, if_neg hnil]
    refine hopen.append ?_
    rintro _ rfl
    refine htable.mono ?_
    rintro _ rfl
    have hfold : (t.toLines Keywords.default.separators).foldl (fun table l => table ++ [l]) [] =
        t.toLines Keywords.default.separators := by
      rw [List.foldl_append_eq_append, ← List.flatMap_def, List.flatMap_singleton', List.nil_append]
    -- the end of the scenario reads the lines as a table
    have htable := Table.ofLines_toLines rfl rfl ⟨by decide, by decide⟩ hwritable
    have hne : (t.toLines Keywords.default.separators).isEmpty = false := rfl
    simp only [Draft.finish_eq, Draft.closeGivens, bind, Except.bind, Draft.finishScenario, hfold,
      hne, htable]
    rfl

theorem reads_scenario {s : Story} {d : Draft} (hd : d.finish .default = .ok s) {sc : Scenario}
    (hsc : IsScenario sc) :
    Reads d (scenarioLines sc) fun e =>
      e.finish .default = .ok { s with scenarios := s.scenarios ++ [sc] } := by
  have hopens : Opens (keyLine .scenario sc.title) .scenario sc.title :=
    opens_keyLine rfl rfl hsc.title.trimmed
  have hopen : Reads d [keyLine .scenario sc.title] (· = Draft.inScenario s sc.title) := by
    refine .opens hopens (single_keyLine _ hsc.title.single) fun n => ⟨_, ?_, rfl⟩
    rw [Draft.line_scenario _ hopens, hd]
    rfl
  rw [scenarioLines, List.append_assoc]
  refine hopen.append ?_
  rintro _ rfl
  refine (reads_scenarioGivens s sc.title hsc.givens).append fun d hd => ?_
  refine (reads_first_steps (takesSteps_scenario s ⟨sc.title, sc.givenStories, [], {}⟩) hd
    hsc.steps).append fun e he => ?_
  exact reads_examples he hsc.examples

theorem reads_scenarios {s : Story} {d : Draft} (hd : d.finish .default = .ok s)
    {scs : List Scenario} (hscs : ∀ sc ∈ scs, IsScenario sc) :
    Reads d (scs.flatMap scenarioLines) fun e =>
      e.finish .default = .ok { s with scenarios := s.scenarios ++ scs } := by
  induction scs generalizing s d with
  | nil => exact .nil (by rw [hd, List.append_nil])
  | cons sc scs ih =>
      obtain ⟨hsc, hrest⟩ := List.forall_mem_cons.mp hscs
      rw [List.flatMap_cons]
      refine (reads_scenario hd hsc).append fun e he => ?_
      have hmore := ih he hrest
      rwa [List.append_assoc, List.singleton_append] at hmore

/-! ## The whole story -/

theorem Between.finish {s : Story} {d : Draft} (h : Between s d) : d.finish .default = .ok s := by
  obtain ⟨p, hp⟩ := h
  rw [Draft.finish_eq, hp]
  rfl

/-- The lines of a story that can be written, from the first one on. -/
theorem reads_toLines {s : Story} (h : s.Writable) :
    Reads { story := { path := s.path } } s.toLines fun d => d.finish .default = .ok s := by
  have hdescription : Reads { story := { path := s.path } } (textLines s.description)
      (· = ⟨{ path := s.path, description := s.description }, .description, none⟩) :=
    reads_text (D := fun t => ⟨{ path := s.path, description := t }, .description, none⟩)
      (fun _ _ _ => rfl) h.description
  have hnarrative : Reads ⟨{ path := s.path, description := s.description }, .description, none⟩
      (s.narrative.elim [] narrativeLines) fun d =>
        ∃ p, (p = .description ∨ ∃ c, p = .narrative c) ∧
          d = ⟨{ path := s.path, description := s.description, narrative := s.narrative }, p, none⟩
      := by
    cases hn : s.narrative with
    | none => exact .nil ⟨.description, .inl rfl, rfl⟩
    | some n =>
        refine (reads_narrative rfl (h.narrative n hn)).mono ?_
        rintro _ ⟨c, rfl⟩
        exact ⟨.narrative c, .inr ⟨c, rfl⟩, rfl⟩
  rw [toLines, List.append_assoc, List.append_assoc, List.append_assoc]
  refine hdescription.append ?_
  rintro _ rfl
  refine hnarrative.append ?_
  rintro _ ⟨p, hp, rfl⟩
  refine (reads_storyGivens rfl hp h.givens).append fun d hd => ?_
  refine (reads_lifecycle rfl hd h.before h.after).append fun e he => ?_
  refine (reads_scenarios he.finish h.scenarios).mono fun f hf => ?_
  rw [hf, List.nil_append]

/-- **A story is read back from its text**, whichever of its parts are there. -/
theorem parse_render {s : Story} (h : s.Writable) : parse .default s.path s.render = .ok s := by
  have hreads := reads_toLines h
  -- a story without lines is an empty text, which has one blank line
  have hnumbered : numberedLines s.render = numbered 1 s.toLines := by
    by_cases hnil : s.toLines = []
    · rw [render, hnil]
      rfl
    · rw [numberedLines_eq, render, Text.lines_join hreads.single hnil]
  obtain ⟨d, hlines, hfinish⟩ := hreads.leads 1
  rw [parse_eq_ok_iff, hnumbered, hlines]
  exact ⟨rfl, hfinish⟩

/-- A story with a part of every kind, among them a cell that is empty. -/
theorem parse_render_calculator :
    let s : Story := {
      path := ['s']
      description := "Sums".toList
      narrative := some { asA := "user".toList, text := "by hand".toList }
      givenStories := [['a'], ['b']]
      lifecycle := { after := ["Then it is off\nat last".toList] }
      scenarios := [
        { title := "add".toList
          givenStories := [['c']]
          steps := ["!-- rows".toList, "When I add <n>".toList]
          examples := { headers := [['n'], ['m']], rows := [[['1'], []]] } },
        {}] }
    s.Writable ∧ s.render = ("Sums\nNarrative:\nby hand\nAs a: user\nGivenStories: a, b\n" ++
      "Lifecycle:\nAfter:\nThen it is off\nat last\n" ++
      "Scenario: add\nGivenStories: c\n!-- rows\nWhen I add <n>\nExamples:\n|n|m|\n|1||\n" ++
      "Scenario: ").toList ∧ parse .default s.path s.render = .ok s := by
  intro s
  have hs : s.Writable := by decide +kernel
  exact ⟨hs, by decide +kernel, parse_render hs⟩

end Storyline.Story
