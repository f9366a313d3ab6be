import Storyline.Proofs.Keyword.Longest
import Storyline.Proofs.Story.Sections
import Storyline.Proofs.Table.Reading

/-!
# What the lines of a story say

Which part of a story a line belongs to can be said without reading the story: it depends on the
keyword of the line and on the part that the line before it belongs to (`Part.share`). `Stores` says
that a story holds in each of its parts exactly what the lines of that part say, in the order of the
lines. One more line for a part is one more line in it, and leaves the other parts as they are.
-/

set_option autoImplicit false

namespace Storyline.Story

/-! ## Where lines belong -/

/-- A part of a story. Scenarios are counted from 0. -/
inductive Part
  | description
  | narrative (c : Clause)
  | givens
  /-- Without a block there is no place for text. -/
  | lifecycle (b : Option Block)
  | title (i : Nat)
  | scenarioGivens (i : Nat)
  | steps (i : Nat)
  | table (i : Nat)
deriving DecidableEq, Repr

/-- What a line does in its part. -/
inductive Role
  /-- It opens the part with a keyword, which is not part of the text. -/
  | marker
  /-- It starts a step, keyword included. -/
  | step
  /-- It goes on with what is being said. -/
  | plain
deriving DecidableEq, Repr

/-- What a line has to say, and where. -/
structure Share where
  part : Part
  role : Role
  content : Text
deriving DecidableEq, Repr

namespace Part

/-- The scenario that the part belongs to. -/
def scenario? : Part → Option Nat
  | title i => some i
  | scenarioGivens i => some i
  | steps i => some i
  | table i => some i
  | _ => none

def isNarrative : Part → Bool
  | narrative _ => true
  | _ => false

def isLifecycle : Part → Bool
  | lifecycle _ => true
  | _ => false

/-- The keyword has a meaning after a line of the part: those of the clauses have one only in the
narrative, and those of the blocks only in the lifecycle. -/
def admits (p : Part) : Keyword → Bool
  | .inOrderTo => p.isNarrative
  | .asA => p.isNarrative
  | .iWantTo => p.isNarrative
  | .before => p.isLifecycle
  | .after => p.isLifecycle
  | _ => true

/-- The part that a keyword opens after a line of the part `p`. A step that precedes all scenarios
opens one, and the steps of the lifecycle stay in their block. -/
def opened (p : Part) : Keyword → Part
  | .narrative => narrative .text
  | .inOrderTo => narrative .inOrderTo
  | .asA => narrative .asA
  | .iWantTo => narrative .iWantTo
  | .givenStories => p.scenario?.elim givens scenarioGivens
  | .lifecycle => lifecycle none
  | .before => lifecycle (some .before)
  | .after => lifecycle (some .after)
  | .scenario => title (p.scenario?.elim 0 (· + 1))
  | .examples => table (p.scenario?.getD 0)
  | _ => if p.isLifecycle then p else steps (p.scenario?.getD 0)

/-- What a keyword does at the start of a line. -/
def roleOf : Keyword → Role
  | .step _ => .step
  | .ignorable => .step
  | _ => .marker

theorem of_clause {k : Keyword} {c : Clause} (h : clause? k = some c) (p : Part) :
    p.admits k = p.isNarrative ∧ p.opened k = narrative c ∧ roleOf k = .marker := by
  cases k <;> cases h <;> exact ⟨rfl, rfl, rfl⟩

theorem of_block {k : Keyword} {b : Block} (h : block? k = some b) (p : Part) :
    p.admits k = p.isLifecycle ∧ p.opened k = lifecycle (some b) ∧ roleOf k = .marker := by
  cases k <;> cases h <;> exact ⟨rfl, rfl, rfl⟩

/-- All other keywords have the same meaning everywhere. -/
theorem admits_of_none {k : Keyword} (hc : clause? k = none) (hb : block? k = none) (p : Part) :
    p.admits k = true := by
  cases k with
  | inOrderTo => cases hc
  | asA => cases hc
  | iWantTo => cases hc
  | before => cases hb
  | after => cases hb
  | _ => rfl

/-- What a line says that comes after a line of the part `p`. -/
def share (ks : Keywords) (p : Part) (line : Text) : Share :=
  match ks.classify line with
  | none => ⟨p, .plain, line⟩
  | some (k, _) =>
    if p.admits k then
      ⟨p.opened k, roleOf k,
        if roleOf k = .marker then Text.trim (line.drop (ks.literal k).length) else line⟩
    else ⟨p, .plain, line⟩

/-- What a line may say after a line of the part `p`. Of the markers that fit, the one with the
longest literal counts, if it has a meaning there. -/
inductive Says (ks : Keywords) (p : Part) (line : Text) : Share → Prop
  | plain (h : ∀ k, ks.Longest k line → p.admits k = false) : Says ks p line ⟨p, .plain, line⟩
  | step {k : Keyword} (h : ks.Longest k line) (hk : p.admits k = true)
      (hrole : roleOf k = .step) : Says ks p line ⟨p.opened k, .step, line⟩
  /-- What follows the marker is said. -/
  | marker {k : Keyword} (h : ks.Longest k line) (hk : p.admits k = true)
      (hrole : roleOf k = .marker) :
      Says ks p line ⟨p.opened k, .marker, Text.trim (line.drop (ks.literal k).length)⟩

theorem roleOf_ne_plain (k : Keyword) : roleOf k ≠ .plain := by
  cases k <;> simp [roleOf]

/-- In a valid table of keywords a line says one thing. -/
theorem says_share {ks : Keywords} (hks : ks.Valid) (p : Part) (line : Text) :
    p.Says ks line (p.share ks line) := by
  cases hclass : ks.classify line with
  | none =>
      simp only [share, hclass]
      exact .plain fun k hk => absurd hk.fits (hks.classify_eq_none_iff.mp hclass k hk.marker)
  | some found =>
      obtain ⟨k, rest⟩ := found
      have hlongest := (hks.longest_of_classify hclass).1
      cases hadmits : p.admits k with
      | false =>
          simp only [share, hclass, hadmits, Bool.false_eq_true, if_false]
          exact .plain fun j hj => hj.unique hks hlongest ▸ hadmits
      | true =>
          simp only [share, hclass, hadmits, if_true]
          cases hrole : roleOf k with
          | marker => exact .marker hlongest hadmits hrole
          | step => exact .step hlongest hadmits hrole
          | plain => exact absurd hrole (roleOf_ne_plain k)

end Part

/-- What the lines say that come after a line of the part `p`. -/
def sharesFrom (ks : Keywords) (p : Part) : List Text → List Share
  | [] => []
  | l :: ls => p.share ks l :: sharesFrom ks (p.share ks l).part ls

/-- The lines say one thing after the other, each in the part where the one before it left off. -/
inductive Tells (ks : Keywords) : (p : Part) → (lines : List Text) → List Share → Prop
  | nil {p : Part} : Tells ks p [] []
  | cons {p : Part} {line : Text} {lines : List Text} {sh : Share} {ss : List Share}
      (h : p.Says ks line sh) (hrest : Tells ks sh.part lines ss) :
      Tells ks p (line :: lines) (sh :: ss)

theorem tells_sharesFrom {ks : Keywords} (hks : ks.Valid) (p : Part) (lines : List Text) :
    Tells ks p lines (sharesFrom ks p lines) := by
  induction lines generalizing p with
  | nil => exact .nil
  | cons line lines ih => exact .cons (p.says_share hks line) (ih _)

/-- What the lines of a text say. A text starts with the description. -/
def shares (ks : Keywords) (t : Text) : List Share := sharesFrom ks .description (contentLines t)

/-! ## What a story holds -/

/-- What is said in a part, in order, without the lines that say nothing. -/
def said (p : Part) (ss : List Share) : List Text :=
  ((ss.filter fun s => s.part = p).map Share.content).filter (· ≠ [])

/-- The lines of a part that do something, in order. -/
def linesOf (r : Role → Bool) (p : Part) (ss : List Share) : List Text :=
  (ss.filter fun s => s.part = p && r s.role).map Share.content

/-- The first line of a text. -/
def firstLine (t : Text) : Text := t.takeWhile (· ≠ '\n')

/-- The steps are made of the lines of the part, and each starts where a line starts a step. What
opens the part is no line of a step. -/
structure MadeOf (steps : List Text) (p : Part) (ss : List Share) : Prop where
  lines : steps.flatMap Text.lines = linesOf (· ≠ .marker) p ss
  starts : steps.map firstLine = linesOf (· = .step) p ss

/-- What a clause of the narrative says. -/
def Clause.of (n : Narrative) : Clause → Text
  | .text => n.text
  | .inOrderTo => n.inOrderTo
  | .asA => n.asA
  | .iWantTo => n.iWantTo

/-- What stands between the lines of a clause. -/
def Clause.joiner : Clause → Text
  | .text => ['\n']
  | _ => [' ']

/-- The steps of a block of the lifecycle. -/
def Block.steps (l : Lifecycle) : Block → List Text
  | .before => l.before
  | .after => l.after

/-- The lifecycle with other steps in one of its blocks. -/
def Block.replace (l : Lifecycle) (steps : List Text) : Block → Lifecycle
  | .before => { l with before := steps }
  | .after => { l with after := steps }

theorem Clause.of_addTo_self (n : Narrative) (t : Text) (c : Clause) :
    Clause.of (addTo n t c) c = append c.joiner (Clause.of n c) t := by
  cases c <;> rfl

theorem Clause.of_addTo_of_ne {c c' : Clause} (h : c ≠ c') (n : Narrative) (t : Text) :
    Clause.of (addTo n t c) c' = Clause.of n c' := by
  cases c <;> cases c' <;> simp [Clause.of, addTo] at h ⊢

theorem Block.steps_replace_self (l : Lifecycle) (steps : List Text) (b : Block) :
    Block.steps (Block.replace l steps b) b = steps := by
  cases b <;> rfl

theorem Block.steps_replace_of_ne {b b' : Block} (h : b ≠ b') (l : Lifecycle)
    (steps : List Text) : Block.steps (Block.replace l steps b) b' = Block.steps l b' := by
  cases b <;> cases b' <;> simp [Block.steps, Block.replace] at h ⊢

/-- The table holds the cells of the lines, line by line. Only comments are left out. -/
def Tabulates (seps : Separators) (lines : List Text) (t : Table) : Prop :=
  ∃ content, Table.Content seps lines content ∧ Table.ComesTo seps content (.ok t)

/-- Scenario number `i` holds what is said in its parts, its table aside. -/
structure Fills (i : Nat) (ss : List Share) (sc : Scenario) : Prop where
  title : sc.title = Text.join [' '] (said (.title i) ss)
  givenStories : sc.givenStories = (said (.scenarioGivens i) ss).flatMap Text.listed
  steps : MadeOf sc.steps (.steps i) ss

/-- The story holds what is said, part by part and in the order of the lines. -/
structure Stores (ks : Keywords) (ss : List Share) (s : Story) : Prop where
  description : s.description = Text.join ['\n'] (said .description ss)
  narrative : ∀ c, s.narrative.elim [] (Clause.of · c) =
    Text.join c.joiner (said (.narrative c) ss)
  givenStories : s.givenStories = (said .givens ss).flatMap Text.listed
  lifecycle : ∀ b, MadeOf (Block.steps s.lifecycle b) (.lifecycle (some b)) ss
  /-- Nothing but keywords stands in the lifecycle outside its blocks. -/
  outside : linesOf (· ≠ .marker) (.lifecycle none) ss = []
  scenario : ∀ i sc, s.scenarios[i]? = some sc →
    Fills i ss sc ∧ Tabulates ks.separators (said (.table i) ss) sc.examples

/-- What is said in a scenario is said in one of the first `n`. -/
def Covers (n : Nat) (ss : List Share) : Prop :=
  ∀ sh ∈ ss, ∀ i, sh.part.scenario? = some i → i < n

/-! ## One more line -/

section Concat

variable {p : Part} {ss : List Share} {sh : Share}

theorem said_concat_of_ne (h : sh.part ≠ p) : said p (ss ++ [sh]) = said p ss := by
  simp [said, h]

theorem said_concat_self (p : Part) (r : Role) (t : Text) :
    said p (ss ++ [⟨p, r, t⟩]) = said p ss ++ [t].filter (· ≠ []) := by
  simp [said]

theorem ne_nil_of_mem_said {t : Text} (h : t ∈ said p ss) : t ≠ [] := by
  simpa using (List.mem_filter.mp h).2

theorem linesOf_concat_of_ne (r : Role → Bool) (h : sh.part ≠ p) :
    linesOf r p (ss ++ [sh]) = linesOf r p ss := by
  simp [linesOf, h]

theorem linesOf_concat_self (r : Role → Bool) (p : Part) (ρ : Role) (t : Text) :
    linesOf r p (ss ++ [⟨p, ρ, t⟩]) = linesOf r p ss ++ if r ρ then [t] else [] := by
  cases h : r ρ <;> simp [linesOf, h]

/-- More text for a part whose lines are joined. -/
theorem append_said (joiner : Text) (p : Part) (ss : List Share) (r : Role) (t : Text) :
    append joiner (Text.join joiner (said p ss)) t =
      Text.join joiner (said p (ss ++ [⟨p, r, t⟩])) := by
  rw [said_concat_self, append_join joiner fun _ => ne_nil_of_mem_said]

/-- More paths for a list of given stories. -/
theorem listed_said (p : Part) (ss : List Share) (r : Role) (t : Text) :
    (said p ss).flatMap Text.listed ++ Text.entries t =
      (said p (ss ++ [⟨p, r, t⟩])).flatMap Text.listed := by
  rw [Text.entries_eq_listed, said_concat_self, List.flatMap_append]
  by_cases ht : t = []
  · subst ht
    rfl
  · simp [ht]

end Concat

/-! ## Steps -/

theorem firstLine_of_not_mem {t : Text} (h : '\n' ∉ t) : firstLine t = t := by
  have hall : ∀ c ∈ t, decide (c ≠ '\n') = true := fun c hc => by
    simpa using fun hn : c = '\n' => h (hn ▸ hc)
  rw [firstLine, ← List.append_nil t, List.takeWhile_append_of_pos hall]
  rfl

/-- What follows a line feed does not change the first line. -/
theorem firstLine_append (s t : Text) : firstLine (s ++ '\n' :: t) = firstLine s := by
  induction s with
  | nil => rfl
  | cons c s ih =>
      rw [firstLine, firstLine] at *
      rw [List.cons_append, List.takeWhile_cons, List.takeWhile_cons, ih]

namespace MadeOf

variable {steps : List Text} {p : Part} {ss : List Share}

theorem frame (h : MadeOf steps p ss) {sh : Share} (hp : sh.part ≠ p) :
    MadeOf steps p (ss ++ [sh]) where
  lines := by rw [linesOf_concat_of_ne _ hp, h.lines]
  starts := by rw [linesOf_concat_of_ne _ hp, h.starts]

/-- The line that opens the part adds nothing. -/
theorem marker (h : MadeOf steps p ss) (t : Text) : MadeOf steps p (ss ++ [⟨p, .marker, t⟩]) where
  lines := by
    rw [linesOf_concat_self, h.lines]
    exact (List.append_nil _).symm
  starts := by
    rw [linesOf_concat_self, h.starts]
    exact (List.append_nil _).symm

theorem start (h : MadeOf steps p ss) {line : Text} (hl : '\n' ∉ line) :
    MadeOf (steps ++ [line]) p (ss ++ [⟨p, .step, line⟩]) where
  lines := by
    rw [linesOf_concat_self, ← h.lines, List.flatMap_append, List.flatMap_singleton,
      Text.lines_of_not_mem hl]
    rfl
  starts := by
    rw [linesOf_concat_self, ← h.starts, List.map_append, List.map_singleton,
      firstLine_of_not_mem hl]
    rfl

theorem continued (h : MadeOf steps p ss) {line : Text} (hl : '\n' ∉ line) {steps' : List Text}
    (hs : continueLast? steps line = some steps') :
    MadeOf steps' p (ss ++ [⟨p, .plain, line⟩]) := by
  obtain ⟨init, s, rfl, rfl⟩ := continueLast?_eq_some_iff.mp hs
  constructor
  · rw [linesOf_concat_self, ← h.lines, List.flatMap_append, List.flatMap_append,
      List.flatMap_singleton, List.flatMap_singleton, Text.lines_append,
      Text.lines_of_not_mem hl, ← List.append_assoc]
    rfl
  · rw [linesOf_concat_self, ← h.starts, List.map_append, List.map_append, List.map_singleton,
      List.map_singleton, firstLine_append]
    exact (List.append_nil _).symm

end MadeOf

/-! ## Scenarios -/

namespace Fills

variable {i : Nat} {ss : List Share} {sc : Scenario}

/-- A line of another part leaves the scenario as it is. -/
theorem frame (h : Fills i ss sc) {sh : Share} (hi : sh.part.scenario? ≠ some i) :
    Fills i (ss ++ [sh]) sc := by
  have other : ∀ p : Part, p.scenario? = some i → sh.part ≠ p := fun p hp he => hi (he ▸ hp)
  exact {
    title := by rw [said_concat_of_ne (other _ rfl), h.title]
    givenStories := by rw [said_concat_of_ne (other _ rfl), h.givenStories]
    steps := h.steps.frame (other _ rfl) }

/-- Nothing is said in a scenario before it opens. -/
theorem fresh (hc : Covers i ss) : Fills i ss {} ∧ said (.table i) ss = [] := by
  have nothing : ∀ p : Part, p.scenario? = some i → ∀ sh ∈ ss, ¬ sh.part = p := by
    intro p hp sh hsh he
    exact Nat.lt_irrefl i (hc sh hsh i (he ▸ hp))
  have hsaid : ∀ p : Part, p.scenario? = some i → said p ss = [] := by
    intro p hp
    have hf : (ss.filter fun s => s.part = p) = [] := by simpa using nothing p hp
    rw [said, hf]
    rfl
  have hlines : ∀ r, linesOf r (.steps i) ss = [] := by
    intro r
    have hf : (ss.filter fun s => s.part = .steps i && r s.role) = [] := by
      simpa using fun sh hsh he => absurd he (nothing (.steps i) rfl sh hsh)
    rw [linesOf, hf]
    rfl
  refine ⟨⟨?_, ?_, ?_, ?_⟩, hsaid _ rfl⟩
  · rw [hsaid _ rfl]
    rfl
  · rw [hsaid _ rfl]
    rfl
  · rw [hlines]
    rfl
  · rw [hlines]
    rfl

theorem entitle (h : Fills i ss sc) (r : Role) (t : Text) :
    Fills i (ss ++ [⟨.title i, r, t⟩]) { sc with title := append [' '] sc.title t } where
  title := by rw [← append_said, h.title]
  givenStories := by rw [said_concat_of_ne (by simp), ← h.givenStories]
  steps := h.steps.frame (by simp)

theorem give (h : Fills i ss sc) (r : Role) (t : Text) :
    Fills i (ss ++ [⟨.scenarioGivens i, r, t⟩])
      { sc with givenStories := sc.givenStories ++ Text.entries t } where
  title := by rw [said_concat_of_ne (by simp), ← h.title]
  givenStories := by rw [← listed_said, h.givenStories]
  steps := h.steps.frame (by simp)

theorem start (h : Fills i ss sc) {line : Text} (hl : '\n' ∉ line) :
    Fills i (ss ++ [⟨.steps i, .step, line⟩]) { sc with steps := sc.steps ++ [line] } where
  title := by rw [said_concat_of_ne (by simp), ← h.title]
  givenStories := by rw [said_concat_of_ne (by simp), ← h.givenStories]
  steps := h.steps.start hl

theorem continued (h : Fills i ss sc) {line : Text} (hl : '\n' ∉ line) {steps : List Text}
    (hs : continueLast? sc.steps line = some steps) :
    Fills i (ss ++ [⟨.steps i, .plain, line⟩]) { sc with steps } where
  title := by rw [said_concat_of_ne (by simp), ← h.title]
  givenStories := by rw [said_concat_of_ne (by simp), ← h.givenStories]
  steps := h.steps.continued hl hs

/-- A line of the table leaves the rest of the scenario as it is. -/
theorem tabulate (h : Fills i ss sc) (r : Role) (t : Text) :
    Fills i (ss ++ [⟨.table i, r, t⟩]) sc where
  title := by rw [said_concat_of_ne (by simp), ← h.title]
  givenStories := by rw [said_concat_of_ne (by simp), ← h.givenStories]
  steps := h.steps.frame (by simp)

end Fills

theorem Covers.concat {n m : Nat} {ss : List Share} (h : Covers n ss) (hnm : n ≤ m) {sh : Share}
    (hsh : ∀ i, sh.part.scenario? = some i → i < m) : Covers m (ss ++ [sh]) := by
  intro sh' hmem i hi
  rcases List.mem_append.mp hmem with hmem | hmem
  · exact Nat.lt_of_lt_of_le (h sh' hmem i hi) hnm
  · rw [List.mem_singleton.mp hmem] at hi
    exact hsh i hi

/-! ## The story around the open scenario -/

namespace Stores

variable {ks : Keywords} {ss : List Share} {s : Story}

/-- A line of a scenario that is not closed yet leaves the story as it is. -/
theorem frame (h : Stores ks ss s) {sh : Share} {i : Nat} (hi : sh.part.scenario? = some i)
    (hn : s.scenarios.length ≤ i) : Stores ks (ss ++ [sh]) s := by
  have other : ∀ p : Part, p.scenario? ≠ some i → sh.part ≠ p := fun p hp he => hp (he ▸ hi)
  refine ⟨?_, fun c => ?_, ?_, fun b => ?_, ?_, fun j sc hj => ?_⟩
  · rw [said_concat_of_ne (other _ (by simp [Part.scenario?])), h.description]
  · rw [said_concat_of_ne (other _ (by simp [Part.scenario?])), h.narrative c]
  · rw [said_concat_of_ne (other _ (by simp [Part.scenario?])), h.givenStories]
  · exact (h.lifecycle b).frame (other _ (by simp [Part.scenario?]))
  · rw [linesOf_concat_of_ne _ (other _ (by simp [Part.scenario?])), h.outside]
  · obtain ⟨hf, ht⟩ := h.scenario j sc hj
    have hlt : j < s.scenarios.length := (List.getElem?_eq_some_iff.mp hj).1
    have hne : (some i : Option Nat) ≠ some j := fun he => by
      rw [Option.some.injEq] at he
      omega
    refine ⟨hf.frame (hi ▸ hne), ?_⟩
    rw [said_concat_of_ne (other _ (by simpa [Part.scenario?] using hne.symm))]
    exact ht

/-- A line outside the scenarios leaves them as they are. -/
theorem scenario_frame (h : Stores ks ss s) {sh : Share} (hsh : sh.part.scenario? = none) (i : Nat)
    (sc : Scenario) (hi : s.scenarios[i]? = some sc) :
    Fills i (ss ++ [sh]) sc ∧
      Tabulates ks.separators (said (.table i) (ss ++ [sh])) sc.examples := by
  obtain ⟨hf, ht⟩ := h.scenario i sc hi
  refine ⟨hf.frame (by simp [hsh]), ?_⟩
  rw [said_concat_of_ne fun he => by simp [he, Part.scenario?] at hsh]
  exact ht

theorem describe (h : Stores ks ss s) (r : Role) (t : Text) :
    Stores ks (ss ++ [⟨.description, r, t⟩])
      { s with description := append ['\n'] s.description t } where
  description := by rw [← append_said, h.description]
  narrative c := by rw [said_concat_of_ne (by simp), ← h.narrative c]
  givenStories := by rw [said_concat_of_ne (by simp), ← h.givenStories]
  lifecycle b := (h.lifecycle b).frame (by simp)
  outside := by rw [linesOf_concat_of_ne _ (by simp), h.outside]
  scenario := h.scenario_frame rfl

/-- More text for a clause. A narrative that is just being opened has no text. -/
theorem narrate (h : Stores ks ss s) (n : Narrative)
    (hn : ∀ c, Clause.of n c = s.narrative.elim [] (Clause.of · c)) (c : Clause) (r : Role)
    (t : Text) :
    Stores ks (ss ++ [⟨.narrative c, r, t⟩]) { s with narrative := some (addTo n t c) } where
  description := by rw [said_concat_of_ne (by simp), ← h.description]
  narrative c' := by
    rw [Option.elim_some]
    by_cases hc : c = c'
    · subst hc
      rw [Clause.of_addTo_self, hn, h.narrative, append_said]
    · -- the other clauses stay as they are
      rw [Clause.of_addTo_of_ne hc, hn, h.narrative, said_concat_of_ne (by simpa using hc)]
  givenStories := by rw [said_concat_of_ne (by simp), ← h.givenStories]
  lifecycle b := (h.lifecycle b).frame (by simp)
  outside := by rw [linesOf_concat_of_ne _ (by simp), h.outside]
  scenario := h.scenario_frame rfl

theorem give (h : Stores ks ss s) (r : Role) (t : Text) :
    Stores ks (ss ++ [⟨.givens, r, t⟩])
      { s with givenStories := s.givenStories ++ Text.entries t } where
  description := by rw [said_concat_of_ne (by simp), ← h.description]
  narrative c := by rw [said_concat_of_ne (by simp), ← h.narrative c]
  givenStories := by rw [← listed_said, h.givenStories]
  lifecycle b := (h.lifecycle b).frame (by simp)
  outside := by rw [linesOf_concat_of_ne _ (by simp), h.outside]
  scenario := h.scenario_frame rfl

/-- A line that opens the lifecycle or one of its blocks. -/
theorem cycleMarker (h : Stores ks ss s) (b : Option Block) (t : Text) :
    Stores ks (ss ++ [⟨.lifecycle b, .marker, t⟩]) s where
  description := by rw [said_concat_of_ne (by simp), ← h.description]
  narrative c := by rw [said_concat_of_ne (by simp), ← h.narrative c]
  givenStories := by rw [said_concat_of_ne (by simp), ← h.givenStories]
  lifecycle b' := by
    by_cases hb : b = some b'
    · rw [hb]
      exact (h.lifecycle b').marker t
    · exact (h.lifecycle b').frame (by simpa using hb)
  outside := by
    by_cases hb : b = none
    · rw [hb, linesOf_concat_self, h.outside]
      rfl
    · rw [linesOf_concat_of_ne _ (by simpa using hb), h.outside]
  scenario := h.scenario_frame rfl

/-- A line of a step in a block. -/
theorem cycle (h : Stores ks ss s) {b : Block} {r : Role} {t : Text} {steps : List Text}
    (hs : MadeOf steps (.lifecycle (some b)) (ss ++ [⟨.lifecycle (some b), r, t⟩])) :
    Stores ks (ss ++ [⟨.lifecycle (some b), r, t⟩])
      { s with lifecycle := Block.replace s.lifecycle steps b } where
  description := by rw [said_concat_of_ne (by simp), ← h.description]
  narrative c := by rw [said_concat_of_ne (by simp), ← h.narrative c]
  givenStories := by rw [said_concat_of_ne (by simp), ← h.givenStories]
  lifecycle b' := by
    by_cases hb : b = b'
    · subst hb
      rw [Block.steps_replace_self]
      exact hs
    · rw [Block.steps_replace_of_ne hb]
      exact (h.lifecycle b').frame (by simpa using hb)
  outside := by rw [linesOf_concat_of_ne _ (by simp), h.outside]
  scenario := h.scenario_frame rfl

end Stores

end Storyline.Story
