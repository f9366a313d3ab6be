import Mathlib.Data.List.Basic
import Storyline.Proofs.Step.Ranking

/-!
# The kind of each step

A step with a primary keyword is of that kind, and a continuation is of the kind of the last primary
step before it in its list (`Keywords.KindAfter`). Only the lines decide this: what is known after
some lines is the last primary keyword among them (`Matcher.foldl_remember`), whatever definitions
there are for them.

Hence lines that are no steps can be added, left out or moved without a change to any other line
(`Matcher.prepare_kinds`).
-/

set_option autoImplicit false

namespace Storyline

/-! ## The last primary keyword -/

namespace Keywords

variable (ks : Keywords)

/-- The line starts with a step keyword. -/
def isStep (line : Text) : Bool := (ks.splitStep line).isSome

/-- The kind that the line gives by itself: its keyword, if that is a primary one. -/
def primary? (line : Text) : Option StepKeyword :=
  ((ks.splitStep line).map Prod.fst).filter StepKeyword.isPrimary

/-- The last primary keyword that starts one of the lines. -/
def lastPrimary? (lines : List Text) : Option StepKeyword :=
  (lines.filterMap ks.primary?).getLast?

/-- The kind of a step with a keyword after the lines `before`. -/
inductive KindAfter (before : List Text) : StepKeyword → StepKeyword → Prop
  | primary {k : StepKeyword} (hk : k.isPrimary = true) : KindAfter before k k
  | continued {earlier between : List Text} {line : Text} {kind : StepKeyword}
      (hbefore : before = earlier ++ line :: between) (hline : ks.primary? line = some kind)
      (hbetween : ∀ l ∈ between, ks.primary? l = none) : KindAfter before .continuation kind
  | leading (hbefore : ∀ l ∈ before, ks.primary? l = none) : KindAfter before .continuation .given

variable {ks}

theorem primary?_of_not_isStep {line : Text} (h : ks.isStep line = false) :
    ks.primary? line = none := by
  rw [isStep, Option.isSome_eq_false_iff, Option.isNone_iff_eq_none] at h
  rw [primary?, h]
  rfl

theorem lastPrimary?_nil : ks.lastPrimary? [] = none := rfl

theorem lastPrimary?_cons (line : Text) (lines : List Text) :
    ks.lastPrimary? (line :: lines) = (ks.lastPrimary? lines).or (ks.primary? line) := by
  unfold lastPrimary?
  cases hl : ks.primary? line with
  | none => rw [List.filterMap_cons_none hl, Option.or_none]
  | some k =>
      rw [List.filterMap_cons_some hl, List.getLast?_cons]
      cases (lines.filterMap ks.primary?).getLast? <;> rfl

theorem lastPrimary?_eq_none {lines : List Text} :
    ks.lastPrimary? lines = none ↔ ∀ l ∈ lines, ks.primary? l = none := by
  rw [lastPrimary?, List.getLast?_eq_none_iff, List.filterMap_eq_nil_iff]

/-- After the last primary keyword there is none. -/
theorem lastPrimary?_eq_some {lines : List Text} {kind : StepKeyword} :
    ks.lastPrimary? lines = some kind ↔ ∃ earlier line between,
      lines = earlier ++ line :: between ∧ ks.primary? line = some kind ∧
        ∀ l ∈ between, ks.primary? l = none := by
  induction lines with
  | nil => simp [lastPrimary?_nil]
  | cons l ls ih =>
      rw [lastPrimary?_cons, Option.or_eq_some_iff, ih, lastPrimary?_eq_none]
      constructor
      · rintro (⟨earlier, line, between, rfl, hline, hbetween⟩ | ⟨hnone, hl⟩)
        · exact ⟨l :: earlier, line, between, rfl, hline, hbetween⟩
        · exact ⟨[], l, ls, rfl, hl, hnone⟩
      · rintro ⟨earlier, line, between, heq, hline, hbetween⟩
        cases earlier with
        | nil =>
            obtain ⟨rfl, rfl⟩ := List.cons.inj heq
            exact .inr ⟨hbetween, hline⟩
        | cons l' earlier =>
            obtain ⟨rfl, rfl⟩ := List.cons.inj heq
            exact .inl ⟨earlier, line, between, rfl, hline, hbetween⟩

/-- **The kind of a step is one**, and it is told by the last primary keyword before it. -/
theorem kindAfter_iff {before : List Text} {k kind : StepKeyword} :
    ks.KindAfter before k kind ↔ k.resolve (ks.lastPrimary? before) = kind := by
  constructor
  · intro h
    cases h with
    | primary hk => rw [StepKeyword.resolve, if_pos hk]
    | continued hbefore hline hbetween =>
        rw [lastPrimary?_eq_some.mpr ⟨_, _, _, hbefore, hline, hbetween⟩]
        rfl
    | leading hbefore =>
        rw [lastPrimary?_eq_none.mpr hbefore]
        rfl
  · rintro rfl
    by_cases hk : k.isPrimary = true
    · rw [StepKeyword.resolve, if_pos hk]
      exact .primary hk
    · obtain rfl : k = .continuation := by
        cases k with
        | continuation => rfl
        | _ => exact absurd rfl hk
      cases hlast : ks.lastPrimary? before with
      | none => exact .leading (lastPrimary?_eq_none.mp hlast)
      | some kind =>
          obtain ⟨_, _, _, hbefore, hline, hbetween⟩ := lastPrimary?_eq_some.mp hlast
          exact .continued hbefore hline hbetween

end Keywords

/-! ## What is remembered of a list -/

namespace Matcher

variable {κ σ : Type} (m : Matcher κ σ)

/-- One line more: its own keyword is remembered if it is a primary one. -/
theorem remember_eq (prev : Option StepKeyword) (line : Text) :
    m.remember prev line = (m.keywords.primary? line).or prev := by
  unfold remember Keywords.primary?
  cases m.keywords.splitStep line with
  | none => rfl
  | some kt =>
      show (if kt.1.isPrimary then some kt.1 else prev) = ((some kt.1).filter _).or prev
      rw [Option.filter_some]
      split <;> rfl

/-- **After some lines the last primary keyword among them is remembered**, whether or not there was
a definition for its line. -/
theorem foldl_remember (prev : Option StepKeyword) (lines : List Text) :
    lines.foldl m.remember prev = (m.keywords.lastPrimary? lines).or prev := by
  induction lines generalizing prev with
  | nil => rfl
  | cons l ls ih =>
      rw [List.foldl_cons, ih, remember_eq, Keywords.lastPrimary?_cons, Option.or_assoc]

theorem foldl_remember_none (lines : List Text) :
    lines.foldl m.remember none = m.keywords.lastPrimary? lines := by
  rw [foldl_remember, Option.or_none]

/-! ## The steps of a list -/

theorem length_prepareAfter (prev : Option StepKeyword) (lines : List Text) :
    (m.prepareAfter prev lines).length = lines.length := by
  rw [← List.length_map Step.line, map_line_prepareAfter]

/-- A list is prepared part by part: all that matters of a part is what is remembered of it. -/
theorem prepareAfter_append (prev : Option StepKeyword) (first second : List Text) :
    m.prepareAfter prev (first ++ second) =
      m.prepareAfter prev first ++ m.prepareAfter (first.foldl m.remember prev) second := by
  induction first generalizing prev with
  | nil => rfl
  | cons l ls ih => exact congrArg ((m.matchStep prev l).1 :: ·) (ih (m.remember prev l))

/-- The step at a position is that of its line after the last primary keyword before it. -/
theorem getElem?_prepare {lines : List Text} {i : Nat} {line : Text} (h : lines[i]? = some line) :
    (m.prepare lines)[i]? =
      some (m.step line (m.find (m.keywords.lastPrimary? (lines.take i)) line)) := by
  obtain ⟨hi, rfl⟩ := List.getElem?_eq_some_iff.mp h
  have hlen : (m.prepareAfter none (lines.take i)).length = i := by
    rw [length_prepareAfter, List.length_take]
    omega
  have hcut : lines = lines.take i ++ lines[i] :: lines.drop (i + 1) := by simp
  have hprepare : m.prepare lines = m.prepareAfter none (lines.take i) ++
      m.prepareAfter (m.keywords.lastPrimary? (lines.take i)) (lines[i] :: lines.drop (i + 1)) := by
    calc m.prepare lines
        = m.prepareAfter none (lines.take i ++ lines[i] :: lines.drop (i + 1)) :=
          congrArg (m.prepareAfter none) hcut
      _ = _ := by rw [prepareAfter_append, foldl_remember_none]
  rw [hprepare, List.getElem?_append_right (by omega), hlen, Nat.sub_self]
  rfl

theorem find_of_splitStep {line t : Text} {k : StepKeyword}
    (h : m.keywords.splitStep line = some (k, t)) (prev : Option StepKeyword) :
    m.find prev line = .ofWinners (m.winners (k.resolve prev) t) := by
  unfold Keywords.splitStep at h
  unfold find
  split at h
  · next k' t' hc =>
      obtain ⟨rfl, rfl⟩ := Prod.mk.inj (Option.some.inj h)
      rw [hc]
  · cases h

/-- What is found for a line that is no step does not depend on the lines before it. -/
theorem find_of_not_isStep {line : Text} (h : m.keywords.isStep line = false)
    (prev : Option StepKeyword) :
    m.find prev line = if m.keywords.isIgnorable line then .ignorable else .noKeyword := by
  unfold Keywords.isStep Keywords.splitStep at h
  unfold find Keywords.isIgnorable
  cases hc : m.keywords.classify line with
  | none => rfl
  | some kt =>
      obtain ⟨k, t⟩ := kt
      rw [hc] at h
      cases k with
      | step k => cases h
      | _ => rfl

theorem remember_of_not_isStep {line : Text} (h : m.keywords.isStep line = false)
    (prev : Option StepKeyword) : m.remember prev line = prev := by
  rw [remember_eq, Keywords.primary?_of_not_isStep h, Option.none_or]

/-- **The lines that are no steps can be left out** before the steps are prepared or after. -/
theorem filter_prepareAfter (prev : Option StepKeyword) (lines : List Text) :
    (m.prepareAfter prev lines).filter (fun s => m.keywords.isStep s.line) =
      m.prepareAfter prev (lines.filter m.keywords.isStep) := by
  induction lines generalizing prev with
  | nil => rfl
  | cons l ls ih =>
      show ((m.matchStep prev l).1 :: m.prepareAfter (m.remember prev l) ls).filter _ = _
      rw [List.filter_cons, List.filter_cons]
      show (if m.keywords.isStep l then _ else _) = _
      cases hl : m.keywords.isStep l with
      | true => exact congrArg ((m.matchStep prev l).1 :: ·) (ih (m.remember prev l))
      | false =>
          -- nothing is remembered of the line
          rw [m.remember_of_not_isStep hl]
          exact ih prev

/-- A line that is no step gets a step of its own between those of the other lines. -/
theorem prepare_insert {line : Text} (h : m.keywords.isStep line = false)
    (before after : List Text) :
    ∃ ss s ss', ss.length = before.length ∧ m.prepare (before ++ after) = ss ++ ss' ∧
      m.prepare (before ++ line :: after) = ss ++ s :: ss' := by
  refine ⟨m.prepareAfter none before, m.step line (m.find (before.foldl m.remember none) line),
    m.prepareAfter (before.foldl m.remember none) after, ?_, ?_, ?_⟩
  · exact m.length_prepareAfter none before
  · exact m.prepareAfter_append none before after
  · rw [prepare, m.prepareAfter_append none before (line :: after)]
    show _ ++ _ :: m.prepareAfter (m.remember (before.foldl m.remember none) line) after = _
    rw [m.remember_of_not_isStep h]

/-- **How the steps of a list are matched.** Each step line is matched with its own keyword if that
is a primary one; a continuation takes that of the last primary step line before it, whatever there
was for that line, and a leading one is a given. Every other line is a comment or pending wherever
it stands, and whether, where and how often such lines stand in a list changes nothing for the
lines around them. -/
theorem prepare_kinds :
    (∀ (lines : List Text) (i : Nat) (line : Text), lines[i]? = some line →
      (∀ k t, m.keywords.splitStep line = some (k, t) →
        ∃ kind b, m.keywords.KindAfter (lines.take i) k kind ∧
          (m.prepare lines)[i]? = some ⟨line, b⟩ ∧ m.Decides line kind t b) ∧
      (m.keywords.isStep line = false →
        (m.prepare lines)[i]? =
          some ⟨line, if m.keywords.isIgnorable line then .ignorable else .pending⟩)) ∧
    (∀ (lines lines' : List Text),
      lines.filter m.keywords.isStep = lines'.filter m.keywords.isStep →
      (m.prepare lines).filter (fun s => m.keywords.isStep s.line) =
        (m.prepare lines').filter (fun s => m.keywords.isStep s.line)) ∧
    (∀ (before after : List Text) (line : Text), m.keywords.isStep line = false →
      ∃ ss s ss', ss.length = before.length ∧ m.prepare (before ++ after) = ss ++ ss' ∧
        m.prepare (before ++ line :: after) = ss ++ s :: ss') := by
  refine ⟨?_, ?_, ?_⟩
  · intro lines i line h
    have hstep := m.getElem?_prepare h
    constructor
    · intro k t hk
      refine ⟨_, _, Keywords.kindAfter_iff.mpr rfl, ?_, m.decides_winners line _ t⟩
      rw [hstep, m.find_of_splitStep hk]
      rfl
    · intro hno
      rw [hstep, m.find_of_not_isStep hno]
      cases m.keywords.isIgnorable line <;> rfl
  · intro lines lines' h
    calc (m.prepare lines).filter (fun s => m.keywords.isStep s.line)
        = m.prepare (lines.filter m.keywords.isStep) := m.filter_prepareAfter none lines
      _ = m.prepare (lines'.filter m.keywords.isStep) := by rw [h]
      _ = (m.prepare lines').filter (fun s => m.keywords.isStep s.line) :=
          (m.filter_prepareAfter none lines').symm
  · intro before after line hno
    exact m.prepare_insert hno before after

/-- A continuation is an action after an action that nothing is declared for and a comment. -/
theorem prepare_kinds_past_comment :
    let m : Matcher Unit Unit := ⟨[], .default, .empty⟩
    let lines := ["Given a".toList, "When b".toList, "!-- Then c".toList, "And d".toList]
    ∃ b, m.keywords.KindAfter (lines.take 3) .continuation .action ∧
      (m.prepare lines)[3]? = some ⟨"And d".toList, b⟩ ∧
      m.Decides "And d".toList .action "d".toList b := by
  intro m lines
  obtain ⟨kind, b, hkind, hstep, hdecides⟩ :=
    (m.prepare_kinds.1 lines 3 "And d".toList rfl).1 .continuation "d".toList (by decide)
  have haction : kind = .action := by
    rw [← Keywords.kindAfter_iff.mp hkind]
    decide
  subst haction
  exact ⟨b, hkind, hstep, hdecides⟩

end Matcher

end Storyline
