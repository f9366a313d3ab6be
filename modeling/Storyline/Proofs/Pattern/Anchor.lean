import Storyline.Pattern.Basic
import Storyline.Proofs.Regex.Numbering
import Storyline.Proofs.Regex.Search

/-!
# Anchored expressions

A pattern that is written as a regular expression is pasted between `^(?:` and `)$`. The file says
when the result is the anchored expression: always, unless the expression has a closing bracket
outside all groups, which closes the group too early (`Stray`), or ends in a comment, which swallows
the bracket that should close it (`EndsInComment`).
-/

set_option autoImplicit false

namespace Storyline.Pattern

open Regex Regex.Reader

/-! ## Matches of an anchored expression -/

/-- The expression, made to match whole texts only. -/
def anchoredRegex (r : Regex) : Regex := seqOf [.assert .textStart, r, .assert .textEnd]

/-- An anchored expression matches whole texts only. -/
theorem spans_anchoredRegex {r : Regex} {pre w post : Text} {m : Marks} :
    Spans (anchoredRegex r) pre w post m ↔ pre = [] ∧ post = [] ∧ Spans r [] w [] m := by
  rw [anchoredRegex, spans_seqOf_cons]
  constructor
  · rintro ⟨u, v, m₁, m₂, rfl, rfl, hstart, hrest⟩
    cases hstart with
    | assert hbefore =>
    obtain ⟨v, u, m₂, m₃, rfl, rfl, hr, hend⟩ := spans_seqOf_cons.mp hrest
    cases hend with
    | assert hafter =>
    have hpre : pre = [] := by simpa [Assertion.holds] using hbefore
    have hpost : post = [] := by simpa [Assertion.holds] using hafter
    subst hpre hpost
    simpa using hr
  · rintro ⟨rfl, rfl, h⟩
    refine ⟨[], w, [], m, rfl, (List.append_nil m).symm, .assert rfl, ?_⟩
    exact spans_seqOf_cons.mpr ⟨w, [], m, [], (List.append_nil w).symm, rfl, h, .assert rfl⟩

theorem isMatch_anchoredRegex {r : Regex} {t : Text} :
    (anchoredRegex r).isMatch t = true ↔ r.Denotes t := by
  rw [isMatch_iff]
  constructor
  · rintro ⟨pre, w, post, m, rfl, h⟩
    obtain ⟨rfl, rfl, hr⟩ := spans_anchoredRegex.mp h
    rw [List.nil_append, List.append_nil]
    exact ⟨m, hr⟩
  · rintro ⟨m, hr⟩
    exact ⟨[], t, [], m, (List.append_nil t).symm, spans_anchoredRegex.mpr ⟨rfl, rfl, hr⟩⟩

theorem groupNames_anchoredRegex (r : Regex) : (anchoredRegex r).groupNames = r.groupNames := by
  have hgroups : (anchoredRegex r).groups = r.groups := by
    simp [anchoredRegex, groups_seqOf, Regex.groups]
  rw [groupNames, groupNames, groupCount, groupCount, hgroups]

/-! ## Expressions that do not stay inside the anchors -/

section

variable [ClassNames]

/-- Reading the expression comes to a closing bracket where no group is open. -/
def Stray (p : Text) : Prop :=
  ∃ s t r, Steps {} p s t ∧ s.flags.skip t = ')' :: r ∧ s.stack = []

/-- A closing bracket after the expression is taken for a part of it. -/
def EndsInComment (p : Text) : Prop :=
  (parse? p).isSome = true ∧ (parse? (p ++ [')'])).isSome = true

/-! ## Reading an anchored expression -/

/-- The group that is opened around the expression. -/
def anchorGroup : OpenGroup := ⟨none, {}, { pieces := [.plain (.assert .textStart)] }⟩

/-- Inside the anchors the reader starts anew. -/
theorem steps_anchored (p : Text) :
    Steps {} (anchored p) (({} : Reader).within anchorGroup) (p ++ ")$".toList) :=
  .step (c := '^') rfl rfl (.single (c := '(') rfl rfl)

/-- Between the anchors an expression is read as it is alone. -/
theorem steps_anchored_of_steps {p t : Text} {s : Reader} (h : Steps {} (p ++ ")$".toList) s t) :
    Steps {} (anchored p) (s.within anchorGroup) t :=
  (steps_anchored p).trans (h.within anchorGroup)

/-- A regular expression stays one between the anchors. -/
theorem parse?_anchored {p : Text} {r : Regex} (h : parse? p = some r) (hp : ¬ EndsInComment p) :
    parse? (anchored p) = some (anchoredRegex r) := by
  obtain ⟨s, t, hsteps, hend, hstack, rfl⟩ := exists_steps_of_parse? h
  rcases hsteps.extend_of_atEnd hend with hbracket | hcomment
  · obtain ⟨w, hw, hskip⟩ := hbracket ['$'] (by decide)
    have hclose : (s.within anchorGroup).step? ')' ['$'] = some ({ s with
        flags := {}
        current := { pieces := [.plain s.current.regex, .plain (.assert .textStart)] }
        stack := [] }, ['$']) := by
      obtain ⟨flags, current, stack, names, next⟩ := s
      subst hstack
      rfl
    have hanchor := (steps_anchored_of_steps hw).trans
      (.step hskip hclose (.single (c := '$') rfl rfl))
    rw [parse?_of_atEnd hanchor rfl]
    rfl
  · -- then the bracket alone would be swallowed as well
    obtain ⟨w, hw, hend'⟩ := hcomment [] (by decide)
    have hparse : parse? (p ++ [')']) = some s.current.regex := by
      rw [parse?_of_atEnd hw hend', finish?, hstack]
      rfl
    exact absurd ⟨by rw [h]; rfl, by rw [hparse]; rfl⟩ hp

/-- What the bracket completes leaves too little to close the group. -/
theorem parse?_anchored_of_suffix {p w : Text} {s : Reader}
    (h : Steps {} (anchored p) (s.within anchorGroup) w) (hw : w <:+ ['$']) :
    parse? (anchored p) = none :=
  parse?_of_within h fun hmem => absurd (hw.subset hmem) (by decide)

/-- Where a group is open at the end of the text, the bracket of the anchors closes it, and their
own group stays open. -/
theorem parse?_anchored_of_open {p t : Text} {s : Reader} (hsteps : Steps {} p s t)
    (hend : AtEnd s t) (hstack : s.stack ≠ []) : parse? (anchored p) = none := by
  have hv : '\n' ∉ ['$'] := by decide
  rcases hsteps.extend_of_atEnd hend with hbracket | hcomment
  · obtain ⟨w, hw, hskip⟩ := hbracket ['$'] hv
    obtain ⟨s', hclose⟩ := exists_closeGroup? hstack
    have hstep : (s.within anchorGroup).step? ')' ['$'] = some (s'.within anchorGroup, ['$']) :=
      step?_within_of_some anchorGroup (step?_close_of_some hclose _)
    exact parse?_anchored_of_suffix ((steps_anchored_of_steps hw).trans (.single hskip hstep))
      (List.suffix_refl _)
  · obtain ⟨w, hw, hend'⟩ := hcomment ['$'] hv
    rw [parse?_of_atEnd (steps_anchored_of_steps hw) hend', finish?_within]

/-- Where the reader is stuck at a character of the text, the bracket after the text does not help:
either it is stuck there again, or it takes the bracket for something else. -/
theorem parse?_anchored_of_stuck {p t r : Text} {c : Char} {s : Reader} (hsteps : Steps {} p s t)
    (hskip : s.flags.skip t = c :: r) (hc : c ≠ ')') (hstep : s.step? c r = none) :
    parse? (anchored p) = none := by
  have hv : '\n' ∉ ['$'] := by decide
  rcases hsteps.extend with hall | ⟨rfl, -⟩
  · have hanchor := steps_anchored_of_steps (hall ['$'] hv)
    have hskip' := Flags.skip_append hskip [')', '$']
    cases hstep' : s.step? c (r ++ [')', '$']) with
    | none =>
        refine parse?_of_stuck hanchor ⟨c, _, hskip', ?_⟩
        rw [step?_within s anchorGroup hc, hstep']
        rfl
    | some x =>
        obtain ⟨s', w⟩ := x
        have hnext := hanchor.trans (.single hskip' (step?_within_of_some anchorGroup hstep'))
        rcases (tight_step? s hc).fail hv hstep hstep' with hsuffix | hdangling
        · exact parse?_anchored_of_suffix hnext hsuffix
        · -- the brace that dangles is no repetition either
          obtain ⟨w, rfl⟩ : ∃ w', w = '\x7B' :: w' := ⟨_, hdangling.choose_spec.2⟩
          cases hcounted : s'.counted? w with
          | none =>
              refine parse?_of_stuck hnext ⟨'\x7B', w, Flags.skip_brace _ w, ?_⟩
              exact (counted?_within s' anchorGroup w).trans (by rw [hcounted]; rfl)
          | some x =>
              obtain ⟨s'', w'⟩ := x
              have hbrace := Flags.skip_brace (s'.within anchorGroup).flags w
              have hrest := step?_within_of_some (c := '\x7B') anchorGroup hcounted
              exact parse?_anchored_of_suffix (hnext.trans (.single hbrace hrest))
                (suffix_of_dangling hv hdangling hcounted)
  · rw [Flags.skip_nil] at hskip
    cases hskip

/-- A text that is no regular expression does not become one between the anchors. -/
theorem parse?_anchored_eq_none {p : Text} (h : parse? p = none) (hp : ¬ Stray p) :
    parse? (anchored p) = none := by
  obtain ⟨s, t, hsteps, hend | ⟨c, r, hskip, hstep⟩⟩ := exists_steps {} p
  · refine parse?_anchored_of_open hsteps hend fun hstack => ?_
    rw [parse?_of_atEnd hsteps hend, finish?, hstack] at h
    cases h
  · have hc : c ≠ ')' := by
      rintro rfl
      refine hp ⟨s, t, r, hsteps, hskip, ?_⟩
      by_contra hstack
      obtain ⟨s', hclose⟩ := exists_closeGroup? hstack
      rw [step?_close_of_some hclose] at hstep
      cases hstep
    exact parse?_anchored_of_stuck hsteps hskip hc hstep

theorem stuck_of_close {s : Reader} {t r : Text} (hskip : s.flags.skip t = ')' :: r)
    (hstack : s.stack = []) : Stuck s t := by
  refine ⟨')', r, hskip, ?_⟩
  obtain ⟨flags, current, stack, names, next⟩ := s
  subst hstack
  rfl

/-- A stray bracket is no part of a regular expression. -/
theorem Stray.parse?_eq_none {p : Text} (h : Stray p) : parse? p = none := by
  obtain ⟨s, t, r, hsteps, hskip, hstack⟩ := h
  exact parse?_of_stuck hsteps (stuck_of_close hskip hstack)

/-- An expression that ends in a comment is refused. -/
theorem ofRegex_of_endsInComment {p : Text} (h : EndsInComment p) : ofRegex p = .error .regex := by
  obtain ⟨r, hr⟩ := Option.isSome_iff_exists.mp h.1
  obtain ⟨s, t, hsteps, hend, hstack, -⟩ := exists_steps_of_parse? hr
  rcases hsteps.extend_of_atEnd hend with hbracket | hcomment
  · -- a bracket that is read is a stray one
    obtain ⟨w, hw, hskip⟩ := hbracket [] (by decide)
    have hnone := parse?_of_stuck hw (stuck_of_close hskip hstack)
    exact absurd h.2 (by simp [hnone])
  · obtain ⟨w, hw, hend'⟩ := hcomment ['$'] (by decide)
    have hanchored : parse? (anchored p) = none := by
      rw [parse?_of_atEnd (steps_anchored_of_steps hw) hend', finish?_within]
    simp only [ofRegex, hanchored]

/-! ## Patterns -/

/-- **A pattern that is written as a regular expression is that expression, for whole texts.** It is
accepted just if it is a regular expression, it matches the texts in the language of the expression,
and its parameters are the capture groups of the expression in the order of their brackets. This is
so whatever classes of characters can be asked for by name. -/
theorem ofRegex_anchors {p : Text} (hstray : ¬ Stray p) (hcomment : ¬ EndsInComment p) :
    ((∃ q, ofRegex p = .ok q) ↔ ∃ r, parse? p = some r) ∧
      ∀ q r, ofRegex p = .ok q → parse? p = some r →
        (∀ t, (q.isMatch t = true ↔ r.Denotes t) ∧
          ((q.captures t).isSome = true ↔ r.Denotes t)) ∧
        q.params = r.groupNames.map (fun name => ⟨name, none⟩) ∧
        (r.groups.map Prod.fst).Pairwise (· < ·) ∧
        ∀ i name, (i + 1, name) ∈ r.groups → q.params[i]? = some ⟨name, none⟩ := by
  have hregex {q : Pattern} {r : Regex} (hq : ofRegex p = .ok q) (hr : parse? p = some r) :
      q.regex = anchoredRegex r ∧ q.params = r.groupNames.map fun name => ⟨name, none⟩ := by
    simp only [ofRegex, parse?_anchored hr hcomment, groupNames_anchoredRegex] at hq
    cases hq
    exact ⟨rfl, rfl⟩
  refine ⟨⟨?_, ?_⟩, fun q r hq hr => ?_⟩
  · rintro ⟨q, hq⟩
    by_contra hnone
    have hp : parse? p = none := Option.eq_none_iff_forall_ne_some.mpr fun r hr => hnone ⟨r, hr⟩
    simp only [ofRegex, parse?_anchored_eq_none hp hstray] at hq
    cases hq
  · rintro ⟨r, hr⟩
    simp only [ofRegex, parse?_anchored hr hcomment]
    exact ⟨_, rfl⟩
  · obtain ⟨hexpression, hparams⟩ := hregex hq hr
    have hmatch (t : Text) : q.isMatch t = true ↔ r.Denotes t := by
      rw [isMatch, hexpression, isMatch_anchoredRegex]
    have hsorted := (parse?_numbered hr).1
    refine ⟨fun t => ⟨hmatch t, ?_⟩, hparams, hsorted, fun i name hi => ?_⟩
    · rw [captures, Option.isSome_map]
      exact hmatch t
    · rw [hparams, List.getElem?_map, getElem?_groupNames hsorted hi]
      rfl

end

/-- An expression with two branches, of which one has a group with a name. -/
theorem ofRegex_anchors_branches :
    ¬ Stray "(?P<n>a+)|b".toList ∧ ¬ EndsInComment "(?P<n>a+)|b".toList ∧
      ∃ q, ofRegex "(?P<n>a+)|b".toList = .ok q ∧ q.isMatch "aa".toList = true ∧
        q.params = [⟨some ['n'], none⟩] := by
  have hparse : parse? "(?P<n>a+)|b".toList =
      some (.alt (.group 1 (some ['n']) (.rep (.char (.single 'a')) 1 none true))
        (.char (.single 'b'))) := by decide +kernel
  have hcomment : ¬ EndsInComment "(?P<n>a+)|b".toList := by
    rintro ⟨-, h⟩
    revert h
    decide +kernel
  have hstray : ¬ Stray "(?P<n>a+)|b".toList := fun h => by
    rw [h.parse?_eq_none] at hparse
    cases hparse
  obtain ⟨hok, hall⟩ := ofRegex_anchors hstray hcomment
  obtain ⟨q, hq⟩ := hok.mpr ⟨_, hparse⟩
  obtain ⟨hmatch, hparams, -⟩ := hall q _ hq hparse
  refine ⟨hstray, hcomment, q, hq, (hmatch _).1.mpr ?_, hparams⟩
  exact ⟨_, .altLeft (.group
    (spans_rep_char.mpr ⟨by decide, List.all_eq_true.mp (by decide), rfl⟩))⟩

/-- A bracket that closes the group of the anchors makes a pattern of a text that is no regular
expression, and the pattern matches a text of which it describes the start only. -/
theorem ofRegex_stray :
    parse? "a)|(?:b".toList = none ∧
      ∃ q, ofRegex "a)|(?:b".toList = .ok q ∧ q.isMatch "a and more".toList = true := by
  have hparse : parse? (anchored "a)|(?:b".toList) =
      some (.alt (.seq (.assert .textStart) (.char (.single 'a')))
        (.seq (.char (.single 'b')) (.assert .textEnd))) := by decide +kernel
  have hmatch : Regex.isMatch (.alt (.seq (.assert .textStart) (.char (.single 'a')))
      (.seq (.char (.single 'b')) (.assert .textEnd))) "a and more".toList = true :=
    isMatch_iff.mpr ⟨[], ['a'], " and more".toList, [], rfl,
      .altLeft (.seq (u := []) (.assert rfl) (.char rfl _ _))⟩
  have hnone : parse? "a)|(?:b".toList = none := by decide +kernel
  cases hq : ofRegex "a)|(?:b".toList with
  | error e =>
      rw [ofRegex, hparse] at hq
      cases hq
  | ok q =>
      rw [ofRegex, hparse] at hq
      cases hq
      exact ⟨hnone, _, rfl, hmatch⟩

end Storyline.Pattern
