import Mathlib.Tactic.SplitIfs
import Storyline.Proofs.Regex.Tight

/-!
# Escapes before a closing bracket

What stands in braces and what follows a backslash is read by tight readers, with one exception: an
escaped `b` before an opening brace fails at the end of the text, where it may be the start of a
special word boundary, but not before a closing bracket (`DanglingAssertion`).
-/

set_option autoImplicit false

namespace Storyline.Regex

/-! ## Braces -/

/-- A character in braces is skipped, ends the braces, or is kept. -/
theorem Flags.braced_cons (f : Flags) (b : Bool) (c : Char) :
    (∃ b', ∀ t, f.braced b (c :: t) = f.braced b' t) ∨
      (∀ t, f.braced b (c :: t) = some ([], t)) ∨
      ∀ t, f.braced b (c :: t) = (f.braced false t).map fun x => (c :: x.1, x.2) := by
  cases b with
  | true => exact .inl ⟨c != '\n', fun t => rfl⟩
  | false =>
      simp only [braced]
      split
      · exact .inl ⟨false, fun t => rfl⟩
      · split
        · exact .inl ⟨true, fun t => rfl⟩
        · split
          · exact .inr (.inl fun t => rfl)
          · exact .inr (.inr fun t => rfl)

/-- Braces take at least the closing brace. -/
theorem Flags.braced_tail {f : Flags} {b : Bool} {t ds w : Text}
    (h : f.braced b t = some (ds, w)) : w <:+ t.tail := by
  induction t generalizing b ds with
  | nil => cases b <;> cases h
  | cons c t ih =>
      rcases f.braced_cons b c with ⟨b', hc⟩ | hc | hc
      · rw [hc] at h
        exact (ih h).trans (List.tail_suffix t)
      · rw [hc] at h
        cases h
        exact List.suffix_refl _
      · rw [hc] at h
        obtain ⟨⟨ds', w'⟩, hx, heq⟩ := Option.map_eq_some_iff.mp h
        cases heq
        exact (ih hx).trans (List.tail_suffix t)

/-- Braces that are closed stay so. -/
theorem Flags.braced_append {f : Flags} {b : Bool} {t ds w : Text}
    (h : f.braced b t = some (ds, w)) (u : Text) : f.braced b (t ++ u) = some (ds, w ++ u) := by
  induction t generalizing b ds with
  | nil => cases b <;> cases h
  | cons c t ih =>
      rw [List.cons_append]
      rcases f.braced_cons b c with ⟨b', hc⟩ | hc | hc
      · rw [hc] at h ⊢
        exact ih h
      · rw [hc] at h ⊢
        cases h
        rfl
      · rw [hc] at h ⊢
        obtain ⟨⟨ds', w'⟩, hx, heq⟩ := Option.map_eq_some_iff.mp h
        cases heq
        rw [ih hx]
        rfl

/-- Braces that are open are closed by what follows. -/
theorem Flags.braced_tail_of_none {f : Flags} {b : Bool} {t u ds w : Text}
    (h : f.braced b t = none) (h' : f.braced b (t ++ u) = some (ds, w)) : w <:+ u.tail := by
  induction t generalizing b ds with
  | nil => exact braced_tail h'
  | cons c t ih =>
      rw [List.cons_append] at h'
      rcases f.braced_cons b c with ⟨b', hc⟩ | hc | hc
      · rw [hc] at h h'
        exact ih h h'
      · rw [hc] at h
        cases h
      · rw [hc] at h h'
        obtain ⟨⟨ds', w'⟩, hx, heq⟩ := Option.map_eq_some_iff.mp h'
        cases heq
        exact ih (Option.map_eq_none_iff.mp h) hx

theorem tight_braced (f : Flags) : Tight Never (f.braced false) where
  suffix h := (Flags.braced_tail h).trans (List.tail_suffix _)
  extend h := .inl fun _ _ => Flags.braced_append h _
  fail _ h h' := .inl (Flags.braced_tail_of_none h h')

/-! ## Escapes -/

theorem tight_fixedHex (f : Flags) (k : Nat) : Tight Never (fixedHex f k) := by
  induction k with
  | zero => exact .pure []
  | succ k ih =>
      refine .skipCons f (fun t ht => ?_) (fun t c t' ht => ?_) fun c =>
        ih.map? (fun ds => some (c :: ds))
      · simp only [fixedHex, ht]
      · simp only [fixedHex, ht]
        exact Option.map_eq_bind

theorem tight_hexChar (f : Flags) (width : Nat) : Tight Never (hexChar f width) := by
  -- the character that the digits name, if they name one
  let named (ds : Text) : Option Atom :=
    if ds.isEmpty then none else (hexNumber? ds).bind fun n => (charOfCode? n).map .literal
  let numbered (ds : Text) : Option Atom := (hexNumber? ds).bind fun n =>
    if width = 2 ∧ 0x7F < n ∧ !f.unicode then none else (charOfCode? n).map .literal
  have hbraced : Tight Never fun t => (f.braced false t).bind fun x => (named x.1).map (·, x.2) :=
    (tight_braced f).map? named
  have hfixed : Tight Never fun t =>
      (fixedHex f width t).bind fun x => (numbered x.1).map (·, x.2) :=
    (tight_fixedHex f width).map? numbered
  refine .skipBranch (a := '\x7B') (by decide) f (fun t t' ht => ?_) (fun t ht => ?_) hbraced hfixed
  · simp only [hexChar, ht]
    refine Option.bind_congr fun x _ => ?_
    by_cases hx : x.1 = []
    · simp [named, hx]
    · cases hn : hexNumber? x.1 with
      | none => simp [named, hx, hn]
      | some n => cases hc : charOfCode? n <;> simp [named, hx, hn, hc]
  · unfold hexChar
    split
    · next t' ht' => exact absurd (by rw [ht']; rfl) ht
    · refine Option.bind_congr fun x _ => ?_
      cases hn : hexNumber? x.1 with
      | none => simp [numbered, hn]
      | some n =>
          by_cases hbyte : width = 2 ∧ 0x7F < n ∧ f.unicode = false
          · simp [numbered, hn, hbyte]
          · cases hc : charOfCode? n <;> simp [numbered, hn, hc, hbyte]

theorem tight_propertyClass [ClassNames] (f : Flags) (negated : Bool) :
    Tight Never (propertyClass f negated) := by
  let class? (s : Option CharSet) : Option Atom :=
    s.bind fun s => (propertyClass.set? f negated s).map .set
  have hclass (s : Option CharSet) (t : Text) : (s.bind fun s =>
      (propertyClass.set? f negated s).bind fun s => some (Atom.set s, t)) =
      (class? s).map (·, t) := by
    cases s with
    | none => rfl
    | some s => cases hs : propertyClass.set? f negated s <;> simp [class?, hs]
  refine .skipCons (Q := fun c => if c = '\\' then fun _ => none
    else if c = '\x7B' then fun t =>
      (f.braced false t).bind fun x => (class? (ClassNames.named? x.1)).map (·, x.2)
    else fun t => (class? (ClassNames.letter? c)).map (·, t)) f (fun t ht => ?_)
    (fun t c t' ht => ?_) fun c => ?_
  · rw [propertyClass, ht]
  · rw [propertyClass, ht]
    by_cases hbackslash : c = '\\'
    · simp [hbackslash]
    · by_cases hbrace : c = '\x7B'
      · subst hbrace
        exact Option.bind_congr fun x _ => hclass _ _
      · simpa [hbackslash, hbrace] using hclass _ _
  · split
    · exact .none
    · split
      · exact (tight_braced f).map? fun name => class? (ClassNames.named? name)
      · exact .constant _

/-- What is left is an opening brace that the bracket follows, up to blanks and comments. -/
def Dangling (f : Flags) (v w : Text) : Prop := ∃ t, f.skip t = [] ∧ w = '\x7B' :: (t ++ ')' :: v)

/-- An assertion was read, and what is left dangles. -/
def DanglingAssertion (f : Flags) (a : Atom) (v w : Text) : Prop :=
  (∃ b, a = .assertion b) ∧ Dangling f v w

/-- A special word boundary, after its opening brace. -/
def specialBoundary (f : Flags) (t : Text) : Option (Atom × Text) :=
  (f.braced false t).bind fun x =>
    ((wordBoundary.special? f (String.ofList x.1)).map .assertion).map (·, x.2)

theorem tight_specialBoundary (f : Flags) : Tight Never (specialBoundary f) :=
  (tight_braced f).map? fun name =>
    (wordBoundary.special? f (String.ofList name)).map Atom.assertion

theorem wordBoundary_brace_of_nil {f : Flags} {t : Text} (ht : f.skip t = []) :
    wordBoundary f ('\x7B' :: t) = none := by
  simp only [wordBoundary, ht]

theorem wordBoundary_brace_of_cons {f : Flags} {t r : Text} {c : Char} (ht : f.skip t = c :: r) :
    wordBoundary f ('\x7B' :: t) = if c.isAlpha || c = '-' then specialBoundary f t
      else some (.assertion (.wordBoundary f.wordSet), '\x7B' :: t) := by
  simp only [wordBoundary, ht]
  congr 1
  refine Option.bind_congr fun x _ => ?_
  cases wordBoundary.special? f (String.ofList x.1) <;> rfl

theorem wordBoundary_of_head? (f : Flags) {t : Text} (ht : t.head? ≠ some '\x7B') :
    wordBoundary f t = some (.assertion (.wordBoundary f.wordSet), t) := by
  unfold wordBoundary
  split
  · exact absurd rfl ht
  · rfl

theorem tight_wordBoundary (f : Flags) : Tight (DanglingAssertion f) (wordBoundary f) := by
  have hspecial : Tight (DanglingAssertion f) (specialBoundary f) :=
    (tight_specialBoundary f).weaken
  have hplain (t : Text) : (∃ t', t = '\x7B' :: t') ∨ t.head? ≠ some '\x7B' ∧
      ∀ v, (t ++ ')' :: v).head? ≠ some '\x7B' := by
    cases t with
    | nil => exact .inr ⟨nofun, fun v => by simp⟩
    | cons c t => by_cases hc : c = '\x7B' <;> simp [hc]
  refine ⟨fun {t a w} h => ?_, fun {t a w} h => ?_, fun {t v a w} hv h h' => ?_⟩
  · rcases hplain t with ⟨t, rfl⟩ | ⟨ht, -⟩
    · cases ht : f.skip t with
      | nil => rw [wordBoundary_brace_of_nil ht] at h; cases h
      | cons c r =>
          rw [wordBoundary_brace_of_cons ht] at h
          split at h
          · exact (hspecial.suffix h).trans (List.suffix_cons _ t)
          · cases h
            exact List.suffix_refl _
    · rw [wordBoundary_of_head? f ht] at h
      cases h
      exact List.suffix_refl _
  · rcases hplain t with ⟨t, rfl⟩ | ⟨ht, ht'⟩
    · cases ht : f.skip t with
      | nil => rw [wordBoundary_brace_of_nil ht] at h; cases h
      | cons c r =>
          have ht' (v : Text) := Flags.skip_append ht (')' :: v)
          simp only [List.cons_append, fun v => wordBoundary_brace_of_cons (ht' v)]
          rw [wordBoundary_brace_of_cons ht] at h
          split at h
          · next hc =>
              simp only [if_pos hc]
              exact hspecial.extend h
          · next hc =>
              simp only [if_neg hc]
              cases h
              exact .inl fun v _ => rfl
    · rw [wordBoundary_of_head? f ht] at h
      cases h
      exact .inl fun v _ => wordBoundary_of_head? f (ht' v)
  · rcases hplain t with ⟨t, rfl⟩ | ⟨ht, -⟩
    · cases ht : f.skip t with
      | nil =>
          rcases Flags.skip_append_of_nil ht with hall | hall
          · -- a closing bracket starts no special word boundary
            rw [List.cons_append, wordBoundary_brace_of_cons (hall v), if_neg (by decide)] at h'
            cases h'
            exact .inr ⟨⟨_, rfl⟩, t, ht, rfl⟩
          · rw [List.cons_append, wordBoundary_brace_of_nil (hall v hv)] at h'
            cases h'
      | cons c r =>
          rw [List.cons_append, wordBoundary_brace_of_cons (Flags.skip_append ht _)] at h'
          rw [wordBoundary_brace_of_cons ht] at h
          split at h
          · next hc =>
              rw [if_pos hc] at h'
              exact hspecial.fail hv h h'
          · cases h
    · rw [wordBoundary_of_head? f ht] at h
      cases h

/-- What a character stands for after a backslash, if it needs nothing of what follows. -/
def simpleEscape? (f : Flags) (c : Char) : Option Atom :=
  if "dswDSW".toList.contains c then (f.perl? c).map .set
  else match control? c, assertion? f c with
    | some c, _ => some (.literal c)
    | _, some a => some (.assertion a)
    | none, none => if c.toNat < 0x80 && !c.isAlphanum then some (.literal c) else none

theorem readEscape_cons [ClassNames] (f : Flags) (c : Char) (t : Text) : readEscape f (c :: t) =
    if c = 'x' then hexChar f 2 t else if c = 'u' then hexChar f 4 t
    else if c = 'U' then hexChar f 8 t else if c = 'p' then propertyClass f false t
    else if c = 'P' then propertyClass f true t else if c = 'b' then wordBoundary f t
    else (simpleEscape? f c).map (·, t) := by
  by_cases hx : c = 'x'
  · rw [hx]; rfl
  by_cases hu : c = 'u'
  · rw [hu]; rfl
  by_cases hU : c = 'U'
  · rw [hU]; rfl
  by_cases hp : c = 'p'
  · rw [hp]; rfl
  by_cases hP : c = 'P'
  · rw [hP]; rfl
  by_cases hb : c = 'b'
  · rw [hb]; rfl
  simp only [if_neg, hx, hu, hU, hp, hP, hb, not_false_iff]
  rw [readEscape, simpleEscape?]
  · split
    · rw [Option.map_map]
      rfl
    · cases hcontrol : control? c with
      | some c' => rfl
      | none =>
          cases hassertion : assertion? f c with
          | some a => rfl
          | none =>
              simp only
              split <;> rfl
  all_goals assumption

theorem tight_readEscape [ClassNames] (f : Flags) : Tight (DanglingAssertion f) (readEscape f) := by
  refine .cons rfl (readEscape_cons f) fun c => ?_
  split_ifs
  · exact (tight_hexChar f 2).weaken
  · exact (tight_hexChar f 4).weaken
  · exact (tight_hexChar f 8).weaken
  · exact (tight_propertyClass f false).weaken
  · exact (tight_propertyClass f true).weaken
  · exact tight_wordBoundary f
  · exact .constant _

end Storyline.Regex
