import Storyline.Regex.Parse

/-!
# Readers before a closing bracket

A regular expression is made to match whole texts by pasting it between brackets. Whether the
closing bracket then closes what it is meant to close depends on what the readers of the expression
do at its end. `Tight` says what holds of all of them but two: the bracket changes nothing that they
have read completely, and they take it only where they would otherwise find the text too short.
What follows the bracket stays on the same line, so that a comment goes on to its end.
-/

set_option autoImplicit false

namespace Storyline.Regex

open Unicode (isBlank)

/-! ## Blanks and comments -/

namespace Flags

theorem skipBlanks_true_cons (c : Char) (t : Text) :
    skipBlanks true (c :: t) = skipBlanks (c != '\n') t := rfl

theorem skipBlanks_false_cons (c : Char) (t : Text) :
    skipBlanks false (c :: t) = if isBlank c then skipBlanks false t
      else if c = '#' then skipBlanks true t else c :: t := rfl

theorem skipBlanks_suffix (b : Bool) (t : Text) : skipBlanks b t <:+ t := by
  induction t generalizing b with
  | nil => cases b <;> exact List.suffix_refl _
  | cons c t ih =>
      cases b with
      | true => exact (ih _).trans (List.suffix_cons c t)
      | false =>
          rw [skipBlanks_false_cons]
          split
          · exact (ih _).trans (List.suffix_cons c t)
          · split
            · exact (ih _).trans (List.suffix_cons c t)
            · exact List.suffix_refl _

theorem skip_suffix (f : Flags) (t : Text) : f.skip t <:+ t := by
  unfold skip
  split
  · exact skipBlanks_suffix false t
  · exact List.suffix_refl t

/-- Without the flag for them, blanks and comments count. -/
theorem skip_of_not_extended {f : Flags} (hf : f.extended = false) (t : Text) : f.skip t = t := by
  rw [skip, hf]
  rfl

@[simp] theorem skip_nil (f : Flags) : f.skip [] = [] := by
  unfold skip
  split <;> rfl

/-- An opening brace is no blank. -/
@[simp] theorem skip_brace (f : Flags) (t : Text) : f.skip ('\x7B' :: t) = '\x7B' :: t := by
  unfold skip
  split <;> rfl

/-- A character that counts is found whatever follows it. -/
theorem skipBlanks_append {b : Bool} {t r : Text} {c : Char} (h : skipBlanks b t = c :: r)
    (u : Text) : skipBlanks b (t ++ u) = c :: (r ++ u) := by
  induction t generalizing b with
  | nil => cases b <;> cases h
  | cons a t ih =>
      cases b with
      | true => exact ih h
      | false =>
          rw [List.cons_append, skipBlanks_false_cons]
          rw [skipBlanks_false_cons] at h
          split at h
          · next ha => rw [if_pos ha, ih h]
          · next ha =>
              rw [if_neg ha]
              split at h
              · next ha' => rw [if_pos ha', ih h]
              · next ha' =>
                  rw [if_neg ha']
                  cases h
                  rfl

theorem skip_append {f : Flags} {t r : Text} {c : Char} (h : f.skip t = c :: r) (u : Text) :
    f.skip (t ++ u) = c :: (r ++ u) := by
  unfold skip at h ⊢
  split at h
  · next hx => rw [if_pos hx, skipBlanks_append h]
  · next hx => rw [if_neg hx, h, List.cons_append]

/-- A comment goes on to the end of the line. -/
theorem skipBlanks_comment {t : Text} (h : '\n' ∉ t) : skipBlanks true t = [] := by
  induction t with
  | nil => rfl
  | cons c t ih =>
      have hc : (c != '\n') = true := by
        simpa using fun heq : c = '\n' => h (heq ▸ List.mem_cons_self)
      rw [skipBlanks_true_cons, hc]
      exact ih fun hmem => h (List.mem_cons_of_mem c hmem)

/-- If nothing in a text counts, then a closing bracket after it counts, or else it belongs to a
comment. -/
theorem skipBlanks_append_of_nil {b : Bool} {t : Text} (h : skipBlanks b t = []) :
    (∀ v, skipBlanks b (t ++ ')' :: v) = ')' :: v) ∨
      ∀ v, '\n' ∉ v → skipBlanks b (t ++ ')' :: v) = [] := by
  induction t generalizing b with
  | nil =>
      cases b with
      | false => exact .inl fun v => rfl
      | true => exact .inr fun v hv => (skipBlanks_comment hv : skipBlanks true v = [])
  | cons a t ih =>
      cases b with
      | true => exact ih h
      | false =>
          simp only [List.cons_append, skipBlanks_false_cons a] at h ⊢
          split at h
          · next ha =>
              simp only [if_pos ha]
              exact ih h
          · next ha =>
              simp only [if_neg ha]
              split at h
              · next ha' =>
                  simp only [if_pos ha']
                  exact ih h
              · cases h

theorem skip_append_of_nil {f : Flags} {t : Text} (h : f.skip t = []) :
    (∀ v, f.skip (t ++ ')' :: v) = ')' :: v) ∨ ∀ v, '\n' ∉ v → f.skip (t ++ ')' :: v) = [] := by
  unfold skip at h ⊢
  split at h
  · next hx =>
      simp only [if_pos hx]
      exact skipBlanks_append_of_nil h
  · next hx =>
      simp only [if_neg hx, h]
      exact .inl fun v => rfl

end Flags

/-! ## Tight readers -/

/-- The reader takes from the start of a text. A closing bracket after the text and the end of the
line `v` do not change what it reads to the end, and where it fails it can succeed only by taking
the bracket, or in the way that `E` describes: with this result, this `v` and this rest. -/
structure Tight {α : Type} (E : α → Text → Text → Prop) (R : Text → Option (α × Text)) : Prop where
  suffix : ∀ {t a w}, R t = some (a, w) → w <:+ t
  /-- If nothing is left, then the bracket may be in a comment at the end. -/
  extend : ∀ {t a w}, R t = some (a, w) →
    (∀ v, '\n' ∉ v → R (t ++ ')' :: v) = some (a, w ++ ')' :: v)) ∨
      (w = [] ∧ ∀ v, '\n' ∉ v → R (t ++ ')' :: v) = some (a, []))
  fail : ∀ {t v a w}, '\n' ∉ v → R t = none → R (t ++ ')' :: v) = some (a, w) → w <:+ v ∨ E a v w

/-- No exception. -/
def Never {α : Type} : α → Text → Text → Prop := fun _ _ _ => False

/-- One character that may come next is taken and leads to `A`; anything else is left to `B`. -/
def branch {α : Type} (a : Char) (A B : Text → Option (α × Text)) (t : Text) : Option (α × Text) :=
  if t.head? = some a then A t.tail else B t

/-- The first character decides what is read. -/
def onCons {α : Type} (Q : Char → Text → Option (α × Text)) : Text → Option (α × Text)
  | [] => none
  | c :: t => Q c t

section

variable {α : Type} {a : Char} {A B : Text → Option (α × Text)}

theorem branch_cons (t : Text) : branch a A B (a :: t) = A t := if_pos rfl

theorem branch_of_head? {t : Text} (ht : t.head? ≠ some a) : branch a A B t = B t := if_neg ht

end

namespace Tight

variable {α β : Type} {E : α → Text → Text → Prop} {E' : β → Text → Text → Prop}

theorem weaken {R : Text → Option (α × Text)} (h : Tight Never R) : Tight E R where
  suffix := h.suffix
  extend := h.extend
  fail hv hr hr' := .inl ((h.fail hv hr hr').resolve_right id)

theorem none : Tight E fun _ : Text => (Option.none : Option (α × Text)) where
  suffix h := by cases h
  extend h := by cases h
  fail _ _ h := by cases h

theorem pure (a : α) : Tight E fun t : Text => some (a, t) where
  suffix h := by cases h; exact List.suffix_refl _
  extend h := by cases h; exact .inl fun v _ => rfl
  fail _ h := by cases h

/-- Nothing is read, and the result does not depend on the text. -/
theorem constant (o : Option α) : Tight E fun t : Text => o.map (·, t) := by
  cases o with
  | none => exact .none
  | some a => exact .pure a

theorem bind {R : Text → Option (α × Text)} {Q : α → Text → Option (β × Text)} (hR : Tight E R)
    (hQ : ∀ a, Tight E' (Q a))
    (hE : ∀ {a v w b w'}, E a v w → Q a w = some (b, w') → w' <:+ v ∨ E' b v w') :
    Tight E' fun t => (R t).bind fun x => Q x.1 x.2 where
  suffix {t b w} h := by
    obtain ⟨⟨a, t'⟩, hr, hq⟩ := Option.bind_eq_some_iff.mp h
    exact ((hQ a).suffix hq).trans (hR.suffix hr)
  extend {t b w} h := by
    obtain ⟨⟨a, t'⟩, hr, hq⟩ := Option.bind_eq_some_iff.mp h
    rcases hR.extend hr with hr' | ⟨rfl, hr'⟩
    · refine ((hQ a).extend hq).imp (fun hq' v hv => ?_) (fun hq' => ⟨hq'.1, fun v hv => ?_⟩)
      · rw [hr' v hv, Option.bind_some, hq' v hv]
      · rw [hr' v hv, Option.bind_some, hq'.2 v hv]
    · have hw : w = [] := List.suffix_nil.mp ((hQ a).suffix hq)
      subst hw
      refine .inr ⟨rfl, fun v hv => ?_⟩
      rw [hr' v hv]
      exact hq
  fail {t v b w} hv h h' := by
    obtain ⟨⟨a, t'⟩, hr, hq⟩ := Option.bind_eq_some_iff.mp h'
    cases hrt : R t with
    | none =>
        rcases hR.fail hv hrt hr with hsuffix | hexc
        · exact .inl (((hQ a).suffix hq).trans hsuffix)
        · exact hE hexc hq
    | some x =>
        obtain ⟨a', t''⟩ := x
        rw [hrt] at h
        rcases hR.extend hrt with hr' | ⟨rfl, hr'⟩
        · rw [hr' v hv] at hr
          cases hr
          exact (hQ _).fail hv h hq
        · -- the bracket is in a comment, so that the rest is read at the end of the text as well
          rw [hr' v hv] at hr
          cases hr
          exact absurd (h.symm.trans hq) nofun

theorem bind_never {R : Text → Option (α × Text)} {Q : α → Text → Option (β × Text)}
    (hR : Tight Never R) (hQ : ∀ a, Tight E' (Q a)) :
    Tight E' fun t => (R t).bind fun x => Q x.1 x.2 :=
  hR.bind hQ fun hnever _ => hnever.elim

/-- A reader whose result is checked or changed. -/
theorem map? {R : Text → Option (α × Text)} (hR : Tight Never R) (k : α → Option β) :
    Tight E' fun t => (R t).bind fun x => (k x.1).map (·, x.2) :=
  hR.bind_never fun a => .constant (k a)

/-- The next character decides. -/
theorem cons {R : Text → Option (α × Text)} {Q : Char → Text → Option (α × Text)}
    (hnil : R [] = Option.none) (hcons : ∀ c t, R (c :: t) = Q c t) (hQ : ∀ c, Tight E (Q c)) :
    Tight E R where
  suffix {t a w} h := by
    cases t with
    | nil => rw [hnil] at h; cases h
    | cons c t =>
        rw [hcons] at h
        exact ((hQ c).suffix h).trans (List.suffix_cons c t)
  extend {t a w} h := by
    cases t with
    | nil => rw [hnil] at h; cases h
    | cons c t =>
        rw [hcons] at h
        simp only [List.cons_append, hcons]
        exact (hQ c).extend h
  fail {t v a w} hv h h' := by
    cases t with
    | nil =>
        rw [List.nil_append, hcons] at h'
        exact .inl ((hQ _).suffix h')
    | cons c t =>
        rw [hcons] at h
        rw [List.cons_append, hcons] at h'
        exact (hQ c).fail hv h h'

theorem branch {A B : Text → Option (α × Text)} {a : Char} (hA : Tight E A) (ha : a ≠ ')')
    (hB : Tight E B) : Tight E (branch a A B) := by
  have hcases (t : Text) : (∃ t', t = a :: t') ∨ t.head? ≠ some a ∧
      ∀ v, (t ++ ')' :: v).head? ≠ some a := by
    cases t with
    | nil => exact .inr ⟨nofun, fun v h => ha (Option.some.inj h).symm⟩
    | cons c t =>
        by_cases hc : c = a
        · exact .inl ⟨t, by rw [hc]⟩
        · exact .inr ⟨fun h => hc (Option.some.inj h), fun v h => hc (Option.some.inj h)⟩
  refine ⟨fun {t b w} h => ?_, fun {t b w} h => ?_, fun {t v b w} hv h h' => ?_⟩
  · rcases hcases t with ⟨t, rfl⟩ | ⟨ht, -⟩
    · rw [branch_cons] at h
      exact (hA.suffix h).trans (List.suffix_cons a t)
    · rw [branch_of_head? ht] at h
      exact hB.suffix h
  · rcases hcases t with ⟨t, rfl⟩ | ⟨ht, ht'⟩
    · rw [branch_cons] at h
      simp only [List.cons_append, branch_cons]
      exact hA.extend h
    · rw [branch_of_head? ht] at h
      have hrest (v : Text) : Regex.branch a A B (t ++ ')' :: v) = B (t ++ ')' :: v) :=
        branch_of_head? (ht' v)
      simp only [hrest]
      exact hB.extend h
  · rcases hcases t with ⟨t, rfl⟩ | ⟨ht, ht'⟩
    · rw [branch_cons] at h
      rw [List.cons_append, branch_cons] at h'
      exact hA.fail hv h h'
    · rw [branch_of_head? ht] at h
      rw [branch_of_head? (ht' v)] at h'
      exact hB.fail hv h h'

/-- The next character that counts decides. -/
theorem skip {R : Text → Option (α × Text)} (hR : Tight E R) (f : Flags) :
    Tight E fun t => R (f.skip t) where
  suffix h := (hR.suffix h).trans (f.skip_suffix _)
  extend {t a w} h := by
    cases hs : f.skip t with
    | cons c r =>
        rw [hs] at h
        simp only [Flags.skip_append hs]
        exact hR.extend h
    | nil =>
        rw [hs] at h
        rcases Flags.skip_append_of_nil hs with hall | hall
        · simp only [hall]
          exact hR.extend h
        · have hw : w = [] := List.suffix_nil.mp (hR.suffix h)
          subst hw
          exact .inr ⟨rfl, fun v hv => by rw [hall v hv, h]⟩
  fail {t v a w} hv h h' := by
    cases hs : f.skip t with
    | cons c r =>
        rw [hs] at h
        rw [Flags.skip_append hs] at h'
        exact hR.fail hv h h'
    | nil =>
        rw [hs] at h
        rcases Flags.skip_append_of_nil hs with hall | hall
        · rw [hall] at h'
          exact hR.fail hv h h'
        · rw [hall v hv, h] at h'
          cases h'

theorem skipCons {R : Text → Option (α × Text)} {Q : Char → Text → Option (α × Text)} (f : Flags)
    (hnil : ∀ t, f.skip t = [] → R t = Option.none)
    (hcons : ∀ t c t', f.skip t = c :: t' → R t = Q c t') (hQ : ∀ c, Tight E (Q c)) :
    Tight E R := by
  have hS : Tight E (onCons Q) := .cons rfl (fun c t => rfl) hQ
  have hR : R = fun t => onCons Q (f.skip t) := by
    funext t
    cases ht : f.skip t with
    | nil => exact hnil t ht
    | cons c t' => exact hcons t c t' ht
  rw [hR]
  exact hS.skip f

theorem skipBranch {R A B : Text → Option (α × Text)} {a : Char} (ha : a ≠ ')') (f : Flags)
    (hhead : ∀ t t', f.skip t = a :: t' → R t = A t')
    (hrest : ∀ t, (f.skip t).head? ≠ some a → R t = B (f.skip t)) (hA : Tight E A)
    (hB : Tight E B) : Tight E R := by
  have hR : R = fun t => Regex.branch a A B (f.skip t) := by
    funext t
    by_cases ht : (f.skip t).head? = some a
    · obtain ⟨t', ht'⟩ := List.head?_eq_some_iff.mp ht
      rw [hhead t t' ht', ht', branch_cons]
    · rw [hrest t ht, branch_of_head? ht]
  rw [hR]
  exact (hA.branch ha hB).skip f

end Tight

end Storyline.Regex
