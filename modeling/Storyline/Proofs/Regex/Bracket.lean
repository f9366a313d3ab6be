import Mathlib.Data.List.TakeWhile
import Storyline.Proofs.Regex.Escape

/-!
# Classes before a closing bracket

A class in square brackets is read in rounds, each of which adds an item, applies an operator, or
opens or closes a bracket (`readBracket_succ`). A round may end right before a closing bracket,
which is a character like any other in a class; but then another round follows, so that the reader
of the class is tight (`tight_readClass`).
-/

set_option autoImplicit false

namespace Storyline.Regex

/-! ## The start of a bracket -/

namespace Bracket

/-- A character before the first item of a bracket is skipped or counted among the hyphens, or it
belongs to the items. -/
theorem leadingHyphens_cons (f : Flags) (b : Bracket) (inComment : Bool) (c : Char) :
    (∃ b' inComment', ∀ t,
        leadingHyphens f b inComment (c :: t) = leadingHyphens f b' inComment' t) ∨
      ∀ t, leadingHyphens f b inComment (c :: t) = (b, c :: t) := by
  simp only [leadingHyphens]
  split
  · exact .inl ⟨b, c != '\n', fun t => rfl⟩
  · split
    · exact .inl ⟨b, false, fun t => rfl⟩
    · split
      · exact .inl ⟨b, true, fun t => rfl⟩
      · split
        · exact .inl ⟨b.add (.single '-'), false, fun t => rfl⟩
        · exact .inr fun t => rfl

theorem leadingHyphens_suffix (f : Flags) (b : Bracket) (inComment : Bool) (t : Text) :
    (leadingHyphens f b inComment t).2 <:+ t := by
  induction t generalizing b inComment with
  | nil => exact List.suffix_refl _
  | cons c t ih =>
      rcases leadingHyphens_cons f b inComment c with ⟨b', inComment', hc⟩ | hc
      · rw [hc]
        exact (ih _ _).trans (List.suffix_cons c t)
      · exact ⟨[], congrArg Prod.snd (hc t)⟩

theorem leadingHyphens_comment (f : Flags) (b : Bracket) {t : Text} (h : '\n' ∉ t) :
    leadingHyphens f b true t = (b, []) := by
  induction t with
  | nil => rfl
  | cons c t ih =>
      have hc : (c != '\n') = true := by
        simpa using fun heq : c = '\n' => h (heq ▸ List.mem_cons_self)
      rw [leadingHyphens, if_pos rfl, hc]
      exact ih fun hmem => h (List.mem_cons_of_mem c hmem)

theorem tight_leadingHyphens (f : Flags) (b : Bracket) (inComment : Bool) :
    Tight Never fun t => some (leadingHyphens f b inComment t) where
  suffix {t a w} h := by
    have hsuffix := leadingHyphens_suffix f b inComment t
    rwa [Option.some.inj h] at hsuffix
  extend {t a w} h := by
    simp only [Option.some.injEq] at h ⊢
    induction t generalizing b inComment with
    | nil =>
        cases h
        cases inComment with
        | true => exact .inr ⟨rfl, fun v hv =>
            (leadingHyphens_comment f _ hv : leadingHyphens f _ true v = _)⟩
        | false =>
            refine .inl fun v _ => ?_
            have hblank : Unicode.isBlank ')' = false := by decide
            simp [leadingHyphens, hblank]
    | cons c t ih =>
        simp only [List.cons_append]
        rcases leadingHyphens_cons f b inComment c with ⟨b', inComment', hc⟩ | hc
        · simp only [hc] at h ⊢
          exact ih _ _ h
        · simp only [hc] at h ⊢
          cases h
          exact .inl fun v _ => rfl
  fail _ h := by cases h

/-- A closing sign at the start of a bracket stands for itself, unless hyphens precede it. -/
def leadingClose (b : Bracket) (t : Text) : Bracket × Text :=
  match t with
  | ']' :: t => if b.items = .empty then (b.add (.single ']'), t) else (b, ']' :: t)
  | t => (b, t)

theorem tight_leadingClose (b : Bracket) : Tight Never fun t => some (leadingClose b t) := by
  by_cases hb : b.items = .empty
  · have hbranch : (fun t => some (leadingClose b t)) =
        branch ']' (fun t => some (b.add (.single ']'), t)) fun t => some (b, t) := by
      funext t
      by_cases ht : t.head? = some ']'
      · obtain ⟨t', rfl⟩ := List.head?_eq_some_iff.mp ht
        rw [branch_cons, leadingClose, if_pos hb]
      · rw [branch_of_head? ht]
        unfold leadingClose
        split
        · exact absurd rfl ht
        · rfl
    rw [hbranch]
    exact (Tight.pure _).branch (by decide) (.pure b)
  · have hnone : (fun t => some (leadingClose b t)) = fun t => some (b, t) := by
      funext t
      unfold leadingClose
      split
      · rw [if_neg hb]
      · rfl
    rw [hnone]
    exact .pure b

/-- What a bracket starts with, after its negation. -/
def openedAs (f : Flags) (negated : Bool) (t : Text) : Bracket × Text :=
  leadingClose (leadingHyphens f { negated } false t).1 (leadingHyphens f { negated } false t).2

theorem opened_of_negated {f : Flags} {t t' : Text} (ht : f.skip t = '^' :: t') :
    opened f t = openedAs f true t' := by
  simp only [opened, ht, openedAs]
  obtain ⟨b, r⟩ := leadingHyphens f { negated := true } false t'
  cases r with
  | nil => rfl
  | cons c r => by_cases hc : c = ']' <;> simp [leadingClose, hc]

theorem opened_of_not_negated {f : Flags} {t : Text} (ht : (f.skip t).head? ≠ some '^') :
    opened f t = openedAs f false (f.skip t) := by
  unfold opened
  split
  next negated t' heq =>
  split at heq
  · next t'' hs => exact absurd (by rw [hs]; rfl) ht
  · obtain ⟨rfl, rfl⟩ := Prod.mk.inj heq
    rw [openedAs]
    obtain ⟨b, r⟩ := leadingHyphens f { negated := false } false (f.skip t)
    cases r with
    | nil => rfl
    | cons c r => by_cases hc : c = ']' <;> simp [leadingClose, hc]

theorem tight_openedAs (f : Flags) (negated : Bool) :
    Tight Never fun t => some (openedAs f negated t) :=
  (tight_leadingHyphens f { negated } false).bind_never tight_leadingClose

theorem tight_opened (f : Flags) : Tight Never fun t => some (opened f t) :=
  .skipBranch (by decide) f (fun _ _ ht => congrArg some (opened_of_negated ht))
    (fun _ ht => congrArg some (opened_of_not_negated ht)) (tight_openedAs f true)
    (tight_openedAs f false)

end Bracket

/-! ## Named classes -/

/-- A named class from its name on. -/
def posixClass (f : Flags) (negated : Bool) (t : Text) : Option (Option CharSet × Text) :=
  match t.drop (t.takeWhile (· != ':')).length with
  | ':' :: ']' :: rest =>
    (CharSet.posix.lookup (String.ofList (t.takeWhile (· != ':')))).map fun s =>
      (f.negate? negated (f.foldCase s), rest)
  | _ => none

/-- The name ends at the first colon. -/
theorem posixClass_of_colon {f : Flags} {negated : Bool} {name : Text} (hname : ':' ∉ name)
    (t : Text) : posixClass f negated (name ++ ':' :: t) = match t with
      | ']' :: rest => (CharSet.posix.lookup (String.ofList name)).map fun s =>
          (f.negate? negated (f.foldCase s), rest)
      | _ => none := by
  have htake : (name ++ ':' :: t).takeWhile (· != ':') = name := by
    rw [List.takeWhile_append_of_pos fun c hc => by
      simpa using fun heq : c = ':' => hname (heq ▸ hc)]
    simp
  rw [posixClass, htake, List.drop_left]
  cases t with
  | nil => rfl
  | cons c t => by_cases hc : c = ']' <;> simp [hc]

/-- Without a colon there is no name. -/
theorem posixClass_of_not_mem {f : Flags} {negated : Bool} {t : Text} (ht : ':' ∉ t) :
    posixClass f negated t = none := by
  have htake : t.takeWhile (· != ':') = t :=
    List.takeWhile_eq_self_iff.mpr fun c hc => by simpa using fun heq : c = ':' => ht (heq ▸ hc)
  rw [posixClass, htake, List.drop_length]

/-- No class has a closing bracket in its name. -/
theorem lookup_posix_of_close {name : Text} (h : ')' ∈ name) :
    CharSet.posix.lookup (String.ofList name) = none := by
  have hnames : ∀ p ∈ CharSet.posix, ')' ∉ p.1.toList := by decide
  refine List.lookup_eq_none_iff.mpr fun p hp => ?_
  rw [bne_iff_ne]
  rintro heq
  refine hnames p hp ?_
  rwa [← heq, String.toList_ofList]

theorem posixClass_append (f : Flags) (negated : Bool) (t v : Text) :
    posixClass f negated (t ++ ')' :: v) =
      (posixClass f negated t).map fun x => (x.1, x.2 ++ ')' :: v) := by
  by_cases ht : ':' ∈ t
  · obtain ⟨name, r, rfl, hname⟩ := List.eq_append_cons_of_mem ht
    rw [List.append_assoc, List.cons_append, posixClass_of_colon hname, posixClass_of_colon hname]
    cases r with
    | nil => rfl
    | cons c r =>
        by_cases hc : c = ']'
        · simp [hc, Option.map_map, Function.comp_def]
        · simp [hc]
  · rw [posixClass_of_not_mem ht, Option.map_none]
    by_cases hv : ':' ∈ v
    · obtain ⟨name, r, rfl, hname⟩ := List.eq_append_cons_of_mem hv
      have hname' : ':' ∉ t ++ ')' :: name := by simp [ht, hname]
      have hassoc : t ++ ')' :: (name ++ ':' :: r) = (t ++ ')' :: name) ++ ':' :: r := by simp
      rw [hassoc, posixClass_of_colon hname', lookup_posix_of_close (by simp)]
      split <;> rfl
    · exact posixClass_of_not_mem (by simp [ht, hv])

theorem namedClass_negated (f : Flags) (t : Text) :
    namedClass f (':' :: '^' :: t) = posixClass f true t := rfl

theorem namedClass_of_head? (f : Flags) {t : Text} (ht : t.head? ≠ some '^') :
    namedClass f (':' :: t) = posixClass f false t := by
  unfold namedClass
  split
  · next heq =>
    cases heq
    split
    next negated t' heq =>
    split at heq
    · exact absurd rfl ht
    · cases heq
      rfl
  · next h => exact absurd rfl (h t)

/-- A closing bracket is in no named class. -/
theorem namedClass_append (f : Flags) (t v : Text) :
    namedClass f (t ++ ')' :: v) = (namedClass f t).map fun x => (x.1, x.2 ++ ')' :: v) := by
  cases t with
  | nil => rfl
  | cons c t =>
      by_cases hc : c = ':'
      · subst hc
        by_cases ht : t.head? = some '^'
        · obtain ⟨t', rfl⟩ := List.head?_eq_some_iff.mp ht
          simp only [List.cons_append, namedClass_negated, posixClass_append]
        · have ht' : (t ++ ')' :: v).head? ≠ some '^' := by
            cases t with
            | nil => simp
            | cons a t => simpa using ht
          rw [List.cons_append, namedClass_of_head? f ht, namedClass_of_head? f ht',
            posixClass_append]
      · simp [namedClass, hc]

theorem posixClass_suffix {f : Flags} {negated : Bool} {t w : Text} {s : Option CharSet}
    (h : posixClass f negated t = some (s, w)) : w <:+ t := by
  unfold posixClass at h
  split at h
  · next rest hrest =>
      obtain ⟨s, -, heq⟩ := Option.map_eq_some_iff.mp h
      cases heq
      have hdrop : ':' :: ']' :: w <:+ t := hrest ▸ List.drop_suffix _ t
      exact ((List.suffix_cons _ w).trans (List.suffix_cons _ _)).trans hdrop
  · cases h

theorem namedClass_suffix {f : Flags} {t w : Text} {s : Option CharSet}
    (h : namedClass f t = some (s, w)) : w <:+ t := by
  cases t with
  | nil => cases h
  | cons c t =>
      by_cases hc : c = ':'
      · subst hc
        by_cases ht : t.head? = some '^'
        · obtain ⟨t', rfl⟩ := List.head?_eq_some_iff.mp ht
          rw [namedClass_negated] at h
          exact (posixClass_suffix h).trans ((List.suffix_cons _ _).trans (List.suffix_cons _ _))
        · rw [namedClass_of_head? f ht] at h
          exact (posixClass_suffix h).trans (List.suffix_cons _ _)
      · simp [namedClass, hc] at h

/-! ## Items of a class -/

/-- What is left is the bracket and what follows it. -/
def BeforeBracket {α : Type} (_ : α) (v w : Text) : Prop := w = ')' :: v

/-- Before the end of a line it does not matter whether a closing bracket or nothing follows. -/
theorem continuesRange_append (f : Flags) (t : Text) {v : Text} (hv : '\n' ∉ v) :
    continuesRange f (t ++ ')' :: v) = continuesRange f t := by
  unfold continuesRange
  cases ht : f.skip t with
  | nil =>
      rcases Flags.skip_append_of_nil ht with hall | hall
      · rw [hall]
        rfl
      · rw [hall v hv]
  | cons c r =>
      rw [Flags.skip_append ht]
      by_cases hclose : c = ']'
      · subst hclose
        rfl
      · by_cases hhyphen : c = '-'
        · subst hhyphen
          rfl
        · simp [hclose, hhyphen]

variable [ClassNames]

theorem bracketAtom_cons (f : Flags) (c : Char) (t : Text) : bracketAtom f (c :: t) =
    if c = '\\' then readEscape f t else some (.literal c, t) := by
  by_cases hc : c = '\\' <;> simp [bracketAtom, hc]

theorem tight_bracketAtom (f : Flags) : Tight (DanglingAssertion f) (bracketAtom f) := by
  refine .cons rfl (bracketAtom_cons f) fun c => ?_
  split_ifs
  · exact tight_readEscape f
  · exact .pure _

/-- The range between two atoms. -/
def range? (f : Flags) (a b : Atom) : Option CharSet :=
  (a.member? f).bind fun lo => (b.member? f).bind fun hi =>
    if lo ≤ hi then some (.range lo hi) else none

/-- The range from an atom on, after its hyphen. -/
def rangeTail (f : Flags) (a : Atom) (t : Text) : Option (CharSet × Text) :=
  (bracketAtom f (f.skip t)).bind fun x => (range? f a x.1).map (·, x.2)

theorem tight_rangeTail (f : Flags) (a : Atom) : Tight Never (rangeTail f a) := by
  refine (Tight.skip (tight_bracketAtom f) f).bind (fun b => .constant (range? f a b)) ?_
  rintro b v w s w' ⟨⟨b', rfl⟩, -⟩ h
  -- an assertion is no end of a range
  have hrange : range? f a (.assertion b') = none := by
    simp [range?, Atom.member?]
  rw [hrange] at h
  cases h

/-- What follows the first atom of an item, from the next character that counts. -/
def itemTail (f : Flags) (a : Atom) (t : Text) : Option (CharSet × Text) :=
  match t with
  | [] => none
  | '-' :: t' => if continuesRange f t' then rangeTail f a t' else (a.members? f).map (·, '-' :: t')
  | t' => (a.members? f).map (·, t')

theorem itemTail_hyphen (f : Flags) (a : Atom) (t : Text) : itemTail f a ('-' :: t) =
    if continuesRange f t then rangeTail f a t else (a.members? f).map (·, '-' :: t) := rfl

theorem itemTail_cons (f : Flags) (a : Atom) {c : Char} (hc : c ≠ '-') (t : Text) :
    itemTail f a (c :: t) = (a.members? f).map (·, c :: t) := by
  simp [itemTail, hc]

theorem tight_itemTail (f : Flags) (a : Atom) : Tight BeforeBracket (itemTail f a) where
  suffix {t s w} h := by
    cases t with
    | nil => cases h
    | cons c t =>
        by_cases hc : c = '-'
        · subst hc
          rw [itemTail_hyphen] at h
          split at h
          · exact ((tight_rangeTail f a).suffix h).trans (List.suffix_cons _ t)
          · obtain ⟨s, -, heq⟩ := Option.map_eq_some_iff.mp h
            cases heq
            exact List.suffix_refl _
        · rw [itemTail_cons f a hc] at h
          obtain ⟨s, -, heq⟩ := Option.map_eq_some_iff.mp h
          cases heq
          exact List.suffix_refl _
  extend {t s w} h := by
    cases t with
    | nil => cases h
    | cons c t =>
        simp only [List.cons_append]
        by_cases hc : c = '-'
        · subst hc
          rw [itemTail_hyphen] at h
          split at h
          · next hrange =>
              refine ((tight_rangeTail f a).extend h).imp (fun h v hv => ?_) fun ⟨hw, h⟩ =>
                ⟨hw, fun v hv => ?_⟩
              all_goals rw [itemTail_hyphen, continuesRange_append f t hv, if_pos hrange, h v hv]
          · next hrange =>
              refine .inl fun v hv => ?_
              obtain ⟨s, hs, heq⟩ := Option.map_eq_some_iff.mp h
              cases heq
              rw [itemTail_hyphen, continuesRange_append f t hv, if_neg hrange, hs]
              rfl
        · refine .inl fun v _ => ?_
          rw [itemTail_cons f a hc] at h ⊢
          obtain ⟨s, hs, heq⟩ := Option.map_eq_some_iff.mp h
          cases heq
          rw [hs]
          rfl
  fail {t v s w} hv h h' := by
    cases t with
    | nil =>
        rw [List.nil_append, itemTail_cons f a (by decide)] at h'
        obtain ⟨s, -, heq⟩ := Option.map_eq_some_iff.mp h'
        cases heq
        exact .inr rfl
    | cons c t =>
        rw [List.cons_append] at h'
        by_cases hc : c = '-'
        · subst hc
          rw [itemTail_hyphen] at h h'
          rw [continuesRange_append f t hv] at h'
          split at h
          · next hrange =>
              rw [if_pos hrange] at h'
              exact (tight_rangeTail f a).weaken.fail hv h h'
          · next hrange =>
              rw [if_neg hrange, Option.map_eq_none_iff.mp h] at h'
              cases h'
        · rw [itemTail_cons f a hc] at h h'
          rw [Option.map_eq_none_iff.mp h] at h'
          cases h'

theorem bracketItem_eq (f : Flags) (t : Text) :
    bracketItem f t = (bracketAtom f t).bind fun x => itemTail f x.1 (f.skip x.2) := by
  refine Option.bind_congr fun ⟨a, t'⟩ _ => ?_
  simp only
  cases f.skip t' with
  | nil => rfl
  | cons c r =>
      by_cases hc : c = '-'
      · subst hc
        rw [itemTail_hyphen]
        simp only
        split
        · refine Option.bind_congr fun y _ => ?_
          cases hlo : a.member? f with
          | none => simp [range?, hlo]
          | some lo =>
              cases hhi : y.1.member? f with
              | none => simp [range?, hlo, hhi]
              | some hi => by_cases hle : lo ≤ hi <;> simp [range?, hlo, hhi, hle]
        · cases a.members? f <;> rfl
      · rw [itemTail_cons f a hc]
        cases a.members? f <;> simp [hc]

/-- An assertion is no member of a class. -/
theorem itemTail_assertion (f : Flags) (b : Assertion) (t : Text) :
    itemTail f (.assertion b) t = none := by
  cases t with
  | nil => rfl
  | cons c t =>
      by_cases hc : c = '-'
      · subst hc
        rw [itemTail_hyphen]
        split
        · simp [rangeTail, range?, Atom.member?]
        · rfl
      · rw [itemTail_cons f _ hc]
        rfl

theorem tight_bracketItem (f : Flags) (c : Char) :
    Tight BeforeBracket fun t => bracketItem f (c :: t) := by
  have hatom : Tight (DanglingAssertion f) fun t => bracketAtom f (c :: t) := by
    simp only [bracketAtom_cons]
    split_ifs
    · exact tight_readEscape f
    · exact .pure _
  simp only [bracketItem_eq]
  refine hatom.bind (Q := fun a t => itemTail f a (f.skip t))
    (fun a => (tight_itemTail f a).skip f) ?_
  rintro a v w s w' ⟨⟨b, rfl⟩, -⟩ h
  rw [itemTail_assertion] at h
  cases h

/-! ## Rounds of a class -/

/-- What a round of reading a class leads to: the class, or the brackets that are open next. -/
abbrev BracketResult : Type := CharSet ⊕ Bracket × List Bracket

/-- An item is added to the innermost bracket. -/
def itemRound (f : Flags) (b : Bracket) (outer : List Bracket) (t : Text) :
    Option (BracketResult × Text) :=
  (bracketItem f t).bind fun x => some (.inr (b.add x.1, outer), x.2)

/-- An opening sign starts a named class or another bracket. -/
def openRound (f : Flags) (b : Bracket) (outer : List Bracket) (t : Text) :
    Option (BracketResult × Text) :=
  match namedClass f t with
  | some (s, t) => s.map fun s => (.inr (b.add s, outer), t)
  | none => some (.inr ((Bracket.opened f t).1, b :: outer), (Bracket.opened f t).2)

/-- A closing sign ends the innermost bracket. -/
def closeRound (f : Flags) (b : Bracket) (outer : List Bracket) : Option BracketResult :=
  (b.close? f).map fun s => match outer with
    | [] => .inl s
    | b :: outer => .inr (b.add s, outer)

/-- The operator that two signs make. -/
def operator? (c : Char) : Option SetOperator :=
  if c = '&' then some .inter else if c = '-' then some .diff
  else if c = '~' then some .symmDiff else none

/-- A sign of an operator is an item unless it stands twice. -/
def operatorRound (f : Flags) (b : Bracket) (outer : List Bracket) (c : Char) (op : SetOperator) :
    Text → Option (BracketResult × Text) :=
  branch c (fun t => some (.inr (b.operate f op, outer), t)) fun t => itemRound f b outer (c :: t)

/-- One round of reading a class, from a character that counts. -/
def bracketRound (f : Flags) (b : Bracket) (outer : List Bracket) (c : Char) (t : Text) :
    Option (BracketResult × Text) :=
  if c = '[' then openRound f b outer t
  else if c = ']' then (closeRound f b outer).map (·, t)
  else match operator? c with
    | some op => operatorRound f b outer c op t
    | none => itemRound f b outer (c :: t)

/-- What a round leads to after the rounds that follow. -/
def nextRounds (f : Flags) (n : Nat) : BracketResult → Text → Option (CharSet × Text)
  | .inl s, t => some (s, t)
  | .inr y, t => readBracket f n y.1 y.2 t

/-- What an item leads to, in the rounds that follow. -/
def afterItem (f : Flags) (n : Nat) (b : Bracket) (outer : List Bracket) :
    Option (CharSet × Text) → Option (CharSet × Text)
  | some (s, t) => readBracket f n (b.add s) outer t
  | none => none

/-- A class is read round by round. -/
theorem readBracket_succ (f : Flags) (n : Nat) (b : Bracket) (outer : List Bracket) (t : Text) :
    readBracket f (n + 1) b outer t = match f.skip t with
      | [] => none
      | c :: t => (bracketRound f b outer c t).bind fun x => nextRounds f n x.1 x.2 := by
  rw [readBracket]
  cases f.skip t with
  | nil => rfl
  | cons c t =>
      simp only
      have hitem : afterItem f n b outer (bracketItem f (c :: t)) =
          (itemRound f b outer (c :: t)).bind fun x => nextRounds f n x.1 x.2 := by
        rw [itemRound]
        cases bracketItem f (c :: t) <;> rfl
      by_cases hopen : c = '['
      · subst hopen
        simp only [bracketRound, openRound, if_true]
        cases namedClass f t with
        | none => rfl
        | some x =>
            obtain ⟨s, t'⟩ := x
            cases s <;> rfl
      by_cases hclose : c = ']'
      · subst hclose
        simp only [bracketRound, closeRound, if_neg hopen, if_true]
        cases b.close? f with
        | none => rfl
        | some s => cases outer <;> rfl
      rw [bracketRound, if_neg hopen, if_neg hclose]
      by_cases hop : c = '&' ∨ c = '-' ∨ c = '~'
      · -- the sign is that of an operator if it stands twice
        cases t with
        | nil => rcases hop with rfl | rfl | rfl <;> exact hitem
        | cons a t =>
            by_cases ha : a = c
            · subst ha
              rcases hop with rfl | rfl | rfl <;> rfl
            · rcases hop with rfl | rfl | rfl
              all_goals
                simp [operator?, operatorRound, branch, ha]
                exact hitem
      · simp only [not_or] at hop
        simp [operator?, hop, hopen, hclose]
        exact hitem

omit [ClassNames] in
theorem tight_openRound (f : Flags) (b : Bracket) (outer : List Bracket) :
    Tight Never (openRound f b outer) := by
  have hopened : Tight Never fun t =>
      some ((.inr ((Bracket.opened f t).1, b :: outer) : BracketResult), (Bracket.opened f t).2) :=
    (Bracket.tight_opened f).bind_never fun b' => .pure (Sum.inr (b', b :: outer))
  refine ⟨fun {t r w} h => ?_, fun {t r w} h => ?_, fun {t v r w} hv h h' => ?_⟩
  · unfold openRound at h
    split at h
    · next s t' hnamed =>
        obtain ⟨s, -, heq⟩ := Option.map_eq_some_iff.mp h
        cases heq
        exact namedClass_suffix hnamed
    · exact hopened.suffix h
  · simp only [openRound, namedClass_append]
    unfold openRound at h
    split at h
    · next s t' hnamed =>
        obtain ⟨s, rfl, heq⟩ := Option.map_eq_some_iff.mp h
        cases heq
        rw [hnamed]
        exact .inl fun v _ => rfl
    · next hnamed =>
        rw [hnamed]
        exact hopened.extend h
  · simp only [openRound, namedClass_append] at h'
    unfold openRound at h
    split at h
    · next s t' hnamed =>
        rw [hnamed, Option.map_eq_none_iff.mp h] at h'
        cases h'
    · cases h

/-- Another round follows, before the bracket. -/
def OpenBeforeBracket (r : BracketResult) (v w : Text) : Prop :=
  (∃ y, r = .inr y) ∧ BeforeBracket r v w

theorem tight_itemRound (f : Flags) (b : Bracket) (outer : List Bracket) (c : Char) :
    Tight OpenBeforeBracket fun t => itemRound f b outer (c :: t) := by
  refine (tight_bracketItem f c).bind (fun s => .pure (Sum.inr (b.add s, outer))) ?_
  rintro s v w r w' hw h
  cases h
  exact .inr ⟨⟨_, rfl⟩, hw⟩

theorem tight_bracketRound (f : Flags) (b : Bracket) (outer : List Bracket) (c : Char) :
    Tight OpenBeforeBracket (bracketRound f b outer c) := by
  unfold bracketRound
  split_ifs
  · exact (tight_openRound f b outer).weaken
  · exact .constant _
  · cases hop : operator? c with
    | none => exact tight_itemRound f b outer c
    | some op =>
        have hclose : c ≠ ')' := by
          rintro rfl
          cases hop
        exact (Tight.pure _).branch hclose (tight_itemRound f b outer c)

/-- A class ends with a closing sign. -/
theorem bracketRound_inl {f : Flags} {b : Bracket} {outer : List Bracket} {c : Char} {t w : Text}
    {s : CharSet} (h : bracketRound f b outer c t = some (.inl s, w)) : c = ']' ∧ w = t := by
  have hitem (t : Text) : itemRound f b outer t ≠ some (.inl s, w) := by
    unfold itemRound
    cases bracketItem f t <;> simp
  unfold bracketRound at h
  split_ifs at h with hopen hclose
  · unfold openRound at h
    split at h
    · obtain ⟨s', -, heq⟩ := Option.map_eq_some_iff.mp h
      cases heq
    · cases h
  · obtain ⟨x, -, heq⟩ := Option.map_eq_some_iff.mp h
    cases heq
    exact ⟨hclose, rfl⟩
  · split at h
    · unfold operatorRound branch at h
      split at h
      · cases h
      · exact absurd h (hitem _)
    · exact absurd h (hitem _)

theorem readBracket_ends {f : Flags} {n : Nat} {b : Bracket} {outer : List Bracket} {t w : Text}
    {s : CharSet} (h : readBracket f n b outer t = some (s, w)) : ']' :: w <:+ t := by
  induction n generalizing b outer t with
  | zero => cases h
  | succ n ih =>
      rw [readBracket_succ] at h
      cases ht : f.skip t with
      | nil => rw [ht] at h; cases h
      | cons c r =>
          rw [ht] at h
          have hr : c :: r <:+ t := ht ▸ f.skip_suffix t
          obtain ⟨⟨x, w'⟩, hround, hnext⟩ := Option.bind_eq_some_iff.mp h
          cases x with
          | inl s' =>
              obtain ⟨rfl, rfl⟩ := bracketRound_inl hround
              cases hnext
              exact hr
          | inr y =>
              have hw' : w' <:+ r := (tight_bracketRound f b outer c).suffix hround
              exact (ih hnext).trans (hw'.trans ((List.suffix_cons c r).trans hr))

theorem tight_readBracket (f : Flags) (n : Nat) (b : Bracket) (outer : List Bracket) :
    Tight Never (readBracket f n b outer) := by
  induction n generalizing b outer with
  | zero => exact .none
  | succ n ih =>
      refine .skipCons (Q := fun c t => (bracketRound f b outer c t).bind fun x =>
        nextRounds f n x.1 x.2) f (fun t ht => ?_) (fun t c t' ht => ?_) fun c => ?_
      · rw [readBracket_succ, ht]
      · rw [readBracket_succ, ht]
      · refine (tight_bracketRound f b outer c).bind (fun x => ?_) ?_
        · cases x with
          | inl s => exact .pure s
          | inr y => exact ih y.1 y.2
        · rintro x v w s w' ⟨⟨y, rfl⟩, rfl⟩ h
          -- the rounds that follow take the bracket, being no closing sign
          rcases List.suffix_cons_iff.mp (readBracket_ends h) with heq | hends
          · cases heq
          · exact .inl ((List.suffix_cons _ w').trans hends)

/-- The rounds that suffice. -/
theorem readBracket_congr {f : Flags} {n m : Nat} {b : Bracket} {outer : List Bracket} {t : Text}
    (hn : t.length < n) (hm : t.length < m) :
    readBracket f n b outer t = readBracket f m b outer t := by
  induction n generalizing m b outer t with
  | zero => omega
  | succ n ih =>
      obtain ⟨m, rfl⟩ : ∃ k, m = k + 1 := ⟨m - 1, by omega⟩
      rw [readBracket_succ, readBracket_succ]
      cases ht : f.skip t with
      | nil => rfl
      | cons c r =>
          have hlength : r.length < t.length := (ht ▸ f.skip_suffix t).length_le
          refine Option.bind_congr fun ⟨x, w⟩ hround => ?_
          have hw : w.length ≤ r.length :=
            ((tight_bracketRound f b outer c).suffix hround).length_le
          cases x with
          | inl s => rfl
          | inr y => exact ih (t := w) (by omega) (by omega)

theorem tight_readClass (f : Flags) : Tight Never (readClass f) := by
  let R (n : Nat) (t : Text) : Option (CharSet × Text) :=
    (some (Bracket.opened f t)).bind fun x => readBracket f n x.1 [] x.2
  have hR (n : Nat) : Tight Never (R n) :=
    (Bracket.tight_opened f).bind_never fun b => tight_readBracket f n b []
  have hopened (t : Text) : (Bracket.opened f t).2 <:+ t := (Bracket.tight_opened f).suffix rfl
  have hclass {n : Nat} {t : Text} (hn : t.length < n) : readClass f t = R n t := by
    have hlength := (hopened t).length_le
    have hrounds : readBracket f (t.length + 1) (Bracket.opened f t).1 [] (Bracket.opened f t).2 =
        readBracket f n (Bracket.opened f t).1 [] (Bracket.opened f t).2 :=
      readBracket_congr (by omega) (by omega)
    exact hrounds
  refine ⟨fun {t s w} h => ?_, fun {t s w} h => ?_, fun {t v s w} hv h h' => ?_⟩
  · rw [hclass (Nat.lt_succ_self _)] at h
    exact (hR _).suffix h
  · refine .inl fun v hv => ?_
    have hlength : t.length ≤ (t ++ ')' :: v).length := by simp
    rw [hclass (Nat.lt_succ_of_le hlength)] at h
    rw [hclass (Nat.lt_succ_self _)]
    rcases (hR _).extend h with h' | ⟨rfl, h'⟩
    · exact h' v hv
    · -- a class does not end with the bracket
      have hends : [']'] <:+ t ++ [')'] :=
        (readBracket_ends (h' [] List.not_mem_nil)).trans (hopened _)
      obtain ⟨t', heq⟩ := hends
      exact absurd (List.append_inj_right' heq rfl) (by decide)
  · have hlength : t.length ≤ (t ++ ')' :: v).length := by simp
    rw [hclass (Nat.lt_succ_of_le hlength)] at h
    rw [hclass (Nat.lt_succ_self _)] at h'
    exact (hR _).fail hv h h'

end Storyline.Regex
