import Mathlib.Data.List.TakeWhile
import Storyline.Pattern.Token

/-!
# The signs of a pattern

Reading a pattern takes one sign after the other (`Starts`): a character, after a backslash or in a
pair of dollars perhaps, or a placeholder. A placeholder takes just what it is written with
(`written_takePlaceholder`, `takePlaceholder_written`), and what it takes does not change if
something follows that cannot belong to it (`takePlaceholder_append`).
-/

set_option autoImplicit false

namespace Storyline.Pattern

/-! ## Names -/

/-- A letter or an underscore. -/
def NameStart (c : Char) : Prop := ('A' ≤ c ∧ c ≤ 'Z') ∨ ('a' ≤ c ∧ c ≤ 'z') ∨ c = '_'

/-- A letter, a digit or an underscore. -/
def NameChar (c : Char) : Prop := NameStart c ∨ ('0' ≤ c ∧ c ≤ '9')

/-- The shape of names and hints. -/
def IsName (t : Text) : Prop := ∃ c r, t = c :: r ∧ NameStart c ∧ ∀ a ∈ r, NameChar a

theorem isNameStart_iff {c : Char} : isNameStart c = true ↔ NameStart c := by
  have hupper : c.isUpper = true ↔ 'A' ≤ c ∧ c ≤ 'Z' := decide_eq_true_iff
  have hlower : c.isLower = true ↔ 'a' ≤ c ∧ c ≤ 'z' :=
    Bool.and_eq_true_iff.trans (and_congr decide_eq_true_iff decide_eq_true_iff)
  have halpha : c.isAlpha = true ↔ c.isUpper = true ∨ c.isLower = true := Bool.or_eq_true_iff
  rw [NameStart, ← hupper, ← hlower, ← or_assoc, ← halpha]
  simp only [isNameStart, Bool.or_eq_true, beq_iff_eq]

theorem isNameChar_iff {c : Char} : isNameChar c = true ↔ NameChar c := by
  have hdigit : c.isDigit = true ↔ '0' ≤ c ∧ c ≤ '9' := by
    simp only [Char.isDigit, Char.le_def, Bool.and_eq_true, decide_eq_true_eq]
  rw [NameChar, ← isNameStart_iff, ← hdigit]
  simp only [isNameChar, isNameStart, Char.isAlphanum, Bool.or_eq_true]
  exact or_right_comm

theorem isNameChar_of_isNameStart {c : Char} (h : isNameStart c = true) : isNameChar c = true :=
  isNameChar_iff.mpr (.inl (isNameStart_iff.mp h))

/-- A text that does not start with a character that a placeholder could take. -/
def EndsName (r : Text) : Prop := ∀ c ∈ r.head?, isNameChar c = false ∧ c ≠ ':'

theorem takeName_append {r : Text} (hr : ∀ c ∈ r.head?, isNameChar c = false) (t : Text) :
    takeName (t ++ r) = ((takeName t).1, (takeName t).2 ++ r) := by
  induction t with
  | nil =>
      cases r with
      | nil => rfl
      | cons c r =>
          have hc : isNameChar c = false := hr c rfl
          simp [takeName, hc]
  | cons c t ih =>
      cases hc : isNameChar c with
      | false => simp [takeName, hc]
      | true =>
          obtain ⟨hname, hrest⟩ := Prod.mk.inj ih
          simp [takeName, hc, hname, hrest]

theorem append_takeName (t : Text) : (takeName t).1 ++ (takeName t).2 = t :=
  List.takeWhile_append_dropWhile

theorem isName_takeName {c : Char} {t : Text} (hc : isNameStart c = true) :
    IsName (takeName (c :: t)).1 := by
  have htake : (takeName (c :: t)).1 = c :: (takeName t).1 :=
    List.takeWhile_cons_of_pos (isNameChar_of_isNameStart hc)
  exact ⟨c, _, htake, isNameStart_iff.mp hc, fun a ha =>
    isNameChar_iff.mp (List.mem_takeWhile_imp ha)⟩

theorem IsName.isNameChar {t : Text} (h : IsName t) : ∀ a ∈ t, isNameChar a = true := by
  obtain ⟨c, r, rfl, hc, hr⟩ := h
  exact List.forall_mem_cons.mpr ⟨isNameChar_iff.mpr (.inl hc), fun a ha =>
    isNameChar_iff.mpr (hr a ha)⟩

/-- A name is taken as a whole. -/
theorem takeName_of_isName {t : Text} (h : IsName t) : takeName t = (t, []) :=
  Prod.ext (List.takeWhile_eq_self_iff.mpr h.isNameChar)
    (List.dropWhile_eq_nil_iff.mpr h.isNameChar)

/-! ## Placeholders -/

namespace Placeholder

/-- Name and hint have the shape of names. -/
def IsShaped (p : Placeholder) : Prop := IsName p.name ∧ ∀ h ∈ p.hint, IsName h

/-- A placeholder as it is written after its dollar. -/
def written (p : Placeholder) : Text := p.name ++ p.hint.elim [] (':' :: ·)

theorem IsShaped.exists_written {p : Placeholder} (hp : p.IsShaped) :
    ∃ c t, p.written = c :: t ∧ isNameStart c = true := by
  obtain ⟨c, t, hname, hc, -⟩ := hp.1
  refine ⟨c, t ++ p.hint.elim [] (':' :: ·), ?_, isNameStart_iff.mpr hc⟩
  rw [written, hname]
  rfl

end Placeholder

theorem takePlaceholder_eq (t : Text) : takePlaceholder t =
    (⟨(takeName t).1, (takeHint (takeName t).2).1⟩, (takeHint (takeName t).2).2) := rfl

theorem takeHint_of_isNameStart {c : Char} (hc : isNameStart c = true) (t : Text) :
    takeHint (':' :: c :: t) = (some (takeName (c :: t)).1, (takeName (c :: t)).2) := if_pos hc

/-- Without a colon that a name follows there is no hint. -/
theorem takeHint_eq_none {t : Text} (h : ∀ c r, t = ':' :: c :: r → isNameStart c = false) :
    takeHint t = (none, t) := by
  unfold takeHint
  split
  · next c r => rw [h c r rfl, if_neg Bool.false_ne_true]
  · rfl

theorem takeHint_append {r : Text} (hr : EndsName r) (t : Text) :
    takeHint (t ++ r) = ((takeHint t).1, (takeHint t).2 ++ r) := by
  by_cases h : ∃ c u, t = ':' :: c :: u ∧ isNameStart c = true
  · obtain ⟨c, u, rfl, hc⟩ := h
    have hname := takeName_append (fun a ha => (hr a ha).1) (c :: u)
    rw [List.cons_append] at hname
    rw [List.cons_append, List.cons_append, takeHint_of_isNameStart hc, takeHint_of_isNameStart hc,
      hname]
  · have hnone (c : Char) (u : Text) (ht : t = ':' :: c :: u) : isNameStart c = false :=
      Bool.eq_false_iff.mpr fun hc => h ⟨c, u, ht, hc⟩
    rw [takeHint_eq_none hnone, takeHint_eq_none]
    intro c u hcu
    -- the colon and the character after it stand in `t`, or `r` starts with one of them
    cases t with
    | nil => exact absurd rfl (hr ':' (congrArg List.head? hcu)).2
    | cons a t =>
        obtain ⟨rfl, htail⟩ := List.cons.inj hcu
        cases t with
        | nil =>
            have hc := (hr c (congrArg List.head? htail)).1
            exact Bool.eq_false_iff.mpr fun hstart => by
              rw [isNameChar_of_isNameStart hstart] at hc
              cases hc
        | cons b v =>
            obtain ⟨rfl, -⟩ := List.cons.inj htail
            exact hnone _ v rfl

/-- What a placeholder takes stays the same if something follows that cannot belong to it. -/
theorem takePlaceholder_append {r : Text} (hr : EndsName r) (t : Text) :
    takePlaceholder (t ++ r) = ((takePlaceholder t).1, (takePlaceholder t).2 ++ r) := by
  simp only [takePlaceholder_eq, takeName_append (fun c hc => (hr c hc).1), takeHint_append hr]

/-- A placeholder that is written is read. -/
theorem takePlaceholder_written {p : Placeholder} (hp : p.IsShaped) :
    takePlaceholder p.written = (p, []) := by
  obtain ⟨name, hint⟩ := p
  obtain ⟨hname, hhint⟩ := hp
  cases hint with
  | none =>
      have htake : takeName (Placeholder.written ⟨name, none⟩) = (name, []) := by
        rw [Placeholder.written, Option.elim_none, List.append_nil, takeName_of_isName hname]
      rw [takePlaceholder_eq, htake]
      rfl
  | some h =>
      obtain ⟨c, r, rfl, hc, hr⟩ := hhint h rfl
      have hcolon : ∀ a ∈ (':' :: c :: r).head?, isNameChar a = false := by
        rintro a ⟨⟩
        rfl
      have htake :
          takeName (Placeholder.written ⟨name, some (c :: r)⟩) = (name, ':' :: c :: r) := by
        rw [Placeholder.written, Option.elim_some, takeName_append hcolon, takeName_of_isName hname]
        rfl
      have hhint := takeName_of_isName (t := c :: r) ⟨c, r, rfl, hc, hr⟩
      rw [takePlaceholder_eq, htake]
      simp only [takeHint_of_isNameStart (isNameStart_iff.mpr hc), hhint]

/-- A placeholder that is read was written, and has the shape of one. -/
theorem written_takePlaceholder {c : Char} (hc : isNameStart c = true) (t : Text) :
    (takePlaceholder (c :: t)).1.IsShaped ∧
      (takePlaceholder (c :: t)).1.written ++ (takePlaceholder (c :: t)).2 = c :: t := by
  have hsplit := append_takeName (c :: t)
  rw [takePlaceholder_eq]
  by_cases h : ∃ a u, (takeName (c :: t)).2 = ':' :: a :: u ∧ isNameStart a = true
  · obtain ⟨a, u, hrest, ha⟩ := h
    have hhint := append_takeName (a :: u)
    simp only [Placeholder.IsShaped, Placeholder.written, hrest, takeHint_of_isNameStart ha]
    refine ⟨⟨isName_takeName hc, ?_⟩, ?_⟩
    · rintro h ⟨⟩
      exact isName_takeName ha
    · rw [Option.elim_some, List.append_assoc, List.cons_append, hhint, ← hrest, hsplit]
  · have hnone : takeHint (takeName (c :: t)).2 = (none, (takeName (c :: t)).2) :=
      takeHint_eq_none fun a u heq => Bool.eq_false_iff.mpr fun ha => h ⟨a, u, heq, ha⟩
    simp only [Placeholder.IsShaped, Placeholder.written, hnone]
    refine ⟨⟨isName_takeName hc, nofun⟩, ?_⟩
    rw [Option.elim_none, List.append_nil, hsplit]

/-! ## Signs -/

/-- The text starts with the sign, and the rest follows. -/
inductive Starts : Text → Sign → Text → Prop
  /-- A backslash with nothing after it stands for itself. -/
  | dangling : Starts ['\\'] (.char '\\') []
  | escaped (c : Char) (r : Text) : Starts ('\\' :: c :: r) (.char c) r
  | doubled (r : Text) : Starts ('$' :: '$' :: r) (.char '$') r
  | placeholder {c : Char} (hc : isNameStart c = true) (t : Text) :
    Starts ('$' :: c :: t) (.placeholder (takePlaceholder (c :: t)).1) (takePlaceholder (c :: t)).2
  /-- A dollar that neither another one nor a name follows stands for itself. -/
  | dollar {r : Text} (hr : ∀ c ∈ r.head?, c ≠ '$' ∧ isNameStart c = false) :
    Starts ('$' :: r) (.char '$') r
  | plain {c : Char} (hbackslash : c ≠ '\\') (hdollar : c ≠ '$') (r : Text) :
    Starts (c :: r) (.char c) r

theorem byteCount_append (s t : Text) : byteCount (s ++ t) = byteCount s + byteCount t := by
  induction s with
  | nil => exact (Nat.zero_add _).symm
  | cons c s ih => rw [List.cons_append, byteCount, byteCount, ih, Nat.add_assoc]

theorem exists_starts {t : Text} (ht : t ≠ []) : ∃ σ r, Starts t σ r := by
  cases t with
  | nil => exact absurd rfl ht
  | cons c t =>
      by_cases hbackslash : c = '\\'
      · subst hbackslash
        cases t with
        | nil => exact ⟨_, _, .dangling⟩
        | cons a t => exact ⟨_, _, .escaped a t⟩
      by_cases hdollar : c = '$'
      · subst hdollar
        by_cases h : ∃ a u, t = a :: u ∧ (a = '$' ∨ isNameStart a = true)
        · obtain ⟨a, u, rfl, rfl | ha⟩ := h
          · exact ⟨_, _, .doubled u⟩
          · exact ⟨_, _, .placeholder ha u⟩
        · refine ⟨_, _, .dollar fun a ha => ?_⟩
          obtain ⟨u, rfl⟩ := List.head?_eq_some_iff.mp ha
          exact ⟨fun heq => h ⟨a, u, rfl, .inl heq⟩,
            Bool.eq_false_iff.mpr fun hstart => h ⟨a, u, rfl, .inr hstart⟩⟩
      exact ⟨_, _, .plain hbackslash hdollar t⟩

/-- What a sign takes, and what follows it. -/
theorem Starts.exists_append {t r : Text} {σ : Sign} (h : Starts t σ r) :
    ∃ u, u ≠ [] ∧ t = u ++ r := by
  cases h with
  | dangling => exact ⟨['\\'], by simp, rfl⟩
  | escaped c r => exact ⟨['\\', c], by simp, rfl⟩
  | doubled r => exact ⟨['$', '$'], by simp, rfl⟩
  | placeholder hc t =>
      exact ⟨'$' :: (takePlaceholder _).1.written, by simp,
        congrArg ('$' :: ·) (written_takePlaceholder hc t).2.symm⟩
  | dollar hr => exact ⟨['$'], by simp, rfl⟩
  | plain hb hd r => exact ⟨[_], by simp, rfl⟩

theorem Starts.length_lt {t r : Text} {σ : Sign} (h : Starts t σ r) : r.length < t.length := by
  obtain ⟨u, hu, rfl⟩ := h.exists_append
  have hpos := List.length_pos_iff.mpr hu
  rw [List.length_append]
  omega

/-- The first sign of a text is scanned first. -/
theorem scan_of_starts {t r : Text} {σ : Sign} (h : Starts t σ r) (n : Nat) :
    scan n t = (n, σ) :: scan (n + (byteCount t - byteCount r)) r := by
  have hone : '$'.utf8Size = 1 := rfl
  have hone' : '\\'.utf8Size = 1 := rfl
  cases h with
  | dangling => simp [scan]
  | escaped c r =>
      rw [scan]
      congr 2
      simp only [byteCount]
      omega
  | doubled r =>
      rw [scan, if_pos rfl]
      congr 2
      simp only [byteCount]
      omega
  | @placeholder c hc t =>
      have hne : c ≠ '$' := by
        rintro rfl
        cases hc
      have hbytes := congrArg byteCount (written_takePlaceholder hc t).2
      rw [byteCount_append] at hbytes
      rw [scan, if_neg hne, if_pos hc]
      simp only
      congr 2
      simp only [byteCount] at hbytes ⊢
      omega
  | @dollar r hr =>
      cases r with
      | nil => simp [scan]
      | cons c r =>
          obtain ⟨hne, hstart⟩ := hr c rfl
          rw [scan, if_neg hne, if_neg (Bool.eq_false_iff.mp hstart)]
          congr 2
          simp only [byteCount]
          omega
  | @plain c hb hd r =>
      rw [scan]
      · congr 2
        simp only [byteCount]
        omega
      all_goals simp_all

end Storyline.Pattern
