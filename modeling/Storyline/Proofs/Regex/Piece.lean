import Mathlib.Tactic.SplitIfs
import Storyline.Proofs.Regex.Bracket

/-!
# Pieces before a closing bracket

One step of the reader takes one piece of an expression. Unless the piece is a closing bracket, it
is read tightly, up to the escape that dangles before a brace (`Reader.tight_step?`).
-/

set_option autoImplicit false

namespace Storyline.Regex

/-! ## Groups -/

/-- A character after the sign of a group ends the flags, or it is one of them. -/
theorem readFlags_cons (f : Flags) (seen : List Char) (c : Char) :
    (∃ o : Option (Flags × Bool), ∀ t, readFlags f seen (c :: t) = o.map fun x => (x.1, x.2, t)) ∨
      c ≠ ')' ∧ ∃ f' seen', ∀ t, readFlags f seen (c :: t) = readFlags f' seen' t := by
  simp only [readFlags]
  split
  · split
    · exact .inl ⟨none, fun t => rfl⟩
    · exact .inl ⟨some (f, c = ':'), fun t => rfl⟩
  · next hend =>
    have hclose : c ≠ ')' := by
      rintro rfl
      exact hend (by decide)
    split
    · exact .inl ⟨none, fun t => rfl⟩
    · split
      · exact .inr ⟨hclose, f, c :: seen, fun t => rfl⟩
      · split
        · next f' _ => exact .inr ⟨hclose, f', c :: seen, fun t => rfl⟩
        · exact .inl ⟨none, fun t => rfl⟩

theorem tight_readFlags (f : Flags) (seen : List Char) :
    Tight Never fun t => (readFlags f seen t).map fun x => ((x.1, x.2.1), x.2.2) := by
  refine ⟨fun {t a w} h => ?_, fun {t a w} h => ?_, fun {t v a w} hv h h' => ?_⟩
  · induction t generalizing f seen with
    | nil => cases h
    | cons c t ih =>
        rcases readFlags_cons f seen c with ⟨o, hc⟩ | ⟨-, f', seen', hc⟩
        · rw [hc] at h
          cases o <;> cases h
          exact List.suffix_cons c _
        · rw [hc] at h
          exact (ih f' seen' h).trans (List.suffix_cons c t)
  · refine .inl fun v hv => ?_
    induction t generalizing f seen with
    | nil => cases h
    | cons c t ih =>
        rw [List.cons_append]
        rcases readFlags_cons f seen c with ⟨o, hc⟩ | ⟨-, f', seen', hc⟩
        · rw [hc] at h ⊢
          cases o <;> cases h
          rfl
        · rw [hc] at h ⊢
          exact ih f' seen' h
  · refine .inl ?_
    induction t generalizing f seen with
    | nil =>
        rcases readFlags_cons f seen ')' with ⟨o, hc⟩ | ⟨hne, -⟩
        · rw [List.nil_append, hc] at h'
          cases o <;> cases h'
          exact List.suffix_refl _
        · exact absurd rfl hne
    | cons c t ih =>
        rw [List.cons_append] at h'
        rcases readFlags_cons f seen c with ⟨o, hc⟩ | ⟨-, f', seen', hc⟩
        · rw [hc] at h h'
          cases o with
          | none => cases h'
          | some x => cases h
        · rw [hc] at h h'
          exact ih f' seen' h h'

namespace Reader

/-- The name of a group ends at the first closing angle bracket. -/
theorem openNamed?_of_mem (s : Reader) {name : Text} (hname : '>' ∉ name) (t : Text) :
    s.openNamed? (name ++ '>' :: t) =
      if isGroupName name && !s.names.contains name then some (s.openCapture (some name), t)
      else none := by
  have htake : (name ++ '>' :: t).takeWhile (· != '>') = name := by
    rw [List.takeWhile_append_of_pos fun c hc => by
      simpa using fun heq : c = '>' => hname (heq ▸ hc)]
    simp
  simp only [openNamed?, htake, List.drop_left]

theorem openNamed?_of_not_mem (s : Reader) {t : Text} (ht : '>' ∉ t) : s.openNamed? t = none := by
  have htake : t.takeWhile (· != '>') = t :=
    List.takeWhile_eq_self_iff.mpr fun c hc => by simpa using fun heq : c = '>' => ht (heq ▸ hc)
  simp only [openNamed?, htake, List.drop_length]

theorem tight_openNamed? (s : Reader) : Tight Never s.openNamed? := by
  refine ⟨fun {t s' w} h => ?_, fun {t s' w} h => ?_, fun {t v s' w} hv h h' => ?_⟩
  · by_cases ht : '>' ∈ t
    · obtain ⟨name, r, rfl, hname⟩ := List.eq_append_cons_of_mem ht
      rw [openNamed?_of_mem s hname] at h
      split at h
      · cases h
        exact (List.suffix_cons _ _).trans (List.suffix_append name _)
      · cases h
    · rw [openNamed?_of_not_mem s ht] at h
      cases h
  · by_cases ht : '>' ∈ t
    · obtain ⟨name, r, rfl, hname⟩ := List.eq_append_cons_of_mem ht
      refine .inl fun v hv => ?_
      rw [openNamed?_of_mem s hname] at h
      rw [List.append_assoc, List.cons_append, openNamed?_of_mem s hname]
      split at h
      · next hgood =>
          cases h
          rw [if_pos hgood]
      · cases h
    · rw [openNamed?_of_not_mem s ht] at h
      cases h
  · by_cases ht : '>' ∈ t
    · obtain ⟨name, r, rfl, hname⟩ := List.eq_append_cons_of_mem ht
      rw [openNamed?_of_mem s hname] at h
      rw [List.append_assoc, List.cons_append, openNamed?_of_mem s hname] at h'
      split at h
      · cases h
      · next hbad =>
          rw [if_neg hbad] at h'
          cases h'
    · by_cases hv' : '>' ∈ v
      · -- the bracket is in the name
        obtain ⟨name, r, rfl, hname⟩ := List.eq_append_cons_of_mem hv'
        have hname' : '>' ∉ t ++ ')' :: name := by simp [ht, hname]
        have hassoc : t ++ ')' :: (name ++ '>' :: r) = (t ++ ')' :: name) ++ '>' :: r := by simp
        rw [hassoc, openNamed?_of_mem s hname'] at h'
        split at h'
        · cases h'
          exact .inl ((List.suffix_cons _ _).trans (List.suffix_append name _))
        · cases h'
      · rw [openNamed?_of_not_mem s (by simp [ht, hv'])] at h'
        cases h'

/-- Flags, for a group or for what follows. -/
def flagGroup (s : Reader) (t : Text) : Option (Reader × Text) :=
  ((readFlags s.flags [] t).map fun x => ((x.1, x.2.1), x.2.2)).bind fun x =>
    (some (if x.1.2 then s.openGroup none x.1.1
      else { s with flags := x.1.1, current := s.current.push .flags })).map (·, x.2)

theorem tight_flagGroup (s : Reader) : Tight Never s.flagGroup :=
  (tight_readFlags s.flags []).map? fun x => some (if x.2 then s.openGroup none x.1
    else { s with flags := x.1, current := s.current.push .flags })

/-- The start of a group, after its question mark. Looking ahead or behind is not supported. -/
def specialGroup (s : Reader) : Text → Option (Reader × Text) :=
  branch '=' (fun _ => none) <| branch '!' (fun _ => none) <|
    branch '<' (branch '=' (fun _ => none) (branch '!' (fun _ => none) s.openNamed?)) <|
    branch 'P' (branch '<' s.openNamed? fun _ => none) s.flagGroup

theorem tight_specialGroup (s : Reader) : Tight Never s.specialGroup := by
  refine Tight.none.branch (by decide) <| Tight.none.branch (by decide) <|
    Tight.branch ?_ (by decide) <| Tight.branch ?_ (by decide) (tight_flagGroup s)
  · exact Tight.none.branch (by decide) (Tight.none.branch (by decide) (tight_openNamed? s))
  · exact (tight_openNamed? s).branch (by decide) .none

theorem startGroup?_of_question {s : Reader} {t t' : Text} (ht : s.flags.skip t = '?' :: t') :
    s.startGroup? t = s.specialGroup t' := by
  simp only [startGroup?, ht, specialGroup, branch]
  cases t' with
  | nil => rfl
  | cons c r =>
      by_cases heq : c = '='
      · subst heq
        rfl
      by_cases hbang : c = '!'
      · subst hbang
        rfl
      by_cases hangle : c = '<'
      · subst hangle
        cases r with
        | nil => rfl
        | cons a r =>
            by_cases ha : a = '='
            · subst ha
              rfl
            by_cases ha' : a = '!'
            · subst ha'
              rfl
            simp [ha, ha']
      by_cases hname : c = 'P'
      · subst hname
        cases r with
        | nil => rfl
        | cons a r =>
            by_cases ha : a = '<'
            · subst ha
              rfl
            · simp [ha]
              rfl
      simp [heq, hbang, hangle, hname]
      -- no other sign starts a group, so these are flags
      unfold flagGroup
      cases readFlags s.flags [] (c :: r) with
      | none => rfl
      | some x =>
          obtain ⟨f, colon, w⟩ := x
          cases colon <;> rfl

theorem startGroup?_of_not_question {s : Reader} {t : Text}
    (ht : (s.flags.skip t).head? ≠ some '?') :
    s.startGroup? t = some (s.openCapture none, s.flags.skip t) := by
  unfold startGroup?
  split
  case h_8 => rfl
  all_goals next heq => exact absurd (by rw [heq]; rfl) ht

theorem tight_startGroup? (s : Reader) : Tight Never s.startGroup? :=
  .skipBranch (by decide) s.flags (fun _ _ ht => startGroup?_of_question ht)
    (fun _ ht => startGroup?_of_not_question ht) (tight_specialGroup s) (.pure _)

/-! ## Repetitions -/

/-- A sign that makes a repetition lazy may follow. -/
theorem tight_lazySign (s : Reader) (least : Nat) (most : Option Nat) :
    Tight Never fun t => (s.repeat? least most (lazySign t).1).map (·, (lazySign t).2) := by
  have hbranch : (fun t => (s.repeat? least most (lazySign t).1).map (·, (lazySign t).2)) =
      branch '?' (fun t => (s.repeat? least most true).map (·, t))
        fun t => (s.repeat? least most false).map (·, t) := by
    funext t
    by_cases ht : t.head? = some '?'
    · obtain ⟨t', rfl⟩ := List.head?_eq_some_iff.mp ht
      rfl
    · rw [branch_of_head? ht, lazySign]
      rintro t' rfl
      exact ht rfl
  rw [hbranch]
  exact (Tight.constant _).branch (by decide) (.constant _)

/-- What follows the braces of a counted repetition. -/
def countedTail (s : Reader) (inside t : Text) : Option (Reader × Text) :=
  (bounds? inside).bind fun x =>
    branch '?' (fun t => (s.repeat? x.1 x.2 true).map (·, t))
      (fun t => (s.repeat? x.1 x.2 false).map (·, t)) (s.flags.skip t)

theorem counted?_eq (s : Reader) (t : Text) :
    s.counted? t = (s.flags.braced false t).bind fun x => s.countedTail x.1 x.2 := by
  refine Option.bind_congr fun ⟨inside, t'⟩ _ => Option.bind_congr fun ⟨least, most⟩ _ => ?_
  by_cases ht : (s.flags.skip t').head? = some '?'
  · obtain ⟨t'', ht''⟩ := List.head?_eq_some_iff.mp ht
    simp only [ht'', branch_cons]
    cases s.repeat? least most true <;> rfl
  · rw [branch_of_head? ht]
    simp only
    split
    · next t'' ht'' => exact absurd (by rw [ht'']; rfl) ht
    · cases s.repeat? least most false <;> rfl

theorem tight_counted? (s : Reader) : Tight Never s.counted? := by
  have htail (inside : Text) : Tight Never (s.countedTail inside) := by
    unfold countedTail
    cases bounds? inside with
    | none => exact .none
    | some x =>
        exact ((Tight.constant (s.repeat? x.1 x.2 true)).branch (by decide)
          (.constant (s.repeat? x.1 x.2 false))).skip s.flags
  have heq : s.counted? = fun t => (s.flags.braced false t).bind fun x => s.countedTail x.1 x.2 :=
    funext (counted?_eq s)
  rw [heq]
  exact (tight_braced s.flags).bind_never htail

/-- Nothing that counts closes no braces. -/
theorem braced_eq_none {f : Flags} {t : Text} (h : f.skip t = []) : f.braced false t = none := by
  unfold Flags.skip at h
  split at h
  · next hextended =>
      have hbraced (b : Bool) (t : Text) (h : Flags.skipBlanks b t = []) : f.braced b t = none := by
        induction t generalizing b with
        | nil => cases b <;> rfl
        | cons c t ih =>
            cases b with
            | true => exact ih _ h
            | false =>
                rw [Flags.skipBlanks_false_cons] at h
                simp only [Flags.braced, hextended, Bool.true_and, beq_iff_eq]
                split at h
                · next hblank =>
                    rw [if_pos hblank]
                    exact ih false h
                · next hblank =>
                    rw [if_neg hblank]
                    split at h
                    · next hhash =>
                        rw [if_pos hhash]
                        exact ih true h
                    · cases h
      exact hbraced false t h
  · rw [h]
    rfl

/-- Before a closing bracket a brace that dangles starts a repetition only with what follows. -/
theorem suffix_of_dangling {s s' : Reader} {v w w' : Text} (hv : '\n' ∉ v)
    (h : Dangling s.flags v ('\x7B' :: w)) (hstep : s.counted? w = some (s', w')) : w' <:+ v := by
  obtain ⟨t, ht, heq⟩ := h
  cases heq
  have hnone : s.counted? t = none := by
    rw [counted?_eq, braced_eq_none ht]
    rfl
  exact ((tight_counted? s).fail hv hnone hstep).resolve_right id

/-! ## Pieces -/

/-- The reader is before an opening brace that dangles. -/
def DanglingReader (s : Reader) (v w : Text) : Prop := Dangling s.flags v w

theorem tight_step? [ClassNames] (s : Reader) {c : Char} (hc : c ≠ ')') :
    Tight DanglingReader (s.step? c) := by
  change Tight DanglingReader fun t => s.step? c t
  unfold step?
  split
  · exact (tight_startGroup? s).weaken
  · exact absurd rfl hc
  · exact .pure _
  · simp only [Option.map_eq_bind]
    exact (tight_readClass s.flags).map? fun set => some (s.push (.char set))
  · exact (tight_lazySign s 0 (some 1)).weaken
  · exact (tight_lazySign s 0 none).weaken
  · exact (tight_lazySign s 1 none).weaken
  · exact (tight_counted? s).weaken
  · have hdot : (fun t : Text => s.flags.dot?.map fun set => (s.push (.char set), t)) =
        fun t => (s.flags.dot?.map fun set => s.push (.char set)).map (·, t) := by
      funext t
      rw [Option.map_map]
      rfl
    rw [hdot]
    exact .constant _
  · exact .pure _
  · exact .pure _
  · simp only [Option.map_eq_bind]
    refine (tight_readEscape s.flags).bind (fun a => .pure (s.push (a.regex s.flags))) ?_
    rintro a v w s' w' ⟨-, hdangling⟩ h
    cases h
    exact .inr hdangling
  · exact .pure _

end Reader

end Storyline.Regex
