import Storyline.Regex.Search

/-!
# What a regular expression matches

`Regex.Spans` says what an expression can match, and which places its groups note, without saying
how a search proceeds and which of several matches it prefers. A match depends on the text around it
only through assertions (`Spans.isLocal`).
-/

set_option autoImplicit false

namespace Storyline.Regex

/-- The expression can match `w` between the texts `pre` and `post`, where it makes the marks `m`,
newest first. -/
inductive Spans : Regex → (pre w post : Text) → Marks → Prop
  | empty (pre post : Text) : Spans .empty pre [] post []
  | char {s : CharSet} {c : Char} (h : s.contains c = true) (pre post : Text) :
    Spans (.char s) pre [c] post []
  | assert {a : Assertion} {pre post : Text} (h : a.holds pre.getLast? post.head? = true) :
    Spans (.assert a) pre [] post []
  | seq {r s : Regex} {pre u v post : Text} {m m' : Marks} (hr : Spans r pre u (v ++ post) m)
    (hs : Spans s (pre ++ u) v post m') : Spans (.seq r s) pre (u ++ v) post (m' ++ m)
  | altLeft {r s : Regex} {pre w post : Text} {m : Marks} (h : Spans r pre w post m) :
    Spans (.alt r s) pre w post m
  | altRight {r s : Regex} {pre w post : Text} {m : Marks} (h : Spans s pre w post m) :
    Spans (.alt r s) pre w post m
  /-- No round more. -/
  | stop {r : Regex} {least : Nat} {most : Option Nat} {g : Bool} (h : least = 0 ∨ most = some 0)
    (pre post : Text) : Spans (.rep r least most g) pre [] post []
  /-- One round, and what is left of the rounds. -/
  | round {r : Regex} {least : Nat} {most : Option Nat} {g : Bool} {pre u v post : Text}
    {m m' : Marks} (h : most ≠ some 0) (hr : Spans r pre u (v ++ post) m)
    (hrest : Spans (.rep r (least - 1) (most.map (· - 1)) g) (pre ++ u) v post m') :
    Spans (.rep r least most g) pre (u ++ v) post (m' ++ m)
  | group {i : Nat} {name : Option Text} {r : Regex} {pre w post : Text} {m : Marks}
    (h : Spans r pre w post m) :
    Spans (.group i name r) pre w post
      ((2 * i + 1, (pre ++ w).length) :: m ++ [(2 * i, pre.length)])

/-- A repetition stops or makes one round more. -/
theorem Spans.rep_cases {r : Regex} {least : Nat} {most : Option Nat} {g : Bool}
    {pre w post : Text} {m : Marks} (h : Spans (.rep r least most g) pre w post m) :
    ((least = 0 ∨ most = some 0) ∧ w = [] ∧ m = []) ∨
      ∃ u v m₁ m₂, w = u ++ v ∧ m = m₂ ++ m₁ ∧ most ≠ some 0 ∧ Spans r pre u (v ++ post) m₁ ∧
        Spans (.rep r (least - 1) (most.map (· - 1)) g) (pre ++ u) v post m₂ := by
  cases h with
  | stop h => exact .inl ⟨h, rfl, rfl⟩
  | round hmost hr hrest => exact .inr ⟨_, _, _, _, rfl, rfl, hmost, hr, hrest⟩

/-- The text is in the language of the expression. -/
def Denotes (r : Regex) (w : Text) : Prop := ∃ m, Spans r [] w [] m

/-! ## Sequences -/

section

variable {r : Regex} {rs rs' : List Regex} {pre w post : Text} {m : Marks}

theorem spans_empty : Spans .empty pre w post m ↔ w = [] ∧ m = [] := by
  constructor
  · rintro ⟨⟩
    exact ⟨rfl, rfl⟩
  · rintro ⟨rfl, rfl⟩
    exact .empty pre post

theorem spans_seqOf_nil : Spans (seqOf []) pre w post m ↔ w = [] ∧ m = [] := spans_empty

theorem spans_seqOf_cons : Spans (seqOf (r :: rs)) pre w post m ↔
    ∃ u v m₁ m₂, w = u ++ v ∧ m = m₂ ++ m₁ ∧ Spans r pre u (v ++ post) m₁ ∧
      Spans (seqOf rs) (pre ++ u) v post m₂ := by
  cases rs with
  | nil =>
      constructor
      · intro h
        refine ⟨w, [], m, [], (List.append_nil w).symm, rfl, h, ?_⟩
        exact .empty _ _
      · rintro ⟨u, v, m₁, m₂, rfl, rfl, hr, hrest⟩
        obtain ⟨rfl, rfl⟩ := spans_seqOf_nil.mp hrest
        rwa [List.append_nil]
  | cons s rs =>
      constructor
      · intro h
        cases h with
        | seq hr hs => exact ⟨_, _, _, _, rfl, rfl, hr, hs⟩
      · rintro ⟨u, v, m₁, m₂, rfl, rfl, hr, hrest⟩
        exact .seq hr hrest

theorem spans_seqOf_append : Spans (seqOf (rs ++ rs')) pre w post m ↔
    ∃ u v m₁ m₂, w = u ++ v ∧ m = m₂ ++ m₁ ∧ Spans (seqOf rs) pre u (v ++ post) m₁ ∧
      Spans (seqOf rs') (pre ++ u) v post m₂ := by
  induction rs generalizing pre w m with
  | nil =>
      constructor
      · intro h
        refine ⟨[], w, [], m, rfl, (List.append_nil m).symm, .empty _ _, ?_⟩
        rwa [List.append_nil]
      · rintro ⟨u, v, m₁, m₂, rfl, rfl, hnil, h⟩
        obtain ⟨rfl, rfl⟩ := spans_seqOf_nil.mp hnil
        rwa [List.append_nil] at h ⊢
  | cons r rs ih =>
      rw [List.cons_append, spans_seqOf_cons]
      constructor
      · rintro ⟨u, v, m₁, m₂, rfl, rfl, hr, hrest⟩
        -- the cut between the two lists is a cut of what follows `r`
        obtain ⟨u', v', m₁', m₂', rfl, rfl, hrs, hrs'⟩ := ih.mp hrest
        rw [List.append_assoc] at hr
        refine ⟨u ++ u', v', m₁' ++ m₁, m₂', by rw [List.append_assoc], by rw [List.append_assoc],
          spans_seqOf_cons.mpr ⟨u, u', m₁, m₁', rfl, rfl, hr, hrs⟩, ?_⟩
        rwa [← List.append_assoc]
      · rintro ⟨u, v, m₁, m₂, rfl, rfl, hrs, hrs'⟩
        obtain ⟨u', v', m₁', m₂', rfl, rfl, hr, hrest⟩ := spans_seqOf_cons.mp hrs
        rw [← List.append_assoc] at hrs'
        rw [← List.append_assoc] at hr
        exact ⟨u', v' ++ v, m₁', m₂ ++ m₂', by rw [List.append_assoc], by rw [List.append_assoc],
          hr, ih.mpr ⟨v', v, m₂', m₂, rfl, rfl, hrest, hrs'⟩⟩

end

theorem groups_seqOf (rs : List Regex) : (seqOf rs).groups = rs.flatMap Regex.groups := by
  induction rs with
  | nil => rfl
  | cons r rs ih =>
      cases rs with
      | nil => simp [seqOf]
      | cons s rs =>
          rw [List.flatMap_cons, ← ih]
          rfl

/-! ## Sets of characters -/

theorem contains_single {a c : Char} : (CharSet.single a).contains c = true ↔ c = a := by
  simp only [CharSet.single, CharSet.contains, Bool.and_eq_true, decide_eq_true_eq]
  constructor
  · rintro ⟨hle, hge⟩
    exact Char.le_antisymm hge hle
  · rintro rfl
    exact ⟨Char.le_refl _, Char.le_refl _⟩

theorem spans_char {s : CharSet} {pre w post : Text} {m : Marks} :
    Spans (.char s) pre w post m ↔ ∃ c, s.contains c = true ∧ w = [c] ∧ m = [] := by
  constructor
  · rintro ⟨⟩
    next c hs => exact ⟨c, hs, rfl, rfl⟩
  · rintro ⟨c, hs, rfl, rfl⟩
    exact .char hs pre post

theorem spans_rep_char {s : CharSet} {least : Nat} {g : Bool} {pre w post : Text} {m : Marks} :
    Spans (.rep (.char s) least none g) pre w post m ↔
      least ≤ w.length ∧ (∀ c ∈ w, s.contains c = true) ∧ m = [] := by
  induction w generalizing least pre m with
  | nil =>
      constructor
      · intro h
        rcases h.rep_cases with ⟨hstop, -, rfl⟩ | ⟨u, v, m₁, m₂, hw, -, -, hr, -⟩
        · have hleast : least = 0 := by simpa using hstop
          simp [hleast]
        · -- a round reads a character
          obtain ⟨c, -, rfl, -⟩ := spans_char.mp hr
          cases hw
      · rintro ⟨hleast, -, rfl⟩
        exact .stop (.inl (Nat.le_zero.mp hleast)) pre post
  | cons c w ih =>
      constructor
      · intro h
        rcases h.rep_cases with ⟨-, hw, -⟩ | ⟨u, v, m₁, m₂, hw, rfl, -, hr, hrest⟩
        · cases hw
        · obtain ⟨c', hs, rfl, rfl⟩ := spans_char.mp hr
          obtain ⟨rfl, rfl⟩ := List.cons.inj hw
          obtain ⟨hlength, hall, rfl⟩ := ih.mp hrest
          refine ⟨?_, List.forall_mem_cons.mpr ⟨hs, hall⟩, rfl⟩
          rw [List.length_cons]
          omega
      · rintro ⟨hlength, hall, rfl⟩
        obtain ⟨hs, hrest⟩ := List.forall_mem_cons.mp hall
        have hless : least - 1 ≤ w.length := by
          rw [List.length_cons] at hlength
          omega
        change Spans _ pre ([c] ++ w) post ([] ++ [])
        exact .round nofun (.char hs pre _) (ih.mpr ⟨hless, hrest, rfl⟩)

/-! ## Matches that do not depend on the text around them -/

/-- The expression has neither assertions nor groups. -/
def isLocal : Regex → Bool
  | empty => true
  | char _ => true
  | assert _ => false
  | seq r s => r.isLocal && s.isLocal
  | alt r s => r.isLocal && s.isLocal
  | rep r _ _ _ => r.isLocal
  | group _ _ _ => false

/-- Without assertions an expression matches the same texts everywhere, and without groups it marks
nothing. -/
theorem Spans.isLocal {r : Regex} {pre w post : Text} {m : Marks} (h : Spans r pre w post m)
    (hr : r.isLocal = true) : m = [] ∧ ∀ pre' post', Spans r pre' w post' [] := by
  induction h with
  | empty => exact ⟨rfl, fun pre' post' => .empty pre' post'⟩
  | char hs => exact ⟨rfl, fun pre' post' => .char hs pre' post'⟩
  | assert => cases hr
  | seq _ _ ihr ihs =>
      rw [Regex.isLocal, Bool.and_eq_true] at hr
      obtain ⟨rfl, hr'⟩ := ihr hr.1
      obtain ⟨rfl, hs'⟩ := ihs hr.2
      exact ⟨rfl, fun pre' post' => .seq (hr' _ _) (hs' _ _)⟩
  | altLeft _ ih =>
      rw [Regex.isLocal, Bool.and_eq_true] at hr
      exact ⟨(ih hr.1).1, fun pre' post' => .altLeft ((ih hr.1).2 pre' post')⟩
  | altRight _ ih =>
      rw [Regex.isLocal, Bool.and_eq_true] at hr
      exact ⟨(ih hr.2).1, fun pre' post' => .altRight ((ih hr.2).2 pre' post')⟩
  | stop hstop => exact ⟨rfl, fun pre' post' => .stop hstop pre' post'⟩
  | round hmost _ _ ihr ihrest =>
      obtain ⟨rfl, hr'⟩ := ihr hr
      obtain ⟨rfl, hrest'⟩ := ihrest hr
      exact ⟨rfl, fun pre' post' => .round hmost (hr' _ _) (hrest' _ _)⟩
  | group => cases hr

/-- Inside a text such an expression matches what is in its language. -/
theorem spans_iff_denotes {r : Regex} (hr : r.isLocal = true) {pre w post : Text} {m : Marks} :
    Spans r pre w post m ↔ r.Denotes w ∧ m = [] := by
  constructor
  · intro h
    obtain ⟨hm, hlocal⟩ := h.isLocal hr
    exact ⟨⟨[], hlocal [] []⟩, hm⟩
  · rintro ⟨⟨m', h⟩, rfl⟩
    exact (h.isLocal hr).2 pre post

/-! ## Empty matches -/

/-- The expression may match the empty text. -/
def nullable : Regex → Bool
  | empty => true
  | char _ => false
  | assert _ => true
  | seq r s => r.nullable && s.nullable
  | alt r s => r.nullable || s.nullable
  | rep r least most _ => least == 0 || most == some 0 || r.nullable
  | group _ _ r => r.nullable

theorem Spans.nullable {r : Regex} {pre w post : Text} {m : Marks} (h : Spans r pre w post m)
    (hw : w = []) : r.nullable = true := by
  induction h with
  | empty => rfl
  | char => cases hw
  | assert => rfl
  | seq _ _ ihr ihs =>
      obtain ⟨rfl, rfl⟩ := List.append_eq_nil_iff.mp hw
      rw [Regex.nullable, ihr rfl, ihs rfl, Bool.true_and]
  | altLeft _ ih => rw [Regex.nullable, ih hw, Bool.true_or]
  | altRight _ ih => rw [Regex.nullable, ih hw, Bool.or_true]
  | stop hstop =>
      rcases hstop with rfl | rfl
      · rfl
      · simp [Regex.nullable]
  | round _ _ _ ihr =>
      obtain ⟨rfl, -⟩ := List.append_eq_nil_iff.mp hw
      rw [Regex.nullable, ihr rfl, Bool.or_true]
  | group _ ih => rw [Regex.nullable, ih hw]

end Storyline.Regex
