import Mathlib.Data.List.Chain
import Storyline.Proofs.Pattern.Sign

/-!
# The tokens of a pattern

The tokens that a pattern is read as are well formed: literals have text, literals and placeholders
alternate, and no name is used twice. Every list of such tokens can be written, with a backslash
before each literal character, and is read back (`lex_eq_ok_iff_wellFormed`).
-/

set_option autoImplicit false

namespace Storyline.Pattern

/-! ## Well-formed tokens -/

namespace Token

def isLiteral : Token → Bool
  | literal _ => true
  | placeholder _ => false

/-- The name that a token uses. -/
def name? : Token → Option Text
  | literal _ => none
  | placeholder p => some p.name

/-- A literal has text, and a placeholder has the shape of one. -/
def IsShaped : Token → Prop
  | literal l => l ≠ []
  | placeholder p => p.IsShaped

/-- A token as it can be written, whatever stands around it. -/
def written : Token → Text
  | literal l => l.flatMap fun c => ['\\', c]
  | placeholder p => '$' :: p.written

end Token

/-- The names of the placeholders. -/
def names (ts : List Token) : List Text := ts.filterMap Token.name?

/-- Tokens that a pattern can have. -/
structure WellFormed (ts : List Token) : Prop where
  shaped : ∀ τ ∈ ts, τ.IsShaped
  /-- No two literals and no two placeholders are adjacent. -/
  alternate : ts.IsChain fun σ τ => σ.isLiteral ≠ τ.isLiteral
  distinct : (names ts).Nodup

/-- A pattern with the tokens. -/
def written (ts : List Token) : Text := ts.flatMap Token.written

theorem WellFormed.nil : WellFormed [] := ⟨by simp, .nil, .nil⟩

theorem names_placeholder (p : Placeholder) (ts : List Token) :
    names (.placeholder p :: ts) = p.name :: names ts := rfl

theorem wellFormed_literal {l : Text} {ts : List Token} : WellFormed (.literal l :: ts) ↔
    l ≠ [] ∧ (∀ τ ∈ ts.head?, τ.isLiteral = false) ∧ WellFormed ts := by
  constructor
  · rintro ⟨hshaped, halternate, hdistinct⟩
    obtain ⟨hl, hts⟩ := List.forall_mem_cons.mp hshaped
    obtain ⟨hhead, htail⟩ := List.isChain_cons.mp halternate
    refine ⟨hl, fun τ hτ => ?_, hts, htail, hdistinct⟩
    simpa [Token.isLiteral] using hhead τ hτ
  · rintro ⟨hl, hhead, hshaped, halternate, hdistinct⟩
    refine ⟨List.forall_mem_cons.mpr ⟨hl, hshaped⟩, ?_, hdistinct⟩
    refine List.isChain_cons.mpr ⟨fun τ hτ => ?_, halternate⟩
    show true ≠ τ.isLiteral
    simp [hhead τ hτ]

theorem wellFormed_placeholder {p : Placeholder} {ts : List Token} :
    WellFormed (.placeholder p :: ts) ↔
      p.IsShaped ∧ (∀ τ ∈ ts.head?, τ.isLiteral = true) ∧ p.name ∉ names ts ∧ WellFormed ts := by
  constructor
  · rintro ⟨hshaped, halternate, hdistinct⟩
    obtain ⟨hp, hts⟩ := List.forall_mem_cons.mp hshaped
    obtain ⟨hhead, htail⟩ := List.isChain_cons.mp halternate
    obtain ⟨hname, hnames⟩ := List.nodup_cons.mp hdistinct
    refine ⟨hp, fun τ hτ => ?_, hname, hts, htail, hnames⟩
    simpa [Token.isLiteral] using hhead τ hτ
  · rintro ⟨hp, hhead, hname, hshaped, halternate, hdistinct⟩
    refine ⟨List.forall_mem_cons.mpr ⟨hp, hshaped⟩, ?_, List.nodup_cons.mpr ⟨hname, hdistinct⟩⟩
    refine List.isChain_cons.mpr ⟨fun τ hτ => ?_, halternate⟩
    show false ≠ τ.isLiteral
    simp [hhead τ hτ]

/-! ## What is read is well formed -/

/-- Placeholders that are scanned have the shape of placeholders. -/
theorem isShaped_of_mem_scan {t : Text} {n k : Nat} {p : Placeholder}
    (h : (k, .placeholder p) ∈ scan n t) : p.IsShaped := by
  induction ht : t.length using Nat.strong_induction_on generalizing t n with
  | _ m ih =>
  by_cases hnil : t = []
  · subst hnil
    simp [scan] at h
  · obtain ⟨σ, r, hstarts⟩ := exists_starts hnil
    rw [scan_of_starts hstarts] at h
    rcases List.mem_cons.mp h with heq | h
    · obtain ⟨-, rfl⟩ := Prod.mk.inj heq
      cases hstarts with
      | placeholder hc t => exact (written_takePlaceholder hc t).1
    · exact ih r.length (ht ▸ hstarts.length_lt) h rfl

/-- The tokens can stand after placeholders with the names `ns` and the literal `rev`, which is read
backwards and belongs to them. -/
structure Continues (ns : List Text) (rev : Text) (ts : List Token) : Prop where
  wellFormed : WellFormed ts
  fresh : ∀ n ∈ names ts, n ∉ ns
  literal : rev ≠ [] → ∃ l ts', ts = .literal (rev.reverse ++ l) :: ts'
  separated : rev = [] → ns ≠ [] → ∀ τ ∈ ts.head?, τ.isLiteral = true

namespace Continues

variable {ns : List Text} {rev : Text} {ts : List Token}

/-- The last character of the literal is the first of the tokens. -/
theorem char {c : Char} (h : Continues ns (c :: rev) ts) : Continues ns rev ts := by
  obtain ⟨l, ts', rfl⟩ := h.literal (List.cons_ne_nil c rev)
  refine ⟨h.wellFormed, h.fresh, fun _ => ⟨c :: l, ts', by simp⟩, ?_⟩
  rintro - - τ ⟨⟩
  rfl

theorem nil : Continues ns rev (flush rev []) := by
  cases rev with
  | nil => exact ⟨.nil, nofun, fun h => absurd rfl h, nofun⟩
  | cons c rev =>
      refine ⟨wellFormed_literal.mpr ⟨by simp, nofun, .nil⟩, nofun, fun _ => ⟨[], [], ?_⟩, nofun⟩
      rw [List.append_nil]
      rfl

theorem placeholder {p : Placeholder} (hp : p.IsShaped) (hseparated : rev = [] → ns = [])
    (hname : p.name ∉ ns) (h : Continues (p.name :: ns) [] ts) :
    Continues ns rev (flush rev (.placeholder p :: ts)) := by
  have hdistinct : p.name ∉ names ts := fun hmem =>
    h.fresh p.name hmem List.mem_cons_self
  have hfresh : ∀ n ∈ names (.placeholder p :: ts), n ∉ ns :=
    List.forall_mem_cons.mpr ⟨hname, fun n hn hmem => h.fresh n hn (List.mem_cons_of_mem _ hmem)⟩
  have hwell : WellFormed (.placeholder p :: ts) := wellFormed_placeholder.mpr
    ⟨hp, h.separated rfl (List.cons_ne_nil _ ns), hdistinct, h.wellFormed⟩
  cases rev with
  | nil => exact ⟨hwell, hfresh, fun h => absurd rfl h, fun _ hns => absurd (hseparated rfl) hns⟩
  | cons c rev =>
      refine ⟨wellFormed_literal.mpr ⟨by simp, ?_, hwell⟩, hfresh,
        fun _ => ⟨[], .placeholder p :: ts, ?_⟩, nofun⟩
      · rintro τ ⟨⟩
        rfl
      · rw [List.append_nil]
        rfl

end Continues

section Assemble

variable {ns : List Text} {rev : Text} {p : Placeholder}

theorem assemble_adjacent (hrev : rev = []) (hns : ns ≠ []) (k : Nat) (ss : List (Nat × Sign)) :
    assemble ns rev ((k, .placeholder p) :: ss) = .error (.adjacent k) := by
  rw [assemble, if_pos (by simp [hrev, hns])]

theorem assemble_duplicate (hseparated : rev = [] → ns = []) (hname : p.name ∈ ns) (k : Nat)
    (ss : List (Nat × Sign)) :
    assemble ns rev ((k, .placeholder p) :: ss) = .error (.duplicate k p.name) := by
  rw [assemble, if_neg (by simpa using hseparated), if_pos (by simpa using hname)]

theorem assemble_placeholder (hseparated : rev = [] → ns = []) (hname : p.name ∉ ns) (k : Nat)
    (ss : List (Nat × Sign)) : assemble ns rev ((k, .placeholder p) :: ss) =
      (assemble (p.name :: ns) [] ss).map fun ts => flush rev (.placeholder p :: ts) := by
  rw [assemble, if_neg (by simpa using hseparated), if_neg (by simpa using hname)]

/-- A placeholder that is accepted is separated from the one before it and has a new name. -/
theorem assemble_placeholder_eq_ok {k : Nat} {ss : List (Nat × Sign)} {ts : List Token}
    (h : assemble ns rev ((k, .placeholder p) :: ss) = .ok ts) : (rev = [] → ns = []) ∧
      p.name ∉ ns ∧
      ∃ ts', assemble (p.name :: ns) [] ss = .ok ts' ∧ ts = flush rev (.placeholder p :: ts') := by
  by_cases hseparated : rev = [] → ns = []
  · by_cases hname : p.name ∈ ns
    · rw [assemble_duplicate hseparated hname] at h
      cases h
    · rw [assemble_placeholder hseparated hname] at h
      refine ⟨hseparated, hname, ?_⟩
      cases hrest : assemble (p.name :: ns) [] ss with
      | error e =>
          rw [hrest] at h
          cases h
      | ok ts' =>
          rw [hrest] at h
          cases h
          exact ⟨ts', rfl, rfl⟩
  · obtain ⟨hrev, hns⟩ := Classical.not_imp.mp hseparated
    rw [assemble_adjacent hrev hns] at h
    cases h

/-- Tokens that are assembled continue what was read before them. -/
theorem continues_of_assemble {ss : List (Nat × Sign)} {ts : List Token}
    (hss : ∀ k p, (k, .placeholder p) ∈ ss → p.IsShaped)
    (h : assemble ns rev ss = .ok ts) : Continues ns rev ts := by
  induction ss generalizing ns rev ts with
  | nil =>
      cases h
      exact .nil
  | cons s ss ih =>
      obtain ⟨k, σ⟩ := s
      have htail : ∀ k p, (k, .placeholder p) ∈ ss → p.IsShaped := fun k p hmem =>
        hss k p (List.mem_cons_of_mem _ hmem)
      cases σ with
      | char c => exact (ih htail h).char
      | placeholder p =>
          obtain ⟨hseparated, hname, ts', hrest, rfl⟩ := assemble_placeholder_eq_ok h
          exact .placeholder (hss k p List.mem_cons_self) hseparated hname (ih htail hrest)

end Assemble

theorem wellFormed_of_lex {t : Text} {ts : List Token} (h : lex t = .ok ts) : WellFormed ts :=
  (continues_of_assemble (fun _ _ hmem => isShaped_of_mem_scan hmem) h).wellFormed

/-! ## What is written is read -/

/-- The characters of a literal come after those before it. -/
theorem exists_assemble_literal (ns : List Text) (rev l r : Text) (n : Nat) :
    ∃ m, assemble ns rev (scan n ((Token.literal l).written ++ r)) =
      assemble ns (l.reverse ++ rev) (scan m r) := by
  induction l generalizing rev n with
  | nil => exact ⟨n, rfl⟩
  | cons c l ih =>
      obtain ⟨m, hm⟩ := ih (c :: rev) _
      refine ⟨m, ?_⟩
      have hstarts : Starts ((Token.literal (c :: l)).written ++ r) (.char c)
          ((Token.literal l).written ++ r) := .escaped c _
      rw [scan_of_starts hstarts, assemble, hm, List.reverse_cons, List.append_assoc,
        List.singleton_append]

theorem starts_placeholder {p : Placeholder} (hp : p.IsShaped) {r : Text} (hr : EndsName r) :
    Starts ((Token.placeholder p).written ++ r) (.placeholder p) r := by
  have htake := takePlaceholder_append hr p.written
  rw [takePlaceholder_written hp, List.nil_append] at htake
  obtain ⟨c, t, hwritten, hc⟩ := hp.exists_written
  have hstarts := Starts.placeholder hc (t ++ r)
  rw [← List.cons_append, ← hwritten, htake] at hstarts
  exact hstarts

/-- A placeholder ends where the token after it is a literal. -/
theorem endsName_written {ts : List Token} (hts : WellFormed ts)
    (hhead : ∀ τ ∈ ts.head?, τ.isLiteral = true) : EndsName (written ts) := by
  cases ts with
  | nil => exact nofun
  | cons τ ts =>
      cases τ with
      | placeholder p => cases hhead _ rfl
      | literal l =>
          cases l with
          | nil => exact absurd rfl (wellFormed_literal.mp hts).1
          | cons c l =>
              rintro a ⟨⟩
              decide

/-- Tokens that are written are assembled again, after what was read before them. -/
theorem assemble_written {ns : List Text} {rev : Text} {ts : List Token} (hts : WellFormed ts)
    (hfresh : ∀ n ∈ names ts, n ∉ ns) (hliteral : rev ≠ [] → ∀ τ ∈ ts.head?, τ.isLiteral = false)
    (hseparated : rev = [] → ns ≠ [] → ∀ τ ∈ ts.head?, τ.isLiteral = true) (n : Nat) :
    assemble ns rev (scan n (written ts)) = .ok (flush rev ts) := by
  induction ts generalizing ns rev n with
  | nil => simp [written, scan, assemble]
  | cons τ ts ih =>
      cases τ with
      | literal l =>
          obtain ⟨hl, hhead, hts⟩ := wellFormed_literal.mp hts
          -- two literals are not adjacent, so none is being read here
          have hrev : rev = [] := Classical.byContradiction fun hrev => by
            cases hliteral hrev _ rfl
          obtain ⟨m, hm⟩ := exists_assemble_literal ns rev l (written ts) n
          have hread : assemble ns l.reverse (scan m (written ts)) = .ok (flush l.reverse ts) :=
            ih hts hfresh (fun _ => hhead)
              (fun hnil => absurd (List.reverse_eq_nil_iff.mp hnil) hl) m
          have hflush : flush l.reverse ts = .literal l :: ts := by
            rw [flush, if_neg (by simpa using hl), List.reverse_reverse]
          subst hrev
          rw [written, List.flatMap_cons, ← written, hm, List.append_nil, hread, hflush]
          rfl
      | placeholder p =>
          obtain ⟨hp, hhead, hname, hts⟩ := wellFormed_placeholder.mp hts
          obtain ⟨hnew, hfresh⟩ := List.forall_mem_cons.mp hfresh
          have hspace (hrev : rev = []) : ns = [] := Classical.byContradiction fun hns => by
            cases hseparated hrev hns _ rfl
          have hothers : ∀ a ∈ names ts, a ∉ p.name :: ns := by
            intro a ha hmem
            rcases List.mem_cons.mp hmem with rfl | hmem
            · exact hname ha
            · exact hfresh a ha hmem
          have hread (m : Nat) :
              assemble (p.name :: ns) [] (scan m (written ts)) = .ok (flush [] ts) :=
            ih hts hothers (fun h => absurd rfl h) (fun _ _ => hhead) m
          rw [written, List.flatMap_cons, ← written,
            scan_of_starts (starts_placeholder hp (endsName_written hts hhead)),
            assemble_placeholder hspace hnew, hread]
          rfl

/-- **The tokens of patterns are the well-formed ones.** A pattern is never read as anything else,
and each list of well-formed tokens is read from the pattern that is written with a backslash before
each literal character. -/
theorem lex_eq_ok_iff_wellFormed (ts : List Token) :
    ((∃ t, lex t = .ok ts) ↔ WellFormed ts) ∧ (WellFormed ts → lex (written ts) = .ok ts) := by
  have hwritten (hts : WellFormed ts) : lex (written ts) = .ok ts :=
    assemble_written hts (fun _ _ => List.not_mem_nil) (fun h => absurd rfl h)
      (fun _ h => absurd rfl h) 0
  refine ⟨⟨?_, fun hts => ⟨written ts, hwritten hts⟩⟩, hwritten⟩
  rintro ⟨t, ht⟩
  exact wellFormed_of_lex ht

/-- Literals that hold a dollar and a backslash, or start with what would belong to the placeholder
before them. -/
theorem lex_eq_ok_of_signs :
    WellFormed [.literal "$\\".toList, .placeholder ⟨"a".toList, none⟩, .literal ":b1".toList,
        .placeholder ⟨"n".toList, some "u8".toList⟩, .literal "x".toList] ∧
      lex "\\$\\\\$a\\:\\b\\1$n:u8\\x".toList = .ok [.literal "$\\".toList,
        .placeholder ⟨"a".toList, none⟩, .literal ":b1".toList,
        .placeholder ⟨"n".toList, some "u8".toList⟩, .literal "x".toList] := by
  have hname : IsName "a".toList := ⟨'a', [], rfl, .inr (.inl ⟨by decide, by decide⟩), by simp⟩
  have hname' : IsName "n".toList := ⟨'n', [], rfl, .inr (.inl ⟨by decide, by decide⟩), by simp⟩
  have hhint : IsName "u8".toList :=
    ⟨'u', ['8'], rfl, .inr (.inl ⟨by decide, by decide⟩), by simp [NameChar]⟩
  have hts : WellFormed [.literal "$\\".toList, .placeholder ⟨"a".toList, none⟩,
      .literal ":b1".toList, .placeholder ⟨"n".toList, some "u8".toList⟩, .literal "x".toList] := by
    refine wellFormed_literal.mpr ⟨by decide, by simp [Token.isLiteral], ?_⟩
    refine wellFormed_placeholder.mpr ⟨⟨hname, by simp⟩, by simp [Token.isLiteral], by decide, ?_⟩
    refine wellFormed_literal.mpr ⟨by decide, by simp [Token.isLiteral], ?_⟩
    refine wellFormed_placeholder.mpr ⟨⟨hname', ?_⟩, by simp [Token.isLiteral], by decide, ?_⟩
    · rintro h ⟨⟩
      exact hhint
    · exact wellFormed_literal.mpr ⟨by decide, by simp, .nil⟩
  exact ⟨hts, (lex_eq_ok_iff_wellFormed _).2 hts⟩

end Storyline.Pattern
