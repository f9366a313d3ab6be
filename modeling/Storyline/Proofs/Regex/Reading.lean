import Storyline.Regex.Parse

/-!
# Reading regular expressions piece by piece

The reader goes over an expression from left to right, so that the pieces of an expression can be
read one after the other (`Reader.Reads.append`). A character that is escaped is read as itself
(`Reader.Reads.escape`).
-/

set_option autoImplicit false

namespace Storyline.Regex.Reader

/-! ## Sequences -/

/-- The state after reading the expressions one after the other. -/
def pushAll (s : Reader) (rs : List Regex) : Reader := rs.foldl push s

theorem pushAll_cons (s : Reader) (r : Regex) (rs : List Regex) :
    s.pushAll (r :: rs) = (s.push r).pushAll rs := rfl

theorem pushAll_append (s : Reader) (rs rs' : List Regex) :
    s.pushAll (rs ++ rs') = (s.pushAll rs).pushAll rs' := List.foldl_append

/-- Expressions that are read come after those before them, and change nothing else. -/
theorem pushAll_eq (s : Reader) (rs : List Regex) :
    s.pushAll rs =
      { s with current := { s.current with
          pieces := (rs.map Piece.plain).reverse ++ s.current.pieces } } := by
  induction rs generalizing s with
  | nil => rfl
  | cons r rs ih =>
      rw [pushAll_cons, ih]
      simp [push, Branches.push]

/-- Outside all groups the expressions that were read are the sequence of them. -/
theorem finish?_pushAll (f : Flags) (next : Nat) (names : List Text) (rs : List Regex) :
    (pushAll { flags := f, next, names } rs).finish? = some (seqOf rs) := by
  have hpieces : ((rs.map Piece.plain).reverse.filterMap Piece.regex?).reverse = rs := by
    rw [List.filterMap_reverse, List.reverse_reverse, List.filterMap_map]
    exact List.filterMap_some
  rw [pushAll_eq]
  simp only [finish?, List.isEmpty_nil, if_true, Branches.regex, Branches.last, List.append_nil,
    hpieces]
  rfl

/-! ## Pieces of a text -/

variable [ClassNames]

/-- The text leads the reader from one state to another, whatever follows. Only a question mark can
change the meaning of what precedes it. -/
def Reads (s : Reader) (t : Text) (s' : Reader) : Prop :=
  ∀ n rest, (t ++ rest).length ≤ n → rest.head? ≠ some '?' →
    ∃ n', rest.length ≤ n' ∧ run n s (t ++ rest) = run n' s' rest

namespace Reads

variable {s s' s'' : Reader} {t t' : Text}

theorem nil (s : Reader) : Reads s [] s := fun n _ hn _ => ⟨n, hn, rfl⟩

theorem append (h : Reads s t s') (h' : Reads s' t' s'') (ht' : t'.head? ≠ some '?') :
    Reads s (t ++ t') s'' := by
  intro n rest hn hrest
  have hnext : (t' ++ rest).head? ≠ some '?' := by
    rw [List.head?_append]
    cases hh : t'.head? with
    | none => simpa using hrest
    | some c => simpa [hh] using ht'
  rw [List.append_assoc] at hn ⊢
  -- what is left of `n` suffices for `t'`, since every piece takes at most its length
  obtain ⟨n', hn', hrun⟩ := h n (t' ++ rest) hn hnext
  obtain ⟨n'', hn'', hrun'⟩ := h' n' rest hn' hrest
  exact ⟨n'', hn'', hrun.trans hrun'⟩

/-- One piece, where blanks count. -/
theorem step (hs : s.flags.extended = false) {c : Char}
    (h : ∀ rest, rest.head? ≠ some '?' → s.step? c (t ++ rest) = some (s', rest)) :
    Reads s (c :: t) s' := by
  intro n rest hn hrest
  rw [List.cons_append, List.length_cons, List.length_append] at hn
  obtain ⟨n, rfl⟩ : ∃ k, n = k + 1 := ⟨n - 1, by omega⟩
  have hskip : s.flags.skip (c :: (t ++ rest)) = c :: (t ++ rest) := by
    simp [Flags.skip, hs]
  refine ⟨n, by omega, ?_⟩
  rw [List.cons_append, run.eq_def]
  simp only [hskip, h rest hrest]

end Reads

/-! ## Literal characters -/

/-- A character without a meaning of its own stands for itself. -/
theorem step?_of_not_isMeta {c : Char} (hc : isMeta c = false) (s : Reader) (t : Text) :
    s.step? c t = some (s.push (.char (s.flags.literal c)), t) := by
  unfold step?
  split <;> first | rfl | exact absurd hc (by decide)

theorem step?_backslash (s : Reader) (t : Text) :
    s.step? '\\' t = (readEscape s.flags t).map fun x => (s.push (x.1.regex s.flags), x.2) := rfl

/-- A character with a meaning of its own stands for itself after a backslash. -/
theorem readEscape_of_isMeta {c : Char} (hc : isMeta c = true) (f : Flags) (t : Text) :
    readEscape f (c :: t) = some (.literal c, t) := by
  have hmem : c ∈ ['\\', '.', '+', '*', '?', '(', ')', '|', '[', ']', '\x7B', '\x7D', '^', '$', '#',
      '&', '-', '~'] := by
    simpa [isMeta] using hc
  simp only [List.mem_cons, List.not_mem_nil, or_false] at hmem
  rcases hmem with rfl | rfl | rfl | rfl | rfl | rfl | rfl | rfl | rfl | rfl | rfl | rfl | rfl |
    rfl | rfl | rfl | rfl | rfl <;> rfl

/-- Without flags a character stands for the set of itself. -/
theorem Reads.escape {s : Reader} (hs : s.flags = {}) (c : Char) :
    Reads s (Regex.escape [c]) (s.push (.char (.single c))) := by
  have hliteral : s.flags.literal c = .single c := by
    rw [hs]
    exact if_pos rfl
  have hextended : s.flags.extended = false := by rw [hs]
  cases hc : isMeta c with
  | false =>
      have hsource : Regex.escape [c] = [c] := by simp [Regex.escape, hc]
      rw [hsource]
      refine .step hextended fun rest _ => ?_
      rw [List.nil_append, step?_of_not_isMeta hc, hliteral]
  | true =>
      have hsource : Regex.escape [c] = ['\\', c] := by simp [Regex.escape, hc]
      rw [hsource]
      refine .step hextended fun rest _ => ?_
      rw [step?_backslash, List.singleton_append, readEscape_of_isMeta hc, ← hliteral]
      rfl

/-! ## Whole texts -/

/-- At the end of the text the reader stops, however many steps it may still take. -/
theorem run_nil (n : Nat) (s : Reader) : run n s [] = some s := by
  have hskip : s.flags.skip [] = [] := by
    rw [Flags.skip]
    split <;> rfl
  rw [run.eq_def]
  simp only [hskip]

/-- A text that is read as expressions one after the other is their sequence. -/
theorem parse?_of_reads {t : Text} {next : Nat} {rs : List Regex}
    (h : Reads {} t (pushAll { next } rs)) : parse? t = some (seqOf rs) := by
  have hlength : (t ++ []).length ≤ t.length := Nat.le_of_eq (by rw [List.append_nil])
  obtain ⟨n, -, hrun⟩ := h t.length [] hlength (by simp)
  rw [List.append_nil, run_nil] at hrun
  rw [parse?, hrun]
  exact finish?_pushAll {} next [] rs

end Storyline.Regex.Reader
