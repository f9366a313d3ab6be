import Mathlib.Data.List.DropRight
import Storyline.Text

/-!
# Laws of texts

Cutting a text at a character is `List.splitOn`, whose laws carry over: lines that are joined by
line feeds are read back (`lines_join`), as are the entries of a list with commas between them
(`entries_join`), and a line feed between two texts divides their lines (`lines_append`). Cutting at
a separator of any length is said by `CutAt` (`pieces_eq_iff`). A text is trimmed if it neither
starts nor ends with a blank (`trim_eq_self_iff`).
-/

set_option autoImplicit false

namespace Storyline.Text

open Unicode (isBlank)

/-! ## Lines -/

theorem splitOn_cons (c a : Char) (t : Text) : (a :: t).splitOn c =
    if a = c then [] :: t.splitOn c else (t.splitOn c).modifyHead (List.cons a) := by
  rw [List.splitOn, List.splitOnP_cons_eq_if_modifyHead]
  simp [List.splitOn]

/-- The lines of a text are its pieces between line feeds. -/
theorem lines_eq_splitOn (t : Text) : lines t = t.splitOn '\n' := by
  induction t with
  | nil => rfl
  | cons c t ih =>
      rw [lines, ih, splitOn_cons]
      by_cases hc : c = '\n'
      · rw [if_pos hc, if_pos hc]
      · rw [if_neg hc, if_neg hc]
        cases hs : t.splitOn '\n' with
        | nil => exact absurd hs (List.splitOn_ne_nil '\n' t)
        | cons l ls => rfl

/-- A line feed between two texts divides their lines. -/
theorem lines_append (s t : Text) : lines (s ++ '\n' :: t) = lines s ++ lines t := by
  simp only [lines_eq_splitOn, List.splitOn]
  exact List.splitOnP_append_cons s t (by simp)

theorem lines_of_not_mem {l : Text} (h : '\n' ∉ l) : lines l = [l] := by
  rw [lines_eq_splitOn, List.splitOn_eq_singleton h]

/-- Lines that are joined by line feeds are read back. -/
theorem lines_join {ls : List Text} (h : ∀ l ∈ ls, '\n' ∉ l) (hne : ls ≠ []) :
    lines (join ['\n'] ls) = ls := by
  rw [lines_eq_splitOn, join, List.splitOn_intercalate '\n' h hne]

/-- Joining the lines of a text gives the text. -/
theorem join_lines (t : Text) : join ['\n'] (lines t) = t := by
  rw [lines_eq_splitOn, join, List.intercalate_splitOn]

/-- No line holds a line feed. -/
theorem not_mem_of_mem_lines {l t : Text} (h : l ∈ lines t) : '\n' ∉ l := by
  induction t generalizing l with
  | nil =>
      rw [List.mem_singleton.mp h]
      exact List.not_mem_nil
  | cons c t ih =>
      rw [lines] at h
      by_cases hc : c = '\n'
      · rw [if_pos hc] at h
        rcases List.mem_cons.mp h with rfl | h
        · exact List.not_mem_nil
        · exact ih h
      · rw [if_neg hc] at h
        cases hl : lines t with
        | nil => exact absurd hl (lines_ne_nil t)
        | cons m ms =>
            rw [hl] at h ih
            have hm : '\n' ∉ m := ih List.mem_cons_self
            rcases List.mem_cons.mp h with rfl | h
            · simp [hm, Ne.symm hc]
            · exact ih (List.mem_cons_of_mem _ h)

/-- A character that does not occur in `start` stops the search for it. -/
theorem after?_append {c : Char} {start : Text} (h : c ∉ start) (t u : Text) :
    after? start (t ++ c :: u) = (after? start t).map (· ++ c :: u) := by
  induction start generalizing t with
  | nil => rfl
  | cons a start ih =>
      cases t with
      | nil => exact if_neg (List.ne_of_not_mem_cons h).symm
      | cons b t =>
          rw [List.cons_append, after?, after?]
          by_cases hab : a = b
          · rw [if_pos hab, if_pos hab, ih (List.not_mem_of_not_mem_cons h)]
          · rw [if_neg hab, if_neg hab]
            rfl

/-! ## Joining -/

@[simp] theorem join_nil (sep : Text) : join sep [] = [] := rfl

@[simp] theorem join_singleton (sep t : Text) : join sep [t] = t := List.intercalate_singleton

theorem join_cons (sep t : Text) {ts : List Text} (h : ts ≠ []) :
    join sep (t :: ts) = t ++ sep ++ join sep ts :=
  List.intercalate_cons_of_ne_nil h

theorem join_concat (sep : Text) {ts : List Text} (h : ts ≠ []) (t : Text) :
    join sep (ts ++ [t]) = join sep ts ++ sep ++ t := by
  induction ts with
  | nil => exact absurd rfl h
  | cons u us ih =>
      cases us with
      | nil => simp [join_cons]
      | cons v vs =>
          rw [List.cons_append, join_cons sep u (by simp), ih (by simp), join_cons sep u (by simp)]
          simp only [List.append_assoc]

/-- Texts that are not empty leave something when they are joined. -/
theorem join_eq_nil_iff {sep : Text} {ts : List Text} (h : ∀ t ∈ ts, t ≠ []) :
    join sep ts = [] ↔ ts = [] := by
  cases ts with
  | nil => simp
  | cons t ts =>
      have ht : t ≠ [] := h t List.mem_cons_self
      cases ts with
      | nil => simp [ht]
      | cons u us => simp [join_cons, ht]

theorem not_mem_join {c : Char} {sep : Text} {ts : List Text} (hsep : c ∉ sep)
    (hts : ∀ t ∈ ts, c ∉ t) : c ∉ join sep ts := by
  induction ts with
  | nil => simp
  | cons t ts ih =>
      obtain ⟨ht, hrest⟩ := List.forall_mem_cons.mp hts
      by_cases hnil : ts = []
      · simpa [hnil] using ht
      · rw [join_cons sep t hnil]
        simp [hsep, ht, ih hrest]

/-- What every separator ends with can be counted to the texts that follow. -/
theorem join_append_cons (sep lead t : Text) (ts : List Text) :
    join (sep ++ lead) (t :: ts) = join sep (t :: ts.map (lead ++ ·)) := by
  induction ts generalizing t with
  | nil => simp
  | cons u us ih =>
      rw [join_cons (sep ++ lead) t (by simp), ih u, List.map_cons, join_cons sep t (by simp)]
      cases us with
      | nil => simp
      | cons v vs => simp [join_cons]

/-! ## Trimming -/

theorem trimStart_subset (t : Text) : trimStart t ⊆ t := (List.dropWhile_sublist isBlank).subset

/-- What is left of a text after trimming holds only characters of the text. -/
theorem trim_subset (t : Text) : trim t ⊆ t := by
  intro c hc
  have hs : c ∈ (trimStart t).reverse :=
    (List.dropWhile_sublist isBlank).subset (List.mem_reverse.mp hc)
  exact trimStart_subset t (List.mem_reverse.mp hs)

theorem dropWhile_eq_self_iff {t : Text} :
    t.dropWhile isBlank = t ↔ ∀ c ∈ t.head?, isBlank c = false := by
  cases t with
  | nil => simp
  | cons c t =>
      cases hc : isBlank c with
      | false => simp [hc]
      | true =>
          have hle : (t.dropWhile isBlank).length ≤ t.length :=
            (List.dropWhile_sublist isBlank).length_le
          have hne : t.dropWhile isBlank ≠ c :: t := fun h => by
            rw [h, List.length_cons] at hle
            omega
          simp [hc, hne]

/-- A text is trimmed if it neither starts nor ends with a blank. -/
theorem trim_eq_self_iff {t : Text} :
    trim t = t ↔ (∀ c ∈ t.head?, isBlank c = false) ∧ ∀ c ∈ t.getLast?, isBlank c = false := by
  rw [← List.head?_reverse, ← dropWhile_eq_self_iff, ← dropWhile_eq_self_iff]
  constructor
  · intro h
    -- each of the two cuts can only shorten the text, so that neither does
    have hstart : (trimStart t).length ≤ t.length := (List.dropWhile_sublist isBlank).length_le
    have hend : (trim t).length ≤ (trimStart t).length := by
      have hle := (List.dropWhile_sublist (l := (trimStart t).reverse) isBlank).length_le
      rw [List.length_reverse] at hle
      rw [trim, trimEnd, List.length_reverse]
      exact hle
    have hs : trimStart t = t := by
      refine (List.dropWhile_sublist isBlank).eq_of_length ?_
      rw [h] at hend
      exact Nat.le_antisymm hstart hend
    refine ⟨hs, ?_⟩
    rw [trim, hs, trimEnd] at h
    rw [← List.reverse_inj, List.reverse_reverse]
    exact h
  · rintro ⟨hs, he⟩
    rw [trim, trimStart, hs, trimEnd, he, List.reverse_reverse]

/-- What stands between trimmed texts does not matter. -/
theorem trim_between {s t : Text} (hs : s ≠ [] ∧ trim s = s) (ht : t ≠ [] ∧ trim t = t)
    (m : Text) : trim (s ++ m ++ t) = s ++ m ++ t := by
  have hhead : (s ++ m ++ t).head? = s.head? := by
    rw [List.append_assoc, List.head?_append_of_ne_nil s hs.1]
  have hlast : (s ++ m ++ t).getLast? = t.getLast? := List.getLast?_append_of_ne_nil (s ++ m) ht.1
  rw [trim_eq_self_iff, hhead, hlast]
  exact ⟨(trim_eq_self_iff.mp hs.2).1, (trim_eq_self_iff.mp ht.2).2⟩

theorem trim_join {sep : Text} {ts : List Text} (h : ∀ t ∈ ts, t ≠ [] ∧ trim t = t) :
    trim (join sep ts) = join sep ts := by
  induction ts with
  | nil => rfl
  | cons t ts ih =>
      obtain ⟨ht, hts⟩ := List.forall_mem_cons.mp h
      by_cases hnil : ts = []
      · rw [hnil, join_singleton, ht.2]
      · have hne : join sep ts ≠ [] := fun hjoin =>
          hnil ((join_eq_nil_iff fun u hu => (hts u hu).1).mp hjoin)
        rw [join_cons sep t hnil]
        exact trim_between ht ⟨hne, ih hts⟩ sep

/-- A blank in front is trimmed away. -/
theorem trim_cons {c : Char} (h : isBlank c = true) (t : Text) : trim (c :: t) = trim t := by
  rw [trim, trim, trimStart, trimStart, List.dropWhile_cons_of_pos h]

/-- A blank at the end is trimmed away. -/
theorem trim_concat {c : Char} (h : isBlank c = true) (t : Text) : trim (t ++ [c]) = trim t := by
  have htrim : trimEnd (trimStart t ++ [c]) = trim t := by
    rw [trim, trimEnd, trimEnd, List.reverse_append, List.reverse_singleton, List.singleton_append,
      List.dropWhile_cons_of_pos h]
  rw [trim, trimStart, List.dropWhile_append]
  split
  · next he =>
    -- the text is all blank
    rw [trim, trimStart, List.isEmpty_iff.mp he, List.dropWhile_cons_of_pos h, List.dropWhile_nil]
  · exact htrim

/-- Trimming leaves nothing just of blank texts. -/
theorem trim_eq_nil_iff {t : Text} : trim t = [] ↔ ∀ c ∈ t, isBlank c = true := by
  have hend (u : Text) : trimEnd u = [] ↔ ∀ c ∈ u, isBlank c = true := by
    simp [trimEnd, List.dropWhile_eq_nil_iff]
  rw [trim, hend]
  constructor
  · intro h
    have hstart : trimStart t = [] := by
      rw [trimStart, ← List.dropWhile_idempotent isBlank t, List.dropWhile_eq_nil_iff]
      exact h
    exact List.dropWhile_eq_nil_iff.mp hstart
  · intro h c hc
    exact h c (trimStart_subset t hc)

/-- A text is what trimming its end leaves, and blanks. -/
theorem exists_trimEnd_append (t : Text) :
    ∃ bs, t = trimEnd t ++ bs ∧ ∀ c ∈ bs, isBlank c = true := by
  refine ⟨t.rtakeWhile isBlank, List.rdropWhile_append_rtakeWhile.symm, fun c hc => ?_⟩
  exact List.mem_takeWhile_imp (List.mem_reverse.mp hc)

/-- Blanks at the end are trimmed away. -/
theorem trim_append_blanks (t : Text) {bs : Text} (h : ∀ c ∈ bs, isBlank c = true) :
    trim (t ++ bs) = trim t := by
  induction bs using List.reverseRecOn with
  | nil => rw [List.append_nil]
  | append_singleton bs c ih =>
      rw [← List.append_assoc, trim_concat (h c (by simp))]
      exact ih fun b hb => h b (List.mem_append_left _ hb)

/-- A text that is trimmed stays as it is. -/
@[simp] theorem trim_trim (t : Text) : trim (trim t) = trim t := by
  obtain ⟨bs, ht, hbs⟩ := exists_trimEnd_append (trimStart t)
  calc trim (trim t)
      = trim (trim t ++ bs) := (trim_append_blanks (trim t) hbs).symm
    _ = trim (trimStart t) := congrArg trim ht.symm
    _ = trim t := congrArg trimEnd (List.dropWhile_idempotent isBlank t)

/-- Trimming the end does not go on into what precedes a text that is not blank. -/
theorem trimEnd_append (s : Text) {t : Text} (h : trim t ≠ []) :
    trimEnd (s ++ t) = s ++ trimEnd t := by
  have hne : (t.reverse.dropWhile isBlank).isEmpty = false := by
    rw [List.isEmpty_eq_false_iff, Ne, List.dropWhile_eq_nil_iff]
    exact fun hall => h (trim_eq_nil_iff.mpr fun c hc => hall c (List.mem_reverse.mpr hc))
  simp [trimEnd, List.dropWhile_append, hne]

/-! ## Pieces -/

/-- Cutting at a single character. -/
theorem pieces_singleton (c : Char) (t : Text) : pieces [c] t = t.splitOn c := by
  rw [pieces]
  induction t with
  | nil => rfl
  | cons a t ih =>
      rw [piecesFrom, splitOn_cons]
      by_cases hc : a = c
      · subst hc
        simp [ih]
      · rw [if_neg (by simpa using Ne.symm hc), if_neg hc, ih]
        cases hs : t.splitOn c with
        | nil => exact absurd hs (List.splitOn_ne_nil c t)
        | cons p ps => rfl

/-- The entries of a list with commas between them, without the blanks around them. Empty ones do
not count. -/
def listed (t : Text) : List Text := ((t.splitOn ',').map trim).filter (· ≠ [])

theorem entries_eq_listed (t : Text) : entries t = listed t := by
  rw [entries, pieces_singleton, listed]

/-- `ps` are the pieces of `t` between the occurrences of `sep`, each the first one in what is left
of the text. -/
inductive CutAt (sep : Text) : Text → List Text → Prop
  | last {t : Text} (h : ¬ sep <:+: t) : CutAt sep t [t]
  | next {p t : Text} {ps : List Text} (h : ∀ q, q ++ sep <+: p ++ sep ++ t → p.length ≤ q.length)
      (ht : CutAt sep t ps) : CutAt sep (p ++ sep ++ t) (p :: ps)

section

variable {sep : Text}

theorem pieces_ne_nil (sep t : Text) : pieces sep t ≠ [] := by
  have hfrom (n : Nat) : piecesFrom sep n t ≠ [] := by
    induction t generalizing n with
    | nil => simp [piecesFrom]
    | cons c t ih =>
        cases n with
        | zero =>
            unfold piecesFrom
            split
            · simp
            · split <;> simp
        | succ n => exact ih n
  exact hfrom 0

theorem piecesFrom_append (s t : Text) :
    piecesFrom sep s.length (s ++ t) = piecesFrom sep 0 t := by
  induction s with
  | nil => rfl
  | cons c s ih => exact ih

theorem pieces_append (h : sep ≠ []) (t : Text) : pieces sep (sep ++ t) = [] :: pieces sep t := by
  obtain ⟨c, s, rfl⟩ := List.exists_cons_of_ne_nil h
  have hprefix : (c :: s).isPrefixOf (c :: (s ++ t)) = true := by simp
  rw [List.cons_append, pieces, piecesFrom, if_pos hprefix]
  exact congrArg _ (piecesFrom_append s t)

theorem pieces_cons {c : Char} {t : Text} (h : ¬ sep <+: c :: t) :
    pieces sep (c :: t) = (pieces sep t).modifyHead (c :: ·) := by
  rw [pieces, piecesFrom, if_neg (by simpa using h), ← pieces]
  cases hp : pieces sep t with
  | nil => exact absurd hp (pieces_ne_nil sep t)
  | cons p ps => rfl

/-- One more character in front belongs to the first piece. -/
theorem CutAt.cons {c : Char} {t : Text} {ps : List Text} (ht : CutAt sep t ps)
    (h : ¬ sep <+: c :: t) : CutAt sep (c :: t) (ps.modifyHead (c :: ·)) := by
  cases ht with
  | last hlast =>
      refine .last fun hsome => ?_
      rcases List.infix_cons_iff.mp hsome with hstart | hrest
      · exact h hstart
      · exact hlast hrest
  | @next p u ps hfirst hnext =>
      refine .next (p := c :: p) (fun q hq => ?_) hnext
      cases q with
      | nil => exact absurd hq h
      | cons d q => exact Nat.succ_le_succ (hfirst q (List.cons_prefix_cons.mp hq).2)

theorem cutAt_pieces (hsep : sep ≠ []) (t : Text) : CutAt sep t (pieces sep t) := by
  induction hn : t.length using Nat.strong_induction_on generalizing t with
  | _ n ih =>
      by_cases hstart : sep <+: t
      · obtain ⟨u, rfl⟩ := hstart
        have hlt : u.length < n := by
          have hpos := List.length_pos_iff.mpr hsep
          rw [List.length_append] at hn
          omega
        rw [pieces_append hsep]
        exact .next (p := []) (fun q _ => Nat.zero_le _) (ih _ hlt u rfl)
      · cases t with
        | nil => exact .last fun hsome => hsep (List.eq_nil_of_infix_nil hsome)
        | cons c t =>
            rw [pieces_cons hstart]
            exact (ih t.length (by simp [← hn]) t rfl).cons hstart

theorem pieces_of_not_infix {t : Text} (h : ¬ sep <:+: t) : pieces sep t = [t] := by
  induction t with
  | nil => rfl
  | cons c t ih =>
      rw [List.infix_cons_iff, not_or] at h
      rw [pieces_cons h.1, ih h.2]
      rfl

theorem pieces_append_append (hsep : sep ≠ []) {p t : Text}
    (h : ∀ q, q ++ sep <+: p ++ sep ++ t → p.length ≤ q.length) :
    pieces sep (p ++ sep ++ t) = p :: pieces sep t := by
  induction p with
  | nil => exact pieces_append hsep t
  | cons c p ih =>
      have hstart : ¬ sep <+: c :: (p ++ sep ++ t) := fun hstart =>
        absurd (h [] hstart) (Nat.not_succ_le_zero _)
      have hrest (q : Text) (hq : q ++ sep <+: p ++ sep ++ t) : p.length ≤ q.length :=
        Nat.le_of_succ_le_succ (h (c :: q) (List.cons_prefix_cons.mpr ⟨rfl, hq⟩))
      rw [List.cons_append, List.cons_append, pieces_cons hstart, ih hrest]
      rfl

/-- **A text is cut at the occurrences of the separator**, from left to right. -/
theorem pieces_eq_iff (hsep : sep ≠ []) {t : Text} {ps : List Text} :
    pieces sep t = ps ↔ CutAt sep t ps := by
  constructor
  · rintro rfl
    exact cutAt_pieces hsep t
  · intro h
    induction h with
    | last h => exact pieces_of_not_infix h
    | next h ht ih => rw [pieces_append_append hsep h, ih]

end

/-- Pieces that are joined by a character are cut again. -/
theorem pieces_join {c : Char} {ps : List Text} (h : ∀ p ∈ ps, c ∉ p) (hne : ps ≠ []) :
    pieces [c] (join [c] ps) = ps := by
  rw [pieces_singleton, join, List.splitOn_intercalate c h hne]

/-- The entries of a list are read back, where a blank follows each comma. -/
theorem entries_join {es : List Text} (h : ∀ e ∈ es, e ≠ [] ∧ trim e = e ∧ ',' ∉ e) :
    entries (join [',', ' '] es) = es := by
  cases es with
  | nil => rfl
  | cons e es =>
      obtain ⟨he, hes⟩ := List.forall_mem_cons.mp h
      have hpieces : pieces [','] (join [',', ' '] (e :: es)) = e :: es.map (' ' :: ·) := by
        have hcut : ∀ p ∈ e :: es.map (' ' :: ·), ',' ∉ p := by
          rw [List.forall_mem_cons, List.forall_mem_map]
          exact ⟨he.2.2, fun p hp => by simp [(hes p hp).2.2]⟩
        -- the blank after a comma belongs to the entry that follows
        rw [show [',', ' '] = [','] ++ [' '] from rfl, join_append_cons]
        exact pieces_join hcut (by simp)
      have htrim : (es.map (' ' :: ·)).map trim = es := by
        rw [List.map_map]
        exact List.map_congr_left (fun p hp => (trim_cons (by decide) p).trans (hes p hp).2.1)
          |>.trans (List.map_id es)
      rw [entries, hpieces, List.map_cons, htrim, he.2.1]
      exact List.filter_eq_self.mpr fun p hp => by simp [(h p hp).1]

end Storyline.Text
