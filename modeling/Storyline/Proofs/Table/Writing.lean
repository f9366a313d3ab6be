import Storyline.Proofs.Table.Reading

/-!
# Writing tables

There are many ways to write a table: the separators at the ends of a line may be left out next to
a cell that is not empty, blanks may surround cells and lines (`Written`), and blank lines and
comments may stand anywhere (`Spaced`). All of them are read as the table (`parse_written`).
-/

set_option autoImplicit false

namespace Storyline

open Unicode (isBlank)

namespace Text

/-! ## Blanks around a text -/

theorem trimStart_trimStart (t : Text) : trimStart (trimStart t) = trimStart t :=
  List.dropWhile_idempotent isBlank t

theorem trim_trimStart (t : Text) : trim (trimStart t) = trim t :=
  congrArg trimEnd (trimStart_trimStart t)

theorem trim_trimEnd (t : Text) : trim (trimEnd t) = trim t := by
  obtain ⟨bs, ht, hbs⟩ := exists_trimEnd_append t
  calc trim (trimEnd t)
      = trim (trimEnd t ++ bs) := (trim_append_blanks _ hbs).symm
    _ = trim t := congrArg trim ht.symm

/-- Blanks in front are trimmed away. -/
theorem trim_blanks_append {bs : Text} (h : ∀ c ∈ bs, isBlank c = true) (t : Text) :
    trim (bs ++ t) = trim t := by
  induction bs with
  | nil => rfl
  | cons c bs ih =>
      obtain ⟨hc, hbs⟩ := List.forall_mem_cons.mp h
      rw [List.cons_append, trim_cons hc, ih hbs]

theorem trimEnd_subset (t : Text) : trimEnd t ⊆ t := by
  obtain ⟨bs, ht, -⟩ := exists_trimEnd_append t
  exact fun c hc => ht ▸ List.mem_append_left bs hc

theorem ne_nil_of_trim_ne_nil {t : Text} (h : trim t ≠ []) : t ≠ [] := by
  rintro rfl
  exact h rfl

/-- A text that is not blank leaves something, whatever precedes it. -/
theorem trim_append_ne_nil (s : Text) {t : Text} (h : trim t ≠ []) : trim (s ++ t) ≠ [] := by
  intro hblank
  rw [trim_eq_nil_iff, List.forall_mem_append] at hblank
  exact h (trim_eq_nil_iff.mpr hblank.2)

/-- Trimming the start ends in a text that is not blank. -/
theorem trimStart_append {t : Text} (h : trim t ≠ []) (u : Text) :
    trimStart (t ++ u) = trimStart t ++ u := by
  have hne : (t.dropWhile isBlank).isEmpty = false := by
    rw [List.isEmpty_eq_false_iff, Ne, List.dropWhile_eq_nil_iff]
    exact fun hall => h (trim_eq_nil_iff.mpr hall)
  rw [trimStart, List.dropWhile_append, hne]
  rfl

/-! ## The ends of texts that are joined -/

theorem exists_join_cons (sep : Text) (ts : List Text) :
    ∃ u, ∀ t, join sep (t :: ts) = t ++ u := by
  cases ts with
  | nil => exact ⟨[], fun t => by simp⟩
  | cons t' ts => exact ⟨sep ++ join sep (t' :: ts), fun t => by simp [join_cons]⟩

theorem exists_join_concat (sep : Text) (ts : List Text) :
    ∃ u, ∀ t, join sep (ts ++ [t]) = u ++ t := by
  cases ts with
  | nil => exact ⟨[], fun t => by simp⟩
  | cons t' ts => exact ⟨join sep (t' :: ts) ++ sep, fun t => join_concat sep (by simp) t⟩

end Text

namespace Table

/-! ## Lines -/

/-- The line writes the cells, of which there is at least one. They stand between separators, with
blanks around them. The separators at the ends of the line may be left out next to a cell that is
not empty. -/
inductive Written (c : Char) : (line : Text) → (cs : List Text) → Prop
  | intro {opening closing : Text} {ps cs : List Text} (hne : ps ≠ []) (hps : ∀ p ∈ ps, c ∉ p)
      (hcs : ps.map Text.trim = cs)
      (hopening : opening = [c] ∨ opening = [] ∧ ∀ x ∈ cs.head?, x ≠ [])
      (hclosing : closing = [c] ∨ closing = [] ∧ ∀ x ∈ cs.getLast?, x ≠ []) :
      Written c (opening ++ Text.join [c] ps ++ closing) cs

namespace Written

/-! ### Cells at the ends -/

section

variable {ps cs : List Text}

/-- The first cell, if it is not empty. -/
theorem exists_first (hne : ps ≠ []) (hcs : ps.map Text.trim = cs) (h : ∀ x ∈ cs.head?, x ≠ []) :
    ∃ p qs, ps = p :: qs ∧ Text.trim p ≠ [] := by
  subst hcs
  obtain ⟨p, qs, rfl⟩ := List.exists_cons_of_ne_nil hne
  exact ⟨p, qs, rfl, h _ rfl⟩

/-- The last cell, if it is not empty. -/
theorem exists_last (hne : ps ≠ []) (hcs : ps.map Text.trim = cs)
    (h : ∀ x ∈ cs.getLast?, x ≠ []) : ∃ qs p, ps = qs ++ [p] ∧ Text.trim p ≠ [] := by
  subst hcs
  obtain ⟨qs, p, rfl⟩ := (List.eq_nil_or_concat' ps).resolve_left hne
  exact ⟨qs, p, rfl, h _ (by simp)⟩

end

/-! ### Blanks at the ends -/

variable {c : Char} {line : Text} {cs : List Text}

theorem trimStart (h : Written c line cs) (hc : isBlank c = false) :
    Written c (Text.trimStart line) cs := by
  cases h with
  | @intro opening closing ps _ hne hps hcs hopening hclosing =>
      rcases hopening with rfl | ⟨rfl, hfirst⟩
      · have hline : Text.trimStart ([c] ++ Text.join [c] ps ++ closing) =
            [c] ++ Text.join [c] ps ++ closing := List.dropWhile_cons_of_neg (by simp [hc])
        rw [hline]
        exact .intro hne hps hcs (.inl rfl) hclosing
      · -- the blanks in front are those of the first cell
        obtain ⟨p, qs, rfl, hp⟩ := exists_first hne hcs hfirst
        obtain ⟨u, hu⟩ := Text.exists_join_cons [c] qs
        have hline : Text.trimStart ([] ++ Text.join [c] (p :: qs) ++ closing) =
            [] ++ Text.join [c] (Text.trimStart p :: qs) ++ closing := by
          simp only [hu, List.nil_append, List.append_assoc, Text.trimStart_append hp]
        obtain ⟨hmem, hqs⟩ := List.forall_mem_cons.mp hps
        have hmem' : c ∉ Text.trimStart p := fun h => hmem (Text.trimStart_subset p h)
        rw [hline]
        refine .intro (by simp) (List.forall_mem_cons.mpr ⟨hmem', hqs⟩) ?_ (.inr ⟨rfl, hfirst⟩)
          hclosing
        rw [← hcs, List.map_cons, List.map_cons, Text.trim_trimStart]

theorem trimEnd (h : Written c line cs) (hc : isBlank c = false) :
    Written c (Text.trimEnd line) cs := by
  cases h with
  | @intro opening closing ps _ hne hps hcs hopening hclosing =>
      rcases hclosing with rfl | ⟨rfl, hlast⟩
      · have hline : Text.trimEnd (opening ++ Text.join [c] ps ++ [c]) =
            opening ++ Text.join [c] ps ++ [c] := by
          simp [Text.trimEnd, hc]
        rw [hline]
        exact .intro hne hps hcs hopening (.inl rfl)
      · -- the blanks at the end are those of the last cell
        obtain ⟨qs, p, rfl, hp⟩ := exists_last hne hcs hlast
        obtain ⟨u, hu⟩ := Text.exists_join_concat [c] qs
        have hline : Text.trimEnd (opening ++ Text.join [c] (qs ++ [p]) ++ []) =
            opening ++ Text.join [c] (qs ++ [Text.trimEnd p]) ++ [] := by
          simp only [hu, List.append_nil, ← List.append_assoc, Text.trimEnd_append _ hp]
        obtain ⟨hqs, hmem⟩ := List.forall_mem_append.mp hps
        rw [List.forall_mem_singleton] at hmem
        have hmem' : c ∉ Text.trimEnd p := fun h => hmem (Text.trimEnd_subset p h)
        rw [hline]
        refine .intro (by simp) (List.forall_mem_append.mpr ⟨hqs, by simpa using hmem'⟩) ?_
          hopening (.inr ⟨rfl, hlast⟩)
        rw [← hcs, List.map_append, List.map_append, List.map_singleton, List.map_singleton,
          Text.trim_trimEnd]

/-- Blanks at the ends of a line are not part of what it writes. -/
theorem trim (h : Written c line cs) (hc : isBlank c = false) : Written c (Text.trim line) cs :=
  (h.trimStart hc).trimEnd hc

/-! ### Reading -/

/-- **A line that writes cells holds them**: the separators that it has at its ends are those that
do not count, and it has no other there. -/
theorem holds (h : Written c line cs) (hc : isBlank c = false) :
    Text.trim line ≠ [] ∧ Holds [c] line cs := by
  cases h with
  | @intro opening closing ps _ hne hps hcs hopening hclosing =>
      have hopened : Text.Opened [c] (opening ++ Text.join [c] ps ++ closing)
          (Text.join [c] ps ++ closing) := by
        rcases hopening with rfl | ⟨rfl, hfirst⟩
        · exact .inl (List.append_assoc _ _ _)
        · obtain ⟨p, qs, rfl, hp⟩ := exists_first hne hcs hfirst
          obtain ⟨u, hu⟩ := Text.exists_join_cons [c] qs
          obtain ⟨a, p, rfl⟩ := List.exists_cons_of_ne_nil (Text.ne_nil_of_trim_ne_nil hp)
          refine .inr ⟨fun hstart => ?_, rfl⟩
          simp only [hu, List.nil_append, List.cons_append, List.cons_prefix_cons] at hstart
          exact hps _ List.mem_cons_self (hstart.1 ▸ List.mem_cons_self)
      have hclosed : Text.trim (Text.join [c] ps ++ closing) ≠ [] ∧
          Text.Closed [c] (Text.join [c] ps ++ closing) (Text.join [c] ps) := by
        rcases hclosing with rfl | ⟨rfl, hlast⟩
        · refine ⟨fun hblank => ?_, .inl rfl⟩
          have hblank' := Text.trim_eq_nil_iff.mp hblank c (by simp)
          rw [hc] at hblank'
          cases hblank'
        · obtain ⟨qs, p, rfl, hp⟩ := exists_last hne hcs hlast
          obtain ⟨u, hu⟩ := Text.exists_join_concat [c] qs
          rw [List.append_nil, hu]
          refine ⟨Text.trim_append_ne_nil u hp, .inr ⟨fun hend => ?_, rfl⟩⟩
          obtain ⟨w, hw⟩ := hend
          have hlast' : some c = p.getLast? := by
            rw [← List.getLast?_append_of_ne_nil u (Text.ne_nil_of_trim_ne_nil hp), ← hw,
              List.getLast?_concat]
          exact hps p (by simp) (List.mem_of_getLast? hlast'.symm)
      obtain ⟨hfilled, hclosed⟩ := hclosed
      have hcut : Text.CutAt [c] (Text.join [c] ps) ps :=
        (Text.pieces_eq_iff (by simp)).mp (Text.pieces_join hps hne)
      refine ⟨?_, hcs ▸ .pieces (by simp) hopened hfilled hclosed hcut⟩
      rw [List.append_assoc]
      exact Text.trim_append_ne_nil opening hfilled

/-- A line is read as the cells that it writes, after the blanks around it are trimmed away. -/
theorem read (h : Written c line cs) (hc : isBlank c = false) :
    Text.trim line ≠ [] ∧ Holds [c] (Text.trim line) cs := by
  obtain ⟨hfilled, hholds⟩ := (h.trim hc).holds hc
  rw [Text.trim_trim] at hfilled
  exact ⟨hfilled, hholds⟩

theorem ne_nil (h : Written c line cs) : cs ≠ [] := by
  cases h with
  | intro hne _ hcs => exact hcs ▸ mt List.map_eq_nil_iff.mp hne

end Written

/-! ## Texts -/

/-- The lines `ls` are those that were written, with blanks around them, and with blank lines and
comments among them. -/
inductive Spaced (seps : Separators) : (written ls : List Text) → Prop
  | nil : Spaced seps [] []
  | blank {line : Text} {written ls : List Text} (h : ∀ c ∈ line, isBlank c = true)
      (hls : Spaced seps written ls) : Spaced seps written (line :: ls)
  | comment {line : Text} {written ls : List Text} (h : IsComment seps line)
      (hls : Spaced seps written ls) : Spaced seps written (line :: ls)
  | line {before line after : Text} {written ls : List Text}
      (hbefore : ∀ c ∈ before, isBlank c = true) (hafter : ∀ c ∈ after, isBlank c = true)
      (hls : Spaced seps written ls) :
      Spaced seps (line :: written) ((before ++ line ++ after) :: ls)

/-- Only the lines that were written count. -/
theorem Spaced.content {seps : Separators} {written ls : List Text} (h : Spaced seps written ls)
    (hwritten : ∀ l ∈ written, Text.trim l ≠ [] ∧ ¬ IsComment seps l) :
    Content seps ls (written.map Text.trim) := by
  induction h with
  | nil => exact .nil
  | blank h _ ih => exact .blank h (ih hwritten)
  | comment h _ ih => exact .comment h (ih hwritten)
  | @line before line after written ls hbefore hafter _ ih =>
      obtain ⟨⟨hne, hcomment⟩, hrest⟩ := List.forall_mem_cons.mp hwritten
      have htrim : Text.trim (before ++ line ++ after) = Text.trim line := by
        rw [Text.trim_append_blanks _ hafter, Text.trim_blanks_append hbefore]
      have hall : Content seps ((before ++ line ++ after) :: ls)
          (Text.trim (before ++ line ++ after) :: written.map Text.trim) := by
        refine .line (htrim ▸ hne) ?_ (ih hrest)
        rwa [IsComment, htrim]
      rwa [htrim] at hall

/-- **A table is read from every text that writes it**, whatever blanks, blank lines and comments it
has besides. -/
theorem parse_written {seps : Separators} {h v : Char} (hh : seps.header = [h])
    (hv : seps.value = [v]) (hblank : isBlank h = false ∧ isBlank v = false)
    {headers : List Text} {rows : List (List Text)} (hnodup : headers.Nodup)
    (hfull : ∀ row ∈ rows, row.length = headers.length) {line : Text} {ls : List Text}
    (hline : Written h line headers) (hls : List.Forall₂ (Written v) ls rows)
    (hcomment : ∀ l ∈ line :: ls, ¬ IsComment seps l) {text : Text}
    (htext : Spaced seps (line :: ls) (Text.lines text)) :
    parse seps text = .ok { headers, rows } := by
  obtain ⟨hfilled, hheader⟩ := hline.read hblank.1
  have hvalues : List.Forall₂ (fun l row => Text.trim l ≠ [] ∧ Holds [v] (Text.trim l) row)
      ls rows := hls.imp fun _ _ hl => hl.read hblank.2
  obtain ⟨hfilled', hvalues⟩ := (List.forall₂_and_left _ _).mp hvalues
  have hall : ∀ l ∈ line :: ls, Text.trim l ≠ [] := List.forall_mem_cons.mpr ⟨hfilled, hfilled'⟩
  have hcontent : Content seps (text.splitOn '\n') (Text.trim line :: ls.map Text.trim) :=
    Text.lines_eq_splitOn text ▸ htext.content fun l hl => ⟨hall l hl, hcomment l hl⟩
  exact parse_eq_iff.mpr ⟨_, hcontent, .table (hh ▸ hheader) hline.ne_nil hnodup
    (hv ▸ List.forall₂_map_left_iff.mpr hvalues) hfull⟩

/-- Separators of one's own, with a comment, and with empty cells at both ends of a line. -/
theorem parse_written_fools :
    let seps : Separators := { header := ['!'], value := [';'], ignorable := ['#'] }
    let ls := ["!name!rank!".toList, ";;\tStooge 3".toList, "Larry ; ;".toList]
    let text := " !name!rank! \n\n# two fools\n;;\tStooge 3\n \r\n  Larry ; ;".toList
    Spaced seps ls (Text.lines text) ∧ (∀ l ∈ ls, ¬ IsComment seps l) ∧
      parse seps text = .ok {
        headers := ["name".toList, "rank".toList]
        rows := [[[], "Stooge 3".toList], ["Larry".toList, []]] } := by
  intro seps ls text
  have hheader : Written '!' "!name!rank!".toList ["name".toList, "rank".toList] :=
    @Written.intro '!' ['!'] ['!'] ["name".toList, "rank".toList] _ (by decide) (by decide) rfl
      (.inl rfl) (.inl rfl)
  have hfirst : Written ';' ";;\tStooge 3".toList [[], "Stooge 3".toList] :=
    @Written.intro ';' [';'] [] [[], "\tStooge 3".toList] _ (by decide) (by decide) rfl
      (.inl rfl) (.inr ⟨rfl, by decide⟩)
  have hsecond : Written ';' "Larry ; ;".toList ["Larry".toList, []] :=
    @Written.intro ';' [] [';'] ["Larry ".toList, [' ']] _ (by decide) (by decide) rfl
      (.inr ⟨rfl, by decide⟩) (.inl rfl)
  have hcomment : ∀ l ∈ ls, ¬ IsComment seps l := by decide
  have hblank {t : Text} (h : t.all isBlank = true) : ∀ c ∈ t, isBlank c = true :=
    List.all_eq_true.mp h
  have htext : Spaced seps ls (Text.lines text) :=
    @Spaced.line seps [' '] _ [' '] _ _ (hblank rfl) (hblank rfl) <|
      .blank (hblank rfl) <| .comment (by decide) <|
      @Spaced.line seps [] _ [] _ _ (hblank rfl) (hblank rfl) <| .blank (hblank rfl) <|
      @Spaced.line seps "  ".toList _ [] _ _ (hblank rfl) (hblank rfl) .nil
  exact ⟨htext, hcomment, parse_written rfl rfl (by decide) (by decide) (by decide) hheader
    (.cons hfirst (.cons hsecond .nil)) hcomment htext⟩

end Table

end Storyline
