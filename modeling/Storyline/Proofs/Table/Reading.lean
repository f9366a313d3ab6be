import Mathlib.Data.List.Forall2
import Mathlib.Data.List.Nodup
import Storyline.Proofs.Table

/-!
# What a text of a table comes to

The lines of a text that count are those that are neither blank nor comments (`Content`). A line
holds its cells whatever its separator is (`Holds`), and the lines that count come to a table or to
the first of three errors (`ComesTo`). All of this is said without the reader, and the reader does
just that (`contentLines_eq_iff`, `cells_eq_iff`, `parse_eq_iff`). A row of the table has a value in
the columns of the table and in no other (`Row.get?_eq_some_iff`).
-/

set_option autoImplicit false

namespace Storyline

namespace Text

/-! ## Separators at the ends of a line -/

/-- `rest` is the line without the separator that it may start with. -/
def Opened (sep line rest : Text) : Prop := line = sep ++ rest ∨ ¬ sep <+: line ∧ rest = line

/-- `rest` is the line without the separator that it may end with. -/
def Closed (sep line rest : Text) : Prop := line = rest ++ sep ∨ ¬ sep <:+ line ∧ rest = line

theorem getD_after?_eq_iff {sep line rest : Text} :
    (after? sep line).getD line = rest ↔ Opened sep line rest := by
  cases h : after? sep line with
  | none =>
      have hstart : ¬ sep <+: line := by
        rintro ⟨r, hr⟩
        rw [after?_eq_some_iff.mpr hr.symm] at h
        cases h
      constructor
      · exact fun hline => .inr ⟨hstart, hline.symm⟩
      · rintro (hline | ⟨-, rfl⟩)
        · exact absurd ⟨rest, hline.symm⟩ hstart
        · rfl
  | some r =>
      have hline := after?_eq_some_iff.mp h
      constructor
      · rintro rfl
        exact .inl hline
      · rintro (hrest | ⟨hstart, -⟩)
        · exact List.append_cancel_left (hline.symm.trans hrest)
        · exact absurd ⟨r, hline.symm⟩ hstart

/-- The end of a line is the start of the line backwards. -/
theorem closed_iff_reverse {sep line rest : Text} :
    Closed sep line rest ↔ Opened sep.reverse line.reverse rest.reverse := by
  rw [Closed, Opened, List.reverse_prefix, ← List.reverse_append, List.reverse_inj,
    List.reverse_inj]

theorem getD_before?_eq_iff {sep line rest : Text} :
    (before? sep line).getD line = rest ↔ Closed sep line rest := by
  rw [closed_iff_reverse, ← getD_after?_eq_iff, before?, ← List.reverse_inj]
  cases after? sep.reverse line.reverse with
  | none => rfl
  | some r => simp

end Text

namespace Table

/-! ## Lines that count -/

/-- The line is a comment: what is left of it without the blanks around it starts with the ignorable
separator. Without such a separator there are no comments. -/
def IsComment (seps : Separators) (line : Text) : Prop :=
  seps.ignorable ≠ [] ∧ seps.ignorable <+: Text.trim line

instance (seps : Separators) (line : Text) : Decidable (IsComment seps line) :=
  inferInstanceAs (Decidable (_ ∧ _))

/-- `content` are the lines that are neither blank nor comments, without the blanks around them. -/
inductive Content (seps : Separators) : (lines content : List Text) → Prop
  | nil : Content seps [] []
  | blank {line : Text} {lines content : List Text} (h : ∀ c ∈ line, Unicode.isBlank c = true)
      (hrest : Content seps lines content) : Content seps (line :: lines) content
  | comment {line : Text} {lines content : List Text} (h : IsComment seps line)
      (hrest : Content seps lines content) : Content seps (line :: lines) content
  | line {line : Text} {lines content : List Text} (hne : Text.trim line ≠ [])
      (h : ¬ IsComment seps line) (hrest : Content seps lines content) :
      Content seps (line :: lines) (Text.trim line :: content)

section

variable {seps : Separators} {line : Text}

theorem isComment_trim_iff : isComment seps (Text.trim line) = true ↔ IsComment seps line := by
  simp [isComment, IsComment]

theorem contentLines_cons_of_skipped (h : Text.trim line = [] ∨ IsComment seps line)
    (lines : List Text) : contentLines seps (line :: lines) = contentLines seps lines := by
  rw [← isComment_trim_iff] at h
  rw [contentLines, contentLines, List.map_cons, List.filter_cons_of_neg]
  rcases h with h | h <;> simp [h]

theorem contentLines_cons_of_content (hne : Text.trim line ≠ []) (h : ¬ IsComment seps line)
    (lines : List Text) :
    contentLines seps (line :: lines) = Text.trim line :: contentLines seps lines := by
  rw [← isComment_trim_iff, Bool.not_eq_true] at h
  rw [contentLines, contentLines, List.map_cons, List.filter_cons_of_pos (by simp [hne, h])]

/-- **The reader keeps the lines that count**, in their order. -/
theorem contentLines_eq_iff {lines content : List Text} :
    contentLines seps lines = content ↔ Content seps lines content := by
  constructor
  · rintro rfl
    induction lines with
    | nil => exact .nil
    | cons line lines ih =>
        by_cases hne : Text.trim line = []
        · rw [contentLines_cons_of_skipped (.inl hne)]
          exact .blank (Text.trim_eq_nil_iff.mp hne) ih
        · by_cases hcomment : IsComment seps line
          · rw [contentLines_cons_of_skipped (.inr hcomment)]
            exact .comment hcomment ih
          · rw [contentLines_cons_of_content hne hcomment]
            exact .line hne hcomment ih
  · intro h
    induction h with
    | nil => rfl
    | blank h _ ih =>
        rw [contentLines_cons_of_skipped (.inl (Text.trim_eq_nil_iff.mpr h)), ih]
    | comment h _ ih => rw [contentLines_cons_of_skipped (.inr h), ih]
    | line hne h _ ih => rw [contentLines_cons_of_content hne h, ih]

end

/-! ## Cells -/

/-- The line holds the cells. -/
inductive Holds (sep line : Text) : List Text → Prop
  /-- Without a separator the line is one cell. -/
  | whole (hsep : sep = []) : Holds sep line [Text.trim line]
  /-- A line that is at most a separator has no cell. -/
  | nothing (hsep : sep ≠ []) {rest : Text} (hopened : Text.Opened sep line rest)
      (hblank : Text.trim rest = []) : Holds sep line []
  /-- The cells stand between the separators, but for those around the line. -/
  | pieces (hsep : sep ≠ []) {rest inner : Text} (hopened : Text.Opened sep line rest)
      (hne : Text.trim rest ≠ []) (hclosed : Text.Closed sep rest inner) {ps : List Text}
      (hps : Text.CutAt sep inner ps) : Holds sep line (ps.map Text.trim)

theorem cells_of_opened {sep line rest : Text} (hsep : sep ≠ [])
    (h : Text.Opened sep line rest) : cells sep line =
      if (Text.trim rest).isEmpty then []
      else (Text.pieces sep ((Text.before? sep rest).getD rest)).map Text.trim := by
  rw [cells, if_neg (by simpa using hsep), Text.getD_after?_eq_iff.mpr h]

/-- **The reader finds the cells that a line holds.** -/
theorem cells_eq_iff {sep line : Text} {cs : List Text} :
    cells sep line = cs ↔ Holds sep line cs := by
  constructor
  · rintro rfl
    by_cases hsep : sep = []
    · rw [cells, if_pos (List.isEmpty_iff.mpr hsep)]
      exact .whole hsep
    · have hopened := Text.getD_after?_eq_iff.mp (rfl : (Text.after? sep line).getD line = _)
      rw [cells_of_opened hsep hopened]
      split
      · next hblank => exact .nothing hsep hopened (List.isEmpty_iff.mp hblank)
      · next hne =>
        exact .pieces hsep hopened (fun hblank => hne (List.isEmpty_iff.mpr hblank))
          (Text.getD_before?_eq_iff.mp rfl) (Text.cutAt_pieces hsep _)
  · intro h
    cases h with
    | whole hsep => rw [cells, if_pos (List.isEmpty_iff.mpr hsep)]
    | nothing hsep hopened hblank =>
        rw [cells_of_opened hsep hopened, if_pos (List.isEmpty_iff.mpr hblank)]
    | pieces hsep hopened hne hclosed hps =>
        rw [cells_of_opened hsep hopened, if_neg (by simpa using hne),
          Text.getD_before?_eq_iff.mpr hclosed, (Text.pieces_eq_iff hsep).mpr hps]

theorem map_cells_eq_iff {sep : Text} {ls : List Text} {rows : List (List Text)} :
    ls.map (cells sep) = rows ↔ List.Forall₂ (Holds sep) ls rows := by
  rw [← List.forall₂_eq_eq_eq, List.forall₂_map_left_iff]
  simp only [cells_eq_iff]

theorem Holds.trim_eq {sep line : Text} {cs : List Text} (h : Holds sep line cs) :
    ∀ c ∈ cs, Text.trim c = c := by
  cases h with
  | whole hsep => simp
  | nothing hsep hopened hblank => simp
  | pieces hsep hopened hne hclosed hps => simp

/-! ## Checks that fail -/

/-- Distinct headers are only remembered. -/
theorem firstRepeat?_append {before : List Text} (hnodup : before.Nodup) {earlier : List Text}
    (hall : ∀ t ∈ before, t ∉ earlier) (ts : List Text) :
    firstRepeat? earlier (before ++ ts) = firstRepeat? (before.reverse ++ earlier) ts := by
  induction before generalizing earlier with
  | nil => rfl
  | cons t before ih =>
      obtain ⟨ht, hnodup⟩ := List.nodup_cons.mp hnodup
      obtain ⟨hearlier, hall⟩ := List.forall_mem_cons.mp hall
      have hall' : ∀ u ∈ before, u ∉ t :: earlier := by
        intro u hu hmem
        rcases List.mem_cons.mp hmem with rfl | hmem
        · exact ht hu
        · exact hall u hu hmem
      rw [List.cons_append, firstRepeat?, if_neg (by simpa using hearlier), ih hnodup hall']
      simp

/-- Rows of the right width are only counted. -/
theorem firstUneven?_append {width : Nat} {before : List (List Text)}
    (hall : ∀ r ∈ before, r.length = width) (number : Nat) (rows : List (List Text)) :
    firstUneven? width number (before ++ rows) =
      firstUneven? width (number + before.length) rows := by
  induction before generalizing number with
  | nil => rfl
  | cons r before ih =>
      obtain ⟨hr, hall⟩ := List.forall_mem_cons.mp hall
      have hnumber : number + 1 + before.length = number + (r :: before).length := by
        rw [List.length_cons]
        omega
      rw [List.cons_append, firstUneven?, if_pos hr, ih hall, hnumber]

/-- Headers are distinct up to the first that repeats one before it. -/
theorem nodup_or_exists_repeat (headers : List Text) : headers.Nodup ∨ ∃ before column after,
    headers = before ++ column :: after ∧ before.Nodup ∧ column ∈ before := by
  induction headers using List.reverseRecOn with
  | nil => exact .inl List.nodup_nil
  | append_singleton cs c ih =>
      rcases ih with hnodup | ⟨before, column, after, rfl, hnodup, hmem⟩
      · by_cases hc : c ∈ cs
        · exact .inr ⟨cs, c, [], rfl, hnodup, hc⟩
        · rw [← List.concat_eq_append]
          exact .inl (List.Nodup.concat hc hnodup)
      · exact .inr ⟨before, column, after ++ [c], by simp, hnodup, hmem⟩

/-! ## Tables and errors -/

/-- What the lines that count come to: the first of the three errors that they have, or the table
that they write. -/
inductive ComesTo (seps : Separators) : List Text → Except TableError Table → Prop
  | nothing : ComesTo seps [] (.ok {})
  | missingHeader {line : Text} {ls : List Text} (h : Holds seps.header line []) :
      ComesTo seps (line :: ls) (.error .missingHeader)
  /-- The first header that repeats an earlier one. -/
  | duplicateHeader {line column : Text} {ls before after : List Text}
      (h : Holds seps.header line (before ++ column :: after)) (hbefore : before.Nodup)
      (hcolumn : column ∈ before) : ComesTo seps (line :: ls) (.error (.duplicateHeader column))
  /-- The first line with more or fewer cells than there are headers. -/
  | unevenRow {line other : Text} {headers row before after : List Text} {rows : List (List Text)}
      (h : Holds seps.header line headers) (hne : headers ≠ []) (hnodup : headers.Nodup)
      (hbefore : List.Forall₂ (Holds seps.value) before rows)
      (hrows : ∀ r ∈ rows, r.length = headers.length) (hother : Holds seps.value other row)
      (hrow : row.length ≠ headers.length) : ComesTo seps (line :: (before ++ other :: after))
        (.error (.unevenRow (before.length + 2) headers.length row.length))
  | table {line : Text} {ls headers : List Text} {rows : List (List Text)}
      (h : Holds seps.header line headers) (hne : headers ≠ []) (hnodup : headers.Nodup)
      (hls : List.Forall₂ (Holds seps.value) ls rows)
      (hrows : ∀ r ∈ rows, r.length = headers.length) :
      ComesTo seps (line :: ls) (.ok { headers, rows })

variable {seps : Separators}

theorem ofLines_eq_ofCells {lines ls : List Text} {line : Text}
    (h : contentLines seps lines = line :: ls) :
    ofLines seps lines = ofCells (cells seps.header line) (ls.map (cells seps.value)) := by
  rw [ofLines, h]

theorem ofCells_eq_duplicateHeader {before after : List Text} {column : Text}
    (hbefore : before.Nodup) (hcolumn : column ∈ before) (rows : List (List Text)) :
    ofCells (before ++ column :: after) rows = .error (.duplicateHeader column) := by
  have hrepeat : firstRepeat? [] (before ++ column :: after) = some column := by
    rw [firstRepeat?_append hbefore fun _ _ => List.not_mem_nil, firstRepeat?,
      if_pos (by simpa using hcolumn)]
  rw [ofCells, if_neg (by simp), hrepeat]

theorem ofCells_eq_unevenRow {headers row : List Text} {before after : List (List Text)}
    (hne : headers ≠ []) (hnodup : headers.Nodup)
    (hbefore : ∀ r ∈ before, r.length = headers.length) (hrow : row.length ≠ headers.length) :
    ofCells headers (before ++ row :: after) =
      .error (.unevenRow (before.length + 2) headers.length row.length) := by
  have hrepeat : firstRepeat? [] headers = none :=
    firstRepeat?_eq_none_iff.mpr ⟨hnodup, fun _ _ => List.not_mem_nil⟩
  have huneven : firstUneven? headers.length 2 (before ++ row :: after) =
      some (before.length + 2, row.length) := by
    rw [firstUneven?_append hbefore, firstUneven?, if_neg hrow, Nat.add_comm]
  rw [ofCells, if_neg (by simpa using hne), hrepeat]
  simp only [huneven]

/-- A line with the headers and the lines after it come to the table of their cells, or to what is
wrong with it. -/
theorem comesTo_ofCells {line : Text} {headers : List Text} (h : Holds seps.header line headers)
    (ls : List Text) :
    ComesTo seps (line :: ls) (ofCells headers (ls.map (cells seps.value))) := by
  by_cases hne : headers = []
  · subst hne
    exact .missingHeader h
  rcases nodup_or_exists_repeat headers with hnodup | ⟨before, column, after, rfl, hnodup, hmem⟩
  · cases huneven : ls.find? fun l => (cells seps.value l).length != headers.length with
    | none =>
        have hfull : ∀ r ∈ ls.map (cells seps.value), r.length = headers.length := by
          simpa using huneven
        rw [ofCells_eq_ok hne hnodup hfull]
        exact .table h hne hnodup (map_cells_eq_iff.mp rfl) hfull
    | some other =>
        obtain ⟨hother, before, after, rfl, hbefore⟩ :=
          List.find?_eq_some_iff_append.mp huneven
        have hrow : (cells seps.value other).length ≠ headers.length := by simpa using hother
        have hfull : ∀ r ∈ before.map (cells seps.value), r.length = headers.length := by
          simpa using hbefore
        rw [List.map_append, List.map_cons, ofCells_eq_unevenRow hne hnodup hfull hrow,
          List.length_map]
        exact .unevenRow h hne hnodup (map_cells_eq_iff.mp rfl) hfull (cells_eq_iff.mp rfl) hrow
  · rw [ofCells_eq_duplicateHeader hnodup hmem]
    exact .duplicateHeader h hnodup hmem

/-- The lines that count come to what is read of them. -/
theorem comesTo_ofLines (lines : List Text) :
    ∃ content, Content seps lines content ∧ ComesTo seps content (ofLines seps lines) := by
  refine ⟨contentLines seps lines, contentLines_eq_iff.mp rfl, ?_⟩
  cases hlines : contentLines seps lines with
  | nil =>
      rw [ofLines, hlines]
      exact .nothing
  | cons line ls =>
      rw [ofLines_eq_ofCells hlines]
      exact comesTo_ofCells (cells_eq_iff.mp rfl) ls

/-- They come to one thing only. -/
theorem ComesTo.eq_ofLines {lines ls : List Text} {out : Except TableError Table}
    (h : ComesTo seps ls out) (hcontent : Content seps lines ls) : ofLines seps lines = out := by
  have hls := contentLines_eq_iff.mpr hcontent
  cases h with
  | nothing => rw [ofLines, hls]
  | missingHeader h =>
      rw [ofLines_eq_ofCells hls, cells_eq_iff.mpr h]
      rfl
  | duplicateHeader h hbefore hcolumn =>
      rw [ofLines_eq_ofCells hls, cells_eq_iff.mpr h,
        ofCells_eq_duplicateHeader hbefore hcolumn]
  | unevenRow h hne hnodup hbefore hrows hother hrow =>
      rw [ofLines_eq_ofCells hls, cells_eq_iff.mpr h, List.map_append, List.map_cons,
        map_cells_eq_iff.mpr hbefore, cells_eq_iff.mpr hother,
        ofCells_eq_unevenRow hne hnodup hrows hrow, hbefore.length_eq]
  | table h hne hnodup hls' hrows =>
      rw [ofLines_eq_ofCells hls, cells_eq_iff.mpr h, map_cells_eq_iff.mpr hls',
        ofCells_eq_ok hne hnodup hrows]

/-- What is read of a text is what its lines come to. -/
theorem parse_eq_iff {text : Text} {out : Except TableError Table} : parse seps text = out ↔
    ∃ content, Content seps (text.splitOn '\n') content ∧ ComesTo seps content out := by
  rw [parse, Text.lines_eq_splitOn]
  constructor
  · rintro rfl
    exact comesTo_ofLines _
  · rintro ⟨content, hcontent, h⟩
    exact h.eq_ofLines hcontent

/-! ## Tables that are read -/

/-- A table whose headers are distinct, whose rows are complete and whose cells are trimmed. -/
structure IsRead (t : Table) : Prop where
  nodup : t.headers.Nodup
  full : ∀ row ∈ t.rows, row.length = t.headers.length
  headers_trimmed : ∀ column ∈ t.headers, Text.trim column = column
  values_trimmed : ∀ row ∈ t.rows, ∀ value ∈ row, Text.trim value = value

/-- Every table that is read is like this, whatever the text is. -/
theorem isRead_of_parse {text : Text} {t : Table} (h : parse seps text = .ok t) : t.IsRead := by
  obtain ⟨content, -, hcomes⟩ := parse_eq_iff.mp h
  cases hcomes with
  | nothing => exact ⟨List.nodup_nil, by simp, by simp, by simp⟩
  | @table line ls headers rows hline hne hnodup hls' hrows =>
      refine ⟨hnodup, hrows, hline.trim_eq, fun row hrow => ?_⟩
      rw [← map_cells_eq_iff.mpr hls'] at hrow
      obtain ⟨l, -, hl⟩ := List.mem_map.mp hrow
      exact (cells_eq_iff.mp hl).trim_eq

end Table

/-! ## Rows -/

namespace Row

/-- The row has the value in the column, at the first place of the column among the headers. -/
def Has (r : Row) (column value : Text) : Prop :=
  ∃ j : Nat, r.headers[j]? = some column ∧ r.values[j]? = some value ∧
    ∀ i < j, r.headers[i]? ≠ some column

theorem has_of_get? {r : Row} {column value : Text} (h : r.get? column = some value) :
    r.Has column value := by
  obtain ⟨before, after, hcells, hbefore⟩ := List.lookup_eq_some_iff.mp h
  have hj : r.cells[before.length]? = some (column, value) := by simp [hcells]
  obtain ⟨hcolumn, hvalue⟩ := List.getElem?_zip_eq_some.mp hj
  refine ⟨before.length, hcolumn, hvalue, fun i hi hrepeat => ?_⟩
  -- a place before that one has a value as well, and so a cell
  obtain ⟨hlt, -⟩ := List.getElem?_eq_some_iff.mp hvalue
  have hcell : r.cells[i]? = some (column, r.values[i]) :=
    List.getElem?_zip_eq_some.mpr ⟨hrepeat, List.getElem?_eq_getElem (hi.trans hlt)⟩
  rw [hcells, List.getElem?_append_left hi] at hcell
  simpa using hbefore _ (List.mem_of_getElem? hcell)

/-- **The values of a row** are found under their columns. -/
theorem has_iff {r : Row} {column value : Text} :
    r.Has column value ↔ r.get? column = some value := by
  refine ⟨?_, has_of_get?⟩
  rintro ⟨j, hj, hvalue, hfirst⟩
  cases hget : r.get? column with
  | none =>
      have hmem : (column, value) ∈ r.cells :=
        List.mem_iff_getElem?.mpr ⟨j, List.getElem?_zip_eq_some.mpr ⟨hj, hvalue⟩⟩
      simpa using List.lookup_eq_none_iff.mp hget _ hmem
  | some found =>
      obtain ⟨i, hi, hfound, hfirst'⟩ := has_of_get? hget
      have hplace : i = j := Nat.le_antisymm (Nat.le_of_not_lt fun hlt => hfirst' j hlt hj)
        (Nat.le_of_not_lt fun hlt => hfirst i hlt hi)
      rw [← hfound, hplace, hvalue]

/-- Below distinct headers a column has the value at its place. -/
theorem get?_eq_some_iff {r : Row} (h : r.headers.Nodup) {column value : Text} :
    r.get? column = some value ↔
      ∃ j : Nat, r.headers[j]? = some column ∧ r.values[j]? = some value := by
  rw [← has_iff]
  constructor
  · rintro ⟨j, hj, hvalue, -⟩
    exact ⟨j, hj, hvalue⟩
  · rintro ⟨j, hj, hvalue⟩
    obtain ⟨hlt, -⟩ := List.getElem?_eq_some_iff.mp hj
    refine ⟨j, hj, hvalue, fun i hi hrepeat => ?_⟩
    exact hi.ne ((List.getElem?_inj (hi.trans hlt) h).mp (hrepeat.trans hj.symm))

theorem get?_eq_getElem? {r : Row} (h : r.headers.Nodup)
    (hfull : r.values.length = r.headers.length) {j : Nat} {column : Text}
    (hj : r.headers[j]? = some column) : r.get? column = r.values[j]? := by
  obtain ⟨hlt, -⟩ := List.getElem?_eq_some_iff.mp hj
  have hvalue := List.getElem?_eq_getElem (hfull ▸ hlt : j < r.values.length)
  rw [hvalue, get?_eq_some_iff h]
  exact ⟨j, hj, hvalue⟩

/-- In a complete row the columns that are declared have values, and no other. -/
theorem isSome_get?_iff {r : Row} (h : r.headers.Nodup) (hfull : r.values.length = r.headers.length)
    {column : Text} : (r.get? column).isSome ↔ column ∈ r.headers := by
  constructor
  · intro hsome
    obtain ⟨value, hvalue⟩ := Option.isSome_iff_exists.mp hsome
    obtain ⟨j, hj, -⟩ := has_iff.mpr hvalue
    exact List.mem_of_getElem? hj
  · intro hmem
    obtain ⟨j, hj⟩ := List.mem_iff_getElem?.mp hmem
    obtain ⟨hlt, -⟩ := List.getElem?_eq_some_iff.mp hj
    rw [get?_eq_getElem? h hfull hj, isSome_getElem?]
    exact hfull ▸ hlt

end Row

namespace Table

/-- **A text is read as the table that its lines write**, comments and blank lines apart, with a row
for each line after the headers, or it is refused for the first error that they have. In the rows of
a table the columns have the values at their places. -/
theorem parse_exact (seps : Separators) (text : Text) :
    (∀ out, parse seps text = out ↔
      ∃ content, Content seps (text.splitOn '\n') content ∧ ComesTo seps content out) ∧
      ∀ t, parse seps text = .ok t →
        (∀ column ∈ t.headers, Text.trim column = column) ∧
        (∀ row ∈ t.rows, ∀ value ∈ row, Text.trim value = value) ∧
        ∀ (i : Nat) (values : List Text), t.rows[i]? = some values →
          ∃ row, t.row? i = some row ∧ row.headers = t.headers ∧ row.values = values ∧
            (∀ column, (row.get? column).isSome ↔ column ∈ t.headers) ∧
            ∀ (j : Nat) (column : Text), t.headers[j]? = some column →
              row.get? column = values[j]? := by
  refine ⟨fun out => parse_eq_iff, fun t ht => ?_⟩
  have hread := isRead_of_parse ht
  refine ⟨hread.headers_trimmed, hread.values_trimmed, fun i values hi => ?_⟩
  have hfull : values.length = t.headers.length := hread.full values (List.mem_of_getElem? hi)
  refine ⟨⟨t.headers, values⟩, ?_, rfl, rfl, fun column => ?_, fun j column hj => ?_⟩
  · rw [row?, rowList, List.getElem?_map, hi]
    rfl
  · exact Row.isSome_get?_iff hread.nodup hfull
  · exact Row.get?_eq_getElem? hread.nodup hfull hj

/-- A comment and a blank line do not count among the rows. -/
example : parse {} "|a|b|\n|-- no row|\n|1|2|\n\n3".toList = .error (.unevenRow 3 2 1) := rfl

end Table

end Storyline
