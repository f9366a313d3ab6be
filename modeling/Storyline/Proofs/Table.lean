import Storyline.Proofs.Text
import Storyline.Table

/-!
# Reading tables

The cells of a line and the checks of a table. A line that is written with a separator around every
cell is cut into its cells again (`cells_rowLine`), so that the lines of a table are read as the
table (`ofLines_toLines`).
-/

set_option autoImplicit false

namespace Storyline.Table

open Unicode (isBlank)

/-! ## Checks -/

theorem firstRepeat?_eq_none_iff {earlier ts : List Text} :
    firstRepeat? earlier ts = none ↔ ts.Nodup ∧ ∀ t ∈ ts, t ∉ earlier := by
  induction ts generalizing earlier with
  | nil => simp [firstRepeat?]
  | cons t ts ih =>
      by_cases ht : t ∈ earlier
      · simp [firstRepeat?, ht]
      · have hstep : firstRepeat? earlier (t :: ts) = firstRepeat? (t :: earlier) ts := by
          simp [firstRepeat?, ht]
        rw [hstep, ih, List.nodup_cons, List.forall_mem_cons]
        constructor
        · rintro ⟨hnodup, hall⟩
          exact ⟨⟨fun hmem => hall t hmem List.mem_cons_self, hnodup⟩, ht, fun u hu hmem =>
            hall u hu (List.mem_cons_of_mem t hmem)⟩
        · rintro ⟨⟨hmem, hnodup⟩, -, hall⟩
          refine ⟨hnodup, fun u hu hcons => ?_⟩
          rcases List.mem_cons.mp hcons with rfl | hu'
          · exact hmem hu
          · exact hall u hu hu'

theorem firstUneven?_eq_none_iff {width number : Nat} {rows : List (List Text)} :
    firstUneven? width number rows = none ↔ ∀ r ∈ rows, r.length = width := by
  induction rows generalizing number with
  | nil => simp [firstUneven?]
  | cons r rs ih =>
      by_cases hr : r.length = width
      · simp [firstUneven?, hr, ih]
      · simp [firstUneven?, hr]

/-- A table is accepted if it has headers, no header repeats and all rows are complete. -/
theorem ofCells_eq_ok {headers : List Text} {rows : List (List Text)} (hne : headers ≠ [])
    (hnodup : headers.Nodup) (hrows : ∀ r ∈ rows, r.length = headers.length) :
    ofCells headers rows = .ok { headers, rows } := by
  have hrepeat : firstRepeat? [] headers = none :=
    firstRepeat?_eq_none_iff.mpr ⟨hnodup, fun _ _ => List.not_mem_nil⟩
  have huneven : firstUneven? headers.length 2 rows = none := firstUneven?_eq_none_iff.mpr hrows
  rw [ofCells, if_neg (by simpa using hne), hrepeat]
  simp only [huneven]

/-! ## Lines that are written with a separator around every cell -/

/-- A line of a table with the given cells. -/
def rowLine (sep : Text) (cs : List Text) : Text := sep ++ Text.join sep cs ++ sep

/-- The lines of a table. -/
def toLines (seps : Separators) (t : Table) : List Text :=
  rowLine seps.header t.headers :: t.rows.map (rowLine seps.value)

section

variable {c : Char} {cs : List Text}

theorem rowLine_eq (c : Char) (cs : List Text) :
    rowLine [c] cs = c :: (Text.join [c] cs ++ [c]) := rfl

theorem trim_rowLine (hc : isBlank c = false) : Text.trim (rowLine [c] cs) = rowLine [c] cs := by
  rw [Text.trim_eq_self_iff, rowLine, List.getLast?_concat]
  constructor
  · rintro a ha
    cases ha
    exact hc
  · rintro a ha
    cases ha
    exact hc

/-- The separators around the line do not count as cells. -/
theorem cells_rowLine (hc : isBlank c = false) (hne : cs ≠ [])
    (hcs : ∀ x ∈ cs, Text.trim x = x ∧ c ∉ x) : cells [c] (rowLine [c] cs) = cs := by
  have hopened : (Text.after? [c] (rowLine [c] cs)).getD (rowLine [c] cs) =
      Text.join [c] cs ++ [c] := by
    simp [rowLine_eq, Text.after?]
  have hclosed : Text.before? [c] (Text.join [c] cs ++ [c]) = some (Text.join [c] cs) := by
    simp [Text.before?, Text.after?]
  have hcontent : Text.trim (Text.join [c] cs ++ [c]) ≠ [] := by
    intro h
    have hblank := Text.trim_eq_nil_iff.mp h c (by simp)
    rw [hc] at hblank
    cases hblank
  have hpieces : Text.pieces [c] (Text.join [c] cs) = cs :=
    Text.pieces_join (fun x hx => (hcs x hx).2) hne
  simp only [cells, hopened, hclosed, Option.getD_some, hpieces]
  rw [if_neg (by simp), if_neg (by simpa using hcontent)]
  exact (List.map_congr_left fun x hx => (hcs x hx).1).trans (List.map_id' cs)

end

/-- A table that lines between single characters can write. -/
structure Writable (seps : Separators) (t : Table) : Prop where
  headers_ne_nil : t.headers ≠ []
  nodup : t.headers.Nodup
  full : ∀ r ∈ t.rows, r.length = t.headers.length
  header_cells : ∀ x ∈ t.headers, Text.trim x = x ∧ ∀ c ∈ seps.header, c ∉ x
  value_cells : ∀ r ∈ t.rows, ∀ x ∈ r, Text.trim x = x ∧ ∀ c ∈ seps.value, c ∉ x
  not_comment : ∀ l ∈ t.toLines seps, isComment seps l = false

/-- **The lines of a table are read as the table**, if its separators are single characters. -/
theorem ofLines_toLines {seps : Separators} {h v : Char} (hh : seps.header = [h])
    (hv : seps.value = [v]) (hblank : isBlank h = false ∧ isBlank v = false) {t : Table}
    (ht : t.Writable seps) : ofLines seps (t.toLines seps) = .ok t := by
  have hheader : cells seps.header (rowLine seps.header t.headers) = t.headers := by
    rw [hh]
    exact cells_rowLine hblank.1 ht.headers_ne_nil fun x hx =>
      ⟨(ht.header_cells x hx).1, (ht.header_cells x hx).2 h (by simp [hh])⟩
  have hrows : (t.rows.map (rowLine seps.value)).map (cells seps.value) = t.rows := by
    rw [List.map_map]
    refine (List.map_congr_left fun r hr => ?_).trans (List.map_id' t.rows)
    have hne : r ≠ [] := by
      intro hnil
      have hfull := ht.full r hr
      rw [hnil, eq_comm, List.length_nil, List.length_eq_zero_iff] at hfull
      exact ht.headers_ne_nil hfull
    rw [Function.comp_apply, hv]
    exact cells_rowLine hblank.2 hne fun x hx =>
      ⟨(ht.value_cells r hr x hx).1, (ht.value_cells r hr x hx).2 v (by simp [hv])⟩
  -- no line of the table is blank or a comment
  have hcontent : contentLines seps (t.toLines seps) = t.toLines seps := by
    have htrim : (t.toLines seps).map Text.trim = t.toLines seps := by
      simp only [toLines, List.map_cons, List.map_map, hh, hv, trim_rowLine hblank.1]
      congr 1
      exact List.map_congr_left fun r _ => trim_rowLine hblank.2
    rw [contentLines, htrim]
    refine List.filter_eq_self.mpr fun l hl => ?_
    have hne : l ≠ [] := by
      simp only [toLines, List.mem_cons, List.mem_map, hh, hv] at hl
      rcases hl with rfl | ⟨r, -, rfl⟩ <;> exact List.cons_ne_nil _ _
    simp [hne, ht.not_comment l hl]
  rw [ofLines, hcontent, toLines]
  simp only [hheader, hrows]
  exact ofCells_eq_ok ht.headers_ne_nil ht.nodup ht.full

end Storyline.Table
