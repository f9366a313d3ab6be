import Storyline.Proofs.Table.Reading

/-!
# Rows in the text of a step

A step names a column by its name in angle brackets. Two such places never overlap, so that all of
them can be replaced at once (`Row.Filled`), and this is what the reader does in one pass
(`Row.substitute_exact`). A name holds no angle bracket, which a column of a table can: the values
of such a column are in no step (`Table.substitute_column`).
-/

set_option autoImplicit false

namespace Storyline

namespace Text

/-- The text can stand between angle brackets. -/
def Unbracketed (t : Text) : Prop := '<' ∉ t ∧ '>' ∉ t

instance (t : Text) : Decidable (Unbracketed t) := inferInstanceAs (Decidable (_ ∧ _))

/-- The text in angle brackets, as a step names a column. -/
def bracketed (t : Text) : Text := '<' :: t ++ ['>']

/-- What follows the first angle bracket of a text that opens, if there is one. -/
inductive FirstBracket : Text → Prop
  | none {t : Text} (h : '<' ∉ t) : FirstBracket t
  | dangling {before name : Text} (hbefore : '<' ∉ before) (hname : Unbracketed name) :
      FirstBracket (before ++ ('<' :: name))
  | reopened {before name after : Text} (hbefore : '<' ∉ before) (hname : Unbracketed name) :
      FirstBracket (before ++ ('<' :: name ++ '<' :: after))
  | closed {before name after : Text} (hbefore : '<' ∉ before) (hname : Unbracketed name) :
      FirstBracket (before ++ (bracketed name ++ after))

/-- After the first bracket there is a name, as long as it can be. -/
theorem firstBracket (t : Text) : FirstBracket t := by
  by_cases hopen : '<' ∈ t
  · obtain ⟨before, u, rfl, hbefore⟩ := List.eq_append_cons_of_mem hopen
    let inName : Char → Bool := fun c => c != '<' && c != '>'
    have hmem (c : Char) (hc : c ∈ u.takeWhile inName) : c ≠ '<' ∧ c ≠ '>' := by
      simpa [inName] using List.mem_takeWhile_imp hc
    have hname : Unbracketed (u.takeWhile inName) :=
      ⟨fun hc => (hmem _ hc).1 rfl, fun hc => (hmem _ hc).2 rfl⟩
    rw [← List.takeWhile_append_dropWhile (p := inName) (l := u)]
    cases hrest : u.dropWhile inName with
    | nil =>
        rw [List.append_nil]
        exact .dangling hbefore hname
    | cons c after =>
        have hc : inName c = false := by simpa [hrest] using List.head?_dropWhile_not inName u
        by_cases hc' : c = '<'
        · rw [hc']
          exact .reopened hbefore hname
        · have hclose : c = '>' := by simpa [inName, hc'] using hc
          have hclosed : FirstBracket (before ++ (bracketed (u.takeWhile inName) ++ after)) :=
            .closed hbefore hname
          rw [hclose]
          simpa [bracketed] using hclosed
  · exact .none hopen

end Text

namespace Row

open Text (Unbracketed bracketed)

/-! ## Filled steps -/

/-- The text names no column of the row. -/
def NamesNone (r : Row) (t : Text) : Prop :=
  ∀ column value, Unbracketed column → r.Has column value → ¬ bracketed column <:+: t

/-- `out` is the step with the values of all columns that it names in their places, and with the
text between these places as it is. -/
inductive Filled (r : Row) : (step out : Text) → Prop
  | text {t : Text} (h : r.NamesNone t) : Filled r t t
  | column {before column value after out : Text} (hbefore : r.NamesNone before)
      (hcolumn : Unbracketed column) (hvalue : r.Has column value)
      (hafter : Filled r after out) :
      Filled r (before ++ bracketed column ++ after) (before ++ value ++ out)

/-! ## Single steps of the reader -/

section

variable {value? : Text → Option Text}

/-- Outside the brackets text is kept. -/
theorem substituteFrom_append {t : Text} (h : '<' ∉ t) (u : Text) :
    substituteFrom value? none (t ++ u) = t ++ substituteFrom value? none u := by
  induction t with
  | nil => rfl
  | cons c t ih =>
      have hc : c ≠ '<' := fun he => h (he ▸ List.mem_cons_self)
      rw [List.cons_append, substituteFrom, if_neg hc, ih (List.not_mem_of_not_mem_cons h)]
      rfl

/-- After an opening bracket a name is read, backwards. -/
theorem substituteFrom_name {t : Text} (h : Unbracketed t) (name u : Text) :
    substituteFrom value? (some name) (t ++ u) =
      substituteFrom value? (some (t.reverse ++ name)) u := by
  induction t generalizing name with
  | nil => rfl
  | cons c t ih =>
      obtain ⟨hopen, hclose⟩ := h
      have hc : c ≠ '<' := fun he => hopen (he ▸ List.mem_cons_self)
      have hc' : c ≠ '>' := fun he => hclose (he ▸ List.mem_cons_self)
      rw [List.cons_append, substituteFrom, if_neg hc, if_neg hc',
        ih ⟨List.not_mem_of_not_mem_cons hopen, List.not_mem_of_not_mem_cons hclose⟩]
      simp

end

variable {r : Row}

theorem substitute_append {t : Text} (h : '<' ∉ t) (u : Text) :
    r.substitute (t ++ u) = t ++ r.substitute u :=
  substituteFrom_append h u

/-- A bracket that opens starts a name. -/
theorem substitute_cons_append {name : Text} (h : Unbracketed name) (u : Text) :
    r.substitute ('<' :: name ++ u) = substituteFrom r.get? (some name.reverse) u := by
  rw [substitute, List.cons_append, substituteFrom, if_pos rfl, substituteFrom_name h,
    List.append_nil]

/-- A bracket that nothing closes is kept. -/
theorem substitute_dangling {name : Text} (h : Unbracketed name) :
    r.substitute ('<' :: name) = '<' :: name := by
  rw [← List.append_nil ('<' :: name), substitute_cons_append h, substituteFrom,
    List.reverse_reverse, List.append_nil]

/-- Another bracket that opens starts the name anew. -/
theorem substitute_reopened {name : Text} (h : Unbracketed name) (t : Text) :
    r.substitute ('<' :: name ++ '<' :: t) = '<' :: name ++ r.substitute ('<' :: t) := by
  rw [substitute_cons_append h, substituteFrom, if_pos rfl, List.reverse_reverse, substitute,
    substituteFrom, if_pos rfl]

/-- A name in brackets is replaced if it is that of a column. -/
theorem substitute_bracketed {name : Text} (h : Unbracketed name) (t : Text) :
    r.substitute (bracketed name ++ t) =
      (r.get? name).getD (bracketed name) ++ r.substitute t := by
  have hclose : bracketed name ++ t = '<' :: name ++ '>' :: t := by simp [bracketed]
  rw [hclose, substitute_cons_append h, substituteFrom, if_neg (by decide), if_pos rfl,
    List.reverse_reverse]
  rfl

/-! ## The whole pass -/

theorem NamesNone.of_infix {t u : Text} (h : r.NamesNone t) (hu : u <:+: t) : r.NamesNone u :=
  fun column value hcolumn hvalue hname => h column value hcolumn hvalue (hname.trans hu)

/-- Text that names no column is kept, up to the end of the step or to a bracket that opens. -/
theorem substitute_of_namesNone {t : Text} (h : r.NamesNone t) {u : Text}
    (hu : u = [] ∨ ∃ after, u = '<' :: after) : r.substitute (t ++ u) = t ++ r.substitute u := by
  induction hn : t.length using Nat.strong_induction_on generalizing t with
  | _ n ih =>
      cases Text.firstBracket t with
      | none hopen => exact substitute_append hopen u
      | @dangling before name hbefore hname =>
          rw [List.append_assoc, substitute_append hbefore, List.append_assoc]
          rcases hu with rfl | ⟨after, rfl⟩
          · rw [List.append_nil, substitute_dangling hname]
            exact congrArg (before ++ ·) (List.append_nil _).symm
          · rw [substitute_reopened hname]
      | @reopened before name after hbefore hname =>
          have hafter : r.NamesNone ('<' :: after) :=
            h.of_infix ⟨before ++ '<' :: name, [], by simp⟩
          have hlt : ('<' :: after).length < n := by
            rw [← hn]
            simp only [List.length_append, List.length_cons]
            omega
          have hrest : r.substitute ('<' :: (after ++ u)) = '<' :: after ++ r.substitute u :=
            ih _ hlt hafter rfl
          have hsplit : before ++ ('<' :: name ++ '<' :: after) ++ u =
              before ++ ('<' :: name ++ '<' :: (after ++ u)) := by simp
          rw [hsplit, substitute_append hbefore, substitute_reopened hname, hrest]
          simp
      | @closed before name after hbefore hname =>
          have hafter : r.NamesNone after :=
            h.of_infix ⟨before ++ bracketed name, [], by simp⟩
          have hlt : after.length < n := by
            rw [← hn]
            simp only [List.length_append, bracketed, List.length_cons]
            omega
          have hvalue : r.get? name = none := by
            refine Option.eq_none_iff_forall_ne_some.mpr fun value hvalue => ?_
            exact h name value hname (has_iff.mpr hvalue) ⟨before, after, by simp⟩
          rw [List.append_assoc, substitute_append hbefore, List.append_assoc,
            substitute_bracketed hname, hvalue, ih _ hlt hafter rfl]
          simp only [List.append_assoc, Option.getD_none]

theorem substitute_eq_self {t : Text} (h : r.NamesNone t) : r.substitute t = t := by
  have hall := substitute_of_namesNone h (.inl rfl)
  rw [List.append_nil] at hall
  exact hall.trans (List.append_nil t)

/-- The first column that is named is replaced, and the pass goes on after it. -/
theorem substitute_column_append {before column value : Text} (hbefore : r.NamesNone before)
    (hcolumn : Unbracketed column) (hvalue : r.Has column value) (after : Text) :
    r.substitute (before ++ bracketed column ++ after) = before ++ value ++ r.substitute after := by
  have hopen : bracketed column ++ after = '<' :: (column ++ ['>'] ++ after) := rfl
  rw [List.append_assoc, substitute_of_namesNone hbefore (.inr ⟨_, hopen⟩),
    substitute_bracketed hcolumn, has_iff.mp hvalue, List.append_assoc]
  rfl

theorem Filled.eq_substitute {step out : Text} (h : r.Filled step out) :
    r.substitute step = out := by
  induction h with
  | text h => exact substitute_eq_self h
  | column hbefore hcolumn hvalue hafter ih =>
      rw [substitute_column_append hbefore hcolumn hvalue, ih]

/-- A column can be filled in between any two texts: no other place overlaps with its own. -/
theorem Filled.append_column {a out column value b out' : Text} (ha : r.Filled a out)
    (hcolumn : Unbracketed column) (hvalue : r.Has column value) (hb : r.Filled b out') :
    r.Filled (a ++ bracketed column ++ b) (out ++ value ++ out') := by
  induction ha with
  | text h => exact .column h hcolumn hvalue hb
  | column hbefore hcolumn' hvalue' _ ih =>
      have hall := Filled.column hbefore hcolumn' hvalue' ih
      simpa only [List.append_assoc] using hall

/-- Every step can be filled: where it names a column, the texts on both sides are shorter. -/
theorem exists_filled (r : Row) (step : Text) : ∃ out, r.Filled step out := by
  induction hn : step.length using Nat.strong_induction_on generalizing step with
  | _ n ih =>
      by_cases h : r.NamesNone step
      · exact ⟨step, .text h⟩
      · simp only [NamesNone, not_forall, not_not] at h
        obtain ⟨column, value, hcolumn, hvalue, a, b, rfl⟩ := h
        simp only [List.length_append, bracketed, List.length_cons] at hn
        obtain ⟨out, ha⟩ := ih a.length (by omega) a rfl
        obtain ⟨out', hb⟩ := ih b.length (by omega) b rfl
        exact ⟨_, ha.append_column hcolumn hvalue hb⟩

theorem filled_substitute (r : Row) (step : Text) : r.Filled step (r.substitute step) := by
  obtain ⟨out, h⟩ := r.exists_filled step
  rw [h.eq_substitute]
  exact h

theorem substitute_append_column (a : Text) {column value : Text} (hcolumn : Unbracketed column)
    (hvalue : r.Has column value) (b : Text) :
    r.substitute (a ++ bracketed column ++ b) = r.substitute a ++ value ++ r.substitute b :=
  ((r.filled_substitute a).append_column hcolumn hvalue (r.filled_substitute b)).eq_substitute

/-- **All columns that a step names are replaced at once**, and the text between them is kept.
Wherever a column is named, the texts on both sides of it are substituted on their own. -/
theorem substitute_exact (r : Row) :
    (∀ step out, r.substitute step = out ↔ r.Filled step out) ∧
      ∀ a column value b, Unbracketed column → r.Has column value →
        r.substitute (a ++ bracketed column ++ b) =
          r.substitute a ++ value ++ r.substitute b := by
  refine ⟨fun step out => ⟨?_, Filled.eq_substitute⟩, ?_⟩
  · rintro rfl
    exact r.filled_substitute step
  · intro a column value b hcolumn hvalue
    exact substitute_append_column a hcolumn hvalue b

/-! ## Columns that can be named -/

theorem namesNone_of_unbracketed (r : Row) {t : Text} (h : Unbracketed t) : r.NamesNone t :=
  fun _ _ _ _ hname => h.1 (hname.subset List.mem_cons_self)

/-- Between texts without brackets a column is replaced. -/
theorem substitute_between {column value a b : Text} (hcolumn : Unbracketed column)
    (hvalue : r.get? column = some value) (ha : Unbracketed a) (hb : Unbracketed b) :
    r.substitute (a ++ bracketed column ++ b) = a ++ value ++ b := by
  rw [substitute_append_column a hcolumn (has_iff.mpr hvalue),
    substitute_eq_self (r.namesNone_of_unbracketed ha),
    substitute_eq_self (r.namesNone_of_unbracketed hb)]

theorem Filled.congr {r' : Row} (hget : ∀ name, Unbracketed name → r'.get? name = r.get? name)
    {step out : Text} (h : r.Filled step out) : r'.Filled step out := by
  have hhas {name value : Text} (hname : Unbracketed name) :
      r'.Has name value ↔ r.Has name value := by
    rw [has_iff, has_iff, hget name hname]
  have hnames {t : Text} (ht : r.NamesNone t) : r'.NamesNone t :=
    fun column value hcolumn hvalue => ht column value hcolumn ((hhas hcolumn).mp hvalue)
  induction h with
  | text h => exact .text (hnames h)
  | column hbefore hcolumn hvalue hafter ih =>
      exact .column (hnames hbefore) hcolumn ((hhas hcolumn).mpr hvalue) ih

/-- Only the values of columns that can be named matter for a step. -/
theorem substitute_congr {r' : Row} (hget : ∀ name, Unbracketed name → r'.get? name = r.get? name)
    (step : Text) : r'.substitute step = r.substitute step :=
  Filled.eq_substitute ((filled_substitute r step).congr hget)

end Row

namespace Table

open Text (Unbracketed bracketed)

/-- **In the rows of a table every column without an angle bracket can be substituted.** The values
of a column with one have no effect on any step. -/
theorem substitute_column {seps : Separators} {text : Text} {t : Table}
    (h : parse seps text = .ok t) {values : List Text} (hvalues : values ∈ t.rows) {column : Text}
    (hcolumn : column ∈ t.headers) :
    let r : Row := ⟨t.headers, values⟩
    ∃ value, r.get? column = some value ∧
      (Unbracketed column → ∀ a b, Unbracketed a → Unbracketed b →
        r.substitute (a ++ bracketed column ++ b) = a ++ value ++ b) ∧
      (¬ Unbracketed column → ∀ r' : Row, (∀ name, name ≠ column → r'.get? name = r.get? name) →
        ∀ step, r'.substitute step = r.substitute step) := by
  intro r
  have hread := isRead_of_parse h
  obtain ⟨value, hvalue⟩ := Option.isSome_iff_exists.mp <|
    (Row.isSome_get?_iff (r := r) hread.nodup (hread.full values hvalues)).mpr hcolumn
  refine ⟨value, hvalue, fun hname a b ha hb => ?_, fun hname r' hget step => ?_⟩
  · exact Row.substitute_between hname hvalue ha hb
  · refine Row.substitute_congr (fun name hunbracketed => hget name ?_) step
    rintro rfl
    exact hname hunbracketed

/-- A step can name a column with a blank and one without any character, but not the column `a>b`
between them. -/
theorem substitute_column_unnamed :
    let t : Table :=
      { headers := [[], "a>b".toList, "c d".toList], rows := [[['1'], ['2'], ['<']]] }
    let r : Row := ⟨t.headers, [['1'], ['2'], ['<']]⟩
    parse {} "||a>b|c d|\n|1|2|<|".toList = .ok t ∧ r.values ∈ t.rows ∧
      r.substitute "x <c d> y".toList = "x < y".toList ∧ r.substitute "<>".toList = ['1'] ∧
      ∀ step, Row.substitute ⟨t.headers, [['1'], ['3'], ['<']]⟩ step = r.substitute step := by
  intro t r
  have hparse : parse {} "||a>b|c d|\n|1|2|<|".toList = .ok t := rfl
  have hr : r.values ∈ t.rows := List.mem_cons_self
  refine ⟨hparse, hr, ?_, ?_, ?_⟩
  · obtain ⟨value, hvalue, hnamed, -⟩ :=
      substitute_column hparse hr (by decide : "c d".toList ∈ t.headers)
    obtain rfl : ['<'] = value := Option.some.inj hvalue
    exact hnamed (by decide) "x ".toList " y".toList (by decide) (by decide)
  · obtain ⟨value, hvalue, hnamed, -⟩ :=
      substitute_column hparse hr (by decide : [] ∈ t.headers)
    obtain rfl : ['1'] = value := Option.some.inj hvalue
    exact hnamed (by decide) [] [] (by decide) (by decide)
  · obtain ⟨-, -, -, hhidden⟩ :=
      substitute_column hparse hr (by decide : "a>b".toList ∈ t.headers)
    refine hhidden (by decide) _ fun name hne => ?_
    have hother : (name == "a>b".toList) = false := beq_false_of_ne hne
    simp only [Row.get?, Row.cells, r, t, List.zip_cons_cons, List.zip_nil_right,
      List.lookup_cons, hother]

/-- A column with an angle bracket is not found in a step, although the table has it. -/
theorem bracket_hides_column :
    let t : Table := { headers := ["a<b".toList], rows := [[['1']]] }
    let r : Row := ⟨t.headers, [['1']]⟩
    parse {} "|a<b|\n|1|".toList = .ok t ∧ r.values ∈ t.rows ∧ "a<b".toList ∈ t.headers ∧
      r.get? "a<b".toList = some ['1'] ∧
      r.substitute (bracketed "a<b".toList) = "<a<b>".toList ∧
      r.substitute (bracketed "a<b".toList) ≠ ['1'] := by
  intro t r
  exact ⟨rfl, List.mem_cons_self, List.mem_cons_self, rfl, rfl, by decide⟩

end Table

end Storyline
