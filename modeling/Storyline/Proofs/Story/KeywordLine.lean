import Storyline.Proofs.Keyword.Longest
import Storyline.Proofs.Story.Reading

/-!
# Lines that are written with a keyword

A line that starts with the literal of a marker, followed by a blank and some text, is read as a
line of that marker, unless a longer literal also starts it (`parse_recognises`). The lines of a
story are trimmed before they are read, so this needs a literal that does not start with a blank. A
valid table can have one that does, and then its lines are mere text (`leading_blank_hides_step`).
-/

set_option autoImplicit false

namespace Storyline

namespace Keywords

variable {ks : Keywords} {k : Keyword} {x : Text}

/-- The line with the literal of a keyword, a blank and what follows it. -/
def written (ks : Keywords) (k : Keyword) (x : Text) : Text := ks.literal k ++ ' ' :: x

/-- Of a line that is written, only blanks at its end are trimmed away. -/
theorem Valid.trim_written (h : ks.Valid)
    (hstart : ∀ c ∈ (ks.literal k).head?, Unicode.isBlank c = false) (hx : Text.trim x ≠ []) :
    Text.trim (ks.written k x) = ks.written k (Text.trimEnd x) := by
  have hhead : Text.trimStart (ks.written k x) = ks.written k x := by
    rw [Text.trimStart, Text.dropWhile_eq_self_iff, written,
      List.head?_append_of_ne_nil _ (h.ne_nil k)]
    exact hstart
  have hblank : ks.written k x = (ks.literal k ++ [' ']) ++ x := by simp [written]
  rw [Text.trim, hhead, hblank, Text.trimEnd_append _ hx, List.append_assoc]
  rfl

/-- What follows the literal is found, up to blanks around it. -/
theorem trim_drop_written (ks : Keywords) (k : Keyword) (x : Text) :
    Text.trim ((ks.written k (Text.trimEnd x)).drop (ks.literal k).length) = Text.trim x := by
  obtain ⟨bs, hx, hbs⟩ := Text.exists_trimEnd_append x
  calc Text.trim ((ks.written k (Text.trimEnd x)).drop (ks.literal k).length)
      = Text.trim (' ' :: Text.trimEnd x) := by rw [written, List.drop_left]
    _ = Text.trim (Text.trimEnd x) := Text.trim_cons (by decide) _
    _ = Text.trim (Text.trimEnd x ++ bs) := (Text.trim_append_blanks _ hbs).symm
    _ = Text.trim x := by rw [← hx]

/-- A marker fits the lines that are written with its literal. -/
theorem fits_written (ks : Keywords) (k : Keyword) (x : Text) : ks.Fits k (ks.written k x) where
  starts := List.prefix_append _ _
  ends _ _ := by
    have hspace : Unicode.isBlank ' ' = true := by decide
    rw [written, List.drop_left]
    exact hspace

/-- Unless a longer literal starts the line too, a line that is written with the literal of a marker
is classified as a line of the marker. -/
theorem Valid.classify_written (h : ks.Valid) (hk : k ∉ Keyword.labels)
    (hstart : ∀ c ∈ (ks.literal k).head?, Unicode.isBlank c = false) (hx : Text.trim x ≠ [])
    (hlong : ∀ j ∉ Keyword.labels, (ks.literal k).length < (ks.literal j).length →
      ¬ ks.literal j <+: ks.written k x) :
    ks.classify (Text.trim (ks.written k x)) = some (k, Text.trim x) := by
  rw [h.trim_written hstart hx]
  refine h.classify_eq_some_iff.mpr ⟨⟨hk, fits_written ks k _, fun j hj hfj => ?_⟩,
    (trim_drop_written ks k x).symm⟩
  -- what starts the trimmed line starts the whole line
  have hwhole : ks.written k (Text.trimEnd x) <+: ks.written k x := by
    obtain ⟨bs, hx, -⟩ := Text.exists_trimEnd_append x
    exact ⟨bs, by rw [written, written, List.append_assoc, List.cons_append, ← hx]⟩
  exact Nat.le_of_not_lt fun hlt => hlong j hj hlt (hfj.starts.trans hwhole)

end Keywords

namespace Story

variable {ks : Keywords}

/-- Every line that is not blank is read, trimmed. -/
theorem exists_mem_numberedLines {line t : Text} (h : line ∈ Text.lines t)
    (hne : Text.trim line ≠ []) : ∃ n, (n, Text.trim line) ∈ numberedLines t := by
  have hmem : Text.trim line ∈ (numberedLines t).map Prod.snd := by
    rw [numberedLines_eq, map_snd_numbered]
    exact List.mem_filter.mpr ⟨List.mem_map_of_mem h, by simpa using hne⟩
  obtain ⟨⟨n, l⟩, hnl, rfl⟩ := List.mem_map.mp hmem
  exact ⟨n, hnl⟩

/-- A step alone makes a story of one scenario. -/
theorem parse_step {line : Text} {j : StepKeyword} {rest : Text} (hks : ks.validate = .ok ())
    (hclass : ks.classify (Text.trim line) = some (.step j, rest)) (hfeed : '\n' ∉ line)
    (hne : Text.trim line ≠ []) (path : Text) :
    parse ks path line = .ok { path, scenarios := [{ steps := [Text.trim line] }] } := by
  have hlines : numberedLines line = [(1, Text.trim line)] := by
    rw [numberedLines_eq, Text.lines_of_not_mem hfeed, numbered_cons_of_ne hne, numbered_nil]
  refine parse_eq_ok_iff.mpr ⟨hks, ?_⟩
  rw [hlines, Draft.lines_cons, Draft.line_of_classify_eq_some ks hclass rfl rfl]
  rfl

/-- **A line that is written with a keyword is recognised**, wherever it stands in a text, if the
literal does not start with a blank and no longer literal starts the line. A step that stands alone
is a scenario with that step. -/
theorem parse_recognises (hks : ks.validate = .ok ()) {k : Keyword} (hk : k ∉ Keyword.labels)
    (hstart : ∀ c ∈ (ks.literal k).head?, Unicode.isBlank c = false)
    {x : Text} (hx : Text.trim x ≠ [])
    (hlong : ∀ j ∉ Keyword.labels, (ks.literal k).length < (ks.literal j).length →
      ¬ ks.literal j <+: ks.literal k ++ ' ' :: x) :
    let line := ks.literal k ++ ' ' :: x
    (∀ t, line ∈ Text.lines t → ∃ n, (n, Text.trim line) ∈ numberedLines t) ∧
      ks.classify (Text.trim line) = some (k, Text.trim x) ∧
      ∀ j, k = .step j → '\n' ∉ line → ∀ path,
        parse ks path line = .ok { path, scenarios := [{ steps := [Text.trim line] }] } := by
  intro line
  have hclass : ks.classify (Text.trim line) = some (k, Text.trim x) :=
    (Keywords.validate_eq_ok_iff.mp hks).classify_written hk hstart hx hlong
  have hne : Text.trim line ≠ [] := fun hnil =>
    hx (Text.trim_eq_nil_iff.mpr fun c hc => Text.trim_eq_nil_iff.mp hnil c (by simp [line, hc]))
  refine ⟨fun t ht => exists_mem_numberedLines ht hne, hclass, ?_⟩
  rintro j rfl hfeed path
  exact parse_step hks hclass hfeed hne path

/-- A literal that another one goes on from, and a step with blanks around its text. -/
theorem parse_recognises_continued :
    let ks := (Keywords.default.set (.step .given) "Étant".toList).set .givenStories
      "Étant donnés:".toList
    let line := "Étant   donnée une lampe \t".toList
    ks.validate = .ok () ∧
      (∃ n, (n, Text.trim line) ∈ numberedLines ("Scenario: lampe\n".toList ++ line)) ∧
      ks.classify (Text.trim line) = some (.step .given, "donnée une lampe".toList) ∧
      parse ks [] line =
        .ok { path := [], scenarios := [{ steps := ["Étant   donnée une lampe".toList] }] } := by
  intro ks line
  have hks : ks.validate = .ok () := by rfl
  have hstart : ∀ c ∈ (ks.literal (.step .given)).head?, Unicode.isBlank c = false := by
    intro c hc
    cases hc
    decide
  have h := parse_recognises hks (x := "  donnée une lampe \t".toList) (by decide) hstart
    (by decide) (by decide)
  have hline : ks.literal (.step .given) ++ ' ' :: "  donnée une lampe \t".toList = line := by
    decide
  have hrest : Text.trim "  donnée une lampe \t".toList = "donnée une lampe".toList := by decide
  have htrim : Text.trim line = "Étant   donnée une lampe".toList := by decide
  rw [hline, hrest] at h
  obtain ⟨hread, hclass, hparse⟩ := h
  refine ⟨hks, hread _ (by decide), hclass, ?_⟩
  rw [hparse .given rfl (by decide), htrim]

/-- In a valid table a literal can start with a blank. A step that is written with it is text. -/
theorem leading_blank_hides_step :
    let ks := Keywords.default.set (.step .given) " Given".toList
    let line := " Given a calculator".toList
    ks.validate = .ok () ∧ line = ks.literal (.step .given) ++ ' ' :: "a calculator".toList ∧
      (∀ j ∉ Keyword.labels, (ks.literal (.step .given)).length < (ks.literal j).length →
        ¬ ks.literal j <+: line) ∧
      ks.classify (Text.trim line) = none ∧
      parse ks [] line = .ok { path := [], description := "Given a calculator".toList } := by
  exact ⟨by rfl, by decide, by decide, by decide, eq_ok_of_toOption (by decide)⟩

end Story

end Storyline
