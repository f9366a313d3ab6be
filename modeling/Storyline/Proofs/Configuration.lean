import Storyline.Configuration

/-!
# Tables under a configuration

The separators of tables stand in two places: among the keywords, by which the examples of scenarios
are read, and in the converter for the hint `table`, by which parameters are read. In every
configuration that a program can make, the two agree (`Configuration.convert_table`), in whichever
order it chooses keywords and converters, and whatever converter of its own it has for tables.
-/

set_option autoImplicit false

namespace Storyline

variable {κ : Type}

namespace Converters

/-- Separators replace whatever converter of tables there was. -/
theorem find?_withSeparators (cs : Converters κ) (seps : Separators) :
    (cs.withSeparators seps).find? "table".toList = some (.table seps) := by
  simp [withSeparators, register]

theorem find?_default :
    (default : Converters κ).find? "table".toList = some (.table {}) := find?_withSeparators _ _

end Converters

namespace Configuration

/-- Tables among parameters are read with the separators of the keywords. -/
def InStep (c : Configuration κ) : Prop :=
  c.converters.find? "table".toList = some (.table c.keywords.separators)

/-- The configurations that a program can make. -/
inductive Reachable : Configuration κ → Prop
  | new : Reachable {}
  | ofProperties {ps : List (Text × Text)} {c : Configuration κ} (h : ofProperties ps = .ok c) :
    Reachable c
  | ofEnvironment {lead : String} {lookup : String → Option Text} {c : Configuration κ}
    (h : ofEnvironment lead lookup = .ok c) : Reachable c
  | withKeywords {c : Configuration κ} (h : Reachable c) (ks : Keywords) :
    Reachable (c.withKeywords ks)
  | withConverters {c : Configuration κ} (h : Reachable c) (cs : Converters κ) :
    Reachable (c.withConverters cs)
  | withPending {c : Configuration κ} (h : Reachable c) (s : ErrorStrategy) :
    Reachable (c.withPending s)
  | withFailure {c : Configuration κ} (h : Reachable c) (s : ErrorStrategy) :
    Reachable (c.withFailure s)
  | withMode {c : Configuration κ} (h : Reachable c) (m : RunMode) : Reachable (c.withMode m)
  | apply {c c' : Configuration κ} (h : Reachable c) {ps : List (Text × Text)}
    (happly : c.apply ps = .ok c') : Reachable c'

/-! ## Each change -/

theorem inStep_new : InStep ({} : Configuration κ) := Converters.find?_default

theorem inStep_withKeywords (c : Configuration κ) (ks : Keywords) : (c.withKeywords ks).InStep :=
  Converters.find?_withSeparators _ _

theorem inStep_withConverters (c : Configuration κ) (cs : Converters κ) :
    (c.withConverters cs).InStep := Converters.find?_withSeparators _ _

/-- A setting of its own leaves keywords and converters alone. -/
theorem InStep.set {c : Configuration κ} (h : c.InStep) (s : Setting) : (c.set s).InStep := by
  cases s <;> exact h

/-- If there is a keyword among the settings, then new keywords bring new separators; otherwise
neither keywords nor converters change. -/
theorem InStep.setAll {c c' : Configuration κ} (h : c.InStep) {ss : List Setting}
    (hset : c.setAll ss = .ok c') : c'.InStep := by
  have hfold : (ss.foldl Configuration.set c).InStep := by
    clear hset
    induction ss generalizing c with
    | nil => exact h
    | cons s ss ih => exact ih (h.set s)
  simp only [Configuration.setAll] at hset
  split at hset
  · split at hset
    · cases hset
      exact inStep_withKeywords _ _
    · cases hset
  · cases hset
    exact hfold

theorem InStep.apply {c c' : Configuration κ} (h : c.InStep) {ps : List (Text × Text)}
    (happly : c.apply ps = .ok c') : c'.InStep := by
  unfold Configuration.apply at happly
  split at happly
  · exact h.setAll happly
  · cases happly

/-! ## All configurations -/

theorem Reachable.inStep {c : Configuration κ} (h : c.Reachable) : c.InStep := by
  induction h with
  | new => exact inStep_new
  | ofProperties h => exact inStep_new.apply h
  | ofEnvironment h => exact inStep_new.apply h
  | withKeywords _ ks => exact inStep_withKeywords _ ks
  | withConverters _ cs => exact inStep_withConverters _ cs
  | withPending _ _ ih => exact ih
  | withFailure _ _ ih => exact ih
  | withMode _ _ ih => exact ih
  | apply _ happly ih => exact ih.apply happly

/-- **Tables among parameters are read as examples are**, with the separators of the keywords. -/
theorem convert_table {c : Configuration κ} (h : c.Reachable) (v : Text) :
    c.converters.convert (some "table".toList) v =
      match Table.parse c.keywords.separators v with
      | .ok t => .ok (.table t)
      | .error e => .error ⟨e.message⟩ := by
  have hfind : c.converters.find? "table".toList = some (.table c.keywords.separators) := h.inStep
  rw [Converters.convert, Option.bind_some, hfind]
  rfl

/-- Converters with a reader of tables of their own, and separators that are set after them. -/
theorem convert_table_semicolons : ∃ c : Configuration Empty, c.Reachable ∧
    c.converters.convert (some "table".toList) "a;b\n1!2".toList =
      .ok (.table ⟨["a".toList, "b".toList], [["1".toList, "2".toList]]⟩) := by
  have happly : ∃ c, (({} : Configuration Empty).withConverters
      (Converters.empty.register "table".toList .text)).apply
        [("table.header_separator".toList, ";".toList),
          ("table.value_separator".toList, "!".toList)]
          = .ok c := ⟨_, rfl⟩
  obtain ⟨c, hc⟩ := happly
  have h : c.Reachable := (Reachable.new.withConverters _).apply hc
  refine ⟨c, h, ?_⟩
  rw [convert_table h]
  cases hc
  rfl

end Configuration

end Storyline
