import Storyline.Proofs.Pattern.Cut
import Storyline.Proofs.Step.Binding

/-!
# Values, parameters and hints

The arguments of a step come from three lists: the parameters of the pattern, the hints of the
definition and the values that the pattern captured. All that matters of a pattern is that a match
reports one value for each parameter (`Pattern.Reports`). Patterns of both flavours do so, because
they have one parameter for each group of their expression (`Pattern.reports_of_compile`). However a
definition is declared with such a pattern, the three lists are equally long, and each value meets
its own parameter and its own hint (`Matcher.arguments_aligned`).
-/

set_option autoImplicit false

namespace Storyline

variable {κ σ : Type}

/-! ## Patterns -/

namespace Pattern

/-- A match of the pattern reports one value for each parameter. -/
def Reports (p : Pattern) : Prop :=
  ∀ t vs, p.captures t = some vs → vs.length = p.params.length

/-- A search reports one value for each group of the expression. -/
theorem length_captures {p : Pattern} {t : Text} {vs : List Text} (h : p.captures t = some vs) :
    vs.length = p.regex.groupCount := by
  obtain ⟨gs, hgs, rfl⟩ := Option.map_eq_some_iff.mp h
  obtain ⟨_, _, rfl⟩ := Option.map_eq_some_iff.mp hgs
  rw [List.length_map, List.length_map, List.length_range]

/-- **A pattern has one parameter for each group of its expression**, in either flavour. -/
theorem length_params [ClassNames] {flavour : Flavour} {source : Text} {p : Pattern}
    (h : compile flavour source = .ok p) : p.params.length = p.regex.groupCount := by
  cases flavour with
  | placeholders =>
      cases hlex : lex source with
      | error e =>
          simp only [compile, ofPlaceholders, hlex] at h
          cases h
      | ok ts =>
          obtain rfl : ofTokens source ts = p :=
            Except.ok.inj ((ofPlaceholders_of_lex hlex).symm.trans h)
          exact (groupCount_tokensRegex ts).symm
  | regex =>
      cases hr : Regex.parse? (anchored source) with
      | none =>
          simp only [compile, ofRegex, hr] at h
          cases h
      | some r =>
          simp only [compile, ofRegex, hr, Except.ok.injEq] at h
          rw [← h]
          simp only [List.length_map, Regex.groupNames, List.length_range]

theorem reports_of_compile [ClassNames] {flavour : Flavour} {source : Text} {p : Pattern}
    (h : compile flavour source = .ok p) : p.Reports := by
  intro t vs hvs
  rw [length_captures hvs, length_params h]

end Pattern

/-! ## Definitions -/

namespace StepDefinition

/-- The definition was declared with a pattern that reports one value for each parameter, and after
that perhaps given other priorities and hints. -/
inductive Declared : StepDefinition κ σ → Prop
  | pattern {p : Pattern} (hp : p.Reports) (keyword : StepKeyword) (handler : Handler κ σ) :
      Declared { keyword, pattern := p, hints := p.params.map (·.hint), handler }
  | withPriority {d : StepDefinition κ σ} (hd : Declared d) (priority : Int) :
      Declared (d.withPriority priority)
  | withHints {d d' : StepDefinition κ σ} (hd : Declared d) {hints : List (Option Text)}
      (h : d.withHints hints = .ok d') : Declared d'

theorem eq_of_withHints {d d' : StepDefinition κ σ} {hints : List (Option Text)}
    (h : d.withHints hints = .ok d') :
    d'.pattern = d.pattern ∧ d'.hints.length = d.pattern.params.length := by
  unfold StepDefinition.withHints at h
  split at h
  · next hlen =>
      cases h
      exact ⟨rfl, hlen⟩
  · cases h

namespace Declared

variable {d : StepDefinition κ σ}

/-- A pattern of either flavour will do. -/
theorem of_declare [ClassNames] {keyword : StepKeyword} {flavour : Pattern.Flavour} {source : Text}
    {handler : Handler κ σ} (h : declare keyword flavour source handler = .ok d) : d.Declared := by
  unfold StepDefinition.declare at h
  cases hp : Pattern.compile flavour source with
  | error e =>
      rw [hp] at h
      cases h
  | ok p =>
      simp only [hp] at h
      split at h
      · cases h
        exact .pattern (Pattern.reports_of_compile hp) keyword handler
      · cases h

/-- Whatever is changed after the declaration, the pattern stays. -/
theorem reports (hd : d.Declared) : d.pattern.Reports := by
  induction hd with
  | pattern hp _ _ => exact hp
  | withPriority _ _ ih => exact ih
  | withHints _ h ih =>
      rw [(eq_of_withHints h).1]
      exact ih

/-- There is one hint for each parameter. -/
theorem length_hints (hd : d.Declared) : d.hints.length = d.pattern.params.length := by
  induction hd with
  | pattern _ _ _ => exact List.length_map _
  | withPriority _ _ ih => exact ih
  | withHints _ h _ =>
      obtain ⟨hpattern, hlen⟩ := eq_of_withHints h
      rw [hpattern, hlen]

end Declared

end StepDefinition

/-! ## Arguments -/

theorem Converters.ne_none_of_error {cs : Converters κ} {hint : Option Text} {raw : Text}
    {e : ConversionError} (h : cs.convert hint raw = .error e) : hint ≠ none := by
  rintro rfl
  cases h

namespace Hit

variable {h : Hit κ σ} {cs : Converters κ} {line : Text}

/-- There are as many values as parameters and hints. -/
structure Aligned (h : Hit κ σ) : Prop where
  captures : h.captures.length = h.definition.pattern.params.length
  hints : h.definition.hints.length = h.definition.pattern.params.length

namespace Aligned

variable (hal : h.Aligned)

include hal

theorem length_items {as : Arguments κ} (ha : h.arguments cs line = .ok as) :
    as.items.length = h.definition.pattern.params.length := by
  have hlen := (convertAll_eq_ok (arguments_eq_ok_iff.mp ha).2).1
  rw [List.length_zip, List.length_zip, hal.captures, hal.hints] at hlen
  omega

/-- There are arguments just if the converters accept the values of all parameters. -/
theorem exists_arguments_iff (cs : Converters κ) (line : Text) :
    (∃ as, h.arguments cs line = .ok as) ↔
    ∀ i < h.definition.pattern.params.length, h.Accepts cs i := by
  constructor
  · rintro ⟨as, ha⟩ i hi
    have hp := List.getElem?_eq_getElem hi
    have hhint := List.getElem?_eq_getElem (hal.hints.symm ▸ hi)
    have hraw := List.getElem?_eq_getElem (hal.captures.symm ▸ hi)
    obtain ⟨v, hv, -⟩ := item_of_arguments ha hp hhint hraw
    exact ⟨_, _, v, hhint, hraw, hv⟩
  · intro haccepts
    cases ha : h.arguments cs line with
    | ok as => exact ⟨as, rfl⟩
    | error c =>
        obtain ⟨i, hint, raw, e, hi, hraw, he, -, -⟩ := conversion_of_arguments ha
        obtain ⟨hlt, -⟩ := List.getElem?_eq_some_iff.mp hi
        obtain ⟨hint', raw', v, hi', hraw', hv⟩ := haccepts i (hlt.trans_eq hal.hints)
        -- the value that is refused is the one that was accepted
        obtain rfl : hint = hint' := Option.some.inj (hi.symm.trans hi')
        obtain rfl : raw = raw' := Option.some.inj (hraw.symm.trans hraw')
        rw [he] at hv
        cases hv

end Aligned

end Hit

/-- **No argument is lost or misaligned.** For a definition that was declared, with a pattern of
either flavour, there are as many values as parameters and hints. If the converters accept all
values, the step has one argument for each parameter, with the name of the parameter, the value that
was captured at its position and what the converter for the hint at its position makes of it.
Otherwise the first value that is refused tells why the step fails, and the code behind it never
runs. -/
theorem Matcher.arguments_aligned [ClassNames] :
    (∀ keyword flavour source handler (d : StepDefinition κ σ),
      StepDefinition.declare keyword flavour source handler = .ok d → d.Declared) ∧
    ∀ (m : Matcher κ σ) (d : StepDefinition κ σ) (t : Text) (captures : List Text)
      (collection : String) (line : Text), d.Declared → d.pattern.captures t = some captures →
    let h : Hit κ σ := ⟨collection, d, captures⟩
    let s := m.step line (.hit h)
    let count := d.pattern.params.length
    captures.length = count ∧ d.hints.length = count ∧
    ((∀ i < count, h.Accepts m.converters i) →
      ∃ as, s.binding = .bound d as ∧ as.text = line ∧ as.items.length = count ∧
        ∀ (i : Nat) p hint raw, d.pattern.params[i]? = some p → d.hints[i]? = some hint →
          captures[i]? = some raw →
          ∃ v, m.converters.convert hint raw = .ok v ∧
            as.items[i]? = some ⟨p.name, raw, v⟩) ∧
    ((¬ ∀ i < count, h.Accepts m.converters i) →
      ∃ i hint raw e, i < count ∧ (∀ j < i, h.Accepts m.converters j) ∧
        d.hints[i]? = some (some hint) ∧ captures[i]? = some raw ∧
        m.converters.convert (some hint) raw = .error e ∧
        s.binding = .unresolvable (.conversion line (i + 1) hint raw e) ∧ s.call? = none ∧
        ∀ world, s.perform world =
          (⟨line, .failed (.conversion line (i + 1) hint raw e)⟩, world)) := by
  refine ⟨fun _ _ _ _ _ => StepDefinition.Declared.of_declare, ?_⟩
  intro m d t captures collection line hd hc h s count
  have hal : h.Aligned := ⟨hd.reports t captures hc, hd.length_hints⟩
  refine ⟨hal.captures, hal.hints, fun haccepts => ?_, fun hrefuses => ?_⟩
  · obtain ⟨as, ha⟩ := (hal.exists_arguments_iff m.converters line).mpr haccepts
    have hbinding : s.binding = .bound d as := by
      show (Finding.hit h).binding m.converters line = _
      simp only [Finding.binding, ha]
      rfl
    refine ⟨as, hbinding, Hit.text_of_arguments ha, hal.length_items ha, ?_⟩
    intro i p hint raw hp hhint hraw
    exact Hit.item_of_arguments ha hp hhint hraw
  · cases ha : h.arguments m.converters line with
    | ok as => exact absurd ((hal.exists_arguments_iff m.converters line).mp ⟨as, ha⟩) hrefuses
    | error c =>
        obtain ⟨i, hint, raw, e, hi, hraw, he, rfl, hbefore⟩ := Hit.conversion_of_arguments ha
        obtain ⟨hint, rfl⟩ := Option.ne_none_iff_exists'.mp (Converters.ne_none_of_error he)
        obtain ⟨hlt, -⟩ := List.getElem?_eq_some_iff.mp hi
        have hbinding : s.binding = .unresolvable (.conversion line (i + 1) hint raw e) := by
          show (Finding.hit h).binding m.converters line = _
          simp only [Finding.binding, ha, Option.getD_some]
        refine ⟨i, hint, raw, e, hlt.trans_eq hal.hints, hbefore, hi, hraw, he, hbinding, ?_, ?_⟩
        · rw [Step.call?, hbinding]
        · intro world
          rw [Step.perform, hbinding]
          rfl

/-- A group that takes no part in a match has a value and a hint, and its converter refuses the
value. -/
theorem Matcher.arguments_aligned_missing :
    let source := "move (\\w+)(?: by (\\d+))?".toList
    let values := ["it".toList, []]
    ∃ d : StepDefinition Unit Unit, d.Declared ∧ d.hints = [none, some "u8".toList] ∧
      d.pattern.source = source ∧ d.pattern.captures "move it".toList = some values ∧
      ∃ e, (Converters.default (κ := Unit)).convert (some "u8".toList) [] = .error e ∧
        ∀ (m : Matcher Unit Unit) (collection : String) (line : Text), m.converters = .default →
          (m.step line (.hit ⟨collection, d, values⟩)).binding =
            .unresolvable (.conversion line 2 "u8".toList [] e) := by
  intro source values
  have hfound : (Pattern.compile .regex source).toOption.map
      (fun p => (p.source, p.params.length, p.captures "move it".toList)) =
        some (source, 2, some values) := by decide +kernel
  cases hp : Pattern.compile .regex source with
  | error e =>
      rw [hp] at hfound
      cases hfound
  | ok p =>
      rw [hp] at hfound
      obtain ⟨hsource, hfound⟩ := Prod.mk.inj (Option.some.inj hfound)
      obtain ⟨hcount, hcaptures⟩ := Prod.mk.inj hfound
      let d : StepDefinition Unit Unit :=
        { keyword := .action, pattern := p, hints := p.params.map (·.hint)
          handler := fun _ world => (.done, world) }
      have hdeclare : StepDefinition.declare .action .regex source d.handler = .ok d := by
        simp only [StepDefinition.declare, hp]
        rfl
      have hhints : d.withHints [none, some "u8".toList] =
          .ok { d with hints := [none, some "u8".toList] } := if_pos hcount.symm
      obtain ⟨hdeclared, haligned⟩ := Matcher.arguments_aligned (κ := Unit) (σ := Unit)
      have hd := (hdeclared _ _ _ _ _ hdeclare).withHints hhints
      let e : ConversionError := ⟨"'': cannot parse integer from empty string"⟩
      have hconvert :
          (Converters.default (κ := Unit)).convert (some "u8".toList) [] = .error e := by
        decide +kernel
      refine ⟨_, hd, rfl, hsource, hcaptures, e, hconvert, fun m collection line hm => ?_⟩
      obtain ⟨-, -, -, hrefuses⟩ := haligned m _ _ _ collection line hd hcaptures
      -- the last value is refused, and the one before it has no hint
      obtain ⟨i, hint, raw, e', -, -, hi, hraw, he, hbinding, -⟩ := hrefuses fun haccepts => by
        obtain ⟨hint, raw, v, hi, hraw, hv⟩ := haccepts 1 (hcount ▸ Nat.one_lt_two)
        cases hi
        cases hraw
        rw [hm, hconvert] at hv
        cases hv
      cases i with
      | zero => cases hi
      | succ i =>
          cases i with
          | zero =>
              cases hi
              cases hraw
              rw [hm, hconvert] at he
              cases he
              exact hbinding
          | succ i => cases hi

end Storyline
