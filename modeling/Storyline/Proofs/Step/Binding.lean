import Storyline.Step.Performance

/-!
# What steps are bound to

The arguments of a step are converted one after the other, and the first value that a converter
refuses ends the conversion (`convertAll_eq_error`). Hence the two promises of the matcher about
its steps (`Step.Matched`): the arguments carry the line of the step, and a step that cannot be
performed has a cause that comes up before any code runs, which is a failure.
-/

set_option autoImplicit false

namespace Storyline

variable {κ σ : Type}

/-! ## Conversion -/

/-- **The first refused value decides.** A conversion of all values fails because of one of them,
with the position, the hint and the text of that value, and all values before it are accepted. -/
theorem convertAll_eq_error {cs : Converters κ} {line : Text} {position : Nat}
    {ps : List (Pattern.Param × Option Text × Text)} {c : StepCause}
    (h : convertAll cs line position ps = .error c) :
    ∃ i p hint raw e, ps[i]? = some (p, hint, raw) ∧ cs.convert hint raw = .error e ∧
      c = .conversion line (position + i) (hint.getD []) raw e ∧
      ∀ j < i, ∃ p hint raw v, ps[j]? = some (p, hint, raw) ∧ cs.convert hint raw = .ok v := by
  induction ps generalizing position with
  | nil => simp [convertAll] at h
  | cons q ps ih =>
      obtain ⟨p, hint, raw⟩ := q
      rw [convertAll] at h
      cases hv : cs.convert hint raw with
      | error e =>
          simp only [hv, Except.error.injEq] at h
          exact ⟨0, p, hint, raw, e, rfl, hv, h.symm, fun j hj => absurd hj j.not_lt_zero⟩
      | ok v =>
          simp only [hv] at h
          cases hr : convertAll cs line (position + 1) ps with
          | ok as => simp [hr] at h
          | error d =>
              simp only [hr, Except.error.injEq] at h
              subst h
              obtain ⟨i, p', hint', raw', e, hi, he, hd, hbefore⟩ := ih hr
              refine ⟨i + 1, p', hint', raw', e, by simpa using hi, he, ?_, fun j hj => ?_⟩
              · rw [hd, Nat.add_assoc, Nat.add_comm 1 i]
              · cases j with
                | zero => exact ⟨p, hint, raw, v, rfl, hv⟩
                | succ j => exact hbefore j (by omega)

/-- A conversion of all values gives one argument for each, with its name, its text and what the
converter makes of it. -/
theorem convertAll_eq_ok {cs : Converters κ} {line : Text} {position : Nat}
    {ps : List (Pattern.Param × Option Text × Text)} {as : List (Argument κ)}
    (h : convertAll cs line position ps = .ok as) :
    as.length = ps.length ∧ ∀ (i : Nat) p hint raw, ps[i]? = some (p, hint, raw) →
      ∃ v, cs.convert hint raw = .ok v ∧ as[i]? = some ⟨p.name, raw, v⟩ := by
  induction ps generalizing position as with
  | nil =>
      obtain rfl : [] = as := by simpa [convertAll] using h
      exact ⟨rfl, by simp⟩
  | cons q ps ih =>
      obtain ⟨p, hint, raw⟩ := q
      rw [convertAll] at h
      cases hv : cs.convert hint raw with
      | error e => simp [hv] at h
      | ok v =>
          simp only [hv] at h
          cases hr : convertAll cs line (position + 1) ps with
          | error d => simp [hr] at h
          | ok rest =>
              simp only [hr, Except.ok.injEq] at h
              subst h
              obtain ⟨hlen, hitems⟩ := ih hr
              refine ⟨congrArg (· + 1) hlen, fun i p' hint' raw' hi => ?_⟩
              cases i with
              | zero =>
                  cases hi
                  exact ⟨v, hv, rfl⟩
              | succ i => exact hitems i p' hint' raw' hi

namespace Hit

/-- The arguments of a step are those that the conversion gives, with the line of the step. -/
theorem arguments_eq_ok_iff {cs : Converters κ} {line : Text} {h : Hit κ σ} {as : Arguments κ} :
    h.arguments cs line = .ok as ↔ as.text = line ∧
      convertAll cs line 1
        (h.definition.pattern.params.zip (h.definition.hints.zip h.captures)) = .ok as.items := by
  obtain ⟨text, items⟩ := as
  unfold arguments
  cases convertAll cs line 1
      (h.definition.pattern.params.zip (h.definition.hints.zip h.captures)) with
  | error c => simp [Except.map]
  | ok items' => simp [Except.map, eq_comm]

/-- The arguments of a step carry its line. -/
theorem text_of_arguments {cs : Converters κ} {line : Text} {h : Hit κ σ} {as : Arguments κ}
    (ha : h.arguments cs line = .ok as) : as.text = line :=
  (arguments_eq_ok_iff.mp ha).1

/-- Each argument comes from the parameter, the hint and the value at its position. -/
theorem item_of_arguments {cs : Converters κ} {line : Text} {h : Hit κ σ} {as : Arguments κ}
    (ha : h.arguments cs line = .ok as) {i : Nat} {p : Pattern.Param} {hint : Option Text}
    {raw : Text} (hp : h.definition.pattern.params[i]? = some p)
    (hhint : h.definition.hints[i]? = some hint) (hraw : h.captures[i]? = some raw) :
    ∃ v, cs.convert hint raw = .ok v ∧ as.items[i]? = some ⟨p.name, raw, v⟩ := by
  have hitems := (convertAll_eq_ok (arguments_eq_ok_iff.mp ha).2).2
  have hq : (h.definition.hints.zip h.captures)[i]? = some (hint, raw) :=
    List.getElem?_zip_eq_some.mpr ⟨hhint, hraw⟩
  exact hitems i p hint raw (List.getElem?_zip_eq_some.mpr ⟨hp, hq⟩)

/-- The converter for the hint at a position accepts the value that was captured there. -/
def Accepts (cs : Converters κ) (h : Hit κ σ) (i : Nat) : Prop :=
  ∃ hint raw v, h.definition.hints[i]? = some hint ∧ h.captures[i]? = some raw ∧
    cs.convert hint raw = .ok v

/-- Arguments are refused only because of a value that its converter refuses, and it is the first
one. -/
theorem conversion_of_arguments {cs : Converters κ} {line : Text} {h : Hit κ σ} {c : StepCause}
    (ha : h.arguments cs line = .error c) :
    ∃ i hint raw e, h.definition.hints[i]? = some hint ∧ h.captures[i]? = some raw ∧
      cs.convert hint raw = .error e ∧ c = .conversion line (i + 1) (hint.getD []) raw e ∧
      ∀ j < i, h.Accepts cs j := by
  unfold arguments at ha
  cases hc : convertAll cs line 1
      (h.definition.pattern.params.zip (h.definition.hints.zip h.captures)) with
  | ok items => simp [hc, Except.map] at ha
  | error d =>
      simp only [hc, Except.map, Except.error.injEq] at ha
      obtain ⟨i, p, hint, raw, e, hi, he, hd, hbefore⟩ := convertAll_eq_error hc
      obtain ⟨-, hq⟩ := List.getElem?_zip_eq_some.mp hi
      obtain ⟨hh, hr⟩ := List.getElem?_zip_eq_some.mp hq
      refine ⟨i, hint, raw, e, hh, hr, he, ?_, fun j hj => ?_⟩
      · rw [← ha, hd, Nat.add_comm]
      · obtain ⟨_, hint, raw, v, hj, hv⟩ := hbefore j hj
        obtain ⟨-, hq⟩ := List.getElem?_zip_eq_some.mp hj
        obtain ⟨hh, hr⟩ := List.getElem?_zip_eq_some.mp hq
        exact ⟨hint, raw, v, hh, hr, hv⟩

end Hit

/-! ## The promises of the matcher -/

/-- The cause comes up before any code runs: it is not clear what to run, or with which values. -/
def StepCause.isUnresolved : StepCause → Bool
  | ambiguous _ _ _ => true
  | conversion _ _ _ _ _ => true
  | _ => false

/-- What the matcher promises of the steps that it makes. -/
structure Step.Matched (s : Step κ σ) : Prop where
  text_eq : ∀ d as, s.binding = .bound d as → as.text = s.line
  unresolved : ∀ c, s.binding = .unresolvable c → c.isUnresolved = true

theorem Step.Matched.kind_eq {s : Step κ σ} (h : s.Matched) {c : StepCause}
    (hc : s.binding = .unresolvable c) : c.kind = .failure := by
  have hu := h.unresolved c hc
  cases c with
  | pending l => cases hu
  | _ => rfl

namespace Matcher

/-- The matcher keeps its promises, whatever it finds. -/
theorem matched_step (m : Matcher κ σ) (line : Text) (f : Finding κ σ) :
    (m.step line f).Matched := by
  cases f with
  | ignorable => exact ⟨fun _ _ h => (by cases h), fun _ h => (by cases h)⟩
  | noKeyword => exact ⟨fun _ _ h => (by cases h), fun _ h => (by cases h)⟩
  | unmatched => exact ⟨fun _ _ h => (by cases h), fun _ h => (by cases h)⟩
  | ambiguous hs =>
      refine ⟨fun _ _ h => (by cases h), fun c h => ?_⟩
      cases h
      rfl
  | hit h =>
      cases ha : h.arguments m.converters line with
      | ok as =>
          have hb : (m.step line (.hit h)).binding = .bound h.definition as := by
            simp only [step, Finding.binding, ha]
          refine ⟨fun d as' hd => ?_, fun c hc => ?_⟩
          · rw [hb, Binding.bound.injEq] at hd
            rw [← hd.2]
            exact Hit.text_of_arguments ha
          · rw [hb] at hc
            cases hc
      | error c =>
          have hb : (m.step line (.hit h)).binding = .unresolvable c := by
            simp only [step, Finding.binding, ha]
          refine ⟨fun d as hd => ?_, fun c' hc => ?_⟩
          · rw [hb] at hd
            cases hd
          · rw [hb, Binding.unresolvable.injEq] at hc
            obtain ⟨i, hint, raw, e, -, -, -, he, -⟩ := Hit.conversion_of_arguments ha
            rw [← hc, he]
            rfl

theorem matched_of_mem_prepareAfter (m : Matcher κ σ) (prev : Option StepKeyword)
    (lines : List Text) : ∀ s ∈ m.prepareAfter prev lines, s.Matched := by
  induction lines generalizing prev with
  | nil => simp [prepareAfter]
  | cons l ls ih =>
      intro s hs
      rcases List.mem_cons.mp hs with rfl | hs
      · exact m.matched_step l (m.find prev l)
      · exact ih _ s hs

/-- There is one step for each line, in order. -/
theorem map_line_prepareAfter (m : Matcher κ σ) (prev : Option StepKeyword) (lines : List Text) :
    (m.prepareAfter prev lines).map Step.line = lines := by
  induction lines generalizing prev with
  | nil => rfl
  | cons l ls ih =>
      show l :: (m.prepareAfter _ ls).map Step.line = l :: ls
      rw [ih]

end Matcher

end Storyline
