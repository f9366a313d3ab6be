import Mathlib.Logic.Equiv.Basic
import Storyline.Proofs.Configuration.Property
import Storyline.Proofs.Keyword.Longest

/-!
# What properties make of a configuration

The places of a configuration that properties set (`Setting.Target`) are independent of each other,
and in each of them the last property wins (`Configuration.Settles`). Whether keywords are accepted
is decided by the table that comes out in the end (`Configuration.Final`). So properties for
different places can stand in any order (`Property.Reordered`), two keywords can change places, and
properties in two portions do the same as all of them together (`Configuration.apply_settles`).

What counts are the settings, not the keys, since each separator of tables can be set by either of
two keys.
-/

set_option autoImplicit false

namespace Storyline

/-! ## Places -/

/-- A place of a configuration that a property can set. -/
inductive Setting.Target
  | keyword (k : Keyword)
  | pending
  | failure
  | batch
  | skip
  | ignoreFailure
deriving DecidableEq, Repr

namespace Setting

/-- The place that is set. -/
def target : Setting → Target
  | keyword k _ => .keyword k
  | pending _ => .pending
  | failure _ => .failure
  | batch _ => .batch
  | skip _ => .skip
  | ignoreFailure _ => .ignoreFailure

/-- The last setting of a place. -/
def last? (ss : List Setting) (t : Target) : Option Setting :=
  (ss.filter (·.target = t)).getLast?

variable {ss ss' : List Setting} {s : Setting} {t : Target}

theorem last?_append : last? (ss ++ ss') t = (last? ss' t).or (last? ss t) := by
  rw [last?, List.filter_append, List.getLast?_append, last?, last?]

theorem last?_cons :
    last? (s :: ss) t = (last? ss t).or (if s.target = t then some s else none) := by
  rw [← List.singleton_append, last?_append]
  congr 1
  by_cases h : s.target = t <;> simp [last?, h]

theorem last?_eq_none_iff : last? ss t = none ↔ ∀ s ∈ ss, s.target ≠ t := by
  simp [last?]

theorem isKeyword_iff : s.isKeyword = true ↔ ∃ k, s.target = .keyword k := by
  cases s <;> simp [isKeyword, target]

theorem exists_isKeyword_iff :
    (∃ s ∈ ss, s.isKeyword = true) ↔ ∃ k, last? ss (.keyword k) ≠ none := by
  constructor
  · rintro ⟨s, hs, hkeyword⟩
    obtain ⟨k, hk⟩ := isKeyword_iff.mp hkeyword
    exact ⟨k, fun hnone => last?_eq_none_iff.mp hnone s hs hk⟩
  · rintro ⟨k, hk⟩
    by_contra hnone
    refine hk (last?_eq_none_iff.mpr fun s hs htarget => hnone ?_)
    exact ⟨s, hs, isKeyword_iff.mpr ⟨k, htarget⟩⟩

/-- If each setting fills its place and leaves another one as it is, then the last setting of the
place stays there. -/
theorem foldl_eq_last {σ : Type} {f : σ → Setting → σ} (held : σ → Setting)
    (hstep : ∀ a s, held (f a s) = if s.target = t then s else held a) (ss : List Setting) (a : σ) :
    held (ss.foldl f a) = (last? ss t).getD (held a) := by
  -- the state is arbitrary, since the first setting changes it
  induction ss generalizing a with
  | nil => rfl
  | cons s ss ih =>
      rw [List.foldl_cons, ih, hstep, last?_cons]
      by_cases h : s.target = t
      · cases last? ss t <;> simp [h]
      · simp [h]

end Setting

theorem Converters.withSeparators_withSeparators {κ : Type} (cs : Converters κ)
    (seps seps' : Separators) :
    (cs.withSeparators seps).withSeparators seps' = cs.withSeparators seps' := by
  simp only [withSeparators, register, mk.injEq]
  funext hint
  split <;> rfl

namespace Configuration

open Setting (last?)

variable {κ : Type} {c c' c₁ c₂ : Configuration κ} {ss ss' : List Setting}

/-- What stands in a place, as the setting that leaves it there. -/
def held (c : Configuration κ) : Setting.Target → Setting
  | .keyword k => .keyword k (c.keywords.literal k)
  | .pending => .pending c.policy.pending
  | .failure => .failure c.policy.failure
  | .batch => .batch c.mode.batch
  | .skip => .skip c.mode.skip
  | .ignoreFailure => .ignoreFailure c.mode.ignoreFailure

/-- What stands in a place after the settings: the last one, or what was there before. -/
def heldAfter (c : Configuration κ) (ss : List Setting) (t : Setting.Target) : Setting :=
  (last? ss t).getD (c.held t)

theorem keywords_ext {ks ks' : Keywords}
    (h : ∀ k, Setting.keyword k (ks.literal k) = .keyword k (ks'.literal k)) : ks = ks' := by
  ext1
  funext k
  exact (Setting.keyword.inj (h k)).2

/-- The places and the converters are all of a configuration. -/
theorem eq_of_held (h : ∀ t, c.held t = c'.held t) (hconverters : c.converters = c'.converters) :
    c = c' := by
  obtain ⟨ks, ⟨pending, failure⟩, ⟨batch, skip, ignoreFailure⟩, cs⟩ := c
  obtain ⟨ks', ⟨pending', failure'⟩, ⟨batch', skip', ignoreFailure'⟩, cs'⟩ := c'
  obtain rfl : ks = ks' := keywords_ext fun k => h (.keyword k)
  obtain rfl : pending = pending' := Setting.pending.inj (h .pending)
  obtain rfl : failure = failure' := Setting.failure.inj (h .failure)
  obtain rfl : batch = batch' := Setting.batch.inj (h .batch)
  obtain rfl : skip = skip' := Setting.skip.inj (h .skip)
  obtain rfl : ignoreFailure = ignoreFailure' := Setting.ignoreFailure.inj (h .ignoreFailure)
  obtain rfl : cs = cs' := hconverters
  rfl

/-! ## Settings in order -/

/-- The table of keywords that the settings lead to. -/
def Final (c : Configuration κ) (ss : List Setting) (ks : Keywords) : Prop :=
  ∀ k, .keyword k (ks.literal k) = c.heldAfter ss (.keyword k)

/-- The settings lead from `c` to `c'`. -/
structure Settles (c : Configuration κ) (ss : List Setting) (c' : Configuration κ) : Prop where
  held : ∀ t, c'.held t = c.heldAfter ss t
  /-- New keywords are valid, and tables are read with their separators. -/
  keywords : (∃ s ∈ ss, s.isKeyword = true) → c'.keywords.validate = .ok () ∧
    c'.converters = c.converters.withSeparators c'.keywords.separators
  converters : (¬ ∃ s ∈ ss, s.isKeyword = true) → c'.converters = c.converters

theorem Final.unique {ks ks' : Keywords} (h : c.Final ss ks) (h' : c.Final ss ks') : ks = ks' :=
  keywords_ext fun k => (h k).trans (h' k).symm

theorem Settles.final (h : c.Settles ss c') : c.Final ss c'.keywords := fun k => h.held (.keyword k)

theorem heldAfter_keyword (hnone : ¬ ∃ s ∈ ss, s.isKeyword = true) (c : Configuration κ)
    (k : Keyword) : c.heldAfter ss (.keyword k) = c.held (.keyword k) := by
  have hlast : last? ss (.keyword k) = none := by
    by_contra hsome
    exact hnone (Setting.exists_isKeyword_iff.mpr ⟨k, hsome⟩)
  rw [heldAfter, hlast, Option.getD_none]

theorem Settles.keywords_eq (h : c.Settles ss c') (hnone : ¬ ∃ s ∈ ss, s.isKeyword = true) :
    c'.keywords = c.keywords :=
  keywords_ext fun k => (h.held (.keyword k)).trans (heldAfter_keyword hnone c k)

theorem Settles.unique (h₁ : c.Settles ss c₁) (h₂ : c.Settles ss c₂) : c₁ = c₂ := by
  have hkeywords : c₁.keywords = c₂.keywords := h₁.final.unique h₂.final
  refine eq_of_held (fun t => (h₁.held t).trans (h₂.held t).symm) ?_
  by_cases h : ∃ s ∈ ss, s.isKeyword = true
  · rw [(h₁.keywords h).2, (h₂.keywords h).2, hkeywords]
  · rw [h₁.converters h, h₂.converters h]

/-- Only the last setting of each place counts. -/
theorem Settles.congr (h : c.Settles ss c') (hlast : ∀ t, last? ss t = last? ss' t) :
    c.Settles ss' c' := by
  have hany : (∃ s ∈ ss, s.isKeyword = true) ↔ ∃ s ∈ ss', s.isKeyword = true := by
    simp only [Setting.exists_isKeyword_iff, hlast]
  refine ⟨fun t => ?_, fun hkeyword => h.keywords (hany.mpr hkeyword), fun hnone => ?_⟩
  · rw [h.held t, heldAfter, heldAfter, hlast]
  · exact h.converters (mt hany.mp hnone)

/-- Settings in two portions lead to the same configuration. -/
theorem Settles.append (h : c.Settles ss c₁) (h' : c₁.Settles ss' c₂) :
    c.Settles (ss ++ ss') c₂ := by
  have hheld (t : Setting.Target) : c₂.held t = c.heldAfter (ss ++ ss') t := by
    rw [h'.held, heldAfter, h.held, heldAfter, heldAfter, Setting.last?_append]
    cases last? ss' t <;> rfl
  have hany : (∃ s ∈ ss ++ ss', s.isKeyword = true) ↔
      (∃ s ∈ ss, s.isKeyword = true) ∨ ∃ s ∈ ss', s.isKeyword = true := by
    simp only [List.mem_append, or_and_right, exists_or]
  refine ⟨hheld, fun hkeyword => ?_, fun hnone => ?_⟩
  · rw [hany] at hkeyword
    by_cases hlater : ∃ s ∈ ss', s.isKeyword = true
    · obtain ⟨hvalid, hconverters⟩ := h'.keywords hlater
      refine ⟨hvalid, hconverters.trans ?_⟩
      by_cases hearlier : ∃ s ∈ ss, s.isKeyword = true
      · rw [(h.keywords hearlier).2, Converters.withSeparators_withSeparators]
      · rw [h.converters hearlier]
    · -- the second portion leaves the keywords of the first one
      rw [h'.keywords_eq hlater, h'.converters hlater]
      exact h.keywords (hkeyword.resolve_right hlater)
  · rw [hany, not_or] at hnone
    rw [h'.converters hnone.2, h.converters hnone.1]

/-! ## Setting all -/

theorem held_set {t : Setting.Target} (ht : ∀ k, t ≠ .keyword k) (c : Configuration κ)
    (s : Setting) : (c.set s).held t = if s.target = t then s else c.held t := by
  cases t with
  | keyword k => exact absurd rfl (ht k)
  | _ => cases s <;> rfl

/-- The last setting of each place stays, unless it is a keyword. -/
theorem held_foldl_set {t : Setting.Target} (ht : ∀ k, t ≠ .keyword k) (c : Configuration κ)
    (ss : List Setting) : (ss.foldl set c).held t = c.heldAfter ss t :=
  Setting.foldl_eq_last (held · t) (held_set ht) ss c

theorem held_withKeywords {t : Setting.Target} (ht : ∀ k, t ≠ .keyword k) (c : Configuration κ)
    (ks : Keywords) : (c.withKeywords ks).held t = c.held t := by
  cases t with
  | keyword k => exact absurd rfl (ht k)
  | _ => rfl

theorem literal_applyKeywords (k : Keyword) (ks : Keywords) (s : Setting) :
    Setting.keyword k ((s.applyKeywords ks).literal k) =
      if s.target = .keyword k then s else .keyword k (ks.literal k) := by
  cases s with
  | keyword j literal =>
      by_cases h : j = k
      · subst h
        simp [Setting.applyKeywords, Setting.target, Keywords.set]
      · simp [Setting.applyKeywords, Setting.target, Keywords.set, h, Ne.symm h]
  | _ => rfl

/-- The table that comes of all settings is the one that is checked. -/
theorem final_foldl (c : Configuration κ) (ss : List Setting) :
    c.Final ss (ss.foldl Setting.applyKeywords c.keywords) := fun k =>
  Setting.foldl_eq_last (fun ks => .keyword k (Keywords.literal ks k)) (literal_applyKeywords k) ss
    c.keywords

/-- Settings other than keywords change neither keywords nor converters. -/
theorem foldl_set_keywords (c : Configuration κ) (ss : List Setting) :
    (ss.foldl set c).keywords = c.keywords ∧ (ss.foldl set c).converters = c.converters := by
  induction ss generalizing c with
  | nil => exact ⟨rfl, rfl⟩
  | cons s ss ih =>
      have hset : (c.set s).keywords = c.keywords ∧ (c.set s).converters = c.converters := by
        cases s <;> exact ⟨rfl, rfl⟩
      rw [List.foldl_cons]
      exact ⟨(ih _).1.trans hset.1, (ih _).2.trans hset.2⟩

theorem settles_withKeywords {ks : Keywords} (hks : c.Final ss ks) (hvalid : ks.validate = .ok ())
    (hkeyword : ∃ s ∈ ss, s.isKeyword = true) :
    c.Settles ss ((ss.foldl set c).withKeywords ks) := by
  refine ⟨fun t => ?_, fun _ => ⟨hvalid, ?_⟩, fun hnone => ?_⟩
  · by_cases ht : ∃ k, t = .keyword k
    · obtain ⟨k, rfl⟩ := ht
      exact hks k
    · rw [held_withKeywords (not_exists.mp ht), held_foldl_set (not_exists.mp ht)]
  · rw [withKeywords, (foldl_set_keywords c ss).2]
  · exact absurd hkeyword hnone

theorem settles_foldl (hnone : ¬ ∃ s ∈ ss, s.isKeyword = true) :
    c.Settles ss (ss.foldl set c) := by
  obtain ⟨hkeywords, hconverters⟩ := foldl_set_keywords c ss
  refine ⟨fun t => ?_, fun hkeyword => ?_, fun _ => hconverters⟩
  · by_cases ht : ∃ k, t = .keyword k
    · obtain ⟨k, rfl⟩ := ht
      rw [heldAfter_keyword hnone, held, held, hkeywords]
    · exact held_foldl_set (not_exists.mp ht) c ss
  · exact absurd hkeyword hnone

/-- What all settings come to: the final table decides if there is a keyword among them. -/
theorem setAll_cases (c : Configuration κ) (ss : List Setting) :
    (∃ c', c.Settles ss c' ∧ c.setAll ss = .ok c') ∨
    ∃ ks e, (∃ s ∈ ss, s.isKeyword = true) ∧ c.Final ss ks ∧ ks.validate = .error e ∧
      c.setAll ss = .error (.keyword e) := by
  unfold setAll
  dsimp only
  by_cases hkeyword : ∃ s ∈ ss, s.isKeyword = true
  · rw [if_pos (List.any_eq_true.mpr hkeyword)]
    have hfinal := final_foldl c ss
    cases hvalid : (ss.foldl Setting.applyKeywords c.keywords).validate with
    | ok u => exact .inl ⟨_, settles_withKeywords hfinal hvalid hkeyword, rfl⟩
    | error e => exact .inr ⟨_, e, hkeyword, hfinal, hvalid, rfl⟩
  · rw [if_neg (by rwa [List.any_eq_true])]
    exact .inl ⟨_, settles_foldl hkeyword, rfl⟩

theorem setAll_eq_ok_iff : c.setAll ss = .ok c' ↔ c.Settles ss c' := by
  rcases setAll_cases c ss with ⟨c'', hsettles, hset⟩ | ⟨ks, e, hkeyword, hfinal, hvalid, hset⟩
  · rw [hset, Except.ok.injEq]
    constructor
    · rintro rfl
      exact hsettles
    · exact hsettles.unique
  · constructor
    · intro h
      rw [h] at hset
      cases hset
    · intro h
      have hok := (h.keywords hkeyword).1
      rw [h.final.unique hfinal, hvalid] at hok
      cases hok

theorem setAll_eq_error_iff {e : ConfigurationError} : c.setAll ss = .error e ↔
    (∃ s ∈ ss, s.isKeyword = true) ∧ ∃ ks e', c.Final ss ks ∧ ks.validate = .error e' ∧
      e = .keyword e' := by
  rcases setAll_cases c ss with ⟨c', hsettles, hset⟩ | ⟨ks, e', hkeyword, hfinal, hvalid, hset⟩
  · constructor
    · intro h
      rw [h] at hset
      cases hset
    · rintro ⟨hkeyword, ks, e', hfinal, hvalid, -⟩
      have hok := (hsettles.keywords hkeyword).1
      rw [hsettles.final.unique hfinal, hvalid] at hok
      cases hok
  · rw [hset, Except.error.injEq]
    constructor
    · rintro rfl
      exact ⟨hkeyword, ks, e', hfinal, hvalid, rfl⟩
    · rintro ⟨-, ks', e'', hfinal', hvalid', rfl⟩
      rw [hfinal'.unique hfinal, hvalid] at hvalid'
      rw [Except.error.inj hvalid']

end Configuration

/-! ## Properties in order -/

namespace Property

open Setting (last?)

variable {p q : Property} {ps qs : List Property} {s : Setting} {ss ss' : List Setting}

/-- The place that a property sets. -/
def target? (p : Property) : Option Setting.Target :=
  (Setting.parse p.1 p.2).toOption.map Setting.target

/-- The properties are the same, and those for one place are in the same order. -/
structure Reordered (ps qs : List Property) : Prop where
  perm : ps.Perm qs
  order : ∀ t, ps.filter (·.target? = some t) = qs.filter (·.target? = some t)

/-- Neighbours for different places can change places. -/
theorem Reordered.swap (h : p.target? ≠ q.target?) (xs ys : List Property) :
    Reordered (xs ++ p :: q :: ys) (xs ++ q :: p :: ys) := by
  refine ⟨(List.Perm.swap q p ys).append_left xs, fun t => ?_⟩
  rw [List.filter_append, List.filter_append]
  congr 1
  by_cases hp : p.target? = some t
  · have hq : q.target? ≠ some t := fun hq => h (hp.trans hq.symm)
    simp [hp, hq]
  · by_cases hq : q.target? = some t <;> simp [hp, hq]

theorem Sets.target? (h : p.Sets s) : p.target? = some s.target := by
  rw [Property.target?, h.parse]
  rfl

/-- The settings of a place are those of its properties. -/
theorem filter_settings (h : List.Forall₂ Sets ps ss) (t : Setting.Target) :
    ss.filter (·.target = t) = (ps.filter (·.target? = some t)).filterMap fun p =>
      (Setting.parse p.1 p.2).toOption := by
  induction h with
  | nil => rfl
  | @cons p s ps ss hp _ ih =>
      by_cases ht : s.target = t
      · have hset : (Setting.parse p.1 p.2).toOption = some s := congrArg Except.toOption hp.parse
        rw [List.filter_cons_of_pos (by simpa using ht),
          List.filter_cons_of_pos (by simpa [hp.target?] using ht), List.filterMap_cons, hset, ih]
      · rw [List.filter_cons_of_neg (by simpa using ht),
          List.filter_cons_of_neg (by simpa [hp.target?] using ht), ih]

theorem Reordered.last?_eq (h : Reordered ps qs) (hps : List.Forall₂ Sets ps ss)
    (hqs : List.Forall₂ Sets qs ss') (t : Setting.Target) : last? ss t = last? ss' t := by
  rw [last?, filter_settings hps, h.order, ← filter_settings hqs, ← last?]

theorem exists_settings (h : ∀ p ∈ ps, ∃ s, Sets p s) : ∃ ss, List.Forall₂ Sets ps ss := by
  induction ps with
  | nil => exact ⟨[], .nil⟩
  | cons p ps ih =>
      obtain ⟨⟨s, hs⟩, hrest⟩ := List.forall_mem_cons.mp h
      obtain ⟨ss, hss⟩ := ih hrest
      exact ⟨s :: ss, .cons hs hss⟩

theorem exists_of_settings (h : List.Forall₂ Sets ps ss) : ∀ p ∈ ps, ∃ s, Sets p s := by
  induction h with
  | nil => simp
  | cons hs _ ih => exact List.forall_mem_cons.mpr ⟨⟨_, hs⟩, ih⟩

end Property

namespace Configuration

open Property (Sets Refused Reordered)

variable {κ : Type} {c c' c₁ c₂ : Configuration κ} {ps qs : List Property} {ss : List Setting}
  {e : ConfigurationError}

theorem apply_of_settings (h : List.Forall₂ Sets ps ss) : c.apply ps = c.setAll ss := by
  have hread := Property.mapM_parse_eq_ok_iff.mpr h
  unfold apply
  split
  · next ss' hss' => rw [Except.ok.inj (hread.symm.trans hss')]
  · next e he => cases hread.symm.trans he

theorem apply_of_refused {before after : List Property} {p : Property}
    (hbefore : ∀ q ∈ before, ∃ s, Sets q s) (hp : Refused p e) :
    c.apply (before ++ p :: after) = .error e := by
  have hread := Property.mapM_parse_eq_error_iff.mpr ⟨before, p, after, rfl, hbefore, hp⟩
  unfold apply
  split
  · next ss hss => cases hread.symm.trans hss
  · next e' he => rw [Except.error.inj (hread.symm.trans he)]

/-- Either all properties set something, or there is a first one that is refused. -/
theorem settings_or_refused (ps : List Property) : (∃ ss, List.Forall₂ Sets ps ss) ∨
    ∃ before p after e, ps = before ++ p :: after ∧ (∀ q ∈ before, ∃ s, Sets q s) ∧
      Refused p e := by
  cases h : ps.mapM fun p => Setting.parse p.1 p.2 with
  | ok ss => exact .inl ⟨ss, Property.mapM_parse_eq_ok_iff.mp h⟩
  | error e =>
      obtain ⟨before, p, after, hps, hbefore, hp⟩ := Property.mapM_parse_eq_error_iff.mp h
      exact .inr ⟨before, p, after, e, hps, hbefore, hp⟩

theorem apply_eq_ok_iff :
    c.apply ps = .ok c' ↔ ∃ ss, List.Forall₂ Sets ps ss ∧ c.Settles ss c' := by
  constructor
  · intro h
    rcases settings_or_refused ps with ⟨ss, hss⟩ | ⟨before, p, after, e, rfl, hbefore, hp⟩
    · rw [apply_of_settings hss, setAll_eq_ok_iff] at h
      exact ⟨ss, hss, h⟩
    · rw [apply_of_refused hbefore hp] at h
      cases h
  · rintro ⟨ss, hss, hsettles⟩
    rw [apply_of_settings hss, setAll_eq_ok_iff]
    exact hsettles

theorem apply_eq_error_iff : c.apply ps = .error e ↔
    (∃ before p after, ps = before ++ p :: after ∧ (∀ q ∈ before, ∃ s, Sets q s) ∧ Refused p e) ∨
    ∃ ss ks e', List.Forall₂ Sets ps ss ∧ (∃ s ∈ ss, s.isKeyword = true) ∧ c.Final ss ks ∧
      ks.validate = .error e' ∧ e = .keyword e' := by
  constructor
  · intro h
    rcases settings_or_refused ps with ⟨ss, hss⟩ | ⟨before, p, after, e', rfl, hbefore, hp⟩
    · rw [apply_of_settings hss, setAll_eq_error_iff] at h
      obtain ⟨hkeyword, ks, e', hfinal, hvalid, he⟩ := h
      exact .inr ⟨ss, ks, e', hss, hkeyword, hfinal, hvalid, he⟩
    · rw [apply_of_refused hbefore hp] at h
      obtain rfl := Except.error.inj h
      exact .inl ⟨before, p, after, rfl, hbefore, hp⟩
  · rintro (⟨before, p, after, rfl, hbefore, hp⟩ | ⟨ss, ks, e', hss, hkeyword, hfinal, hvalid, he⟩)
    · exact apply_of_refused hbefore hp
    · rw [apply_of_settings hss, setAll_eq_error_iff]
      exact ⟨hkeyword, ks, e', hfinal, hvalid, he⟩

/-- No table but the last one has to be valid. -/
theorem exists_apply_of_final {ks : Keywords} (hss : List.Forall₂ Sets ps ss)
    (hfinal : c.Final ss ks) (hvalid : ks.validate = .ok ()) :
    ∃ c', c.apply ps = .ok c' ∧ c'.keywords = ks := by
  rcases setAll_cases c ss with ⟨c', hsettles, hset⟩ | ⟨ks', e, -, hfinal', hinvalid, -⟩
  · exact ⟨c', (apply_of_settings hss).trans hset, hsettles.final.unique hfinal⟩
  · rw [hfinal'.unique hfinal, hvalid] at hinvalid
    cases hinvalid

/-- Properties for different places can be given in any order. -/
theorem apply_of_reordered (h : c.apply ps = .ok c') (hqs : Reordered ps qs) :
    c.apply qs = .ok c' := by
  obtain ⟨ss, hss, hsettles⟩ := apply_eq_ok_iff.mp h
  have hsets : ∀ q ∈ qs, ∃ s, Sets q s := fun q hq =>
    Property.exists_of_settings hss q (hqs.perm.mem_iff.mpr hq)
  obtain ⟨ss', hss'⟩ := Property.exists_settings hsets
  exact apply_eq_ok_iff.mpr ⟨ss', hss', hsettles.congr (hqs.last?_eq hss hss')⟩

/-- Properties can be given in two portions. -/
theorem apply_append (h : c.apply ps = .ok c₁) (h' : c₁.apply qs = .ok c₂) :
    c.apply (ps ++ qs) = .ok c₂ := by
  obtain ⟨ss, hss, hsettles⟩ := apply_eq_ok_iff.mp h
  obtain ⟨ss', hss', hsettles'⟩ := apply_eq_ok_iff.mp h'
  exact apply_eq_ok_iff.mpr ⟨ss ++ ss', List.rel_append hss hss', hsettles.append hsettles'⟩

end Configuration

/-! ## Keywords that change places -/

/-- The table in which two keywords have each other's literal. -/
def Keywords.exchange (ks : Keywords) (j k : Keyword) : Keywords :=
  (ks.set j (ks.literal k)).set k (ks.literal j)

theorem Keywords.literal_exchange (ks : Keywords) (i j k : Keyword) :
    (ks.exchange j k).literal i = ks.literal (Equiv.swap j k i) := by
  by_cases hk : i = k
  · subst hk
    rw [Equiv.swap_apply_right]
    simp [exchange, set]
  · by_cases hj : i = j
    · subst hj
      rw [Equiv.swap_apply_left]
      simp [exchange, set, hk]
    · rw [Equiv.swap_apply_of_ne_of_ne hj hk]
      simp [exchange, set, hj, hk]

/-- A marker may change places with a marker, and a label or separator with another one. -/
theorem Keywords.validate_exchange {ks : Keywords} {j k : Keyword} (h : ks.validate = .ok ())
    (hjk : j ∈ Keyword.labels ↔ k ∈ Keyword.labels) : (ks.exchange j k).validate = .ok () := by
  have hvalid := validate_eq_ok_iff.mp h
  have hmarker {i : Keyword} (hi : i ∉ Keyword.labels) : Equiv.swap j k i ∉ Keyword.labels := by
    rw [Equiv.swap_apply_def]
    split
    · next hij => exact fun hk => hi (hij ▸ hjk.mpr hk)
    · split
      · next hik => exact fun hj => hi (hik ▸ hjk.mp hj)
      · exact hi
  refine validate_eq_ok_iff.mpr ⟨fun i => ?_, fun i hi i' hi' heq => ?_⟩
  · rw [literal_exchange]
    exact hvalid.ne_blank _
  · rw [literal_exchange, literal_exchange] at heq
    exact (Equiv.swap j k).injective (hvalid.distinct _ (hmarker hi) _ (hmarker hi') heq)

namespace Configuration

open Property (Sets Refused Reordered)

variable {κ : Type}

/-- The property that sets a keyword. -/
def keywordProperty (k : Keyword) (literal : Text) : Property :=
  ("keyword.".toList ++ k.name.toList, literal)

theorem sets_keywordProperty (k : Keyword) (literal : Text) :
    Sets (keywordProperty k literal) (.keyword k literal) := by
  have htrim : ∀ k ∈ Keyword.all, Text.trim k.name.toList = k.name.toList := by decide
  exact .keyword (htrim k (Keyword.mem_all k))

/-- Two keywords change places at once, though the table between has one literal twice. -/
theorem apply_exchange {c : Configuration κ} {j k : Keyword}
    (h : (c.keywords.exchange j k).validate = .ok ()) :
    c.apply [keywordProperty j (c.keywords.literal k), keywordProperty k (c.keywords.literal j)] =
      .ok (c.withKeywords (c.keywords.exchange j k)) := by
  have hsets := List.Forall₂.cons (sets_keywordProperty j (c.keywords.literal k))
    (.cons (sets_keywordProperty k (c.keywords.literal j)) .nil)
  rw [apply_of_settings hsets, setAll_eq_ok_iff]
  exact settles_withKeywords (final_foldl c _) h ⟨_, List.mem_cons_self, rfl⟩

/-- **The last property for each place wins.** Properties are refused just for the first one that
sets nothing or, if there is a keyword among them, for the final table of keywords; otherwise every
place holds what the last property for it sets, or what it held before. So no table of keywords but
the last one has to be valid, in particular two keywords can change places; properties for different
places can stand in any order, and in two portions they lead to the same configuration. -/
theorem apply_settles (c : Configuration κ) :
    (∀ ps e, c.apply ps = .error e ↔
      (∃ before p after, ps = before ++ p :: after ∧ (∀ q ∈ before, ∃ s, Sets q s) ∧
        Refused p e) ∨
      ∃ ss ks e', List.Forall₂ Sets ps ss ∧ (∃ s ∈ ss, s.isKeyword = true) ∧ c.Final ss ks ∧
        ks.validate = .error e' ∧ e = .keyword e') ∧
    (∀ ps c', c.apply ps = .ok c' ↔ ∃ ss, List.Forall₂ Sets ps ss ∧ c.Settles ss c') ∧
    (∀ ps qs c', c.apply ps = .ok c' → Reordered ps qs → c.apply qs = .ok c') ∧
    (∀ ps ss ks, List.Forall₂ Sets ps ss → c.Final ss ks → ks.validate = .ok () →
      ∃ c', c.apply ps = .ok c' ∧ c'.keywords = ks) ∧
    (∀ j k, (c.keywords.exchange j k).validate = .ok () →
      c.apply [keywordProperty j (c.keywords.literal k),
        keywordProperty k (c.keywords.literal j)] =
          .ok (c.withKeywords (c.keywords.exchange j k))) ∧
    (∀ j k, c.keywords.validate = .ok () → (j ∈ Keyword.labels ↔ k ∈ Keyword.labels) →
      (c.keywords.exchange j k).validate = .ok ()) ∧
    ∀ xs ys c₁ c₂, c.apply xs = .ok c₁ → c₁.apply ys = .ok c₂ → c.apply (xs ++ ys) = .ok c₂ :=
  ⟨fun _ _ => apply_eq_error_iff, fun _ _ => apply_eq_ok_iff, fun _ _ _ => apply_of_reordered,
    fun _ _ _ => exists_apply_of_final, fun _ _ => apply_exchange,
    fun _ _ => Keywords.validate_exchange, fun _ _ _ _ => apply_append⟩

/-- `Given` and `When` change places, with a flag after or between them, which is not possible one
after the other. -/
theorem apply_settles_given_when :
    let c : Configuration Empty := {}
    let given := keywordProperty (.step .given) "When".toList
    let action := keywordProperty (.step .action) "Given".toList
    let batch : Property := ("mode.batch".toList, " yes ".toList)
    (∃ c', c.apply [given, action, batch] = .ok c' ∧ c.apply [given, batch, action] = .ok c' ∧
      c'.keywords = c.keywords.exchange (.step .given) (.step .action) ∧
      c'.held .batch = .batch true ∧ c'.held .skip = .skip false) ∧
    c.apply [given, batch] =
      .error (.keyword (.ambiguous (.step .given) (.step .action) "When".toList)) := by
  intro c given action batch
  obtain ⟨herror, -, hreorder, hfinal, hexchange, hvalid, happend⟩ := apply_settles c
  have hgiven : Sets given (.keyword (.step .given) "When".toList) := sets_keywordProperty _ _
  have haction : Sets action (.keyword (.step .action) "Given".toList) := sets_keywordProperty _ _
  have hbatch : Sets batch (.batch true) := .batch (by decide)
  have hexchanged : (c.keywords.exchange (.step .given) (.step .action)).validate = .ok () :=
    hvalid _ _ rfl (by decide)
  have hall := happend [given, action] [batch] _ _ (hexchange _ _ hexchanged) rfl
  have hbetween := hreorder _ [given, batch, action] _ hall (Reordered.swap (by decide) [given] [])
  obtain ⟨c', hc', hkeywords⟩ := hfinal [given, action, batch] _ _
    (.cons hgiven (.cons haction (.cons hbatch .nil))) (final_foldl c _) hexchanged
  obtain rfl := Except.ok.inj (hall.symm.trans hc')
  refine ⟨⟨_, hall, hbetween, hkeywords, rfl, rfl⟩, (herror _ _).mpr (.inr ?_)⟩
  exact ⟨_, _, _, .cons hgiven (.cons hbatch .nil), ⟨_, List.mem_cons_self, rfl⟩, final_foldl c _,
    rfl, rfl⟩

end Configuration

end Storyline
