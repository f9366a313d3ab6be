import Mathlib.Data.List.Forall2
import Storyline.Configuration
import Storyline.Proofs.Text

/-!
# What a property sets

A property is a key with a value. `Property.Sets` says key by key what a property sets, and
`Property.Refused` for which reasons it is refused. Every property either sets one thing or is
refused for one reason, and the reader of properties finds out which (`Property.parse_eq_ok_iff`,
`Property.parse_eq_error_iff`).
-/

set_option autoImplicit false

namespace Storyline

/-! ## Words -/

/-- If at most one element of a list passes, the search finds it. -/
theorem find?_eq_some_iff_of_unique {α : Type} {l : List α} {p : α → Bool} {a : α}
    (hunique : ∀ a b, p a = true → p b = true → a = b) :
    l.find? p = some a ↔ a ∈ l ∧ p a = true := by
  constructor
  · intro h
    exact ⟨List.mem_of_find?_eq_some h, List.find?_some h⟩
  · rintro ⟨ha, hp⟩
    cases hfind : l.find? p with
    | none => exact absurd hp (List.find?_eq_none.mp hfind a ha)
    | some b => rw [hunique b a (List.find?_some hfind) hp]

/-- No two keywords have one name. -/
theorem Keyword.find?_name {t : Text} {k : Keyword} :
    all.find? (fun k => k.name.toList == t) = some k ↔ t = k.name.toList := by
  have hnames : ∀ j ∈ all, ∀ k ∈ all, j.name.toList = k.name.toList → j = k := by decide
  rw [find?_eq_some_iff_of_unique]
  · rw [beq_iff_eq, and_iff_right (mem_all k), eq_comm]
  · intro j k hj hk
    rw [beq_iff_eq] at hj hk
    exact hnames j (mem_all j) k (mem_all k) (hj.trans hk.symm)

theorem Keyword.parse_of_name {t : Text} {k : Keyword} (h : Text.trim t = k.name.toList) :
    Keyword.parse t = .ok k := by
  simp only [parse]
  rw [find?_name.mpr h]

theorem Keyword.parse_of_no_name {t : Text} (h : ∀ k : Keyword, Text.trim t ≠ k.name.toList) :
    Keyword.parse t = .error (.unknownName (Text.trim t)) := by
  have hnone : all.find? (fun k => k.name.toList == Text.trim t) = none :=
    Option.eq_none_iff_forall_ne_some.mpr fun k hk => h k (find?_name.mp hk)
  simp only [parse]
  rw [hnone]

/-- A key with a value. -/
abbrev Property := Text × Text

namespace Property

/-- The value names the strategy, in letters of any case and with blanks around it. -/
def NamesStrategy (v : Text) (s : ErrorStrategy) : Prop :=
  Text.sameLetters (Text.trim v) s.name.toList = true

/-- The value is a word for the state of a flag, with blanks around it. -/
def TellsFlag (v : Text) (on : Bool) : Prop :=
  (Text.trim v).toString ∈ if on then Setting.trueWords else Setting.falseWords

instance (v : Text) (s : ErrorStrategy) : Decidable (NamesStrategy v s) :=
  inferInstanceAs (Decidable (_ = true))

instance (v : Text) (on : Bool) : Decidable (TellsFlag v on) := inferInstanceAs (Decidable (_ ∈ _))

/-- No two strategies have one name, up to case. -/
theorem find?_strategy {v : Text} {s : ErrorStrategy} :
    ErrorStrategy.all.find? (fun s => Text.sameLetters (Text.trim v) s.name.toList) = some s ↔
      NamesStrategy v s := by
  have hnames : ∀ s s' : ErrorStrategy,
      Text.lower s.name.toList = Text.lower s'.name.toList → s = s' := by
    intro s s' h
    cases s <;> cases s' <;> first | rfl | exact absurd h (by decide)
  have hmem : s ∈ ErrorStrategy.all := by cases s <;> decide
  rw [find?_eq_some_iff_of_unique]
  · exact and_iff_right hmem
  · intro s s' h h'
    rw [Text.sameLetters, beq_iff_eq] at h h'
    exact hnames s s' (h.symm.trans h')

theorem NamesStrategy.parse {v : Text} {s : ErrorStrategy} (h : NamesStrategy v s) :
    ErrorStrategy.parse v = .ok s := by
  simp only [ErrorStrategy.parse]
  rw [find?_strategy.mpr h]

theorem parse_of_no_strategy {v : Text} (h : ∀ s, ¬ NamesStrategy v s) :
    ErrorStrategy.parse v = .error ⟨Text.trim v⟩ := by
  have hnone : ErrorStrategy.all.find?
      (fun s => Text.sameLetters (Text.trim v) s.name.toList) = none :=
    Option.eq_none_iff_forall_ne_some.mpr fun s hs => h s (find?_strategy.mp hs)
  simp only [ErrorStrategy.parse]
  rw [hnone]

/-- No word is one for both states. -/
theorem flag?_eq_some_iff {v : Text} {on : Bool} :
    Setting.flag? v = some on ↔ TellsFlag v on := by
  have hdisjoint : ∀ w ∈ Setting.falseWords, w ∉ Setting.trueWords := by decide
  unfold Setting.flag? TellsFlag
  simp only [List.contains_iff_mem]
  by_cases htrue : (Text.trim v).toString ∈ Setting.trueWords
  · have hfalse : (Text.trim v).toString ∉ Setting.falseWords := fun h => hdisjoint _ h htrue
    cases on <;> simp [htrue, hfalse]
  · by_cases hfalse : (Text.trim v).toString ∈ Setting.falseWords
    · cases on <;> simp [htrue, hfalse]
    · cases on <;> simp [htrue, hfalse]

/-! ## Keys -/

/-- The keys of the separators of tables. -/
def separatorKeys : List Text :=
  ["table.header_separator".toList, "table.value_separator".toList]

/-- The keys of the strategies. -/
def strategyKeys : List Text := ["strategy.pending".toList, "strategy.error".toList]

/-- The keys of the flags of the mode. -/
def flagKeys : List Text := ["mode.batch".toList, "mode.skip".toList, "mode.ignore_failure".toList]

/-- What a property sets. The name of a keyword may have blanks around it; its literal is the value
as it stands. -/
inductive Sets : Property → Setting → Prop
  | keyword {name literal : Text} {k : Keyword} (h : Text.trim name = k.name.toList) :
    Sets ("keyword.".toList ++ name, literal) (.keyword k literal)
  | header (literal : Text) :
    Sets ("table.header_separator".toList, literal) (.keyword .headerSeparator literal)
  | value (literal : Text) :
    Sets ("table.value_separator".toList, literal) (.keyword .valueSeparator literal)
  | pending {v : Text} {s : ErrorStrategy} (h : NamesStrategy v s) :
    Sets ("strategy.pending".toList, v) (.pending s)
  | failure {v : Text} {s : ErrorStrategy} (h : NamesStrategy v s) :
    Sets ("strategy.error".toList, v) (.failure s)
  | batch {v : Text} {on : Bool} (h : TellsFlag v on) : Sets ("mode.batch".toList, v) (.batch on)
  | skip {v : Text} {on : Bool} (h : TellsFlag v on) : Sets ("mode.skip".toList, v) (.skip on)
  | ignoreFailure {v : Text} {on : Bool} (h : TellsFlag v on) :
    Sets ("mode.ignore_failure".toList, v) (.ignoreFailure on)

/-- Why a property is refused. -/
inductive Refused : Property → ConfigurationError → Prop
  | unknownKey {key v : Text} (hseparator : key ∉ separatorKeys) (hstrategy : key ∉ strategyKeys)
    (hflag : key ∉ flagKeys) (hkeyword : ¬ "keyword.".toList <+: key) :
    Refused (key, v) (.unknownKey key)
  | unknownName {name v : Text} (h : ∀ k : Keyword, Text.trim name ≠ k.name.toList) :
    Refused ("keyword.".toList ++ name, v) (.keyword (.unknownName (Text.trim name)))
  | strategy {key v : Text} (hkey : key ∈ strategyKeys) (h : ∀ s, ¬ NamesStrategy v s) :
    Refused (key, v) (.invalidStrategy key ⟨Text.trim v⟩)
  | flag {key v : Text} (hkey : key ∈ flagKeys) (h : ∀ on, ¬ TellsFlag v on) :
    Refused (key, v) (.invalidFlag key v)

/-! ## The reader of properties -/

variable {p : Property} {s : Setting} {e : ConfigurationError} {key name v : Text}

/-- All other keys have to name a keyword. -/
theorem parse_of_not_mem (hseparator : key ∉ separatorKeys) (hstrategy : key ∉ strategyKeys)
    (hflag : key ∉ flagKeys) (v : Text) :
    (Text.after? "keyword.".toList key = none → Setting.parse key v = .error (.unknownKey key)) ∧
    ∀ name, Text.after? "keyword.".toList key = some name → Setting.parse key v =
      ((Keyword.parse name).mapError .keyword).map (.keyword · v) := by
  have hne {s : String} (h : key.toString = s) : key = s.toList := by
    rw [← h, Text.toString, String.toList_ofList]
  unfold Setting.parse
  split
  -- the keys above are ruled out, so only the last case is left
  case h_8 =>
    constructor
    · intro hnone
      rw [hnone]
    · intro name hname
      rw [hname]
      dsimp only
      cases Keyword.parse name <;> rfl
  all_goals
    next hkey =>
      obtain rfl := hne hkey
      first
      | exact absurd (by decide) hseparator
      | exact absurd (by decide) hstrategy
      | exact absurd (by decide) hflag

theorem parse_keyword (name v : Text) : Setting.parse ("keyword.".toList ++ name) v =
    ((Keyword.parse name).mapError .keyword).map (.keyword · v) := by
  have hne {keys : List Text} (hkeys : ∀ key ∈ keys, key.head? ≠ some 'k') :
      "keyword.".toList ++ name ∉ keys := fun hmem => hkeys _ hmem rfl
  exact (parse_of_not_mem (hne (by decide)) (hne (by decide)) (hne (by decide)) v).2 name
    (Text.after?_eq_some_iff.mpr rfl)

theorem strategy_of_names {make : ErrorStrategy → Setting} {s : ErrorStrategy}
    (h : NamesStrategy v s) : Setting.strategy make key v = .ok (make s) := by
  rw [Setting.strategy, h.parse]

theorem flag_of_tells {make : Bool → Setting} {on : Bool} (h : TellsFlag v on) :
    Setting.flag make key v = .ok (make on) := by
  rw [Setting.flag, flag?_eq_some_iff.mpr h]

theorem Sets.parse (h : p.Sets s) : Setting.parse p.1 p.2 = .ok s := by
  cases h with
  | keyword h => rw [parse_keyword, Keyword.parse_of_name h]; rfl
  | header literal => rfl
  | value literal => rfl
  | pending h => exact strategy_of_names h
  | failure h => exact strategy_of_names h
  | batch h => exact flag_of_tells h
  | skip h => exact flag_of_tells h
  | ignoreFailure h => exact flag_of_tells h

theorem Refused.parse (h : p.Refused e) : Setting.parse p.1 p.2 = .error e := by
  cases h with
  | unknownKey hseparator hstrategy hflag hkeyword =>
      refine (parse_of_not_mem hseparator hstrategy hflag _).1 ?_
      rw [Option.eq_none_iff_forall_ne_some]
      rintro name hname
      exact hkeyword ⟨name, (Text.after?_eq_some_iff.mp hname).symm⟩
  | unknownName h => rw [parse_keyword, Keyword.parse_of_no_name h]; rfl
  | @strategy key v hkey h =>
      have hstrategy (make : ErrorStrategy → Setting) :
          Setting.strategy make key v = .error (.invalidStrategy key ⟨Text.trim v⟩) := by
        rw [Setting.strategy, parse_of_no_strategy h]
      simp only [strategyKeys, List.mem_cons, List.not_mem_nil, or_false] at hkey
      rcases hkey with rfl | rfl
      · exact hstrategy .pending
      · exact hstrategy .failure
  | @flag key v hkey h =>
      have hflag (make : Bool → Setting) :
          Setting.flag make key v = .error (.invalidFlag key v) := by
        have hnone : Setting.flag? v = none :=
          Option.eq_none_iff_forall_ne_some.mpr fun on hon => h on (flag?_eq_some_iff.mp hon)
        rw [Setting.flag, hnone]
      simp only [flagKeys, List.mem_cons, List.not_mem_nil, or_false] at hkey
      rcases hkey with rfl | rfl | rfl
      · exact hflag .batch
      · exact hflag .skip
      · exact hflag .ignoreFailure

/-- **Every property sets something or is refused.** -/
theorem sets_or_refused (p : Property) : (∃ s, p.Sets s) ∨ ∃ e, p.Refused e := by
  obtain ⟨key, v⟩ := p
  by_cases hseparator : key ∈ separatorKeys
  · simp only [separatorKeys, List.mem_cons, List.not_mem_nil, or_false] at hseparator
    rcases hseparator with rfl | rfl
    · exact .inl ⟨_, .header v⟩
    · exact .inl ⟨_, .value v⟩
  by_cases hstrategy : key ∈ strategyKeys
  · by_cases hnames : ∃ s, NamesStrategy v s
    · obtain ⟨s, hs⟩ := hnames
      simp only [strategyKeys, List.mem_cons, List.not_mem_nil, or_false] at hstrategy
      rcases hstrategy with rfl | rfl
      · exact .inl ⟨_, .pending hs⟩
      · exact .inl ⟨_, .failure hs⟩
    · exact .inr ⟨_, .strategy hstrategy (not_exists.mp hnames)⟩
  by_cases hflag : key ∈ flagKeys
  · by_cases htells : ∃ on, TellsFlag v on
    · obtain ⟨on, hon⟩ := htells
      simp only [flagKeys, List.mem_cons, List.not_mem_nil, or_false] at hflag
      rcases hflag with rfl | rfl | rfl
      · exact .inl ⟨_, .batch hon⟩
      · exact .inl ⟨_, .skip hon⟩
      · exact .inl ⟨_, .ignoreFailure hon⟩
    · exact .inr ⟨_, .flag hflag (not_exists.mp htells)⟩
  by_cases hkeyword : "keyword.".toList <+: key
  · obtain ⟨name, rfl⟩ := hkeyword
    by_cases hname : ∃ k : Keyword, Text.trim name = k.name.toList
    · obtain ⟨k, hk⟩ := hname
      exact .inl ⟨_, .keyword hk⟩
    · exact .inr ⟨_, .unknownName (not_exists.mp hname)⟩
  · exact .inr ⟨_, .unknownKey hseparator hstrategy hflag hkeyword⟩

theorem parse_eq_ok_iff : Setting.parse p.1 p.2 = .ok s ↔ p.Sets s := by
  constructor
  · intro h
    rcases p.sets_or_refused with ⟨s', hs⟩ | ⟨e, he⟩
    · obtain rfl : s = s' := Except.ok.inj (h.symm.trans hs.parse)
      exact hs
    · rw [he.parse] at h
      cases h
  · exact Sets.parse

theorem parse_eq_error_iff : Setting.parse p.1 p.2 = .error e ↔ p.Refused e := by
  constructor
  · intro h
    rcases p.sets_or_refused with ⟨s, hs⟩ | ⟨e', he⟩
    · rw [hs.parse] at h
      cases h
    · obtain rfl : e = e' := Except.error.inj (h.symm.trans he.parse)
      exact he
  · exact Refused.parse

/-! ## Lists of properties -/

/-- A list of properties is read if all of them are. -/
theorem mapM_parse_eq_ok_iff {ps : List Property} {ss : List Setting} :
    ps.mapM (fun p => Setting.parse p.1 p.2) = .ok ss ↔ List.Forall₂ Sets ps ss := by
  induction ps generalizing ss with
  | nil =>
      rw [List.forall₂_nil_left_iff]
      constructor
      · intro h
        exact (Except.ok.inj h).symm
      · rintro rfl
        rfl
  | cons p ps ih =>
      rw [List.mapM_cons, List.forall₂_cons_left_iff]
      constructor
      · intro h
        cases hs : Setting.parse p.1 p.2 with
        | error e =>
            rw [hs] at h
            cases h
        | ok s =>
            cases hss : ps.mapM fun p => Setting.parse p.1 p.2 with
            | error e =>
                rw [hs, hss] at h
                cases h
            | ok ss' =>
                rw [hs, hss] at h
                cases h
                exact ⟨s, ss', parse_eq_ok_iff.mp hs, ih.mp hss, rfl⟩
      · rintro ⟨s, ss', hs, hss, rfl⟩
        rw [hs.parse, ih.mpr hss]
        rfl

/-- The first property that is refused decides. -/
theorem mapM_parse_eq_error_iff {ps : List Property} :
    ps.mapM (fun p => Setting.parse p.1 p.2) = .error e ↔ ∃ before p after,
      ps = before ++ p :: after ∧ (∀ q ∈ before, ∃ s, Sets q s) ∧ Refused p e := by
  constructor
  · intro h
    induction ps with
    | nil => cases h
    | cons p ps ih =>
        rw [List.mapM_cons] at h
        cases hs : Setting.parse p.1 p.2 with
        | error e' =>
            rw [hs] at h
            cases h
            exact ⟨[], p, ps, rfl, by simp, parse_eq_error_iff.mp hs⟩
        | ok s =>
            cases hss : ps.mapM fun p => Setting.parse p.1 p.2 with
            | ok ss =>
                rw [hs, hss] at h
                cases h
            | error e' =>
                rw [hs, hss] at h
                cases h
                obtain ⟨before, q, after, rfl, hbefore, hq⟩ := ih hss
                refine ⟨p :: before, q, after, rfl, ?_, hq⟩
                exact List.forall_mem_cons.mpr ⟨⟨s, parse_eq_ok_iff.mp hs⟩, hbefore⟩
  · rintro ⟨before, p, after, rfl, hbefore, hp⟩
    induction before with
    | nil =>
        rw [List.nil_append, List.mapM_cons, hp.parse]
        rfl
    | cons q before ih =>
        obtain ⟨⟨s, hs⟩, hrest⟩ := List.forall_mem_cons.mp hbefore
        rw [List.cons_append, List.mapM_cons, hs.parse, ih hrest]
        rfl

end Property

end Storyline
