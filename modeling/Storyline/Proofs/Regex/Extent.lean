import Storyline.Proofs.Regex.Counter
import Storyline.Proofs.Regex.Piece

/-!
# How far the pieces of an expression extend

Where blanks count, the text that the reader takes in one step has a shape that shows where it
ends: braces and what stands in them, or characters that do not matter to the counter of literals.
-/

set_option autoImplicit false

namespace Storyline.Regex

open Counts (Special)

/-! ## Texts that the reader takes -/

theorem braced_eq {f : Flags} (hf : f.extended = false) {t ds t' : Text}
    (h : f.braced false t = some (ds, t')) : t = ds ++ '\x7D' :: t' ∧ '\x7D' ∉ ds := by
  induction t generalizing ds with
  | nil => cases h
  | cons c t ih =>
      simp only [Flags.braced, hf, Bool.false_and, Bool.false_eq_true, if_false] at h
      split at h
      · next hc =>
          cases h
          exact ⟨by rw [hc]; rfl, List.not_mem_nil⟩
      · next hc =>
          obtain ⟨⟨ds', w⟩, hrest, heq⟩ := Option.map_eq_some_iff.mp h
          cases heq
          obtain ⟨rfl, hmem⟩ := ih hrest
          refine ⟨rfl, fun h => ?_⟩
          rcases List.mem_cons.mp h with h | h
          · exact hc h.symm
          · exact hmem h

theorem not_special_of_hexValue? {c : Char} {n : Nat} (h : hexValue? c = some n) : ¬ Special c := by
  intro hc
  simp only [Special, List.mem_cons, List.not_mem_nil, or_false] at hc
  rcases hc with rfl | rfl | rfl | rfl | rfl <;> cases h

theorem not_special_of_hexNumber? {ds : Text} {n : Nat} (h : hexNumber? ds = some n) :
    ∀ c ∈ ds, ¬ Special c := by
  unfold hexNumber? at h
  generalize 0 = m at h
  induction ds generalizing m with
  | nil => exact nofun
  | cons c ds ih =>
      rw [List.foldlM_cons] at h
      obtain ⟨k, hk, hrest⟩ := Option.bind_eq_some_iff.mp h
      obtain ⟨v, hv, -⟩ := Option.map_eq_some_iff.mp hk
      exact List.forall_mem_cons.mpr ⟨not_special_of_hexValue? hv, ih k hrest⟩

theorem fixedHex_eq {f : Flags} (hf : f.extended = false) {k : Nat} {t ds t' : Text}
    (h : fixedHex f k t = some (ds, t')) : t = ds ++ t' := by
  induction k generalizing t ds with
  | zero =>
      cases h
      rfl
  | succ k ih =>
      rw [fixedHex, Flags.skip_of_not_extended hf] at h
      cases t with
      | nil => cases h
      | cons c t =>
          obtain ⟨⟨ds', w⟩, hrest, heq⟩ := Option.map_eq_some_iff.mp h
          cases heq
          rw [ih hrest]
          rfl

/-- What an escape takes after its first character: braces and what stands in them, or characters
that do not matter to the counter. -/
def EscapeTail (u : Text) : Prop :=
  (∃ ds, u = '\x7B' :: (ds ++ ['\x7D']) ∧ '\x7D' ∉ ds) ∨ ∀ c ∈ u, ¬ Special c

theorem escapeTail_of_braced {f : Flags} (hf : f.extended = false) {t ds t' : Text}
    (h : f.braced false t = some (ds, t')) :
    ∃ u, '\x7B' :: t = u ++ t' ∧ EscapeTail u := by
  obtain ⟨rfl, hds⟩ := braced_eq hf h
  exact ⟨'\x7B' :: (ds ++ ['\x7D']), by simp, .inl ⟨ds, rfl, hds⟩⟩

theorem escapeTail_of_hexChar {f : Flags} (hf : f.extended = false) {width : Nat} {t t' : Text}
    {a : Atom} (h : hexChar f width t = some (a, t')) : ∃ u, t = u ++ t' ∧ EscapeTail u := by
  unfold hexChar at h
  rw [Flags.skip_of_not_extended hf] at h
  split at h
  · next t =>
      obtain ⟨⟨ds, rest⟩, hbraced, h⟩ := Option.bind_eq_some_iff.mp h
      obtain rfl : rest = t' := by
        simp only [Option.bind_eq_bind] at h
        split at h
        · cases h
        · simp only [Option.bind_eq_some_iff] at h
          obtain ⟨n, -, c, -, heq⟩ := h
          cases heq
          rfl
      exact escapeTail_of_braced hf hbraced
  · obtain ⟨⟨ds, rest⟩, hfixed, h⟩ := Option.bind_eq_some_iff.mp h
    obtain ⟨n, hn, h⟩ := Option.bind_eq_some_iff.mp h
    obtain rfl : rest = t' := by
      simp only [Option.bind_eq_bind] at h
      split at h
      · cases h
      · simp only [Option.bind_eq_some_iff] at h
        obtain ⟨c, -, heq⟩ := h
        cases heq
        rfl
    exact ⟨ds, fixedHex_eq hf hfixed, .inr (not_special_of_hexNumber? hn)⟩

theorem escapeTail_of_propertyClass [ClassNames] {f : Flags} (hf : f.extended = false)
    {negated : Bool} {t t' : Text} {a : Atom} (h : propertyClass f negated t = some (a, t')) :
    ∃ u, t = u ++ t' ∧ EscapeTail u := by
  unfold propertyClass at h
  rw [Flags.skip_of_not_extended hf] at h
  split at h
  · cases h
  · cases h
  · next t =>
      obtain ⟨⟨ds, rest⟩, hbraced, h⟩ := Option.bind_eq_some_iff.mp h
      obtain rfl : rest = t' := by
        simp only [Option.bind_eq_bind, Option.bind_eq_some_iff] at h
        obtain ⟨p, -, s, -, heq⟩ := h
        cases heq
        rfl
      exact escapeTail_of_braced hf hbraced
  · next c t hbackslash hbrace =>
      simp only [Option.bind_eq_bind, Option.bind_eq_some_iff] at h
      obtain ⟨p, hp, s, -, heq⟩ := h
      cases heq
      refine ⟨[c], rfl, .inr ?_⟩
      rintro b hb hspecial
      obtain rfl := List.mem_singleton.mp hb
      -- no character with a special meaning is a letter
      have halpha := ClassNames.isAlpha_of_letter? hp
      simp only [Special, List.mem_cons, List.not_mem_nil, or_false] at hspecial
      rcases hspecial with rfl | rfl | rfl | rfl | rfl <;> exact absurd halpha (by decide)

theorem escapeTail_of_wordBoundary {f : Flags} (hf : f.extended = false) {t t' : Text} {a : Atom}
    (h : wordBoundary f t = some (a, t')) : ∃ u, t = u ++ t' ∧ EscapeTail u := by
  by_cases ht : t.head? = some '\x7B'
  · obtain ⟨t, rfl⟩ := List.head?_eq_some_iff.mp ht
    cases t with
    | nil =>
        rw [wordBoundary_brace_of_nil (Flags.skip_of_not_extended hf [])] at h
        cases h
    | cons c t =>
        rw [wordBoundary_brace_of_cons (Flags.skip_of_not_extended hf (c :: t))] at h
        split at h
        · obtain ⟨⟨ds, rest⟩, hbraced, h⟩ := Option.bind_eq_some_iff.mp h
          obtain ⟨b, -, heq⟩ := Option.map_eq_some_iff.mp h
          cases heq
          exact escapeTail_of_braced hf hbraced
        · cases h
          exact ⟨[], rfl, .inr nofun⟩
  · rw [wordBoundary_of_head? f ht] at h
    cases h
    exact ⟨[], rfl, .inr nofun⟩

theorem eq_literal_of_simpleEscape? {f : Flags} {c : Char} {a : Atom}
    (h : simpleEscape? f c = some a) (hc : c.isAlphanum = false) (hless : c ≠ '<')
    (hgreater : c ≠ '>') : a = .literal c := by
  -- all characters with a meaning of their own are letters, but the angle brackets
  have hletter {t : Text} (ht : t.all Char.isAlphanum = true) : c ∉ t := fun hmem => by
    rw [List.all_eq_true.mp ht c hmem] at hc
    cases hc
  have hclass : "dswDSW".toList.contains c = false := by
    rw [← Bool.not_eq_true, List.contains_iff_mem]
    exact hletter (by decide)
  have hcontrol : control? c = none := by
    have hnot := hletter (t := "aftnrv".toList) (by decide)
    unfold control?
    split <;> first | exact absurd (by decide) hnot | rfl
  have hassertion : assertion? f c = none := by
    have hnot := hletter (t := "AzB".toList) (by decide)
    unfold assertion?
    split <;> first
      | exact absurd (by decide) hnot
      | exact absurd rfl hless
      | exact absurd rfl hgreater
      | rfl
  rw [simpleEscape?, hclass, if_neg Bool.false_ne_true, hcontrol, hassertion] at h
  simp only at h
  split at h
  · exact (Option.some.inj h).symm
  · cases h

theorem escapeTail_of_readEscape [ClassNames] {f : Flags} (hf : f.extended = false) {c : Char}
    {t t' : Text} {a : Atom} (h : readEscape f (c :: t) = some (a, t')) :
    ∃ u, t = u ++ t' ∧ EscapeTail u ∧
      (c.isAlphanum = false → u = [] ∧ (c ≠ '<' → c ≠ '>' → a = .literal c)) := by
  have hletter {a' : Char} (ha : a'.isAlphanum = true) (hca : c = a')
      (htail : ∃ u, t = u ++ t' ∧ EscapeTail u) : ∃ u, t = u ++ t' ∧ EscapeTail u ∧
        (c.isAlphanum = false → u = [] ∧ (c ≠ '<' → c ≠ '>' → a = .literal c)) := by
    obtain ⟨u, ht, hu⟩ := htail
    refine ⟨u, ht, hu, fun hc => ?_⟩
    rw [hca, ha] at hc
    cases hc
  rw [readEscape_cons] at h
  split_ifs at h with hx hu hU hp hP hb
  · exact hletter (by decide) hx (escapeTail_of_hexChar hf h)
  · exact hletter (by decide) hu (escapeTail_of_hexChar hf h)
  · exact hletter (by decide) hU (escapeTail_of_hexChar hf h)
  · exact hletter (by decide) hp (escapeTail_of_propertyClass hf h)
  · exact hletter (by decide) hP (escapeTail_of_propertyClass hf h)
  · exact hletter (by decide) hb (escapeTail_of_wordBoundary hf h)
  · obtain ⟨a', ha, heq⟩ := Option.map_eq_some_iff.mp h
    cases heq
    exact ⟨[], rfl, .inr nofun, fun hc => ⟨rfl, eq_literal_of_simpleEscape? ha hc⟩⟩

theorem readFlags_eq {f f' : Flags} {seen : List Char} {colon : Bool} {t t' : Text}
    (h : readFlags f seen t = some (f', colon, t')) :
    ∃ ls, t = ls ++ (if colon then ':' else ')') :: t' ∧ ∀ c ∈ ls, ¬ Special c := by
  induction t generalizing f seen with
  | nil => cases h
  | cons c t ih =>
      simp only [readFlags] at h
      split at h
      · next hend =>
          split at h
          · cases h
          · cases h
            refine ⟨[], ?_, List.forall_mem_nil _⟩
            rcases Bool.or_eq_true_iff.mp hend with hc | hc <;> rw [of_decide_eq_true hc] <;> rfl
      · split at h
        · cases h
        · split at h
          · next hc =>
              obtain ⟨ls, rfl, hls⟩ := ih h
              refine ⟨c :: ls, rfl, List.forall_mem_cons.mpr ⟨?_, hls⟩⟩
              rw [hc]
              decide
          · split at h
            · next f'' hswitch =>
                obtain ⟨ls, rfl, hls⟩ := ih h
                refine ⟨c :: ls, rfl, List.forall_mem_cons.mpr ⟨?_, hls⟩⟩
                intro hc
                simp only [Special, List.mem_cons, List.not_mem_nil, or_false] at hc
                rcases hc with rfl | rfl | rfl | rfl | rfl <;> cases hswitch
            · cases h

namespace Reader

/-- A name of a group holds no character that matters to the counter, but a bracket perhaps. -/
theorem eq_bracket_of_isGroupName {name : Text} (h : isGroupName name = true) :
    ∀ c ∈ name, Special c → c = '[' := by
  have hname (b : Bool) : ∀ c ∈ ['\\', '(', ')', '\x7B'], isNameChar b c = false := by
    simp only [List.mem_cons, List.not_mem_nil, or_false, forall_eq_or_imp, forall_eq]
    cases b <;> decide +kernel
  have hchar {b : Bool} {c : Char} (hb : isNameChar b c = true) (hc : Special c) : c = '[' := by
    by_contra hne
    rw [hname b c (by simp_all [Special])] at hb
    cases hb
  cases name with
  | nil => exact List.forall_mem_nil _
  | cons a name =>
      obtain ⟨ha, hrest⟩ := Bool.and_eq_true_iff.mp h
      exact List.forall_mem_cons.mpr ⟨hchar ha, fun c hc => hchar (List.all_eq_true.mp hrest c hc)⟩

variable {s s' : Reader} {t t' : Text}

/-- What the start of a group takes after its bracket: the group is open then, or it was one of
flags and is closed. -/
def GroupStart (s s' : Reader) (u : Text) : Prop :=
  (s'.stack.length = s.stack.length + 1 ∧ ∀ c ∈ u, Special c → c = '[') ∨
    ∃ ls, u = ls ++ [')'] ∧ (∀ c ∈ ls, ¬ Special c) ∧ s'.stack = s.stack ∧
      s'.current.pieces.head? = some .flags

theorem GroupStart.cons {u : Text} {c : Char} (hc : ¬ Special c) (h : GroupStart s s' u) :
    GroupStart s s' (c :: u) := by
  rcases h with ⟨hstack, hu⟩ | ⟨ls, rfl, hls, hrest⟩
  · exact .inl ⟨hstack, List.forall_mem_cons.mpr ⟨fun h => absurd h hc, hu⟩⟩
  · exact .inr ⟨c :: ls, rfl, List.forall_mem_cons.mpr ⟨hc, hls⟩, hrest⟩

/-- The reader takes the start of a group. -/
def StartsGroup (s : Reader) (R : Text → Option (Reader × Text)) : Prop :=
  ∀ t s' t', R t = some (s', t') → ∃ u, t = u ++ t' ∧ GroupStart s s' u

theorem StartsGroup.none : StartsGroup s fun _ => none := nofun

theorem StartsGroup.branch {c : Char} {A B : Text → Option (Reader × Text)} (hA : StartsGroup s A)
    (hc : ¬ Special c) (hB : StartsGroup s B) : StartsGroup s (branch c A B) := by
  intro t s' t' h
  by_cases ht : t.head? = some c
  · obtain ⟨t, rfl⟩ := List.head?_eq_some_iff.mp ht
    rw [branch_cons] at h
    obtain ⟨u, rfl, hu⟩ := hA t s' t' h
    exact ⟨c :: u, rfl, hu.cons hc⟩
  · rw [branch_of_head? ht] at h
    exact hB t s' t' h

theorem startsGroup_openNamed? (s : Reader) : StartsGroup s s.openNamed? := by
  intro t s' t' h
  by_cases ht : '>' ∈ t
  · obtain ⟨name, r, rfl, hname⟩ := List.eq_append_cons_of_mem ht
    rw [openNamed?_of_mem s hname] at h
    split at h
    · next hgood =>
        cases h
        refine ⟨name ++ ['>'], by simp, .inl ⟨rfl, fun c hc hspecial => ?_⟩⟩
        rcases List.mem_append.mp hc with hc | hc
        · exact eq_bracket_of_isGroupName (Bool.and_eq_true_iff.mp hgood).1 c hc hspecial
        · obtain rfl := List.mem_singleton.mp hc
          exact absurd hspecial (by decide)
    · cases h
  · rw [openNamed?_of_not_mem s ht] at h
    cases h

theorem startsGroup_flagGroup (s : Reader) : StartsGroup s s.flagGroup := by
  intro t s' t' h
  obtain ⟨x, hflags, heq⟩ := Option.bind_eq_some_iff.mp h
  obtain ⟨⟨f, colon, w⟩, hread, rfl⟩ := Option.map_eq_some_iff.mp hflags
  cases heq
  obtain ⟨ls, rfl, hls⟩ := readFlags_eq hread
  cases colon with
  | true =>
      refine ⟨ls ++ [':'], by simp, .inl ⟨rfl, fun c hc hspecial => ?_⟩⟩
      rcases List.mem_append.mp hc with hc | hc
      · exact absurd hspecial (hls c hc)
      · obtain rfl := List.mem_singleton.mp hc
        exact absurd hspecial (by decide)
  | false => exact ⟨ls ++ [')'], by simp, .inr ⟨ls, rfl, hls, rfl, rfl⟩⟩

theorem startsGroup_specialGroup (s : Reader) : StartsGroup s s.specialGroup := by
  refine StartsGroup.none.branch (by decide) <| StartsGroup.none.branch (by decide) <|
    StartsGroup.branch ?_ (by decide) <| StartsGroup.branch ?_ (by decide) (startsGroup_flagGroup s)
  · exact StartsGroup.none.branch (by decide)
      (StartsGroup.none.branch (by decide) (startsGroup_openNamed? s))
  · exact (startsGroup_openNamed? s).branch (by decide) .none

theorem startsGroup_startGroup? (hs : s.flags.extended = false) : StartsGroup s s.startGroup? := by
  intro t s' t' h
  have hskip := Flags.skip_of_not_extended hs t
  by_cases ht : t.head? = some '?'
  · obtain ⟨t, rfl⟩ := List.head?_eq_some_iff.mp ht
    rw [startGroup?_of_question hskip] at h
    obtain ⟨u, rfl, hu⟩ := startsGroup_specialGroup s t s' t' h
    exact ⟨'?' :: u, rfl, hu.cons (by decide)⟩
  · rw [startGroup?_of_not_question (by rwa [hskip]), hskip] at h
    cases h
    exact ⟨[], rfl, .inl ⟨rfl, nofun⟩⟩

/-- A repetition changes the last piece and adds none. -/
theorem stack_of_repeat? {least : Nat} {most : Option Nat} {lazily : Bool}
    (h : s.repeat? least most lazily = some s') :
    s'.stack = s.stack ∧ ∀ r, s' ≠ s.push r := by
  unfold repeat? at h
  split at h
  · next r ps hpieces =>
      cases h
      refine ⟨rfl, fun a heq => ?_⟩
      have hlength := congrArg (fun s => s.current.pieces.length) heq
      simp [push, Branches.push, hpieces] at hlength
  · cases h

theorem exists_lazySign (t : Text) : ∃ u, t = u ++ (lazySign t).2 ∧ ∀ c ∈ u, c = '?' := by
  unfold lazySign
  split
  · exact ⟨['?'], rfl, by simp⟩
  · exact ⟨[], rfl, nofun⟩

theorem extent_of_counted? (hs : s.flags.extended = false) (h : s.counted? t = some (s', t')) :
    ∃ ds u, t = ds ++ ['\x7D'] ++ u ++ t' ∧ '\x7D' ∉ ds ∧ (∀ c ∈ u, c = '?') ∧
      s'.stack = s.stack := by
  rw [counted?_eq] at h
  obtain ⟨⟨ds, w⟩, hbraced, htail⟩ := Option.bind_eq_some_iff.mp h
  obtain ⟨⟨least, most⟩, -, hrepeat⟩ := Option.bind_eq_some_iff.mp htail
  obtain ⟨rfl, hds⟩ := braced_eq hs hbraced
  rw [Flags.skip_of_not_extended hs] at hrepeat
  by_cases hw : w.head? = some '?'
  · obtain ⟨w, rfl⟩ := List.head?_eq_some_iff.mp hw
    rw [branch_cons] at hrepeat
    obtain ⟨s₁, hs₁, heq⟩ := Option.map_eq_some_iff.mp hrepeat
    cases heq
    exact ⟨ds, ['?'], by simp, hds, by simp, (stack_of_repeat? hs₁).1⟩
  · rw [branch_of_head? hw] at hrepeat
    obtain ⟨s₁, hs₁, heq⟩ := Option.map_eq_some_iff.mp hrepeat
    cases heq
    exact ⟨ds, [], by simp, hds, nofun, (stack_of_repeat? hs₁).1⟩

theorem push_ne {a b : Regex} (h : a ≠ b) : s.push a ≠ s.push b := by
  intro heq
  have hpieces := congrArg (fun s => s.current.pieces.head?) heq
  simp [push, Branches.push, h] at hpieces

end Reader

theorem ne_literal_of_dot? {f : Flags} {set : CharSet} (h : f.dot? = some set) (c : Char) :
    set ≠ f.literal c := by
  unfold Flags.dot? at h
  unfold Flags.literal Flags.foldCase
  split_ifs at h <;> cases h <;> split_ifs <;> nofun

theorem ne_nil_of_readEscape [ClassNames] {f : Flags} (hf : f.extended = false) {u t : Text}
    {a : Atom} (h : readEscape f (u ++ t) = some (a, t)) : u ≠ [] := by
  rintro rfl
  cases t with
  | nil => cases h
  | cons c t =>
      obtain ⟨w, heq, -⟩ := escapeTail_of_readEscape hf h
      have hlength := congrArg List.length heq
      simp only [List.length_append, List.length_cons] at hlength
      omega

theorem readClass_ne_self [ClassNames] {f : Flags} {t : Text} {set : CharSet} :
    readClass f t ≠ some (set, t) := by
  intro h
  have hopened : (Bracket.opened f t).2 <:+ t := (Bracket.tight_opened f).suffix rfl
  have hlength := ((readBracket_ends h).trans hopened).length_le
  simp only [List.length_cons] at hlength
  omega

end Storyline.Regex
