import Storyline.Proofs.Regex.Extent
import Storyline.Proofs.Regex.Items

/-!
# Counting literal characters

The counter of literals keeps the number of open groups, and the reader keeps them on its stack.
Item by item the two agree on where they are, and the counter counts the items outside all groups
that are characters matching themselves (`countLiterals_eq_countP`), provided that it finds the ends
of classes, names and escapes (`Item.Transparent`).
-/

set_option autoImplicit false

namespace Storyline.Regex

open Specificity (countLiterals)
open Counts (Special)

namespace Item

/-! ## Literal items -/

/-- The character that an item is, plainly or after a backslash. -/
def char? (i : Item) : Option Char :=
  match i.text with
  | [c] => some c
  | ['\\', c] => if c.isAlphanum then none else some c
  | _ => none

/-- Outside all groups, the item is a character that matches itself. -/
def isLiteral (i : Item) : Bool :=
  i.before.stack.isEmpty &&
    i.char?.any fun c => i.after == i.before.push (.char (i.before.flags.literal c))

/-- The counter can see where the item ends. -/
structure Transparent (i : Item) : Prop where
  bracket : i.text.head? = some '[' →
    IsSimpleClass i.text ∨ i.before.stack ≠ [] ∧ Harmless i.text
  /-- A bracket in the name of a group is closed there. -/
  group : i.text.head? = some '(' → '[' ∈ i.text → Harmless i.text.tail
  /-- Outside groups, an escape is one character, with braces perhaps, and no angle bracket. -/
  escape : i.before.stack = [] → ∀ c t, i.text = '\\' :: c :: t →
    c ≠ '<' ∧ c ≠ '>' ∧ (t = [] ∨ t.head? = some '\x7B')

theorem char?_eq_some {i : Item} {c : Char} : i.char? = some c ↔
    i.text = [c] ∨ i.text = ['\\', c] ∧ c.isAlphanum = false := by
  unfold char?
  split
  · next a heq => simp [heq]
  · next a heq =>
      cases ha : a.isAlphanum with
      | true =>
          simp only [heq, if_true, List.cons.injEq, and_true, reduceCtorEq, and_false, false_or,
            false_iff, not_and]
          rintro ⟨-, rfl⟩
          simp [ha]
      | false =>
          simp only [heq, Bool.false_eq_true, if_false, Option.some.injEq, List.cons.injEq,
            and_true, reduceCtorEq, and_false, false_or, true_and, iff_self_and]
          rintro rfl
          exact ha
  · next hsingle hescaped =>
      simp only [reduceCtorEq, false_iff, not_or, not_and]
      exact ⟨hsingle c, fun heq => absurd heq (hescaped c)⟩

theorem isLiteral_iff {i : Item} : i.isLiteral = true ↔ i.before.stack = [] ∧
    ∃ c, (i.text = [c] ∨ i.text = ['\\', c] ∧ c.isAlphanum = false) ∧
      i.after = i.before.push (.char (i.before.flags.literal c)) := by
  simp only [isLiteral, Bool.and_eq_true, List.isEmpty_iff, Option.any_eq_true, beq_iff_eq,
    char?_eq_some]

theorem isLiteral_of_text {i : Item} (h : ∀ c, i.text ≠ [c]) (h' : ∀ c, i.text ≠ ['\\', c]) :
    i.isLiteral = false := by
  rw [← Bool.not_eq_true, isLiteral_iff]
  rintro ⟨-, c, heq | ⟨heq, -⟩, -⟩
  · exact h c heq
  · exact h' c heq

theorem isLiteral_of_after {i : Item}
    (h : ∀ c, i.after ≠ i.before.push (.char (i.before.flags.literal c))) :
    i.isLiteral = false := by
  rw [← Bool.not_eq_true, isLiteral_iff]
  rintro ⟨-, c, -, heq⟩
  exact h c heq

theorem isLiteral_of_stack {i : Item} (h : i.before.stack ≠ []) : i.isLiteral = false := by
  rw [← Bool.not_eq_true, isLiteral_iff]
  rintro ⟨heq, -⟩
  exact h heq

/-! ## Items that the counter takes as the reader does -/

/-- The counter follows the reader over the item, and counts it if it is literal. -/
def Counted (i : Item) : Prop :=
  Counts (.groups i.before.stack.length) i.text (.groups i.after.stack.length)
    (if i.isLiteral then 1 else 0)

theorem counted_of_not_literal {i : Item} (h : i.isLiteral = false)
    (hstack : i.after.stack = i.before.stack)
    (hcounts : Counts (.groups i.before.stack.length) i.text (.groups i.before.stack.length) 0) :
    i.Counted := by
  rw [Counted, h, hstack]
  exact hcounts

section

variable {s s' : Reader} {c : Char} {u t : Text}

/-- A step that takes its character only. -/
theorem taken_alone {r : Reader} (h : (r, u ++ t) = (s', t)) : r = s' ∧ u = [] := by
  obtain ⟨hr, hu⟩ := Prod.mk.inj h
  exact ⟨hr, by simpa using hu⟩

/-- In a group the counter is inside at least one. -/
theorem exists_length_stack (h : s.stack ≠ []) : ∃ d, s.stack.length = d + 1 :=
  Nat.exists_eq_succ_of_ne_zero fun hlength => h (List.length_eq_zero_iff.mp hlength)

theorem counted_startGroup (hs : s.flags.extended = false)
    (h : s.startGroup? (u ++ t) = some (s', t)) (hi : Transparent ⟨s, '(' :: u, s'⟩) :
    Counted ⟨s, '(' :: u, s'⟩ := by
  obtain ⟨u', heq, hstart⟩ := Reader.startsGroup_startGroup? hs _ _ _ h
  obtain rfl := List.append_cancel_right heq
  rcases hstart with ⟨hstack, hu⟩ | ⟨ls, rfl, hls, hstack, hpieces⟩
  · have hliteral : isLiteral ⟨s, '(' :: u, s'⟩ = false := by
      refine isLiteral_of_after fun a heq => ?_
      have hlength : s'.stack.length = s.stack.length := congrArg (fun s => s.stack.length) heq
      omega
    have hharmless : Harmless u := by
      by_cases hbracket : '[' ∈ u
      · exact hi.group rfl (List.mem_cons_of_mem _ hbracket)
      · exact .of_plain fun c hc hspecial => hbracket (hu c hc hspecial ▸ hc)
    rw [Counted, hliteral]
    show Counts (.groups s.stack.length) _ (.groups s'.stack.length) 0
    rw [hstack]
    exact Counts.openGroup.cons hharmless.counts
  · refine counted_of_not_literal (isLiteral_of_after fun a heq => ?_) hstack
      (Counts.openGroup.cons ((Harmless.of_plain hls).counts.append .closeGroup))
    rw [show s' = _ from heq] at hpieces
    cases hpieces

theorem counted_closeGroup (h : s.closeGroup?.map (·, u ++ t) = some (s', t)) :
    Counted ⟨s, ')' :: u, s'⟩ := by
  obtain ⟨s₁, hclose, heq⟩ := Option.map_eq_some_iff.mp h
  obtain ⟨rfl, rfl⟩ := taken_alone heq
  unfold Reader.closeGroup? at hclose
  split at hclose
  · cases hclose
  · next g stack hstack =>
      cases hclose
      rw [Counted, isLiteral_of_stack (by simp [hstack])]
      show Counts (.groups s.stack.length) _ (.groups stack.length) 0
      rw [hstack]
      exact Counts.closeGroup

theorem counted_operator (hc : c ∈ ".^$*+?|".toList) (hu : ∀ a ∈ u, a = '?')
    (hstack : s'.stack = s.stack) (hafter : ∀ a, s' ≠ s.push (.char (s.flags.literal a))) :
    Counted ⟨s, c :: u, s'⟩ :=
  counted_of_not_literal (isLiteral_of_after hafter) hstack
    (.operators (List.forall_mem_cons.mpr ⟨hc, fun a ha => hu a ha ▸ by decide⟩))

theorem counted_repeat (hc : c ∈ ".^$*+?|".toList) {least : Nat} {most : Option Nat}
    (h : (s.repeat? least most (Reader.lazySign (u ++ t)).1).map
      (·, (Reader.lazySign (u ++ t)).2) = some (s', t)) : Counted ⟨s, c :: u, s'⟩ := by
  obtain ⟨s₁, hrepeat, heq⟩ := Option.map_eq_some_iff.mp h
  obtain ⟨rfl, hrest⟩ := Prod.mk.inj heq
  obtain ⟨w, hw, hsign⟩ := Reader.exists_lazySign (u ++ t)
  rw [hrest] at hw
  obtain rfl := List.append_cancel_right hw
  obtain ⟨hstack, hafter⟩ := Reader.stack_of_repeat? hrepeat
  exact counted_operator hc hsign hstack fun a => hafter _

theorem counted_braces (hs : s.flags.extended = false)
    (h : s.counted? (u ++ t) = some (s', t)) : Counted ⟨s, '\x7B' :: u, s'⟩ := by
  obtain ⟨ds, w, heq, hds, hw, hstack⟩ := Reader.extent_of_counted? hs h
  obtain rfl := List.append_cancel_right heq
  refine counted_of_not_literal (isLiteral_of_text (by simp) (by simp)) hstack ?_
  exact (Counts.braces hds).append (.operators fun a ha => hw a ha ▸ by decide)

theorem counted_class (hstack : s'.stack = s.stack) (hi : Transparent ⟨s, '[' :: u, s'⟩)
    (hu : u ≠ []) : Counted ⟨s, '[' :: u, s'⟩ := by
  refine counted_of_not_literal (isLiteral_of_text ?_ (by simp)) hstack ?_
  · rintro a ha
    exact hu (List.cons.inj ha).2
  · rcases hi.bracket rfl with hsimple | ⟨hgroup, hharmless⟩
    · exact hsimple.counts
    · obtain ⟨d, hd⟩ := exists_length_stack hgroup
      have hcounts := hharmless.counts (d := d)
      rwa [← hd] at hcounts

/-- An escape outside groups is literal unless a letter or a digit is escaped. -/
theorem isLiteral_escape (hstack : s.stack = []) {a : Atom}
    (ha : c.isAlphanum = false → a = .literal c) :
    isLiteral ⟨s, ['\\', c], s.push (a.regex s.flags)⟩ = !c.isAlphanum := by
  cases hc : c.isAlphanum with
  | true =>
      rw [Bool.not_true, ← Bool.not_eq_true, isLiteral_iff]
      rintro ⟨-, b, heq | ⟨heq, hb⟩, -⟩
      · cases heq
      · cases heq
        rw [hc] at hb
        cases hb
  | false =>
      obtain rfl := ha hc
      exact isLiteral_iff.mpr ⟨hstack, c, .inr ⟨rfl, hc⟩, rfl⟩

theorem counted_escape [ClassNames] (hs : s.flags.extended = false) {a : Atom}
    (h : readEscape s.flags (c :: (u ++ t)) = some (a, t))
    (hi : Transparent ⟨s, '\\' :: c :: u, s.push (a.regex s.flags)⟩) :
    Counted ⟨s, '\\' :: c :: u, s.push (a.regex s.flags)⟩ := by
  obtain ⟨w, heq, htail, hplain⟩ := escapeTail_of_readEscape hs h
  obtain rfl := List.append_cancel_right heq
  have hescape := Counts.escape (d := s.stack.length) c
  rcases htail with ⟨ds, rfl, hds⟩ | hu
  · -- only an escaped letter has braces
    have hc : c.isAlphanum = true := by
      rw [← Bool.not_eq_false]
      intro hc
      cases (hplain hc).1
    refine counted_of_not_literal (isLiteral_of_text (by simp) (by simp)) rfl ?_
    rw [hc, Bool.not_true, Bool.and_false, if_neg Bool.false_ne_true] at hescape
    exact hescape.append (.braces hds)
  · by_cases hstack : s.stack = []
    · obtain ⟨hless, hgreater, hu'⟩ := hi.escape hstack c u rfl
      -- an opening brace would matter to the counter
      have hnil : u = [] := hu'.resolve_right fun hhead => by
        obtain ⟨u, rfl⟩ := List.head?_eq_some_iff.mp hhead
        exact absurd (by decide) (hu '\x7B' List.mem_cons_self)
      subst hnil
      rw [Counted, isLiteral_escape hstack fun hc => (hplain hc).2 hless hgreater]
      rw [hstack] at hescape
      show Counts (.groups s.stack.length) _ (.groups s.stack.length) _
      rw [hstack]
      exact hescape
    · refine counted_of_not_literal (isLiteral_of_stack hstack) rfl ?_
      obtain ⟨d, hd⟩ := exists_length_stack hstack
      show Counts (.groups s.stack.length) ('\\' :: c :: u) (.groups s.stack.length) 0
      rw [hd] at hescape ⊢
      exact hescape.append (Harmless.of_plain hu).counts

theorem counted_plain (hc : ¬ Special c) (hc' : c ∉ ".^$*+?|".toList) :
    Counted ⟨s, [c], s.push (.char (s.flags.literal c))⟩ := by
  have hcount := Counts.plain (d := s.stack.length) hc
  rw [← List.contains_iff_mem, Bool.not_eq_true] at hc'
  rw [hc', Bool.not_false, Bool.and_true] at hcount
  by_cases hstack : s.stack = []
  · have hliteral : isLiteral ⟨s, [c], s.push (.char (s.flags.literal c))⟩ = true :=
      isLiteral_iff.mpr ⟨hstack, c, .inl rfl, rfl⟩
    rw [Counted, hliteral]
    rw [hstack] at hcount
    show Counts (.groups s.stack.length) _ (.groups s.stack.length) 1
    rw [hstack]
    exact hcount
  · refine counted_of_not_literal (isLiteral_of_stack hstack) rfl ?_
    have hlength : s.stack.length ≠ 0 := fun h => hstack (List.length_eq_zero_iff.mp h)
    rw [decide_eq_false hlength] at hcount
    exact hcount

/-- The counter takes every item as the reader does. -/
theorem counted_of_step? [ClassNames] (hs : s.flags.extended = false)
    (hstep : s.step? c (u ++ t) = some (s', t)) (hi : Transparent ⟨s, c :: u, s'⟩) :
    Counted ⟨s, c :: u, s'⟩ := by
  -- the cases are those of the reader's step, in its order
  unfold Reader.step? at hstep
  split at hstep
  · exact counted_startGroup hs hstep hi
  · exact counted_closeGroup hstep
  · obtain ⟨rfl, rfl⟩ := taken_alone (Option.some.inj hstep)
    refine counted_operator (by decide) nofun rfl fun a heq => ?_
    cases congrArg (fun s => s.current.pieces) heq
  · obtain ⟨⟨set, w⟩, hread, heq⟩ := Option.map_eq_some_iff.mp hstep
    cases heq
    refine counted_class rfl hi ?_
    rintro rfl
    exact readClass_ne_self hread
  · exact counted_repeat (by decide) hstep
  · exact counted_repeat (by decide) hstep
  · exact counted_repeat (by decide) hstep
  · exact counted_braces hs hstep
  · obtain ⟨set, hset, heq⟩ := Option.map_eq_some_iff.mp hstep
    obtain ⟨rfl, rfl⟩ := taken_alone heq
    exact counted_operator (by decide) nofun rfl fun a => Reader.push_ne fun heq =>
      ne_literal_of_dot? hset a (Regex.char.inj heq)
  · obtain ⟨rfl, rfl⟩ := taken_alone (Option.some.inj hstep)
    exact counted_operator (by decide) nofun rfl fun a => Reader.push_ne nofun
  · obtain ⟨rfl, rfl⟩ := taken_alone (Option.some.inj hstep)
    exact counted_operator (by decide) nofun rfl fun a => Reader.push_ne nofun
  · obtain ⟨⟨a, w⟩, hread, heq⟩ := Option.map_eq_some_iff.mp hstep
    cases heq
    obtain ⟨c, u, rfl⟩ := List.exists_cons_of_ne_nil (ne_nil_of_readEscape hs hread)
    exact counted_escape hs hread hi
  · obtain ⟨rfl, rfl⟩ := taken_alone (Option.some.inj hstep)
    refine counted_plain ?_ ?_
    · simp only [Special, List.mem_cons, List.not_mem_nil, or_false, not_or]
      refine ⟨?_, ?_, ?_, ?_, ?_⟩ <;> assumption
    · rw [show ".^$*+?|".toList = ['.', '^', '$', '*', '+', '?', '|'] by decide]
      simp only [List.mem_cons, List.not_mem_nil, or_false, not_or]
      refine ⟨?_, ?_, ?_, ?_, ?_, ?_, ?_⟩ <;> assumption

theorem counted_of_item? [ClassNames] {i : Item} {t' : Text} (hs : s.flags.extended = false)
    (h : s.item? t = some (i, t')) (hi : i.Transparent) : i.Counted := by
  obtain ⟨⟨c, r, -, hstep, htext⟩, rfl⟩ := Reader.step?_of_item? h
  obtain ⟨before, w, after⟩ := i
  obtain ⟨u, hu, rfl⟩ : ∃ u, w = c :: u ∧ r = u ++ t' := by
    obtain ⟨u, rfl⟩ := Reader.step?_suffix hstep
    have htext : c :: u ++ t' = w ++ t' := htext
    exact ⟨u, (List.append_cancel_right htext).symm, rfl⟩
  subst hu
  exact counted_of_step? hs hstep hi

end

end Item

/-! ## Expressions -/

/-- The counter follows the reader over the first items of a text. -/
theorem counts_items [ClassNames] {n : Nat} {s : Reader} {t : Text} {is is' : List Item}
    (h : s.items n t = is ++ is') (hs : s.flags.extended = false)
    (hplain : ∀ i ∈ is, i.after.flags.extended = false) (hi : ∀ i ∈ is, i.Transparent) :
    Counts (.groups s.stack.length) (is.flatMap Item.text)
      (.groups (s.afterItems is).stack.length) (is.countP Item.isLiteral) := by
  induction is generalizing n s t with
  | nil => exact .nil _
  | cons i is ih =>
      obtain ⟨m, t', hitem, hrest⟩ := Reader.items_eq_cons h
      obtain ⟨hafter, hplain⟩ := List.forall_mem_cons.mp hplain
      obtain ⟨htransparent, hi⟩ := List.forall_mem_cons.mp hi
      have hcounted : i.Counted := Item.counted_of_item? hs hitem htransparent
      have hbefore : i.before = s := (Reader.step?_of_item? hitem).2
      have hfirst : Counts (.groups s.stack.length) i.text (.groups i.after.stack.length)
          (if i.isLiteral then 1 else 0) := hbefore ▸ hcounted
      rw [List.flatMap_cons, List.countP_cons, Nat.add_comm, Reader.afterItems_cons]
      exact hfirst.append (ih hrest hafter hplain hi)

/-- **The literals of an expression are counted**, whatever classes can be asked for by name. Where
blanks count, and the counter can see where the items end, it counts the items outside all groups
that are characters matching themselves, and nothing else; and a class between two items outside all
groups adds nothing. -/
theorem countLiterals_eq_countP [ClassNames] {t : Text} {r : Regex} (h : parse? t = some r)
    (hplain : ∀ i ∈ items t, i.after.flags.extended = false)
    (hi : ∀ i ∈ items t, i.Transparent) :
    (items t).flatMap Item.text = t ∧
      countLiterals (.groups 0) t = (items t).countP Item.isLiteral ∧
      ∀ is is' w, items t = is ++ is' → (∀ i ∈ is.getLast?, i.after.stack = []) →
        IsSimpleClass w →
        countLiterals (.groups 0) (is.flatMap Item.text ++ w ++ is'.flatMap Item.text) =
          countLiterals (.groups 0) t := by
  obtain ⟨s, hrun, -⟩ := Option.bind_eq_some_iff.mp h
  have htext : (items t).flatMap Item.text = t := Reader.flatMap_text_of_run hrun rfl hplain
  refine ⟨htext, ?_, fun is is' w hitems hlast hw => ?_⟩
  · have hcounts := counts_items (List.append_nil (items t)).symm rfl hplain hi
    have hcount := hcounts []
    rw [List.append_nil, htext] at hcount
    simpa [countLiterals] using hcount
  · have hmem (i : Item) (hi : i ∈ is) : i ∈ items t := hitems ▸ List.mem_append_left is' hi
    have hstack : (Reader.afterItems {} is).stack = [] := by
      rw [Reader.afterItems]
      cases hi : is.getLast? with
      | none => rfl
      | some i => exact hlast i hi
    have hcounts : Counts (.groups 0) (is.flatMap Item.text) (.groups 0)
        (is.countP Item.isLiteral) := by
      have hcounts := counts_items hitems rfl (fun i hi => hplain i (hmem i hi))
        fun i h => hi i (hmem i h)
      rwa [hstack] at hcounts
    calc countLiterals (.groups 0) (is.flatMap Item.text ++ w ++ is'.flatMap Item.text)
      _ = is.countP Item.isLiteral + 0 + countLiterals (.groups 0) (is'.flatMap Item.text) :=
        (hcounts.append hw.counts) _
      _ = countLiterals (.groups 0) (is.flatMap Item.text ++ is'.flatMap Item.text) :=
        (hcounts _).symm
      _ = countLiterals (.groups 0) t := by rw [← List.flatMap_append, ← hitems, htext]

/-- A class with a closing bracket at its start, and a named one in a group. -/
theorem countLiterals_eq_countP_classes :
    (∃ r, parse? "a\\.[^]x]+(b[[:digit:]])\\x\x7B41\x7D".toList = some r) ∧
      countLiterals (.groups 0) "a\\.[^]x]+(b[[:digit:]])\\x\x7B41\x7D".toList = 2 ∧
      countLiterals (.groups 0) "a\\.[0-9][^]x]+(b[[:digit:]])\\x\x7B41\x7D".toList =
        countLiterals (.groups 0) "a\\.[^]x]+(b[[:digit:]])\\x\x7B41\x7D".toList := by
  let t := "a\\.[^]x]+(b[[:digit:]])\\x\x7B41\x7D".toList
  let pieces : List (Text × Bool) := [("a".toList, true), ("\\.".toList, true),
    ("[^]x]".toList, true), ("+".toList, true), ("(".toList, true), ("b".toList, false),
    ("[[:digit:]]".toList, false), (")".toList, false), ("\\x\x7B41\x7D".toList, true)]
  have hpieces : (items t).map (fun i => (i.text, i.before.stack.isEmpty)) = pieces := by
    decide +kernel
  have hclass : IsSimpleClass "[^]x]".toList :=
    ⟨['^'], ']', "x]".toList, rfl, by simp, by decide, .of_plain (w := "x".toList) (by simp)⟩
  have hinner : IsSimpleClass "[[:digit:]".toList := ⟨[], '[', ":digit:]".toList, rfl, nofun,
    by decide, .of_plain (w := "[:digit:".toList) (by simp)⟩
  have hnamed : Harmless "[[:digit:]]".toList := .bracket hinner (.plain (by decide) .nil)
  have hi (i : Item) (hi : i ∈ items t) : i.Transparent := by
    have hmem : (i.text, i.before.stack.isEmpty) ∈ pieces := hpieces ▸ List.mem_map_of_mem hi
    have hbrackets : ∀ x ∈ pieces, x.1.head? = some '[' →
        x = ("[^]x]".toList, true) ∨ x = ("[[:digit:]]".toList, false) := by decide
    have hgroups : ∀ x ∈ pieces, x.1.head? = some '(' → '[' ∉ x.1 := by decide
    have hescapes : ∀ x ∈ pieces, x.1.head? = some '\\' →
        x.1 = "\\.".toList ∨ x.1 = "\\x\x7B41\x7D".toList := by decide
    refine ⟨fun hhead => ?_, fun hhead hbracket => absurd hbracket (hgroups _ hmem hhead),
      fun _ c u heq => ?_⟩
    · rcases hbrackets _ hmem hhead with heq | heq
      · exact .inl ((Prod.mk.inj heq).1 ▸ hclass)
      · obtain ⟨htext, hstack⟩ := Prod.mk.inj heq
        exact .inr ⟨by simpa using hstack, htext ▸ hnamed⟩
    · rcases hescapes _ hmem (by rw [heq]; rfl) with htext | htext
      · rw [heq] at htext
        cases htext
        decide
      · rw [heq] at htext
        cases htext
        decide
  have hparse : ∃ r, parse? t = some r := ⟨_, rfl⟩
  obtain ⟨r, hr⟩ := hparse
  obtain ⟨-, hcount, hinsert⟩ := countLiterals_eq_countP hr (by decide +kernel) hi
  refine ⟨⟨r, hr⟩, hcount.trans (by decide +kernel), ?_⟩
  have hdigits : IsSimpleClass "[0-9]".toList :=
    ⟨[], '0', "-9]".toList, rfl, nofun, by decide, .of_plain (w := "0-9".toList) (by simp)⟩
  have hsame := hinsert ((items t).take 2) ((items t).drop 2) "[0-9]".toList
    (List.take_append_drop 2 _).symm (by decide +kernel) hdigits
  have htext : ((items t).take 2).flatMap Item.text ++ "[0-9]".toList ++
      ((items t).drop 2).flatMap Item.text =
        "a\\.[0-9][^]x]+(b[[:digit:]])\\x\x7B41\x7D".toList := by decide +kernel
  exact htext ▸ hsame

/-- For the counter a named class ends the class around it, and the digits of an escape stand for
themselves. -/
theorem countLiterals_ne_countP :
    (∃ r, parse? "[[:alpha:]] x".toList = some r) ∧
      (∀ i ∈ items "[[:alpha:]] x".toList, i.after.flags.extended = false) ∧
      countLiterals (.groups 0) "[[:alpha:]] x".toList = 3 ∧
      (items "[[:alpha:]] x".toList).countP Item.isLiteral = 2 ∧
      (∃ r, parse? "\\x41".toList = some r) ∧
      countLiterals (.groups 0) "\\x41".toList = 2 ∧
      (items "\\x41".toList).countP Item.isLiteral = 0 := by
  refine ⟨⟨_, rfl⟩, ?_, by decide +kernel, by decide +kernel, ⟨_, rfl⟩, by decide +kernel,
    by decide +kernel⟩
  decide +kernel

end Storyline.Regex
