import Mathlib.Data.List.Induction
import Storyline.Proofs.Pattern.Tokens

/-!
# Placeholders at fault

A pattern is refused for a dollar that opens a placeholder where none can stand: right after
another placeholder, or with a name that is taken. The text before such a dollar is a pattern in
its own right, and its tokens say what is wrong (`lex_eq_error_iff`).
-/

set_option autoImplicit false

namespace Storyline.Pattern

/-! ## Dollars that open placeholders -/

/-- Reading from the left passes over the text and reaches `rest`. A backslash takes the next
character, and two dollars are taken as a pair. -/
inductive Passes (rest : Text) : Text → Prop
  | nil : Passes rest []
  | escaped (c : Char) {t : Text} : Passes rest t → Passes rest ('\\' :: c :: t)
  | doubled {t : Text} : Passes rest t → Passes rest ('$' :: '$' :: t)
  | single {c : Char} {t : Text} (hbackslash : c ≠ '\\')
    (hdollar : c = '$' → (t ++ rest).head? ≠ some '$') : Passes rest t → Passes rest (c :: t)

/-- The dollar between the texts opens a placeholder. -/
def Opens (pre rest : Text) : Prop := Passes ('$' :: rest) pre ∧ ∃ c ∈ rest.head?, NameStart c

theorem Passes.cons_iff {rest t : Text} {c : Char} (hbackslash : c ≠ '\\') (hdollar : c ≠ '$') :
    Passes rest (c :: t) ↔ Passes rest t := by
  constructor
  · intro h
    cases h with
    | escaped => exact absurd rfl hbackslash
    | doubled => exact absurd rfl hdollar
    | single _ _ h => exact h
  · exact .single hbackslash (absurd · hdollar)

theorem Passes.append_iff {rest u t : Text} (hu : ∀ a ∈ u, a ≠ '\\' ∧ a ≠ '$') :
    Passes rest (u ++ t) ↔ Passes rest t := by
  induction u with
  | nil => exact .rfl
  | cons c u ih =>
      obtain ⟨⟨hbackslash, hdollar⟩, hu⟩ := List.forall_mem_cons.mp hu
      exact (cons_iff hbackslash hdollar).trans (ih hu)

/-- A placeholder holds no sign of its own. -/
theorem Placeholder.IsShaped.plain {p : Placeholder} (hp : p.IsShaped) :
    ∀ a ∈ p.written, a ≠ '\\' ∧ a ≠ '$' := by
  have hplain {c : Char} (hc : isNameChar c = true) : c ≠ '\\' ∧ c ≠ '$' := by
    constructor <;> rintro rfl <;> cases hc
  obtain ⟨name, hint⟩ := p
  obtain ⟨hname, hhint⟩ := hp
  intro a ha
  rcases List.mem_append.mp ha with ha | ha
  · exact hplain (hname.isNameChar a ha)
  · cases hint with
    | none => cases ha
    | some h =>
        rcases List.mem_cons.mp ha with rfl | ha
        · decide
        · exact hplain ((hhint h rfl).isNameChar a ha)

theorem endsName_dollar (rest : Text) : EndsName ('$' :: rest) := by
  rintro c ⟨⟩
  decide

/-- The signs before a dollar that is reached are read the same if the text ends there. -/
theorem Starts.append_dollar {t r rest : Text} {σ : Sign} (h : Starts t σ r)
    (hpass : Passes ('$' :: rest) t) :
    Starts (t ++ '$' :: rest) σ (r ++ '$' :: rest) ∧ Passes ('$' :: rest) r := by
  cases h with
  | dangling =>
      cases hpass with
      | single hbackslash => exact absurd rfl hbackslash
  | escaped c =>
      cases hpass with
      | escaped _ hpass => exact ⟨.escaped c _, hpass⟩
      | single hbackslash => exact absurd rfl hbackslash
  | doubled =>
      cases hpass with
      | doubled hpass => exact ⟨.doubled _, hpass⟩
      | single _ hdollar => exact absurd rfl (hdollar rfl)
  | @placeholder c hc t =>
      have hstarts := Starts.placeholder hc (t ++ '$' :: rest)
      obtain ⟨hshaped, hwritten⟩ := written_takePlaceholder hc t
      rw [← List.cons_append, takePlaceholder_append (endsName_dollar rest)] at hstarts
      refine ⟨hstarts, ?_⟩
      cases hpass with
      | doubled => cases hc
      | single _ _ hpass => rwa [← hwritten, Passes.append_iff hshaped.plain] at hpass
  | @dollar r hr =>
      cases hpass with
      | doubled => exact absurd rfl (hr '$' rfl).1
      | single _ hdollar hpass =>
          refine ⟨.dollar ?_, hpass⟩
          cases r with
          | nil => exact absurd rfl (hdollar rfl)
          | cons => exact hr
  | plain hbackslash hdollar =>
      cases hpass with
      | escaped => exact absurd rfl hbackslash
      | doubled => exact absurd rfl hdollar
      | single _ _ hpass => exact ⟨.plain hbackslash hdollar _, hpass⟩

/-- A sign is passed over if the dollar is reached from what follows the sign. -/
theorem Starts.exists_prefix {t r pre rest : Text} {σ : Sign} (h : Starts t σ r)
    (hr : r = pre ++ '$' :: rest) (hpass : Passes ('$' :: rest) pre) :
    ∃ u, t = u ++ '$' :: rest ∧ Starts u σ pre ∧ Passes ('$' :: rest) u := by
  cases h with
  | dangling => exact absurd hr (by simp)
  | escaped c =>
      subst hr
      exact ⟨_, rfl, .escaped c pre, .escaped c hpass⟩
  | doubled =>
      subst hr
      exact ⟨_, rfl, .doubled pre, .doubled hpass⟩
  | @placeholder c hc t =>
      obtain ⟨hshaped, hwritten⟩ := written_takePlaceholder hc t
      generalize htake : takePlaceholder (c :: t) = taken at *
      obtain ⟨p, r⟩ := taken
      simp only at hshaped hwritten hr ⊢
      subst hr
      obtain ⟨b, w, hp, -⟩ := hshaped.exists_written
      rw [hp, List.cons_append] at hwritten
      obtain ⟨rfl, rfl⟩ := List.cons.inj hwritten
      have hsame := takePlaceholder_append (endsName_dollar rest) (b :: (w ++ pre))
      rw [List.cons_append, List.append_assoc, htake] at hsame
      obtain ⟨hplaceholder, hrest⟩ := Prod.mk.inj hsame
      have hstarts := Starts.placeholder hc (w ++ pre)
      rw [← hplaceholder, ← List.append_cancel_right hrest] at hstarts
      have hpass' : Passes ('$' :: rest) (b :: w ++ pre) :=
        (Passes.append_iff (hp ▸ hshaped.plain)).mpr hpass
      refine ⟨'$' :: b :: (w ++ pre), by simp, hstarts, .single (by decide) ?_ hpass'⟩
      rintro - ⟨⟩
      cases hc
  | dollar hhead =>
      subst hr
      refine ⟨_, rfl, .dollar ?_, .single (by decide) ?_ hpass⟩
      · cases pre with
        | nil => exact nofun
        | cons => exact hhead
      · exact fun _ h => (hhead '$' h).1 rfl
  | plain hbackslash hdollar =>
      subst hr
      exact ⟨_, rfl, .plain hbackslash hdollar pre,
        .single hbackslash (absurd · hdollar) hpass⟩

theorem scan_append_dollar {pre rest : Text} (hpass : Passes ('$' :: rest) pre) (n : Nat) :
    scan n (pre ++ '$' :: rest) = scan n pre ++ scan (n + byteCount pre) ('$' :: rest) := by
  -- on the length, because a sign takes more than one character
  induction hlength : pre.length using Nat.strong_induction_on generalizing pre n with
  | _ m ih =>
  by_cases hnil : pre = []
  · subst hnil
    simp [scan, byteCount]
  · obtain ⟨σ, r, hstarts⟩ := exists_starts hnil
    obtain ⟨hstarts', hpass⟩ := hstarts.append_dollar hpass
    obtain ⟨u, -, hu⟩ := hstarts.exists_append
    have hbytes : byteCount pre = byteCount u + byteCount r := by rw [hu, byteCount_append]
    have hread := ih r.length (hlength ▸ hstarts.length_lt) hpass
      (n + (byteCount pre - byteCount r)) rfl
    rw [scan_of_starts hstarts', scan_of_starts hstarts, byteCount_append, byteCount_append,
      Nat.add_sub_add_right, hread, List.cons_append]
    congr 3
    omega

theorem scan_of_opens {pre rest : Text} (h : Opens pre rest) : ∃ ss, scan 0 (pre ++ '$' :: rest) =
    scan 0 pre ++ (byteCount pre, .placeholder (takePlaceholder rest).1) :: ss := by
  obtain ⟨hpass, c, hc, hstart⟩ := h
  obtain ⟨rest, rfl⟩ := List.head?_eq_some_iff.mp hc
  rw [scan_append_dollar hpass, Nat.zero_add,
    scan_of_starts (.placeholder (isNameStart_iff.mpr hstart) rest)]
  exact ⟨_, rfl⟩

/-- Each placeholder that is scanned opens at a dollar, and what is scanned before it are the signs
of the text before that dollar. -/
theorem exists_opens_of_scan {t : Text} {n k : Nat} {p : Placeholder} {ss ss' : List (Nat × Sign)}
    (h : scan n t = ss ++ (k, .placeholder p) :: ss') : ∃ pre rest, t = pre ++ '$' :: rest ∧
      Opens pre rest ∧ k = n + byteCount pre ∧ p = (takePlaceholder rest).1 ∧ ss = scan n pre := by
  induction ss generalizing t n with
  | nil =>
      have ht : t ≠ [] := by
        rintro rfl
        simp [scan] at h
      obtain ⟨σ, r, hstarts⟩ := exists_starts ht
      rw [scan_of_starts hstarts] at h
      obtain ⟨hs, -⟩ := List.cons.inj h
      obtain ⟨rfl, rfl⟩ := Prod.mk.inj hs
      cases hstarts with
      | placeholder hc t =>
          exact ⟨[], _, rfl, ⟨.nil, _, rfl, isNameStart_iff.mp hc⟩, rfl, rfl, by simp [scan]⟩
  | cons s ss ih =>
      have ht : t ≠ [] := by
        rintro rfl
        simp [scan] at h
      obtain ⟨σ, r, hstarts⟩ := exists_starts ht
      rw [scan_of_starts hstarts] at h
      obtain ⟨rfl, htail⟩ := List.cons.inj h
      obtain ⟨pre, rest, hr, ⟨hpass, hstart⟩, hk, hp, hss⟩ := ih htail
      obtain ⟨u, rfl, hprefix, hpass⟩ := hstarts.exists_prefix hr hpass
      obtain ⟨v, -, hv⟩ := hprefix.exists_append
      refine ⟨u, rest, rfl, ⟨hpass, hstart⟩, ?_, hp, ?_⟩
      · rw [hk, hr, hv]
        simp only [byteCount_append]
        omega
      · rw [scan_of_starts hprefix, hss, hr, byteCount_append, byteCount_append,
          Nat.add_sub_add_right]

/-! ## The first sign at fault -/

def EndsInPlaceholder (ts : List Token) : Prop := ∃ τ ∈ ts.getLast?, τ.isLiteral = false

/-- A placeholder at byte `k` cannot follow the tokens. -/
inductive Refuses (ts : List Token) (k : Nat) (p : Placeholder) : PlaceholderError → Prop
  | adjacent (hlast : EndsInPlaceholder ts) : Refuses ts k p (.adjacent k)
  | duplicate (hlast : ¬ EndsInPlaceholder ts) (hname : p.name ∈ names ts) :
    Refuses ts k p (.duplicate k p.name)

theorem flush_append (rev : Text) (ts us : List Token) :
    flush rev ts ++ us = flush rev (ts ++ us) := by
  unfold flush
  split <;> rfl

theorem names_flush (rev : Text) (ts : List Token) : names (flush rev ts) = names ts := by
  unfold flush
  split <;> rfl

theorem names_append (ts us : List Token) : names (ts ++ us) = names ts ++ names us :=
  List.filterMap_append

theorem names_append_flush (ts : List Token) (rev : Text) :
    names (ts ++ flush rev []) = names ts := by
  rw [names_append, names_flush]
  exact List.append_nil _

theorem getLast?_flush_cons (rev : Text) (τ : Token) (ts : List Token) :
    (flush rev (τ :: ts)).getLast? = (τ :: ts).getLast? := by
  unfold flush
  split
  · rfl
  · exact List.getLast?_cons_cons

/-- What was assembled up to the last placeholder is settled, and the literal after it goes on. -/
theorem exists_assemble_append {ns : List Text} {rev : Text} {ss : List (Nat × Sign)}
    {ts : List Token} (h : assemble ns rev ss = .ok ts) : ∃ ts₀ rev', ts = ts₀ ++ flush rev' [] ∧
      (∀ τ ∈ ts₀.getLast?, τ.isLiteral = false) ∧ ∀ ss', assemble ns rev (ss ++ ss') =
        (assemble ((names ts₀).reverse ++ ns) rev' ss').map (ts₀ ++ ·) := by
  induction ss generalizing ns rev ts with
  | nil =>
      cases h
      refine ⟨[], rev, rfl, nofun, fun ss' => ?_⟩
      show assemble ns rev ss' = (assemble ns rev ss').map id
      cases assemble ns rev ss' <;> rfl
  | cons s ss ih =>
      obtain ⟨k, σ⟩ := s
      cases σ with
      | char c =>
          have hrest : assemble ns (c :: rev) ss = .ok ts := h
          exact ih hrest
      | placeholder p =>
          obtain ⟨hseparated, hname, ts', hrest, rfl⟩ := assemble_placeholder_eq_ok h
          obtain ⟨ts₀, rev', rfl, hlast, happend⟩ := ih hrest
          -- the literal before the placeholder is settled by it
          refine ⟨flush rev (.placeholder p :: ts₀), rev', ?_, ?_, fun ss' => ?_⟩
          · rw [flush_append, List.cons_append]
          · rw [getLast?_flush_cons]
            cases ts₀ with
            | nil =>
                rintro τ ⟨⟩
                rfl
            | cons τ ts₀ => rwa [List.getLast?_cons_cons]
          · rw [List.cons_append, assemble_placeholder hseparated hname, happend, names_flush,
              names_placeholder, List.reverse_cons, List.append_assoc, List.singleton_append]
            cases assemble ((names ts₀).reverse ++ p.name :: ns) rev' ss' with
            | error e => rfl
            | ok us =>
                exact congrArg Except.ok (flush_append rev (.placeholder p :: ts₀) us).symm

section Refusal

variable {ss : List (Nat × Sign)} {ts : List Token} {k : Nat} {p : Placeholder}

/-- The last token is a placeholder if no literal goes on after the last of the placeholders. -/
theorem endsInPlaceholder_iff {rev : Text} (hlast : ∀ τ ∈ ts.getLast?, τ.isLiteral = false) :
    EndsInPlaceholder (ts ++ flush rev []) ↔ rev = [] ∧ names ts ≠ [] := by
  cases rev with
  | cons c rev =>
      have hliteral : (ts ++ flush (c :: rev) []).getLast? = some (.literal (c :: rev).reverse) :=
        List.getLast?_concat
      simp [EndsInPlaceholder, hliteral, Token.isLiteral]
  | nil =>
      rw [show flush [] [] = [] from rfl, List.append_nil]
      rcases List.eq_nil_or_concat ts with rfl | ⟨us, τ, rfl⟩
      · simp [EndsInPlaceholder, names]
      · rw [List.concat_eq_append] at *
        have hτ := hlast τ List.getLast?_concat
        cases τ with
        | literal l => cases hτ
        | placeholder p => simp [EndsInPlaceholder, names_append, names_placeholder, hτ]

theorem separated {rev : Text} (hlast : ∀ τ ∈ ts.getLast?, τ.isLiteral = false)
    (hends : ¬ EndsInPlaceholder (ts ++ flush rev [])) (hrev : rev = []) :
    (names ts).reverse = [] := by
  rw [endsInPlaceholder_iff hlast] at hends
  exact Classical.byContradiction fun hne => hends ⟨hrev, by simpa using hne⟩

/-- A placeholder is refused after the tokens, or accepted. -/
theorem refuses_or_exists_assemble (h : assemble [] [] ss = .ok ts) (k : Nat) (p : Placeholder) :
    (∃ e, Refuses ts k p e) ∨ ∃ ts', assemble [] [] (ss ++ [(k, .placeholder p)]) = .ok ts' := by
  obtain ⟨ts₀, rev, rfl, hlast, happend⟩ := exists_assemble_append h
  rw [happend, List.append_nil]
  by_cases hends : EndsInPlaceholder (ts₀ ++ flush rev [])
  · exact .inl ⟨_, .adjacent hends⟩
  · by_cases hname : p.name ∈ names (ts₀ ++ flush rev [])
    · exact .inl ⟨_, .duplicate hends hname⟩
    · refine .inr ?_
      rw [names_append_flush] at hname
      rw [assemble_placeholder (separated hlast hends) (by simpa using hname)]
      exact ⟨_, rfl⟩

theorem Refuses.assemble_eq_error {e : PlaceholderError} (hrefuses : Refuses ts k p e)
    (h : assemble [] [] ss = .ok ts) (ss' : List (Nat × Sign)) :
    assemble [] [] (ss ++ (k, .placeholder p) :: ss') = .error e := by
  obtain ⟨ts₀, rev, rfl, hlast, happend⟩ := exists_assemble_append h
  rw [happend, List.append_nil]
  cases hrefuses with
  | adjacent hends =>
      obtain ⟨hrev, hne⟩ := (endsInPlaceholder_iff hlast).mp hends
      rw [assemble_adjacent hrev (by simpa using hne)]
      rfl
  | duplicate hends hname =>
      rw [names_append_flush] at hname
      rw [assemble_duplicate (separated hlast hends) (by simpa using hname)]
      rfl

/-- What is not assembled has a first placeholder that is refused after the tokens before it. -/
theorem exists_refuses {e : PlaceholderError} (h : assemble [] [] ss = .error e) :
    ∃ ss₁ k p ss₂ ts, ss = ss₁ ++ (k, .placeholder p) :: ss₂ ∧ assemble [] [] ss₁ = .ok ts ∧
      Refuses ts k p e := by
  -- from the right: either the signs before the last one are refused already, or it is the first
  induction ss using List.reverseRecOn generalizing e with
  | nil => cases h
  | append_singleton ss s ih =>
      cases hss : assemble [] [] ss with
      | error e' =>
          obtain ⟨ss₁, k, p, ss₂, ts, rfl, hok, hrefuses⟩ := ih hss
          rw [List.append_assoc, List.cons_append, hrefuses.assemble_eq_error hok] at h
          cases h
          exact ⟨ss₁, k, p, ss₂ ++ [s], ts, by simp, hok, hrefuses⟩
      | ok ts =>
          obtain ⟨k, σ⟩ := s
          cases σ with
          | char c =>
              obtain ⟨ts₀, rev, -, -, happend⟩ := exists_assemble_append hss
              rw [happend] at h
              cases h
          | placeholder p =>
              rcases refuses_or_exists_assemble hss k p with ⟨e', hrefuses⟩ | ⟨ts', hok⟩
              · rw [hrefuses.assemble_eq_error hss] at h
                cases h
                exact ⟨ss, k, p, [], ts, rfl, hss, hrefuses⟩
              · rw [hok] at h
                cases h

end Refusal

/-! ## Patterns that are refused -/

theorem lex_eq_error_iff {t : Text} {e : PlaceholderError} : lex t = .error e ↔
    ∃ pre rest ts, t = pre ++ '$' :: rest ∧ Opens pre rest ∧ lex pre = .ok ts ∧
      Refuses ts (byteCount pre) (takePlaceholder rest).1 e := by
  constructor
  · intro h
    obtain ⟨ss, k, p, ss', ts, hscan, hok, hrefuses⟩ := exists_refuses h
    obtain ⟨pre, rest, rfl, hopens, rfl, rfl, rfl⟩ := exists_opens_of_scan hscan
    rw [Nat.zero_add] at hrefuses
    exact ⟨pre, rest, ts, rfl, hopens, hok, hrefuses⟩
  · rintro ⟨pre, rest, ts, rfl, hopens, hok, hrefuses⟩
    obtain ⟨ss, hscan⟩ := scan_of_opens hopens
    rw [lex, hscan]
    exact hrefuses.assemble_eq_error hok ss

/-- The dollar between the texts opens a placeholder that cannot stand after what is before it. -/
def Misplaced (pre rest : Text) : Prop := Opens pre rest ∧ ∃ ts, lex pre = .ok ts ∧
  (EndsInPlaceholder ts ∨ (takePlaceholder rest).1.name ∈ names ts)

theorem Misplaced.exists_lex_eq_error {pre rest : Text} (h : Misplaced pre rest) :
    ∃ e, lex (pre ++ '$' :: rest) = .error e ∧ e.offset = byteCount pre := by
  obtain ⟨hopens, ts, hok, hfault⟩ := h
  by_cases hends : EndsInPlaceholder ts
  · exact ⟨_, lex_eq_error_iff.mpr ⟨pre, rest, ts, rfl, hopens, hok, .adjacent hends⟩, rfl⟩
  · have hname := hfault.resolve_left hends
    exact ⟨_, lex_eq_error_iff.mpr ⟨pre, rest, ts, rfl, hopens, hok, .duplicate hends hname⟩, rfl⟩

/-- **A pattern is refused if a placeholder in it is misplaced, and for the first of these.** The
error gives the byte of its dollar, and what the tokens before it say is wrong. -/
theorem lex_reports_first_misplaced (t : Text) :
    ((∃ e, lex t = .error e) ↔ ∃ pre rest, t = pre ++ '$' :: rest ∧ Misplaced pre rest) ∧
      ∀ e, lex t = .error e → ∃ pre rest ts, t = pre ++ '$' :: rest ∧ Opens pre rest ∧
        lex pre = .ok ts ∧ e.offset = byteCount pre ∧
        (∀ pre' rest', t = pre' ++ '$' :: rest' → Misplaced pre' rest' →
          byteCount pre ≤ byteCount pre') ∧
        (EndsInPlaceholder ts ∧ e.name? = none ∧ e.message =
            s!"placeholders must be separated by literal text (at byte {e.offset})" ∨
          ¬ EndsInPlaceholder ts ∧ (takePlaceholder rest).1.name ∈ names ts ∧
            e.name? = some (takePlaceholder rest).1.name ∧ e.message =
              "duplicate placeholder name (\x60$" ++ (takePlaceholder rest).1.name.toString ++
                s!"\x60 at byte {e.offset})") := by
  constructor
  · constructor
    · rintro ⟨e, h⟩
      obtain ⟨pre, rest, ts, rfl, hopens, hok, hrefuses⟩ := lex_eq_error_iff.mp h
      refine ⟨pre, rest, rfl, hopens, ts, hok, ?_⟩
      cases hrefuses with
      | adjacent hends => exact .inl hends
      | duplicate _ hname => exact .inr hname
    · rintro ⟨pre, rest, rfl, hmisplaced⟩
      obtain ⟨e, h, -⟩ := hmisplaced.exists_lex_eq_error
      exact ⟨e, h⟩
  · intro e h
    obtain ⟨pre, rest, ts, rfl, hopens, hok, hrefuses⟩ := lex_eq_error_iff.mp h
    have hoffset : e.offset = byteCount pre := by cases hrefuses <;> rfl
    refine ⟨pre, rest, ts, rfl, hopens, hok, hoffset, ?_, ?_⟩
    · -- any misplaced dollar is reported, and there is one report
      intro pre' rest' ht hmisplaced
      obtain ⟨e', h', hoffset'⟩ := hmisplaced.exists_lex_eq_error
      rw [← ht, h] at h'
      cases h'
      exact Nat.le_of_eq (hoffset.symm.trans hoffset')
    · cases hrefuses with
      | adjacent hends => exact .inl ⟨hends, rfl, rfl⟩
      | duplicate hends hname => exact .inr ⟨hends, hname, rfl, rfl⟩

/-- The dollars before the second `$n` are escaped or taken as a pair, and two characters before it
take two bytes each. -/
theorem lex_reports_repeated_name :
    lex "é\\$x$$$n:u8 ü$n".toList = .error (.duplicate 15 "n".toList) ∧
      ∃ pre rest ts, "é\\$x$$$n:u8 ü$n".toList = pre ++ '$' :: rest ∧ Opens pre rest ∧
        lex pre = .ok ts ∧ byteCount pre = 15 ∧ ¬ EndsInPlaceholder ts ∧ "n".toList ∈ names ts := by
  have h : lex "é\\$x$$$n:u8 ü$n".toList = .error (.duplicate 15 "n".toList) := by decide +kernel
  obtain ⟨pre, rest, ts, ht, hopens, hok, hoffset, -, hfault⟩ :=
    (lex_reports_first_misplaced _).2 _ h
  rcases hfault with ⟨-, hnone, -⟩ | ⟨hends, hmem, hname, -⟩
  · cases hnone
  · exact ⟨h, pre, rest, ts, ht, hopens, hok, hoffset.symm, hends, Option.some.inj hname ▸ hmem⟩

end Storyline.Pattern
