import Storyline.Proofs.Regex.Branches

/-!
# The search finds what an expression matches

A list of tasks that starts with an expression leads through a text just if the expression matches
the start of it and the other tasks lead through the rest (`leadsAfter_of_leads`,
`reaches_of_spans`). So a search succeeds just if the expression matches a part of the text, and
what it finds is such a match (`isMatch_iff`, `spans_of_search`).

The search gives up a later round of a repetition that reads nothing. Nothing is lost by that, since
a match can do without such a round; only its marks may differ.
-/

set_option autoImplicit false

namespace Storyline.Regex

/-! ## Tasks after reading -/

/-- What becomes of tasks while a text is read. -/
def afterReading (u : Text) (k : List Task) : List Task :=
  if u = [] then k else k.map Task.advance

@[simp] theorem afterReading_empty (k : List Task) : afterReading [] k = k := rfl

theorem afterReading_of_ne {u : Text} (h : u ≠ []) (k : List Task) :
    afterReading u k = k.map Task.advance := if_neg h

@[simp] theorem afterReading_nil (u : Text) : afterReading u [] = [] := by
  by_cases h : u = [] <;> simp [afterReading, h]

@[simp] theorem afterReading_run (u : Text) (r : Regex) (k : List Task) :
    afterReading u (.run r :: k) = .run r :: afterReading u k := by
  by_cases h : u = [] <;> simp [afterReading, h, Task.advance]

@[simp] theorem afterReading_mark (u : Text) (slot : Nat) (k : List Task) :
    afterReading u (.mark slot :: k) = .mark slot :: afterReading u k := by
  by_cases h : u = [] <;> simp [afterReading, h, Task.advance]

theorem afterReading_again {u : Text} (h : u ≠ []) (r : Regex) (g : Bool) (round : Round)
    (k : List Task) :
    afterReading u (.again r g round :: k) = .again r g .read :: afterReading u k := by
  simp [afterReading, h, Task.advance]

theorem advance_advance (t : Task) : t.advance.advance = t.advance := by cases t <;> rfl

theorem afterReading_append (u v : Text) (k : List Task) :
    afterReading v (afterReading u k) = afterReading (u ++ v) k := by
  by_cases hu : u = []
  · simp [hu]
  · by_cases hv : v = []
    · simp [hv]
    · simp [afterReading, hu, hv, advance_advance]

/-! ## Runs are matches -/

/-- A repetition that must not make a round is left out. -/
theorem expand?_rep_zero (p : Place) (r : Regex) (least : Nat) (g : Bool) (k : List Task) :
    expand? p ⟨.run (.rep r least (some 0) g) :: k, []⟩ = some [⟨k, []⟩] := by
  match least with
  | 0 => rfl
  | 1 => rfl
  | n + 2 => rfl

/-- The tasks `k` lead through a text after a match of `r` at its start. -/
def LeadsAfter (r : Regex) (k : List Task) (pre w post : Text) (m : Marks) : Prop :=
  ∃ u v m₁ m₂, w = u ++ v ∧ m = m₂ ++ m₁ ∧ Spans r pre u (v ++ post) m₁ ∧
    Leads (afterReading u k) (pre ++ u) v post m₂

/-- No expression at all, and then the tasks. -/
theorem leadsAfter_stop {r : Regex} {least : Nat} {most : Option Nat} {g : Bool}
    (hstop : least = 0 ∨ most = some 0) {k : List Task} {pre w post : Text} {m : Marks}
    (h : Leads k pre w post m) : LeadsAfter (.rep r least most g) k pre w post m := by
  refine ⟨[], w, [], m, rfl, (List.append_nil m).symm, .stop hstop _ _, ?_⟩
  rw [List.append_nil]
  exact h

/-- One round, and then the other rounds. -/
theorem LeadsAfter.round {r : Regex} {least : Nat} {most : Option Nat} {g : Bool}
    (hmost : most ≠ some 0) {k k' : List Task} {pre w post : Text} {m : Marks}
    (h : LeadsAfter r k' pre w post m)
    (hrest : ∀ u v m', w = u ++ v → Leads (afterReading u k') (pre ++ u) v post m' →
      LeadsAfter (.rep r (least - 1) (most.map (· - 1)) g) (afterReading u k) (pre ++ u) v post
        m') :
    LeadsAfter (.rep r least most g) k pre w post m := by
  obtain ⟨u, v, m₁, m₂, rfl, rfl, hspans, hleads⟩ := h
  obtain ⟨u', v', m₁', m₂', rfl, rfl, hspans', hleads'⟩ := hrest u v m₂ rfl hleads
  refine ⟨u ++ u', v', m₁' ++ m₁, m₂', by rw [List.append_assoc], by rw [List.append_assoc], ?_, ?_⟩
  · rw [List.append_assoc] at hspans
    exact .round hmost hspans hspans'
  · rw [← afterReading_append, ← List.append_assoc]
    exact hleads'

section

variable {r : Regex}
  (hr : ∀ k pre w post m, Leads (.run r :: k) pre w post m → LeadsAfter r k pre w post m)

include hr

/-- The other rounds of a repetition, after a round that has read something. The induction is on
the length of the text. -/
theorem leadsAfter_of_again {g : Bool} {k : List Task} (hk : k.map Task.advance = k)
    {pre w post : Text} {m : Marks} (h : Leads (.again r g .read :: k) pre w post m) :
    LeadsAfter (.rep r 0 none g) k pre w post m := by
  induction hn : w.length using Nat.strong_induction_on generalizing pre w m with
  | _ n ih =>
    subst hn
    rcases (leads_iff_of_expand?_choose rfl).mp h with hmore | hstop
    · refine (hr _ _ _ _ _ hmore).round (by simp) fun u v m' hw hleads => ?_
      by_cases hu : u = []
      · -- a later round that reads nothing is given up
        rw [hu, afterReading_empty] at hleads
        obtain ⟨c, hc, -⟩ := (leads_iff_of_expand? rfl).mp hleads
        cases hc
      · have hshort : v.length < w.length := by
          have hpos : 0 < u.length := List.length_pos_iff.mpr hu
          rw [hw, List.length_append]
          omega
        rw [afterReading_again hu, afterReading_of_ne hu, hk] at hleads
        rw [afterReading_of_ne hu, hk]
        exact ih _ hshort hleads rfl
    · exact leadsAfter_stop (.inl rfl) hstop

/-- The rounds of a repetition, the first of which may read nothing. -/
theorem leadsAfter_of_first {least : Nat} (hleast : least ≤ 1) {g : Bool} {k : List Task}
    {pre w post : Text} {m : Marks} (h : Leads (.run r :: .again r g .first :: k) pre w post m) :
    LeadsAfter (.rep r least none g) k pre w post m := by
  refine (hr _ _ _ _ _ h).round (by simp) fun u v m' hw hleads => ?_
  have hzero : least - 1 = 0 := by omega
  rw [hzero]
  by_cases hu : u = []
  · -- a first round that reads nothing ends the repetition
    rw [hu, afterReading_empty, List.append_nil] at hleads ⊢
    obtain ⟨m'', hstop, rfl⟩ := (leads_iff_of_expand?_single rfl).mp hleads
    rw [List.append_nil]
    exact leadsAfter_stop (.inl rfl) hstop
  · rw [afterReading_again hu] at hleads
    refine leadsAfter_of_again hr ?_ hleads
    rw [afterReading_of_ne hu, List.map_map]
    exact List.map_congr_left fun t _ => advance_advance t

/-- Repetitions without an upper bound. The induction is on the rounds that have to be made. -/
theorem leadsAfter_unbounded {least : Nat} {g : Bool} {k : List Task} {pre w post : Text}
    {m : Marks} (h : Leads (.run (.rep r least none g) :: k) pre w post m) :
    LeadsAfter (.rep r least none g) k pre w post m := by
  induction least generalizing k pre w m with
  | zero =>
      rcases (leads_iff_of_expand?_choose rfl).mp h with hmore | hstop
      · exact leadsAfter_of_first hr (by omega) hmore
      · exact leadsAfter_stop (.inl rfl) hstop
  | succ n ih =>
      cases n with
      | zero =>
          obtain ⟨m', hfirst, rfl⟩ := (leads_iff_of_expand?_single rfl).mp h
          rw [List.append_nil]
          exact leadsAfter_of_first hr (by omega) hfirst
      | succ n =>
          obtain ⟨m', hround, rfl⟩ := (leads_iff_of_expand?_single rfl).mp h
          rw [List.append_nil]
          refine (hr _ _ _ _ _ hround).round (by simp) fun u v m' hw hleads => ?_
          rw [afterReading_run] at hleads
          exact ih hleads

/-- Repetitions with an upper bound. The induction is on the rounds that can be made. -/
theorem leadsAfter_bounded {most least : Nat} {g : Bool} {k : List Task} {pre w post : Text}
    {m : Marks} (h : Leads (.run (.rep r least (some most) g) :: k) pre w post m) :
    LeadsAfter (.rep r least (some most) g) k pre w post m := by
  induction most generalizing least k pre w m with
  | zero =>
      obtain ⟨m', hleads, rfl⟩ :=
        (leads_iff_of_expand?_single (expand?_rep_zero _ r least g k)).mp h
      rw [List.append_nil]
      exact leadsAfter_stop (.inr rfl) hleads
  | succ most ih =>
      have hround : ∀ {least : Nat} {m : Marks},
          Leads (.run r :: .run (.rep r (least - 1) (some most) g) :: k) pre w post m →
          LeadsAfter (.rep r least (some (most + 1)) g) k pre w post m := by
        intro least m h
        refine (hr _ _ _ _ _ h).round (by simp) fun u v m' hw hleads => ?_
        rw [afterReading_run] at hleads
        exact ih hleads
      match least with
      | 0 =>
          rcases (leads_iff_of_expand?_choose rfl).mp h with hmore | hstop
          · exact hround hmore
          · exact leadsAfter_stop (.inl rfl) hstop
      | 1 =>
          obtain ⟨m', hmore, rfl⟩ := (leads_iff_of_expand?_single rfl).mp h
          rw [List.append_nil]
          exact hround hmore
      | n + 2 =>
          obtain ⟨m', hmore, rfl⟩ := (leads_iff_of_expand?_single rfl).mp h
          rw [List.append_nil]
          exact hround hmore

end

/-- **Running an expression is matching it.** The induction is on the expression. -/
theorem leadsAfter_of_leads (r : Regex) (k : List Task) (pre w post : Text) (m : Marks)
    (h : Leads (.run r :: k) pre w post m) : LeadsAfter r k pre w post m := by
  induction r generalizing k pre w post m with
  | empty =>
      obtain ⟨m', hleads, rfl⟩ := (leads_iff_of_expand?_single rfl).mp h
      exact ⟨[], w, [], m', rfl, rfl, .empty _ _, by rwa [List.append_nil]⟩
  | char s =>
      obtain ⟨c, v, rfl, hs, hleads⟩ := leads_char.mp h
      refine ⟨[c], v, [], m, rfl, (List.append_nil m).symm, .char hs _ _, ?_⟩
      rwa [afterReading_of_ne (by simp)]
  | assert a =>
      obtain ⟨c, hc, m', hleads, rfl⟩ := (leads_iff_of_expand? rfl).mp h
      split at hc
      · next ha =>
          rw [List.mem_singleton] at hc
          subst hc
          refine ⟨[], w, [], m', rfl, rfl, .assert ha, ?_⟩
          rwa [List.append_nil]
      · cases hc
  | seq r s ihr ihs =>
      obtain ⟨m', hleads, rfl⟩ := (leads_iff_of_expand?_single rfl).mp h
      obtain ⟨u, v, m₁, m₂, rfl, rfl, hspans, hleads⟩ := ihr _ _ _ _ _ hleads
      rw [afterReading_run] at hleads
      obtain ⟨u', v', m₁', m₂', rfl, rfl, hspans', hleads'⟩ := ihs _ _ _ _ _ hleads
      refine ⟨u ++ u', v', m₁' ++ m₁, m₂', by rw [List.append_assoc], by simp, ?_, ?_⟩
      · rw [List.append_assoc] at hspans
        exact .seq hspans hspans'
      · rw [← afterReading_append, ← List.append_assoc]
        exact hleads'
  | alt r s ihr ihs =>
      obtain ⟨c, hc, m', hleads, rfl⟩ := (leads_iff_of_expand? rfl).mp h
      simp only [List.mem_cons, List.not_mem_nil, or_false] at hc
      rcases hc with rfl | rfl
      · obtain ⟨u, v, m₁, m₂, hw, rfl, hspans, hleads⟩ := ihr _ _ _ _ _ hleads
        exact ⟨u, v, m₁, m₂, hw, List.append_nil _, .altLeft hspans, hleads⟩
      · obtain ⟨u, v, m₁, m₂, hw, rfl, hspans, hleads⟩ := ihs _ _ _ _ _ hleads
        exact ⟨u, v, m₁, m₂, hw, List.append_nil _, .altRight hspans, hleads⟩
  | rep r least most g ihr =>
      cases most with
      | none => exact leadsAfter_unbounded ihr h
      | some most => exact leadsAfter_bounded ihr h
  | group i name r ihr =>
      obtain ⟨m', hleads, rfl⟩ := (leads_iff_of_expand?_single rfl).mp h
      obtain ⟨u, v, m₁, m₂, rfl, rfl, hspans, hleads⟩ := ihr _ _ _ _ _ hleads
      rw [afterReading_mark] at hleads
      obtain ⟨m'', hrest, rfl⟩ := (leads_iff_of_expand?_single rfl).mp hleads
      exact ⟨u, v, _, m'', rfl, by simp [placeAt], .group hspans, hrest⟩

/-! ## Matches can be run -/

/-- The tasks lead through the text with some marks. -/
def Reaches (ts : List Task) (pre w post : Text) : Prop := ∃ m, Leads ts pre w post m

theorem Reaches.expand {ts : List Task} {pre w post : Text} {bs : List Branch} {c : Branch}
    (h : Reaches c.tasks pre w post)
    (hexp : expand? (placeAt pre (w ++ post)) ⟨ts, []⟩ = some bs) (hc : c ∈ bs) :
    Reaches ts pre w post := by
  obtain ⟨m, hm⟩ := h
  exact ⟨m ++ c.marks, .expand hexp hc hm⟩

theorem Reaches.expand_single {ts ts' : List Task} {pre w post : Text} {m₀ : Marks}
    (h : Reaches ts' pre w post)
    (hexp : expand? (placeAt pre (w ++ post)) ⟨ts, []⟩ = some [⟨ts', m₀⟩]) :
    Reaches ts pre w post :=
  Reaches.expand (c := ⟨ts', m₀⟩) h hexp List.mem_cons_self

/-- The preferred way and the other one both count. -/
theorem reaches_choose {ts more stop : List Task} {pre w post : Text} {g : Bool}
    (hexp : expand? (placeAt pre (w ++ post)) ⟨ts, []⟩ = some (choose g ⟨more, []⟩ ⟨stop, []⟩)) :
    Reaches ts pre w post ↔ Reaches more pre w post ∨ Reaches stop pre w post := by
  simp only [Reaches, leads_iff_of_expand?_choose hexp, exists_or]

/-- Rounds of `r` that all read something. -/
inductive Rounds (r : Regex) : (pre w post : Text) → Prop
  | nil (pre post : Text) : Rounds r pre [] post
  | cons {pre u v post : Text} {m : Marks} (hu : u ≠ []) (hr : Spans r pre u (v ++ post) m)
    (hrest : Rounds r (pre ++ u) v post) : Rounds r pre (u ++ v) post

/-- A repetition can do without the rounds that read nothing. -/
theorem Spans.rounds {r : Regex} {least : Nat} {most : Option Nat} {g : Bool} {pre w post : Text}
    {m : Marks} (h : Spans (.rep r least most g) pre w post m) : Rounds r pre w post := by
  generalize hx : Regex.rep r least most g = x at h
  induction h generalizing least most with
  | stop h pre post => exact .nil pre post
  | @round r' least' most' g' pre u v post m m' hmost hr hrest _ ih =>
      cases hx
      by_cases hu : u = []
      · -- this round is left out
        have hrounds := ih rfl
        rw [hu, List.append_nil] at hrounds
        rwa [hu]
      · exact .cons hu hr (ih rfl)
  | _ => cases hx

section

variable {r : Regex}
  (hr : ∀ k pre u v post m, Spans r pre u (v ++ post) m →
    Reaches (afterReading u k) (pre ++ u) v post → Reaches (.run r :: k) pre (u ++ v) post)

include hr

theorem reaches_again {g : Bool} {k : List Task} (hk : k.map Task.advance = k)
    {pre u v post post' : Text} (h : Rounds r pre u post') (hpost : post' = v ++ post)
    (hreach : Reaches k (pre ++ u) v post) :
    Reaches (.again r g .read :: k) pre (u ++ v) post := by
  induction h with
  | nil pre post' =>
      rw [List.append_nil] at hreach
      exact (reaches_choose rfl).mpr (.inr hreach)
  | @cons pre u₁ u₂ post' m hu hspans hrounds ih =>
      rw [← List.append_assoc] at hreach
      have hagain := ih hpost hreach
      refine (reaches_choose rfl).mpr (.inl ?_)
      rw [List.append_assoc]
      rw [hpost, ← List.append_assoc] at hspans
      refine hr _ _ _ _ _ _ hspans ?_
      rwa [afterReading_again hu, afterReading_of_ne hu, hk]

theorem reaches_first {g : Bool} {k : List Task} {pre u v post : Text} (hu : u ≠ [])
    (h : Rounds r pre u (v ++ post)) (hreach : Reaches (afterReading u k) (pre ++ u) v post) :
    Reaches (.run r :: .again r g .first :: k) pre (u ++ v) post := by
  cases h with
  | nil => exact absurd rfl hu
  | @cons _ u₁ u₂ _ m hu₁ hspans hrounds =>
      have hk : (afterReading u₁ k).map Task.advance = afterReading u₁ k := by
        rw [afterReading_of_ne hu₁, List.map_map]
        exact List.map_congr_left fun t _ => advance_advance t
      have hsame : afterReading (u₁ ++ u₂) k = afterReading u₁ k := by
        rw [afterReading_of_ne hu, afterReading_of_ne hu₁]
      rw [hsame, ← List.append_assoc] at hreach
      rw [List.append_assoc]
      rw [← List.append_assoc] at hspans
      refine hr _ _ _ _ _ _ hspans ?_
      rw [afterReading_again hu₁]
      exact reaches_again hr hk hrounds rfl hreach

theorem reaches_unbounded {least : Nat} {g : Bool} {k : List Task} {pre u v post : Text} {m : Marks}
    (h : Spans (.rep r least none g) pre u (v ++ post) m)
    (hreach : Reaches (afterReading u k) (pre ++ u) v post) :
    Reaches (.run (.rep r least none g) :: k) pre (u ++ v) post := by
  induction least generalizing k pre u m with
  | zero =>
      by_cases hu : u = []
      · -- no round at all will do, whatever the rounds of the match are
        subst hu
        rw [List.append_nil] at hreach
        exact (reaches_choose rfl).mpr (.inr hreach)
      · exact (reaches_choose rfl).mpr (.inl (reaches_first hr hu h.rounds hreach))
  | succ n ih =>
      cases n with
      | zero =>
          by_cases hu : u = []
          · -- the round that has to be made reads nothing, and no other round is needed
            rcases h.rep_cases with ⟨hstop, -⟩ | ⟨u₁, u₂, m₁, m₂, hw, -, -, hspans, -⟩
            · simp at hstop
            · obtain ⟨rfl, rfl⟩ := List.append_eq_nil_iff.mp (hw.symm.trans hu)
              subst hu
              have hagain : Reaches (.again r g .first :: k) (pre ++ []) v post :=
                hreach.expand_single rfl
              exact (hr _ pre [] v post m₁ hspans hagain).expand_single rfl
          · exact (reaches_first hr hu h.rounds hreach).expand_single rfl
      | succ n =>
          rcases h.rep_cases with ⟨hstop, -⟩ | ⟨u₁, u₂, m₁, m₂, rfl, -, -, hspans, hrest⟩
          · simp at hstop
          · rw [← List.append_assoc, ← afterReading_append] at hreach
            have hmore := ih hrest hreach
            rw [← List.append_assoc] at hspans
            rw [List.append_assoc]
            refine Reaches.expand_single (hr _ _ _ _ _ _ hspans ?_) rfl
            rwa [afterReading_run]

theorem reaches_bounded {most least : Nat} {g : Bool} {k : List Task} {pre u v post : Text}
    {m : Marks} (h : Spans (.rep r least (some most) g) pre u (v ++ post) m)
    (hreach : Reaches (afterReading u k) (pre ++ u) v post) :
    Reaches (.run (.rep r least (some most) g) :: k) pre (u ++ v) post := by
  induction most generalizing least k pre u m with
  | zero =>
      rcases h.rep_cases with ⟨-, rfl, -⟩ | ⟨u₁, u₂, m₁, m₂, -, -, hmost, -⟩
      · rw [List.append_nil] at hreach
        exact hreach.expand_single (expand?_rep_zero _ r least g k)
      · exact absurd rfl hmost
  | succ most ih =>
      rcases h.rep_cases with ⟨hstop, rfl, -⟩ | ⟨u₁, u₂, m₁, m₂, rfl, -, -, hspans, hrest⟩
      · have hleast : least = 0 := by simpa using hstop
        subst hleast
        rw [List.append_nil] at hreach
        exact (reaches_choose rfl).mpr (.inr hreach)
      · rw [← List.append_assoc, ← afterReading_append] at hreach
        have hmore := ih hrest hreach
        rw [← List.append_assoc] at hspans
        have hround : Reaches (.run r :: .run (.rep r (least - 1) (some most) g) :: k) pre
            (u₁ ++ (u₂ ++ v)) post := by
          refine hr _ _ _ _ _ _ hspans ?_
          rwa [afterReading_run]
        rw [List.append_assoc]
        match least with
        | 0 => exact (reaches_choose rfl).mpr (.inl hround)
        | 1 => exact hround.expand_single rfl
        | n + 2 => exact hround.expand_single rfl

end

/-- **Matching can be run.** The induction is on the expression. -/
theorem reaches_of_spans (r : Regex) (k : List Task) (pre u v post : Text) (m : Marks)
    (h : Spans r pre u (v ++ post) m) (hreach : Reaches (afterReading u k) (pre ++ u) v post) :
    Reaches (.run r :: k) pre (u ++ v) post := by
  induction r generalizing k pre u v post m with
  | empty =>
      cases h
      rw [List.append_nil] at hreach
      exact hreach.expand_single rfl
  | char s =>
      cases h with
      | char hs =>
        obtain ⟨m, hleads⟩ := hreach
        rw [afterReading_of_ne (by simp)] at hleads
        exact ⟨m, .read hs hleads⟩
  | assert a =>
      cases h with
      | assert ha =>
        rw [List.append_nil] at hreach
        have hexp : expand? (placeAt pre ([] ++ (v ++ post))) ⟨.run (.assert a) :: k, []⟩ =
            some [⟨k, []⟩] := congrArg some (if_pos ha)
        exact hreach.expand_single hexp
  | seq r s ihr ihs =>
      cases h with
      | @seq _ _ _ u₁ u₂ _ m₁ m₂ hr hs =>
        rw [← List.append_assoc, ← afterReading_append] at hreach
        have hsecond := ihs _ _ _ _ _ _ hs hreach
        rw [← List.append_assoc] at hr
        rw [List.append_assoc]
        refine Reaches.expand_single (ihr _ _ _ _ _ _ hr ?_) rfl
        rwa [afterReading_run]
  | alt r s ihr ihs =>
      cases h with
      | altLeft h =>
        exact Reaches.expand (c := ⟨.run r :: k, []⟩) (ihr _ _ _ _ _ _ h hreach) rfl (by simp)
      | altRight h =>
        exact Reaches.expand (c := ⟨.run s :: k, []⟩) (ihs _ _ _ _ _ _ h hreach) rfl (by simp)
  | rep r least most g ihr =>
      cases most with
      | none => exact reaches_unbounded ihr h hreach
      | some most => exact reaches_bounded ihr h hreach
  | group i name r ihr =>
      cases h with
      | group h =>
        refine Reaches.expand_single (ihr (.mark (2 * i + 1) :: k) _ _ _ _ _ h ?_) rfl
        rw [afterReading_mark]
        exact hreach.expand_single rfl

/-! ## Whole matches -/

/-- In the text `t` after `pre` the expression has a match that makes the marks `m`. -/
def HasMatch (r : Regex) (pre t : Text) (m : Marks) : Prop :=
  ∃ u w post m', t = u ++ w ++ post ∧ Spans r (pre ++ u) w post m' ∧
    m = (1, (pre ++ u ++ w).length) :: m' ++ [(0, (pre ++ u).length)]

theorem HasMatch.cons {r : Regex} {pre t : Text} {m : Marks} {c : Char}
    (h : HasMatch r (pre ++ [c]) t m) : HasMatch r pre (c :: t) m := by
  obtain ⟨u, w, post, m', rfl, hspans, hm⟩ := h
  have hpre : pre ++ [c] ++ u = pre ++ c :: u := by simp
  rw [hpre] at hspans hm
  exact ⟨c :: u, w, post, m', rfl, hspans, hm⟩

theorem hasMatch_of_matchAt {r : Regex} {pre t : Text} {m : Marks}
    (h : matchAt r pre.length pre.getLast? t = some m) : HasMatch r pre t m := by
  rcases leads_of_follow h with ⟨b, hb, w, post, m', ht, hleads, hm⟩ | hfound
  · rw [List.mem_singleton] at hb
    subst hb
    obtain ⟨u, v, m₁, m₂, rfl, rfl, hspans, hrest⟩ := leadsAfter_of_leads _ _ _ _ _ _ hleads
    -- after the match only its end is left to be noted
    rw [afterReading_mark, afterReading_nil] at hrest
    obtain ⟨m₃, hnil, rfl⟩ := (leads_iff_of_expand?_single rfl).mp hrest
    obtain ⟨rfl, rfl⟩ := leads_nil.mp hnil
    refine ⟨[], u, post, m₁, by rw [ht, List.append_nil, List.nil_append], ?_, ?_⟩
    · rwa [List.append_nil]
    · rw [List.append_nil]
      exact hm
  · cases hfound

theorem isSome_matchAt {r : Regex} {pre w post : Text} {m : Marks} (h : Spans r pre w post m) :
    (matchAt r pre.length pre.getLast? (w ++ post)).isSome = true := by
  have hmark : Reaches (afterReading w [.mark 1]) (pre ++ w) [] post := by
    rw [afterReading_mark, afterReading_nil]
    exact Reaches.expand_single ⟨[], .done _ _⟩ rfl
  obtain ⟨m', hleads⟩ := reaches_of_spans r [.mark 1] pre w [] post m h hmark
  exact isSome_follow (by rw [List.append_nil]) List.mem_cons_self hleads

/-- The search goes on behind the next character. -/
theorem searchFrom_cons (r : Regex) (pre : Text) (c : Char) (t : Text) :
    searchFrom r pre.length pre.getLast? (c :: t) =
      (matchAt r pre.length pre.getLast? (c :: t)).or
        (searchFrom r (pre ++ [c]).length (pre ++ [c]).getLast? t) := by
  rw [List.length_append, List.getLast?_concat]
  rfl

/-- The induction is on the text that is searched. -/
theorem hasMatch_of_searchFrom {r : Regex} {pre t : Text} {m : Marks}
    (h : searchFrom r pre.length pre.getLast? t = some m) : HasMatch r pre t m := by
  induction t generalizing pre with
  | nil =>
      rw [searchFrom, Option.or_none] at h
      exact hasMatch_of_matchAt h
  | cons c t ih =>
      rw [searchFrom_cons] at h
      rcases Option.or_eq_some_iff.mp h with hmatch | ⟨-, hrest⟩
      · exact hasMatch_of_matchAt hmatch
      · exact (ih hrest).cons

theorem isSome_searchFrom {r : Regex} {pre u w post : Text} {m : Marks}
    (h : Spans r (pre ++ u) w post m) :
    (searchFrom r pre.length pre.getLast? (u ++ w ++ post)).isSome = true := by
  induction u generalizing pre with
  | nil =>
      rw [List.append_nil] at h
      rw [List.nil_append, searchFrom.eq_def, Option.isSome_or, isSome_matchAt h, Bool.true_or]
  | cons c u ih =>
      have hpre : pre ++ c :: u = pre ++ [c] ++ u := by simp
      rw [hpre] at h
      rw [List.cons_append, List.cons_append, searchFrom_cons, Option.isSome_or, ih h, Bool.or_true]

/-! ## Groups -/

theorem lookup_append {m m' : Marks} (slot : Nat) :
    (m ++ m').lookup slot = (m.lookup slot).or (m'.lookup slot) := by
  induction m with
  | nil => rfl
  | cons a m ih =>
      obtain ⟨i, p⟩ := a
      by_cases h : slot = i
      · simp [h]
      · have hne : (slot == i) = false := by simpa using h
        rw [List.cons_append, List.lookup_cons, List.lookup_cons, hne]
        exact ih

/-- The marks of the whole match are not those of a group. -/
theorem group?_of_whole (a b i : Nat) (m : Marks) (t : Text) :
    Marks.group? ((1, a) :: m ++ [(0, b)]) (i + 1) t = Marks.group? m (i + 1) t := by
  have hslot (slot : Nat) (h : 2 ≤ slot) :
      ((1, a) :: m ++ [(0, b)]).lookup slot = m.lookup slot := by
    have hone : (slot == 1) = false := by simpa using (by omega : slot ≠ 1)
    have hzero : (slot == 0) = false := by simpa using (by omega : slot ≠ 0)
    rw [List.cons_append, List.lookup_cons, hone, lookup_append, List.lookup_cons, hzero]
    exact Option.or_none
  rw [Marks.group?, Marks.group?, hslot _ (by omega), hslot _ (by omega)]

/-- What a group has marked last is not changed by marks before. -/
theorem group?_append {m m' : Marks} {i : Nat} {t v : Text} (h : Marks.group? m i t = some v) :
    Marks.group? (m ++ m') i t = some v := by
  simp only [Marks.group?, lookup_append] at h ⊢
  cases hstart : m.lookup (2 * i) with
  | none => simp [hstart] at h
  | some start =>
      cases hstop : m.lookup (2 * i + 1) with
      | none => simp [hstart, hstop] at h
      | some stop => simpa [hstart, hstop] using h

theorem group?_append_of_none {m m' : Marks} {i : Nat} (hstart : m.lookup (2 * i) = none)
    (hstop : m.lookup (2 * i + 1) = none) (t : Text) :
    Marks.group? (m ++ m') i t = Marks.group? m' i t := by
  simp only [Marks.group?, lookup_append, hstart, hstop, Option.none_or]

/-- A group that has matched `v` gives `v`. -/
theorem group?_group (i : Nat) (pre v post : Text) :
    Marks.group? [(2 * i + 1, (pre ++ v).length), (2 * i, pre.length)] i (pre ++ v ++ post) =
      some v := by
  have hodd : (2 * i == 2 * i + 1) = false := by simp
  simp only [Marks.group?, List.lookup_cons, hodd, beq_self_eq_true]
  simp

/-- **What a search finds is a match**, and the groups are those of its marks. -/
theorem spans_of_search {r : Regex} {t : Text} {gs : List (Option Text)}
    (h : r.search t = some gs) :
    ∃ pre w post m, t = pre ++ w ++ post ∧ Spans r pre w post m ∧
      gs = (List.range r.groupCount).map fun i => Marks.group? m (i + 1) t := by
  obtain ⟨m, hm, rfl⟩ := Option.map_eq_some_iff.mp h
  have hmatch : HasMatch r [] t m := hasMatch_of_searchFrom hm
  obtain ⟨u, w, post, m', ht, hspans, rfl⟩ := hmatch
  refine ⟨u, w, post, m', ht, hspans, List.map_congr_left fun i _ => ?_⟩
  exact group?_of_whole _ _ i m' t

/-- **A search succeeds if the expression matches somewhere**, and only then. -/
theorem isMatch_iff {r : Regex} {t : Text} :
    r.isMatch t = true ↔ ∃ pre w post m, t = pre ++ w ++ post ∧ Spans r pre w post m := by
  constructor
  · intro h
    obtain ⟨gs, hgs⟩ := Option.isSome_iff_exists.mp h
    obtain ⟨pre, w, post, m, ht, hspans, -⟩ := spans_of_search hgs
    exact ⟨pre, w, post, m, ht, hspans⟩
  · rintro ⟨pre, w, post, m, rfl, hspans⟩
    have hstart : Spans r ([] ++ pre) w post m := hspans
    rw [isMatch, search, Option.isSome_map]
    exact isSome_searchFrom hstart

end Storyline.Regex
