import Mathlib.Data.List.TakeWhile
import Storyline.Proofs.Regex.Spans

/-!
# Following branches

A list of tasks leads through a text (`Leads`) if some choice of branches does all of them. The
search keeps one branch of those with the same tasks, and yet it finds a way through the text if
there is one (`isSome_follow`), and only such ways (`leads_of_follow`).
-/

set_option autoImplicit false

namespace Storyline.Regex

/-- The place after `pre` and before `rest`. -/
def placeAt (pre rest : Text) : Place := ⟨pre.length, pre.getLast?, rest.head?⟩

/-- The tasks can read `w` between the texts `pre` and `post`, and make the marks `m`, newest
first. -/
inductive Leads : List Task → (pre w post : Text) → Marks → Prop
  | done (pre post : Text) : Leads [] pre [] post []
  | expand {ts : List Task} {pre w post : Text} {bs : List Branch} {c : Branch} {m : Marks}
    (hexp : expand? (placeAt pre (w ++ post)) ⟨ts, []⟩ = some bs) (hc : c ∈ bs)
    (h : Leads c.tasks pre w post m) : Leads ts pre w post (m ++ c.marks)
  | read {s : CharSet} {k : List Task} {c : Char} {pre w post : Text} {m : Marks}
    (hs : s.contains c = true) (h : Leads (k.map Task.advance) (pre ++ [c]) w post m) :
    Leads (.run (.char s) :: k) pre (c :: w) post m

/-! ## Marks come along -/

/-- The branch with the marks `m` before its own. -/
def Branch.over (m : Marks) (b : Branch) : Branch := ⟨b.tasks, b.marks ++ m⟩

/-- What becomes of a branch does not depend on its marks. -/
theorem expand?_over (p : Place) (ts : List Task) (m : Marks) :
    expand? p ⟨ts, m⟩ = (expand? p ⟨ts, []⟩).map (List.map (Branch.over m)) := by
  match ts with
  | [] => rfl
  | .mark slot :: k => rfl
  | .again r g .first :: k => rfl
  | .again r g .later :: k => rfl
  | .again r g .read :: k => cases g <;> rfl
  | .run r :: k =>
    match r with
    | .char _ => rfl
    | .empty => rfl
    | .assert a =>
      simp only [expand?]
      split <;> rfl
    | .seq r s => rfl
    | .alt r s => rfl
    | .group i _ r => rfl
    | .rep r 0 none g => cases g <;> rfl
    | .rep r 1 none g => rfl
    | .rep r (n + 2) none g => rfl
    | .rep r 0 (some 0) g => rfl
    | .rep r (n + 1) (some 0) g => cases n <;> rfl
    | .rep r 0 (some (m + 1)) g => cases g <;> rfl
    | .rep r (n + 1) (some (most + 1)) g => cases n <;> rfl

/-! ## What tasks lead to -/

section

variable {pre w post : Text} {m : Marks} {k : List Task}

theorem leads_nil : Leads [] pre w post m ↔ w = [] ∧ m = [] := by
  constructor
  · intro h
    cases h with
    | done => exact ⟨rfl, rfl⟩
    | expand hexp => cases hexp
  · rintro ⟨rfl, rfl⟩
    exact .done pre post

theorem leads_char {s : CharSet} : Leads (.run (.char s) :: k) pre w post m ↔
    ∃ c v, w = c :: v ∧ s.contains c = true ∧
      Leads (k.map Task.advance) (pre ++ [c]) v post m := by
  constructor
  · intro h
    cases h with
    | expand hexp => cases hexp
    | read hs h => exact ⟨_, _, rfl, hs, h⟩
  · rintro ⟨c, v, rfl, hs, h⟩
    exact .read hs h

/-- Tasks of which the first reads nothing lead where the tasks lead that take their place. -/
theorem leads_iff_of_expand? {ts : List Task} {bs : List Branch}
    (hexp : expand? (placeAt pre (w ++ post)) ⟨ts, []⟩ = some bs) :
    Leads ts pre w post m ↔ ∃ c ∈ bs, ∃ m', Leads c.tasks pre w post m' ∧ m = m' ++ c.marks := by
  constructor
  · intro h
    cases h with
    | done => cases hexp
    | expand hexp' hc h =>
        rw [hexp'] at hexp
        cases hexp
        exact ⟨_, hc, _, h, rfl⟩
    | read => cases hexp
  · rintro ⟨c, hc, m', h, rfl⟩
    exact .expand hexp hc h

/-- Tasks that a single list takes the place of. -/
theorem leads_iff_of_expand?_single {ts ts' : List Task} {m₀ : Marks}
    (hexp : expand? (placeAt pre (w ++ post)) ⟨ts, []⟩ = some [⟨ts', m₀⟩]) :
    Leads ts pre w post m ↔ ∃ m', Leads ts' pre w post m' ∧ m = m' ++ m₀ := by
  rw [leads_iff_of_expand? hexp]
  simp

/-- Tasks that two lists take the place of, in either order. -/
theorem leads_iff_of_expand?_choose {ts more stop : List Task} {g : Bool}
    (hexp : expand? (placeAt pre (w ++ post)) ⟨ts, []⟩ = some (choose g ⟨more, []⟩ ⟨stop, []⟩)) :
    Leads ts pre w post m ↔ Leads more pre w post m ∨ Leads stop pre w post m := by
  rw [leads_iff_of_expand? hexp]
  cases g <;> simp [choose, or_comm]

end

/-! ## Branches at one place -/

/-- A branch that is left has nothing to do, or reads a character next. -/
theorem expand?_eq_none_of_mem_settle {p : Place} {seen : List (List Task)} {bs : List Branch}
    {b : Branch} (h : b ∈ settle p seen bs) : expand? p b = none := by
  fun_induction settle p seen bs with
  | case1 => cases h
  | case2 seen b' bs hseen ih => exact ih h
  | case3 seen b' bs hseen hexp ih =>
      rcases List.mem_cons.mp h with rfl | h
      · exact hexp
      · exact ih h
  | case4 seen b' bs hseen cs hexp ih => exact ih h

/-- The branches that are left come from the branches before. -/
theorem leads_of_mem_settle {pre w post : Text} {seen : List (List Task)} {bs : List Branch}
    {b : Branch} (h : b ∈ settle (placeAt pre (w ++ post)) seen bs) {m : Marks}
    (hb : Leads b.tasks pre w post m) :
    ∃ a ∈ bs, ∃ m', Leads a.tasks pre w post m' ∧ m ++ b.marks = m' ++ a.marks := by
  fun_induction settle (placeAt pre (w ++ post)) seen bs with
  | case1 => cases h
  | case2 seen b' bs hseen ih =>
      obtain ⟨a, ha, hleads⟩ := ih h
      exact ⟨a, List.mem_cons_of_mem b' ha, hleads⟩
  | case3 seen b' bs hseen hexp ih =>
      rcases List.mem_cons.mp h with rfl | h
      · exact ⟨b, List.mem_cons_self, m, hb, rfl⟩
      · obtain ⟨a, ha, hleads⟩ := ih h
        exact ⟨a, List.mem_cons_of_mem b' ha, hleads⟩
  | case4 seen b' bs hseen cs hexp ih =>
      obtain ⟨a, ha, m', hleads, hmarks⟩ := ih h
      rcases List.mem_append.mp ha with ha | ha
      · -- `a` takes the place of `b'`
        rw [expand?_over, Option.map_eq_some_iff] at hexp
        obtain ⟨cs', hexp', rfl⟩ := hexp
        obtain ⟨c, hc, rfl⟩ := List.mem_map.mp ha
        refine ⟨b', List.mem_cons_self, m' ++ c.marks, .expand hexp' hc hleads, ?_⟩
        rw [hmarks, List.append_assoc]
        rfl
      · exact ⟨a, List.mem_cons_of_mem b' ha, m', hleads, hmarks⟩

/-- A branch that leads somewhere is replaced by one that does, and that has less to unfold. -/
theorem exists_leads_of_expand? {pre w post : Text} {b : Branch} {bs : List Branch}
    (hexp : expand? (placeAt pre (w ++ post)) b = some bs) {m : Marks}
    (hb : Leads b.tasks pre w post m) :
    ∃ c ∈ bs, totalWeight c.tasks < totalWeight b.tasks ∧ ∃ m, Leads c.tasks pre w post m := by
  have hover := expand?_over (placeAt pre (w ++ post)) b.tasks b.marks
  rw [hexp, eq_comm, Option.map_eq_some_iff] at hover
  obtain ⟨cs, hcs, rfl⟩ := hover
  obtain ⟨c, hc, m', hleads, -⟩ := (leads_iff_of_expand? hcs).mp hb
  have hmem : c.over b.marks ∈ cs.map (Branch.over b.marks) := List.mem_map_of_mem hc
  exact ⟨c.over b.marks, hmem, totalWeight_expand? hexp hmem, m', hleads⟩

/-- If a branch leads somewhere, then so does one that is left, unless one that was met before and
has no more to unfold does. -/
theorem exists_mem_settle {pre w post : Text} {seen : List (List Task)} {bs : List Branch}
    {b : Branch} (hmem : b ∈ bs) {m : Marks} (hb : Leads b.tasks pre w post m) :
    (∃ c ∈ settle (placeAt pre (w ++ post)) seen bs, ∃ m, Leads c.tasks pre w post m) ∨
      ∃ ts ∈ seen, totalWeight ts ≤ totalWeight b.tasks ∧ ∃ m, Leads ts pre w post m := by
  fun_induction settle (placeAt pre (w ++ post)) seen bs generalizing b m with
  | case1 => cases hmem
  | case2 seen a bs hseen ih =>
      rcases List.mem_cons.mp hmem with rfl | hmem
      · -- a branch with the same tasks was met before
        exact .inr ⟨b.tasks, by simpa using hseen, Nat.le_refl _, m, hb⟩
      · exact ih hmem hb
  | case3 seen a bs hseen hexp ih =>
      rcases List.mem_cons.mp hmem with rfl | hmem
      · exact .inl ⟨b, List.mem_cons_self, m, hb⟩
      · rcases ih hmem hb with ⟨c, hc, hleads⟩ | ⟨ts, hts, hweight, hleads⟩
        · exact .inl ⟨c, List.mem_cons_of_mem a hc, hleads⟩
        · rcases List.mem_cons.mp hts with rfl | hts
          · exact .inl ⟨a, List.mem_cons_self, hleads⟩
          · exact .inr ⟨ts, hts, hweight, hleads⟩
  | case4 seen a bs hseen cs hexp ih =>
      -- what takes the place of `a` weighs less, so that `a` itself is not met again
      have hfirst : (∃ m, Leads a.tasks pre w post m) →
          (∃ c ∈ settle (placeAt pre (w ++ post)) (a.tasks :: seen) (cs ++ bs),
            ∃ m, Leads c.tasks pre w post m) ∨
          ∃ ts ∈ seen, totalWeight ts ≤ totalWeight a.tasks ∧ ∃ m, Leads ts pre w post m := by
        rintro ⟨m, ha⟩
        obtain ⟨c, hc, hless, m', hleads⟩ := exists_leads_of_expand? hexp ha
        rcases ih (List.mem_append_left bs hc) hleads with hleft | ⟨ts, hts, hweight, hleads⟩
        · exact .inl hleft
        · rcases List.mem_cons.mp hts with rfl | hts
          · omega
          · exact .inr ⟨ts, hts, by omega, hleads⟩
      rcases List.mem_cons.mp hmem with rfl | hmem
      · exact hfirst ⟨m, hb⟩
      · rcases ih (List.mem_append_right cs hmem) hb with hleft | ⟨ts, hts, hweight, hleads⟩
        · exact .inl hleft
        · rcases List.mem_cons.mp hts with rfl | hts
          · -- `b` was left out for the sake of `a`, which leads as far
            rcases hfirst hleads with hleft | ⟨ts, hts, hweight', hleads⟩
            · exact .inl hleft
            · exact .inr ⟨ts, hts, Nat.le_trans hweight' hweight, hleads⟩
          · exact .inr ⟨ts, hts, hweight, hleads⟩

/-- If a branch leads somewhere, then so does one that is left. -/
theorem exists_settled {pre w post : Text} {bs : List Branch} {b : Branch} (hmem : b ∈ bs)
    {m : Marks} (hb : Leads b.tasks pre w post m) :
    ∃ c ∈ settle (placeAt pre (w ++ post)) [] bs, expand? (placeAt pre (w ++ post)) c = none ∧
      ∃ m, Leads c.tasks pre w post m := by
  have hsettle : (∃ c ∈ settle (placeAt pre (w ++ post)) [] bs, ∃ m, Leads c.tasks pre w post m) ∨
      ∃ ts ∈ [], totalWeight ts ≤ totalWeight b.tasks ∧ ∃ m, Leads ts pre w post m :=
    exists_mem_settle hmem hb
  rcases hsettle with ⟨c, hc, hleads⟩ | ⟨ts, hts, -⟩
  · exact ⟨c, hc, expand?_eq_none_of_mem_settle hc, hleads⟩
  · cases hts

/-! ## Branches through the text -/

/-- A branch that reads a character leads on from there. -/
theorem leads_of_read? {b b' : Branch} {c : Char} (hread : b.read? c = some b')
    {pre w post : Text} {m : Marks} (h : Leads b'.tasks (pre ++ [c]) w post m) :
    Leads b.tasks pre (c :: w) post m ∧ b'.marks = b.marks := by
  obtain ⟨tasks, marks⟩ := b
  unfold Branch.read? at hread
  split at hread
  · next s k heq =>
      obtain rfl : tasks = .run (.char s) :: k := heq
      split at hread
      · next hs =>
          cases hread
          exact ⟨.read hs h, rfl⟩
      · cases hread
  · cases hread

/-- A branch that is left is done, or leads on from the next character. -/
theorem isDone_or_read? {b : Branch} {pre w post : Text}
    (hexp : expand? (placeAt pre (w ++ post)) b = none) {m : Marks}
    (hb : Leads b.tasks pre w post m) :
    (b.isDone = true ∧ w = []) ∨ ∃ c v b', w = c :: v ∧ b.read? c = some b' ∧
      Leads b'.tasks (pre ++ [c]) v post m := by
  obtain ⟨tasks, marks⟩ := b
  cases hb with
  | done => exact .inl ⟨rfl, rfl⟩
  | expand hexp' =>
      rw [expand?_over, hexp'] at hexp
      cases hexp
  | read hs h =>
      refine .inr ⟨_, _, ⟨_, marks⟩, rfl, ?_, h⟩
      simp only [Branch.read?, hs, if_true]

theorem isSome_done? {bs : List Branch} {b : Branch} (hb : b ∈ bs) (hdone : b.isDone = true) :
    (done? bs).isSome = true := by
  rw [done?, Option.isSome_map, List.find?_isSome]
  exact ⟨b, hb, hdone⟩

/-- A branch that can read on does so, unless one that is preferred is done. -/
theorem mem_advance_or_isSome_done? {bs : List Branch} {b b' : Branch} {c : Char} (hb : b ∈ bs)
    (hread : b.read? c = some b') : b' ∈ advance c bs ∨ (done? bs).isSome = true := by
  by_cases hdone : ∃ a ∈ bs, a.isDone = true
  · obtain ⟨a, ha, hdone⟩ := hdone
    exact .inr (isSome_done? ha hdone)
  · have hall : bs.takeWhile (!·.isDone) = bs := by
      rw [List.takeWhile_eq_self_iff]
      intro a ha
      cases hd : a.isDone with
      | false => rfl
      | true => exact absurd ⟨a, ha, hd⟩ hdone
    rw [advance, hall]
    exact .inl (List.mem_filterMap.mpr ⟨b, hb, hread⟩)

/-- What is found is found by one of the branches. The induction is on the text. -/
theorem leads_of_follow {pre t : Text} {found : Option Marks} {bs : List Branch} {m : Marks}
    (h : follow pre.length pre.getLast? found bs t = some m) :
    (∃ b ∈ bs, ∃ w post m', t = w ++ post ∧ Leads b.tasks pre w post m' ∧ m = m' ++ b.marks) ∨
      found = some m := by
  -- a branch that is done at this place comes from one of `bs`
  have hhere {pre t : Text} {bs : List Branch} {m : Marks}
      (hdone : done? (settle (placeAt pre t) [] bs) = some m) :
      ∃ b ∈ bs, ∃ m', Leads b.tasks pre [] t m' ∧ m = m' ++ b.marks := by
    obtain ⟨b, hfind, rfl⟩ := Option.map_eq_some_iff.mp hdone
    have hempty : b.isDone = true := List.find?_some hfind
    have htasks : b.tasks = [] := List.isEmpty_iff.mp hempty
    have hb : Leads b.tasks pre [] t [] := by
      rw [htasks]
      exact .done pre t
    obtain ⟨a, ha, m', hleads, hmarks⟩ :=
      leads_of_mem_settle (w := []) (List.mem_of_find?_eq_some hfind) hb
    exact ⟨a, ha, m', hleads, hmarks⟩
  induction t generalizing pre found bs with
  | nil =>
      rcases Option.or_eq_some_iff.mp h with hdone | ⟨-, hfound⟩
      · have hdone : done? (settle (placeAt pre []) [] bs) = some m := hdone
        obtain ⟨b, hb, m', hleads, hm⟩ := hhere hdone
        exact .inl ⟨b, hb, [], [], m', rfl, hleads, hm⟩
      · exact .inr hfound
  | cons c t ih =>
      have hnext : follow (pre ++ [c]).length (pre ++ [c]).getLast?
          ((done? (settle (placeAt pre (c :: t)) [] bs)).or found)
          (advance c (settle (placeAt pre (c :: t)) [] bs)) t = some m := by
        rw [List.length_append, List.getLast?_concat]
        exact h
      rcases ih hnext with ⟨b, hb, w, post, m', ht, hleads, hm⟩ | hfound
      · -- found behind `c`, by a branch that has read `c`
        obtain ⟨a, ha, hread⟩ := List.mem_filterMap.mp hb
        have hmem := (List.takeWhile_subset _) ha
        obtain ⟨hleads', hmarks⟩ := leads_of_read? hread hleads
        rw [ht, ← List.cons_append] at hmem
        obtain ⟨b₀, hb₀, m₀, hleads₀, hm₀⟩ := leads_of_mem_settle hmem hleads'
        exact .inl ⟨b₀, hb₀, c :: w, post, m₀, by rw [ht]; rfl, hleads₀, by rw [hm, hmarks, hm₀]⟩
      · rcases Option.or_eq_some_iff.mp hfound with hdone | ⟨-, hfound⟩
        · obtain ⟨b, hb, m', hleads, hm⟩ := hhere hdone
          exact .inl ⟨b, hb, [], c :: t, m', rfl, hleads, hm⟩
        · exact .inr hfound

theorem isSome_follow_of_found {i : Nat} {before : Option Char} {found : Option Marks}
    (h : found.isSome = true) (bs : List Branch) (t : Text) :
    (follow i before found bs t).isSome = true := by
  induction t generalizing i before found bs with
  | nil => simp [follow, h]
  | cons c t ih => exact ih (by simp [h]) _

/-- If a branch leads somewhere, something is found. The induction is on the text. -/
theorem isSome_follow {pre t w post : Text} (ht : t = w ++ post) {found : Option Marks}
    {bs : List Branch} {b : Branch} (hb : b ∈ bs) {m : Marks}
    (hleads : Leads b.tasks pre w post m) :
    (follow pre.length pre.getLast? found bs t).isSome = true := by
  induction t generalizing pre w found bs b m with
  | nil =>
      obtain ⟨rfl, rfl⟩ := List.append_eq_nil_iff.mp ht.symm
      obtain ⟨a, ha, hexp, m', hleads'⟩ := exists_settled hb hleads
      rcases isDone_or_read? hexp hleads' with ⟨hdone, -⟩ | ⟨c, v, a', hw, -⟩
      · have hfound : (done? (settle (placeAt pre []) [] bs)).isSome = true := isSome_done? ha hdone
        change ((done? (settle (placeAt pre []) [] bs)).or found).isSome = true
        rw [Option.isSome_or, hfound, Bool.true_or]
      · cases hw
  | cons c t ih =>
      change (follow (pre.length + 1) (some c)
        ((done? (settle (placeAt pre (c :: t)) [] bs)).or found)
        (advance c (settle (placeAt pre (c :: t)) [] bs)) t).isSome = true
      have hfound (hdone : (done? (settle (placeAt pre (c :: t)) [] bs)).isSome = true) :
          ((done? (settle (placeAt pre (c :: t)) [] bs)).or found).isSome = true := by
        rw [Option.isSome_or, hdone, Bool.true_or]
      obtain ⟨a, ha, hexp, m', hleads'⟩ := exists_settled hb hleads
      rw [← ht] at ha
      rcases isDone_or_read? hexp hleads' with ⟨hdone, -⟩ | ⟨c', v, a', rfl, hread, hnext⟩
      · exact isSome_follow_of_found (hfound (isSome_done? ha hdone)) _ _
      · obtain ⟨rfl, htail⟩ := List.cons.inj ht
        rcases mem_advance_or_isSome_done? ha hread with hmem | hdone
        · have hrest : (follow (pre ++ [c]).length (pre ++ [c]).getLast?
              ((done? (settle (placeAt pre (c :: t)) [] bs)).or found)
              (advance c (settle (placeAt pre (c :: t)) [] bs)) t).isSome = true :=
            ih htail hmem hnext
          rwa [List.length_append, List.getLast?_concat] at hrest
        · exact isSome_follow_of_found (hfound hdone) _ _

end Storyline.Regex
