import Storyline.Regex.Basic

/-!
# Searching with regular expressions

`Regex.search` finds the leftmost match of an expression and, among the matches that start there,
the preferred one. The search reads the text once from each starting place and follows all
branches side by side, in order of preference. A branch is what is left to do (`Task`s); of two
branches with the same tasks only the preferred one is kept, which bounds their number.
-/

set_option autoImplicit false

namespace Storyline.Regex

/-- How the latest round of a repetition stands. A round that reads nothing ends the repetition if
it is the first, and is given up otherwise. -/
inductive Round
  /-- The first round, before it has read a character. -/
  | first
  /-- A later round, before it has read a character. -/
  | later
  /-- A round that has read a character. -/
  | read
deriving DecidableEq, Repr

/-- A step that a branch still has to take. -/
inductive Task
  | run (r : Regex)
  /-- Note the place in the slot. -/
  | mark (slot : Nat)
  /-- Go round again, or stop. -/
  | again (r : Regex) (greedy : Bool) (round : Round)
deriving DecidableEq, Repr

/-- The places noted so far, newest first: group `i` starts at slot `2 * i` and ends at the slot
after it. -/
abbrev Marks := List (Nat × Nat)

/-- A way to match the text read so far. -/
structure Branch where
  tasks : List Task
  marks : Marks
deriving DecidableEq, Repr

/-- A place between two characters of a text. -/
structure Place where
  index : Nat
  before : Option Char
  next : Option Char
deriving DecidableEq, Repr

/-! ## Steps that read nothing -/

/-- How much an expression can unfold before it reads a character. -/
def weight : Regex → Nat
  | empty => 1
  | char _ => 1
  | assert _ => 1
  | seq r s => r.weight + s.weight + 1
  | alt r s => r.weight + s.weight + 1
  | rep r least most _ => (r.weight + 2) * (most.getD least + 2)
  | group _ _ r => r.weight + 2

/-- How much a task can unfold before it reads a character. -/
def Task.weight : Task → Nat
  | .run r => r.weight
  | .mark _ => 1
  | .again r _ .read => r.weight + 2
  | .again _ _ _ => 1

/-- How much the tasks of a branch can unfold before it reads a character. -/
def totalWeight : List Task → Nat
  | [] => 0
  | t :: ts => t.weight + totalWeight ts

/-- The two ways on from a choice, the preferred one first. -/
def choose {α : Type} (greedy : Bool) (more stop : α) : List α :=
  if greedy then [more, stop] else [stop, more]

theorem length_choose {α : Type} (g : Bool) (x y : α) : (choose g x y).length = 2 := by
  cases g <;> rfl

theorem eq_or_eq_of_mem_choose {α : Type} {g : Bool} {x y c : α} (h : c ∈ choose g x y) :
    c = x ∨ c = y := by
  cases g <;> grind [choose]

/-- The branches that take the place of one whose next task reads nothing, or `none` if its next
task reads a character or no task is left. -/
def expand? (p : Place) (b : Branch) : Option (List Branch) :=
  match b.tasks with
  | [] => none
  | .mark slot :: k => some [⟨k, (slot, p.index) :: b.marks⟩]
  | .again r g round :: k =>
    match round with
    | .first => some [⟨k, b.marks⟩]
    | .later => some []
    | .read => some (choose g ⟨.run r :: .again r g .later :: k, b.marks⟩ ⟨k, b.marks⟩)
  | .run r :: k =>
    match r with
    | .char _ => none
    | .empty => some [⟨k, b.marks⟩]
    | .assert a => some (if a.holds p.before p.next then [⟨k, b.marks⟩] else [])
    | .seq r s => some [⟨.run r :: .run s :: k, b.marks⟩]
    | .alt r s => some [⟨.run r :: k, b.marks⟩, ⟨.run s :: k, b.marks⟩]
    | .group i _ r =>
      some [⟨.run r :: .mark (2 * i + 1) :: k, (2 * i, p.index) :: b.marks⟩]
    | .rep r 0 none g =>
      some (choose g ⟨.run r :: .again r g .first :: k, b.marks⟩ ⟨k, b.marks⟩)
    | .rep r 1 none g => some [⟨.run r :: .again r g .first :: k, b.marks⟩]
    | .rep r (n + 2) none g => some [⟨.run r :: .run (.rep r (n + 1) none g) :: k, b.marks⟩]
    | .rep _ _ (some 0) _ => some [⟨k, b.marks⟩]
    | .rep r 0 (some (m + 1)) g =>
      some (choose g ⟨.run r :: .run (.rep r 0 (some m) g) :: k, b.marks⟩ ⟨k, b.marks⟩)
    | .rep r (n + 1) (some (m + 1)) g =>
      some [⟨.run r :: .run (.rep r n (some m) g) :: k, b.marks⟩]

theorem weight_pos (r : Regex) : 0 < r.weight := by
  cases r with
  | rep r least most g => exact Nat.mul_pos (by omega) (by omega)
  | _ => simp [weight]

theorem totalWeight_cons (t : Task) (k : List Task) :
    totalWeight (t :: k) = t.weight + totalWeight k := rfl

/-- What one round more adds to the weight of a repetition. -/
theorem weight_round (r : Regex) (n : Nat) :
    (r.weight + 2) * (n + 1 + 2) = (r.weight + 2) * (n + 2) + (r.weight + 2) :=
  Nat.mul_succ _ _

theorem totalWeight_choose {g : Bool} {x y c : Branch} {n : Nat} (hc : c ∈ choose g x y)
    (hx : totalWeight x.tasks < n) (hy : totalWeight y.tasks < n) : totalWeight c.tasks < n := by
  rcases eq_or_eq_of_mem_choose hc with rfl | rfl
  · exact hx
  · exact hy

/-- A repetition that is expanded has less to unfold. -/
theorem totalWeight_expand?_rep {p : Place} {marks : Marks} {k : List Task} {r : Regex}
    {least : Nat} {most : Option Nat} {g : Bool} {bs : List Branch}
    (h : expand? p ⟨.run (.rep r least most g) :: k, marks⟩ = some bs) {c : Branch} (hc : c ∈ bs) :
    totalWeight c.tasks < totalWeight (.run (.rep r least most g) :: k) := by
  cases most with
  | none =>
      match least with
      | 0 =>
          cases h
          refine totalWeight_choose hc ?_ ?_ <;>
          · simp only [totalWeight_cons, Task.weight, weight, Option.getD]
            omega
      | 1 =>
          cases h
          rw [List.mem_singleton.mp hc]
          simp only [totalWeight_cons, Task.weight, weight, Option.getD]
          omega
      | n + 2 =>
          cases h
          rw [List.mem_singleton.mp hc]
          have hround : (r.weight + 2) * (n + 2 + 2) =
              (r.weight + 2) * (n + 1 + 2) + (r.weight + 2) := weight_round r (n + 1)
          simp only [totalWeight_cons, Task.weight, weight, Option.getD]
          omega
  | some most =>
      match least, most with
      | n, 0 =>
          simp only [expand?, Option.some.injEq] at h
          subst h
          rw [List.mem_singleton.mp hc]
          simp only [totalWeight_cons, Task.weight, weight, Option.getD]
          omega
      | 0, m + 1 =>
          cases h
          have hround := weight_round r m
          refine totalWeight_choose hc ?_ ?_ <;>
          · simp only [totalWeight_cons, Task.weight, weight, Option.getD]
            omega
      | n + 1, m + 1 =>
          simp only [expand?, Option.some.injEq] at h
          subst h
          rw [List.mem_singleton.mp hc]
          have hround := weight_round r m
          simp only [totalWeight_cons, Task.weight, weight, Option.getD]
          omega

/-- **Expansion ends.** Every branch that takes the place of another has less to unfold. -/
theorem totalWeight_expand? {p : Place} {b : Branch} {bs : List Branch} (h : expand? p b = some bs)
    {c : Branch} (hc : c ∈ bs) : totalWeight c.tasks < totalWeight b.tasks := by
  obtain ⟨tasks, marks⟩ := b
  match tasks with
  | [] => cases h
  | .mark slot :: k =>
      cases h
      rw [List.mem_singleton.mp hc]
      simp only [totalWeight_cons, Task.weight]
      omega
  | .again r g round :: k =>
      cases round with
      | first =>
          cases h
          rw [List.mem_singleton.mp hc]
          simp only [totalWeight_cons, Task.weight]
          omega
      | later =>
          cases h
          cases hc
      | read =>
          cases h
          refine totalWeight_choose hc ?_ ?_ <;>
          · simp only [totalWeight_cons, Task.weight]
            omega
  | .run r :: k =>
      cases r with
      | char s => cases h
      | empty =>
          cases h
          rw [List.mem_singleton.mp hc]
          simp only [totalWeight_cons, Task.weight, weight]
          omega
      | assert a =>
          cases h
          split at hc
          · rw [List.mem_singleton.mp hc]
            simp only [totalWeight_cons, Task.weight, weight]
            omega
          · cases hc
      | seq r s =>
          cases h
          rw [List.mem_singleton.mp hc]
          simp only [totalWeight_cons, Task.weight, weight]
          omega
      | alt r s =>
          cases h
          -- each branch leaves out the other expression, which weighs something
          have hr := weight_pos r
          have hs := weight_pos s
          simp only [List.mem_cons, List.not_mem_nil, or_false] at hc
          rcases hc with rfl | rfl <;>
          · simp only [totalWeight_cons, Task.weight, weight]
            omega
      | group i name r =>
          cases h
          rw [List.mem_singleton.mp hc]
          simp only [totalWeight_cons, Task.weight, weight]
          omega
      | rep r least most g => exact totalWeight_expand?_rep h hc

theorem length_expand? {p : Place} {b : Branch} {bs : List Branch} (h : expand? p b = some bs) :
    bs.length ≤ 2 := by
  unfold expand? at h
  repeat' split at h
  all_goals grind [length_choose]

/-! ## All branches at one place -/

/-- A measure of all that a branch can unfold. Whatever takes its place is less than a third of it,
twice at most. -/
def Branch.bulk (b : Branch) : Nat := Nat.pow 3 (totalWeight b.tasks)

theorem Branch.bulk_pos (b : Branch) : 0 < b.bulk := Nat.pow_pos (by omega)

/-- A measure of all that a list of branches can unfold. -/
def expansion : List Branch → Nat
  | [] => 0
  | b :: bs => b.bulk + expansion bs

theorem expansion_append (bs cs : List Branch) :
    expansion (bs ++ cs) = expansion bs + expansion cs := by
  induction bs with
  | nil => simp [expansion]
  | cons b bs ih => simp [expansion, ih, Nat.add_assoc]

theorem expansion_expand? {p : Place} {b : Branch} {bs : List Branch} (h : expand? p b = some bs) :
    expansion bs < b.bulk := by
  have small : ∀ c ∈ bs, 3 * c.bulk ≤ b.bulk := by
    intro c hc
    have less : Nat.pow 3 (totalWeight c.tasks + 1) ≤ b.bulk :=
      Nat.pow_le_pow_right (by omega) (totalWeight_expand? h hc)
    have more : Nat.pow 3 (totalWeight c.tasks + 1) = c.bulk * 3 := rfl
    omega
  have length := length_expand? h
  have pos := b.bulk_pos
  match bs with
  | [] => exact pos
  | [c] =>
    have := small c (by simp)
    simp only [expansion]
    omega
  | [c, d] =>
    have := small c (by simp)
    have := small d (by simp)
    simp only [expansion]
    omega
  | _ :: _ :: _ :: _ => simp at length

/-- The branches that are left of `bs` at a place, in order of preference: each is done or reads a
character next. `seen` are the task lists met before. -/
def settle (p : Place) (seen : List (List Task)) : List Branch → List Branch
  | [] => []
  | b :: bs =>
    if seen.contains b.tasks then settle p seen bs
    else match _ : expand? p b with
      | none => b :: settle p (b.tasks :: seen) bs
      | some cs => settle p (b.tasks :: seen) (cs ++ bs)
termination_by bs => expansion bs
decreasing_by
  · have := b.bulk_pos
    simp only [expansion]
    omega
  · have := b.bulk_pos
    simp only [expansion]
    omega
  · have := expansion_expand? ‹_›
    simp only [expansion, expansion_append]
    omega

/-! ## Reading -/

/-- The task after a character was read. -/
def Task.advance : Task → Task
  | .again r g _ => .again r g .read
  | t => t

/-- What is left of a branch that reads `c`. -/
def Branch.read? (c : Char) (b : Branch) : Option Branch :=
  match b.tasks with
  | .run (.char s) :: k => if s.contains c then some ⟨k.map Task.advance, b.marks⟩ else none
  | _ => none

/-- A branch that has nothing left to do has matched. -/
def Branch.isDone (b : Branch) : Bool := b.tasks.isEmpty

/-- The marks of the preferred branch that is done. -/
def done? (bs : List Branch) : Option Marks := (bs.find? (·.isDone)).map (·.marks)

/-- What is left after reading `c` of the branches that no branch that is done beats. -/
def advance (c : Char) (bs : List Branch) : List Branch :=
  (bs.takeWhile (!·.isDone)).filterMap (Branch.read? c)

/-- Follows the branches through the text, which starts at place `i` after the character `before`.
`found` are the marks of a match that the branches beat. -/
def follow (i : Nat) (before : Option Char) (found : Option Marks) (bs : List Branch) :
    Text → Option Marks
  | [] => (done? (settle ⟨i, before, none⟩ [] bs)).or found
  | c :: t =>
    let bs := settle ⟨i, before, some c⟩ [] bs
    follow (i + 1) (some c) ((done? bs).or found) (advance c bs) t

/-- The preferred match that starts at place `i`. -/
def matchAt (r : Regex) (i : Nat) (before : Option Char) (t : Text) : Option Marks :=
  follow i before none [⟨[.run r, .mark 1], [(0, i)]⟩] t

/-- The preferred match at the leftmost place from `i` on. -/
def searchFrom (r : Regex) (i : Nat) (before : Option Char) (t : Text) : Option Marks :=
  (matchAt r i before t).or <|
    match t with
    | [] => none
    | c :: t => searchFrom r (i + 1) (some c) t

/-! ## Results -/

/-- The part of `t` that group `i` matched last, or nothing. -/
def Marks.group? (m : Marks) (i : Nat) (t : Text) : Option Text := do
  let start ← m.lookup (2 * i)
  let stop ← m.lookup (2 * i + 1)
  return (t.drop start).take (stop - start)

/-- Finds the expression in the text and gives what each capture group matched. -/
def search (r : Regex) (t : Text) : Option (List (Option Text)) :=
  (searchFrom r 0 none t).map fun m => (List.range r.groupCount).map fun i => m.group? (i + 1) t

/-- The expression matches somewhere in the text. -/
def isMatch (r : Regex) (t : Text) : Bool := (search r t).isSome

end Storyline.Regex
