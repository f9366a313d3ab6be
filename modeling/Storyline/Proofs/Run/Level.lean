import Storyline.Proofs.Run.Script
import Storyline.Proofs.Run.Verdict

/-!
# Stories inside a story

Events tell which stories are in progress, each with its own results so far (`inProgress`). Two
things are read off them on the way: the results that belong to the outermost story itself
(`ownResults`), and the causes with which given stories fail (`failures`).

A part of a story that ran to its end only adds results to the story, and no given story failed in
it (`Level`). A part that stopped leaves the story in progress, and where it stopped because of a
given story that failed, the last event of that one is the last of all (`Stopped`). `Levels` says
so of every part of a run, and `Runner.tell_cases` of a story up to its last event.
-/

set_option autoImplicit false

namespace Storyline

variable {κ σ : Type}

/-! ## Stories in progress -/

/-- The own results so far of the stories in progress, the innermost story first. -/
abbrev Ledger : Type := List (List StepResult)

namespace Event

/-- The stories in progress after an event. -/
def follow (stories : Ledger) : Event → Ledger
  | beforeStory _ _ => [] :: stories
  | afterStory _ => stories.tail
  | step r =>
    match stories with
    | [] => []
    | rs :: outer => (rs ++ [r]) :: outer
  | _ => stories

/-- The result of an event, if exactly one story is in progress. -/
def own? (stories : Ledger) : Event → Option StepResult
  | step r => if stories.length = 1 then some r else none
  | _ => none

/-- The cause with which a given story fails at its last event. -/
def failure? (policy : ErrorPolicy) (stories : Ledger) : Event → Option StepCause
  | afterStory true => stories.head?.bind fun rs => policy.thrown (verdict rs)
  | _ => none

end Event

/-- The stories in progress after events. -/
def inProgress (stories : Ledger) (es : List Event) : Ledger := es.foldl Event.follow stories

/-- What `f` gives for the events, each with the stories that are in progress before it. -/
def collect {α : Type} (f : Ledger → Event → Option α) (stories : Ledger) : List Event → List α
  | [] => []
  | e :: es => (f stories e).toList ++ collect f (e.follow stories) es

/-- The results that events report while exactly one story is in progress. -/
def ownResults : Ledger → List Event → List StepResult := collect Event.own?

/-- The causes with which given stories fail, in the order of the last events of these stories. -/
def failures (policy : ErrorPolicy) : Ledger → List Event → List StepCause :=
  collect (Event.failure? policy)

theorem inProgress_append (stories : Ledger) (es fs : List Event) :
    inProgress stories (es ++ fs) = inProgress (inProgress stories es) fs := List.foldl_append

theorem collect_append {α : Type} (f : Ledger → Event → Option α) (stories : Ledger)
    (es fs : List Event) :
    collect f stories (es ++ fs) =
      collect f stories es ++ collect f (inProgress stories es) fs := by
  induction es generalizing stories with
  | nil => rfl
  | cons e es ih =>
      rw [List.cons_append, collect, collect, ih, List.append_assoc]
      rfl

theorem failures_append (policy : ErrorPolicy) (stories : Ledger) (es fs : List Event) :
    failures policy stories (es ++ fs) =
      failures policy stories es ++ failures policy (inProgress stories es) fs :=
  collect_append _ stories es fs

/-! ## Events on one level -/

/-- The events add `rs` to the own results of the innermost story in progress, and no given story
fails in them. -/
structure Level (policy : ErrorPolicy) (es : List Event) (rs : List StepResult) : Prop where
  inProgress_eq : ∀ qs outer, inProgress (qs :: outer) es = (qs ++ rs) :: outer
  own_eq : ∀ qs outer, ownResults (qs :: outer) es = if outer = [] then rs else []
  spared : ∀ qs outer, failures policy (qs :: outer) es = []

section

variable {policy : ErrorPolicy} {es fs : List Event} {rs qs : List StepResult}

theorem level_nil : Level policy [] [] where
  inProgress_eq qs outer := by rw [List.append_nil]; rfl
  own_eq qs outer := by split <;> rfl
  spared qs outer := rfl

theorem level_event {e : Event} (he : e.isPlain = true) : Level policy [e] [] := by
  refine ⟨fun qs outer => ?_, fun qs outer => ?_, fun qs outer => ?_⟩
  · rw [List.append_nil]
    cases e <;> first | rfl | cases he
  · rw [ite_self]
    cases e <;> first | rfl | cases he
  · cases e <;> first | rfl | cases he

theorem level_step (r : StepResult) : Level policy [.step r] [r] where
  inProgress_eq qs outer := rfl
  own_eq qs outer := by cases outer <;> simp [ownResults, collect, Event.own?]
  spared qs outer := rfl

theorem Level.append (h : Level policy es rs) (h' : Level policy fs qs) :
    Level policy (es ++ fs) (rs ++ qs) where
  inProgress_eq ps outer := by
    rw [inProgress_append, h.inProgress_eq, h'.inProgress_eq, List.append_assoc]
  own_eq ps outer := by
    rw [ownResults, collect_append, h.inProgress_eq]
    show ownResults _ es ++ ownResults _ fs = _
    rw [h.own_eq, h'.own_eq]
    split <;> rfl
  spared ps outer := by rw [failures_append, h.inProgress_eq, h.spared, h'.spared]; rfl

theorem level_steps (rs : List StepResult) : Level policy (rs.map .step) rs := by
  induction rs with
  | nil => exact level_nil
  | cons r rs ih => exact (level_step r).append ih

/-- **A given story that does not fail** leaves nothing to the story that it runs for. -/
theorem Level.story (h : Level policy es rs) (ht : policy.thrown (verdict rs) = none)
    (path : Text) : Level policy (.beforeStory path true :: es ++ [.afterStory true]) [] where
  inProgress_eq qs outer := by
    rw [List.append_nil, inProgress_append]
    show inProgress (inProgress ([] :: qs :: outer) es) [.afterStory true] = _
    rw [h.inProgress_eq]
    rfl
  own_eq qs outer := by
    -- no result is an own one while two stories are in progress
    rw [ite_self, List.cons_append]
    show ownResults ([] :: qs :: outer) (es ++ [.afterStory true]) = _
    rw [ownResults, collect_append]
    show ownResults _ es ++ [] = _
    rw [h.own_eq, if_neg (by simp)]
    rfl
  spared qs outer := by
    rw [List.cons_append]
    show failures policy ([] :: qs :: outer) (es ++ [.afterStory true]) = _
    rw [failures_append, h.spared, h.inProgress_eq]
    show (policy.thrown (verdict rs)).toList ++ [] = _
    rw [ht]
    rfl

/-- Nothing is in progress after a story was told up to its last event. -/
theorem Level.inProgress_told (h : Level policy es rs) (path : Text) (embedded : Bool) :
    inProgress [] (.beforeStory path embedded :: es ++ [.afterStory embedded]) = [] := by
  rw [inProgress_append]
  show inProgress (inProgress [[]] es) [.afterStory embedded] = _
  rw [h.inProgress_eq]
  rfl

theorem Level.ownResults_told (h : Level policy es rs) (path : Text) (embedded : Bool) :
    ownResults [] (.beforeStory path embedded :: es ++ [.afterStory embedded]) = rs := by
  rw [List.cons_append]
  show ownResults [[]] (es ++ [.afterStory embedded]) = rs
  rw [ownResults, collect_append]
  show ownResults [[]] es ++ [] = rs
  rw [h.own_eq, if_pos rfl, List.append_nil]

/-- The story itself is not a given one. -/
theorem Level.failures_told (h : Level policy es rs) (path : Text) :
    failures policy [] (.beforeStory path false :: es ++ [.afterStory false]) = [] := by
  rw [List.cons_append]
  show failures policy [[]] (es ++ [.afterStory false]) = []
  rw [failures_append, h.spared]
  rfl

/-! ## Events of a part that stopped -/

/-- What stops a run is the failure of a given story, which then is the first one and has the last
event of all, or no given story fails. -/
def FailsBy (policy : ErrorPolicy) (stories : Ledger) (es : List Event) :
    Halt RunError → Prop
  | .failure (.step c) => ∃ earlier, es = earlier ++ [.afterStory true] ∧
      failures policy stories earlier = [] ∧ failures policy stories es = [c]
  | _ => failures policy stories es = []

theorem FailsBy.of_ne_step {stories : Ledger} {h : Halt RunError}
    (hes : FailsBy policy stories es h) (hh : ∀ c, h ≠ .failure (.step c)) :
    failures policy stories es = [] := by
  unfold FailsBy at hes
  split at hes
  · exact absurd rfl (hh _)
  · exact hes

theorem FailsBy.append_left {stories : Ledger} {h : Halt RunError}
    (hes : failures policy stories es = [])
    (hfs : FailsBy policy (inProgress stories es) fs h) :
    FailsBy policy stories (es ++ fs) h := by
  have hall : failures policy stories (es ++ fs) =
      failures policy (inProgress stories es) fs := by rw [failures_append, hes]; rfl
  unfold FailsBy at *
  split at hfs
  · obtain ⟨earlier, rfl, hearlier, hc⟩ := hfs
    refine ⟨es ++ earlier, (List.append_assoc ..).symm, ?_, hall.trans hc⟩
    rw [failures_append, hes, hearlier]
    rfl
  · exact hall.trans hfs

/-- The events leave the innermost story in progress, and `h` is what stopped it. -/
structure Stopped (policy : ErrorPolicy) (h : Halt RunError) (es : List Event) : Prop where
  length_lt : ∀ qs outer, outer.length < (inProgress (qs :: outer) es).length
  failsBy : ∀ qs outer, FailsBy policy (qs :: outer) es h

variable {h : Halt RunError}

/-- What stops a run other than a given story that failed. -/
theorem stopped_nil (hh : ∀ c, h ≠ .failure (.step c)) : Stopped policy h [] := by
  refine ⟨fun qs outer => by simp [inProgress], fun qs outer => ?_⟩
  unfold FailsBy
  split
  · exact absurd rfl (hh _)
  · rfl

theorem Level.append_stopped (hes : Level policy es rs) (hfs : Stopped policy h fs) :
    Stopped policy h (es ++ fs) := by
  refine ⟨fun qs outer => ?_, fun qs outer => FailsBy.append_left (hes.spared qs outer) ?_⟩
  · rw [inProgress_append, hes.inProgress_eq]
    exact hfs.length_lt _ outer
  · rw [hes.inProgress_eq]
    exact hfs.failsBy _ outer

/-- A story that stops before its last event stops the story that it runs for. -/
theorem Stopped.story (hes : Stopped policy h es) (path : Text) (embedded : Bool) :
    Stopped policy h (.beforeStory path embedded :: es) := by
  refine ⟨fun qs outer => ?_, fun qs outer => ?_⟩
  · have hlt := hes.length_lt [] (qs :: outer)
    rw [List.length_cons] at hlt
    exact Nat.lt_of_succ_lt hlt
  · show FailsBy policy (qs :: outer) ([.beforeStory path embedded] ++ es) h
    exact FailsBy.append_left rfl (hes.failsBy [] (qs :: outer))

/-- **A given story that fails** stops the story that it runs for with its last event. -/
theorem Level.stopped_story {c : StepCause} (hes : Level policy es rs)
    (ht : policy.thrown (verdict rs) = some c) (path : Text) :
    Stopped policy (.failure (.step c)) (.beforeStory path true :: es ++ [.afterStory true]) := by
  have hspared : ∀ qs outer, failures policy (qs :: outer) (.beforeStory path true :: es) = [] :=
    fun qs outer => hes.spared [] (qs :: outer)
  have hopen : ∀ qs outer, inProgress (qs :: outer) (.beforeStory path true :: es) =
      rs :: qs :: outer := fun qs outer => hes.inProgress_eq [] (qs :: outer)
  refine ⟨fun qs outer => ?_, fun qs outer => ⟨_, rfl, hspared qs outer, ?_⟩⟩
  · rw [inProgress_append, hopen]
    exact Nat.lt_succ_self _
  · rw [failures_append, hspared, hopen]
    show (policy.thrown (verdict rs)).toList ++ [] = [c]
    rw [ht]
    rfl

theorem Stopped.inProgress_ne_nil (hes : Stopped policy h es) (path : Text) (embedded : Bool) :
    inProgress [] (.beforeStory path embedded :: es) ≠ [] := by
  have hlt := hes.length_lt [] []
  exact List.ne_nil_of_length_pos hlt

theorem Stopped.failsBy_alone (hes : Stopped policy h es) (path : Text) (embedded : Bool) :
    FailsBy policy [] (.beforeStory path embedded :: es) h := by
  show FailsBy policy [] ([.beforeStory path embedded] ++ es) h
  exact FailsBy.append_left rfl (hes.failsBy [] [])

end

/-! ## Parts of a story -/

/-- A part of a story that ran to its end stayed on the level of the story, with own results that
`R` relates to what the part gives. A part that stopped left the story in progress. -/
def Levels {α : Type} (policy : ErrorPolicy) (R : α → List StepResult → Prop)
    (o : Outcome (Entry κ σ) σ RunError α) : Prop :=
  match o.result with
  | .ok a => ∃ rs, Level policy (Entry.eventsOf o.trace) rs ∧ R a rs
  | .error h => Stopped policy h (Entry.eventsOf o.trace)

section

variable {α β : Type} {policy : ErrorPolicy}

theorem levels_of_ok {R : α → List StepResult → Prop} {o : Outcome (Entry κ σ) σ RunError α}
    {a : α} {rs : List StepResult} (ho : o.result = .ok a)
    (hl : Level policy (Entry.eventsOf o.trace) rs) (hr : R a rs) : Levels policy R o := by
  unfold Levels
  rw [ho]
  exact ⟨rs, hl, hr⟩

theorem levels_of_error {R : α → List StepResult → Prop} {o : Outcome (Entry κ σ) σ RunError α}
    {h : Halt RunError} (ho : o.result = .error h)
    (hl : Stopped policy h (Entry.eventsOf o.trace)) : Levels policy R o := by
  unfold Levels
  rw [ho]
  exact hl

/-- Own results of one part and then another follow each other. -/
theorem Levels.bind {R : α → List StepResult → Prop} {S : β → List StepResult → Prop}
    {x : StoryRun κ σ α} {f : α → StoryRun κ σ β} {world : σ} (hx : Levels policy R (x world))
    (hf : ∀ a rs w, R a rs → Levels policy (fun b qs => S b (rs ++ qs)) (f a w)) :
    Levels policy S ((x >>= f) world) := by
  cases hres : (x world).result with
  | error h =>
      rw [Levels, hres] at hx
      rw [Run.bind_of_error hres]
      exact hx
  | ok a =>
      rw [Levels, hres] at hx
      obtain ⟨rs, hl, hr⟩ := hx
      have hy := hf a rs (x world).world hr
      rw [Run.bind_of_ok hres]
      cases hres' : (f a (x world).world).result with
      | error h =>
          rw [Levels, hres'] at hy
          refine levels_of_error rfl ?_
          rw [Entry.eventsOf_append]
          exact hl.append_stopped hy
      | ok b =>
          rw [Levels, hres'] at hy
          obtain ⟨qs, hl', hs⟩ := hy
          refine levels_of_ok rfl ?_ hs
          rw [Entry.eventsOf_append]
          exact hl.append hl'

/-- A part without own results. -/
def NoResults (_ : α) (rs : List StepResult) : Prop := rs = []

theorem Levels.bind_keeps {st : RunState} {x : StoryRun κ σ RunState}
    {f : RunState → StoryRun κ σ RunState} {world : σ} (hx : Levels policy (Keeps st) (x world))
    (hf : ∀ st' w, Levels policy (Keeps st') (f st' w)) :
    Levels policy (Keeps st) ((x >>= f) world) := by
  refine hx.bind fun st' rs w hk => ?_
  have hy := hf st' w
  cases hres : (f st' w).result with
  | error h =>
      rw [Levels, hres] at hy
      exact levels_of_error hres hy
  | ok st'' =>
      rw [Levels, hres] at hy
      obtain ⟨qs, hl, hk'⟩ := hy
      exact levels_of_ok hres hl (hk.append hk')

theorem Levels.bind_noResults {S : β → List StepResult → Prop} {x : StoryRun κ σ α}
    {f : α → StoryRun κ σ β} {world : σ} (hx : Levels policy NoResults (x world))
    (hf : ∀ a w, Levels policy S (f a w)) : Levels policy S ((x >>= f) world) := by
  refine hx.bind ?_
  rintro a rs w rfl
  exact hf a w

namespace Runner

variable (r : Runner κ σ)

theorem levels_steps (st : RunState) (lines : List Text) (world : σ) :
    Levels policy (Keeps st) (r.steps st lines world) := by
  obtain ⟨rs, h⟩ := r.exists_stepsLeave st lines world
  obtain ⟨st', hok, hst⟩ := h.result_eq
  refine levels_of_ok hok ?_ ⟨hst, h.graded⟩
  rw [h.events_eq]
  exact level_steps rs

end Runner

theorem partRules_levels :
    PartRules (fun _ (x : StoryRun κ σ Unit) => ∀ w, Levels policy NoResults (x w))
      (fun _ f => ∀ st w, Levels policy (Keeps st) (f st w)) where
  done _ := levels_of_ok rfl level_nil rfl
  report he _ := levels_of_ok rfl (level_event he) rfl
  andThen hx hy w := (hx w).bind_noResults fun _ => hy
  keep st _ := levels_of_ok rfl level_nil (Keeps.refl st)
  before hx hf st w := (hx w).bind_noResults fun _ => hf st
  bind hf hg st w := (hf st w).bind_keeps hg
  steps r lines st w := r.levels_steps st lines w

/-! ## Whole stories -/

namespace Runner

variable (r : Runner κ σ)

section

variable {enter : Text → StoryRun κ σ Unit}

/-- **A story up to its last event.** Either all its parts ran, between its first event and its
last, or it stopped in one of them, and its last event is missing. -/
theorem tell_cases (henter : ∀ path w, Levels policy NoResults (enter path w)) (embedded : Bool)
    (s : Story) (world : σ) :
    (∃ st es rs, (r.tell enter embedded s world).result = .ok st ∧
      Entry.eventsOf (r.tell enter embedded s world).trace =
        .beforeStory s.path embedded :: es ++ [.afterStory embedded] ∧
      Level policy es rs ∧ Keeps { policy := r.configuration.policy } st rs) ∨
    ∃ h es, (r.tell enter embedded s world).result = .error h ∧
      Entry.eventsOf (r.tell enter embedded s world).trace = .beforeStory s.path embedded :: es ∧
      Stopped policy h es := by
  have hp := partRules_levels.parts r (fun _ => {}) s (fun path _ => henter path)
    { policy := r.configuration.policy } world
  simp only [tell, StoryRun.debug_bind, StoryRun.report_bind]
  cases hres : (r.parts enter { policy := r.configuration.policy } s world).result with
  | error h =>
      rw [Levels, hres] at hp
      rw [Run.bind_of_error hres]
      exact .inr ⟨h, _, rfl, rfl, hp⟩
  | ok st =>
      rw [Levels, hres] at hp
      obtain ⟨rs, hl, hk⟩ := hp
      rw [Run.bind_of_ok hres]
      refine .inl ⟨st, _, rs, rfl, ?_, hl, hk⟩
      simp only [Entry.eventsOf_record, Entry.eventsOf_event, Entry.eventsOf_append]
      rfl

/-- **A given story** has no results of the story that it runs for, and if it fails, that story
stops. -/
theorem levels_walk
    (henter : ∀ path w, Levels r.configuration.policy NoResults (enter path w)) (s : Story)
    (world : σ) : Levels r.configuration.policy NoResults (r.walk enter true s world) := by
  rcases r.tell_cases henter true s world with
    ⟨st, es, rs, hres, hes, hl, hk⟩ | ⟨h, es, hres, hes, hs⟩
  · -- the verdict decides, and nothing is reported any more
    have hrun : r.walk enter true s world = _ := Run.bind_of_ok hres (conclude s.path)
    obtain ⟨hresult, hevents, -⟩ :=
      hk.decided.conclude s.path (r.tell enter true s world).world
    have hall : Entry.eventsOf (r.walk enter true s world).trace =
        .beforeStory s.path true :: es ++ [.afterStory true] := by
      rw [hrun, Entry.eventsOf_append, hevents, hes, List.append_nil]
    rw [ErrorPolicy.ending_of_thrown] at hresult
    cases ht : r.configuration.policy.thrown (verdict rs) with
    | none =>
        simp only [ht] at hresult
        refine levels_of_ok ((congrArg Outcome.result hrun).trans hresult) ?_ rfl
        rw [hall]
        exact hl.story ht s.path
    | some c =>
        simp only [ht] at hresult
        refine levels_of_error ((congrArg Outcome.result hrun).trans hresult) ?_
        rw [hall]
        exact hl.stopped_story ht s.path
  · have hrun : r.walk enter true s world = _ := Run.bind_of_error hres (conclude s.path)
    refine levels_of_error (congrArg Outcome.result hrun) ?_
    rw [hrun, hes]
    exact hs.story s.path true

end

/-! ## Given stories -/

theorem levels_enter {run : Story → StoryRun κ σ Unit}
    (hrun : ∀ s w, Levels policy NoResults (run s w)) (chain : List Text) (path : Text)
    (world : σ) : Levels policy NoResults (r.enter run chain path world) := by
  rcases r.enter_cases run (fun _ => {}) chain path with
    ⟨h, ls, hh, -, heq⟩ | ⟨s, ls, -, -, heq⟩
  · rw [heq]
    refine levels_of_error rfl ?_
    rw [Entry.eventsOf_records]
    exact stopped_nil hh
  · have hs := hrun s world
    rw [heq]
    unfold Levels at *
    simp only [Entry.eventsOf_append, Entry.eventsOf_records, List.nil_append]
    exact hs

/-- The induction is on the room of the call stack: a given story has less of it. -/
theorem levels_play (room : Nat) (outer : List Text) (s : Story) (world : σ) :
    Levels r.configuration.policy NoResults (r.play room outer true s world) := by
  induction room generalizing outer s world with
  | zero => exact levels_of_error rfl (stopped_nil fun c heq => by cases heq)
  | succ room ih => exact r.levels_walk (r.levels_enter (ih _) _) s world

end Runner

end

end Storyline
