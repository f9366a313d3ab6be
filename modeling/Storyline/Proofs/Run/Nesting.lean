import Mathlib.Data.List.Chain
import Mathlib.Data.List.Nodup
import Storyline.Proofs.Run.Script
import Storyline.Proofs.Run.StepList

/-!
# Stories that run on behalf of each other

At every moment of a run the stories in progress form a chain: the first is the story that is run,
each other one is a given story of the one before it, and no path occurs twice (`Runner.Nested`). A
run stops for being cyclic only where such a chain is about to close, and for want of room only
where it is longer than the call stack (`Runner.StopsFor`).

Both are read off what a part of a run leaves (`Runner.Nests`): one lemma for each way to put runs
together, and an induction on the room of the call stack (`Runner.nests_play`). For whole runs this
says that cycles are found exactly (`Runner.run_finds_cycles`).
-/

set_option autoImplicit false

namespace Storyline

variable {κ σ : Type}

/-! ## The graph of given stories -/

namespace Runner

/-- The story that is found under a path. -/
def stored? (r : Runner κ σ) (path : Text) : Option Story :=
  (r.loader path).toOption.bind fun text =>
    (Story.parse r.configuration.keywords path text).toOption

/-- The story that a path stands for in a run of `root`. The path of `root` stands for `root`
itself, whatever the loader has under it. -/
def storyAt (r : Runner κ σ) (root : Story) (path : Text) : Option Story :=
  if path = root.path then some root else r.stored? path

/-- The story under the path `p` lists `q` among its given stories. -/
def Lists (r : Runner κ σ) (root : Story) (p q : Text) : Prop :=
  ∃ s, r.storyAt root p = some s ∧ q ∈ s.givenPaths

/-- The story `s` runs on behalf of others, from `root` on. The chain holds the paths of all of
them, the outermost first. -/
inductive Nested (r : Runner κ σ) (root : Story) : List Text → Story → Prop
  | root : Nested r root [root.path] root
  | given {chain : List Text} {s t : Story} (h : Nested r root chain s)
      (hlist : t.path ∈ s.givenPaths) (hnew : t.path ∉ chain)
      (hstored : r.stored? t.path = some t) : Nested r root (chain ++ [t.path]) t

theorem path_of_stored? {r : Runner κ σ} {path : Text} {s : Story} (h : r.stored? path = some s) :
    s.path = path := by
  obtain ⟨text, -, hs⟩ := Option.bind_eq_some_iff.mp h
  cases hp : Story.parse r.configuration.keywords path text with
  | error e => rw [hp] at hs; cases hs
  | ok t =>
      rw [hp] at hs
      cases hs
      exact Story.path_of_parse hp

theorem mem_of_stored? {r : Runner κ σ} {store : StoryStore} (hload : r.loader = store.load)
    {path : Text} {s : Story} (h : r.stored? path = some s) :
    path ∈ store.stories.map (·.1) := by
  obtain ⟨text, htext, -⟩ := Option.bind_eq_some_iff.mp h
  cases hl : r.loader path with
  | error e => rw [hl] at htext; cases htext
  | ok text => exact StoryStore.mem_of_load (hload ▸ hl)

namespace Nested

variable {r : Runner κ σ} {root s : Story} {chain : List Text}

theorem head?_eq (h : r.Nested root chain s) : chain.head? = some root.path := by
  induction h with
  | root => rfl
  | given _ _ _ _ ih => rw [List.head?_append, ih, Option.some_or]

theorem getLast?_eq (h : r.Nested root chain s) : chain.getLast? = some s.path := by
  cases h with
  | root => rfl
  | given _ _ _ _ => exact List.getLast?_concat

theorem nodup (h : r.Nested root chain s) : chain.Nodup := by
  induction h with
  | root => exact List.nodup_singleton _
  | given _ _ hnew _ ih =>
      rw [← List.concat_eq_append]
      exact ih.concat hnew

/-- The innermost story is the one that its path stands for. -/
theorem storyAt_eq (h : r.Nested root chain s) : r.storyAt root s.path = some s := by
  cases h with
  | root => exact if_pos rfl
  | given h _ hnew hstored =>
      rw [storyAt, if_neg, hstored]
      intro he
      rw [he] at hnew
      exact hnew (List.mem_of_head? h.head?_eq)

theorem isChain_concat (h : r.Nested root chain s) (hchain : chain.IsChain (r.Lists root))
    {path : Text} (hlist : path ∈ s.givenPaths) : (chain ++ [path]).IsChain (r.Lists root) := by
  refine List.isChain_append.mpr ⟨hchain, List.isChain_singleton _, ?_⟩
  rw [h.getLast?_eq]
  rintro p ⟨⟩ q ⟨⟩
  exact ⟨s, h.storyAt_eq, hlist⟩

/-- Every given story is listed by the one before it. -/
theorem isChain (h : r.Nested root chain s) : chain.IsChain (r.Lists root) := by
  induction h with
  | root => exact List.isChain_singleton _
  | given h hlist _ _ ih => exact h.isChain_concat ih hlist

/-- All stories but the first come from the loader. -/
theorem stored (h : r.Nested root chain s) : ∀ p ∈ chain.tail, ∃ t, r.stored? p = some t := by
  induction h with
  | root => simp
  | given h _ _ hstored ih =>
      have hne : _ ≠ [] := List.ne_nil_of_mem (List.mem_of_head? h.head?_eq)
      rw [List.tail_append_of_ne_nil hne]
      intro p hp
      rcases List.mem_append.mp hp with hp | hp
      · exact ih p hp
      · rw [List.mem_singleton.mp hp]
        exact ⟨_, hstored⟩

end Nested

/-- Why a run of `root` stops that has room for `room` stories at once. -/
inductive StopsFor (r : Runner κ σ) (root : Story) (room : Nat) : Halt RunError → Prop
  | load (e : LoadError) : StopsFor r root room (.failure (.load e))
  | parse (path : Text) (e : StoryError) : StopsFor r root room (.failure (.parse path e))
  | step (c : StepCause) : StopsFor r root room (.failure (.step c))
  /-- The innermost story lists one that is in progress. -/
  | cyclic {chain : List Text} {s : Story} {path : Text} (h : r.Nested root chain s)
      (hlist : path ∈ s.givenPaths) (hmem : path ∈ chain) :
      StopsFor r root room (.failure (.cyclic path (chain ++ [path])))
  /-- There is no room for the innermost story. -/
  | overflow {chain : List Text} {s : Story} (h : r.Nested root chain s)
      (hlong : room < chain.length) : StopsFor r root room .overflow

end Runner

/-! ## Paths in progress -/

/-- The paths of the stories in progress after an event, the outermost first. -/
def Event.followPath (paths : List Text) : Event → List Text
  | beforeStory path _ => paths ++ [path]
  | afterStory _ => paths.dropLast
  | _ => paths

/-- The paths of the stories in progress after events. -/
def pathsInProgress (paths : List Text) (es : List Event) : List Text :=
  es.foldl Event.followPath paths

theorem pathsInProgress_append (paths : List Text) (es fs : List Event) :
    pathsInProgress paths (es ++ fs) = pathsInProgress (pathsInProgress paths es) fs :=
  List.foldl_append

/-- At every moment of the events the paths in progress have a property. -/
def Always (P : List Text → Prop) (paths : List Text) (es : List Event) : Prop :=
  ∀ fs, fs <+: es → P (pathsInProgress paths fs)

section

variable {P : List Text → Prop} {paths : List Text} {e : Event} {es fs : List Event}

theorem Always.start (h : Always P paths es) : P paths := h [] List.nil_prefix

theorem always_nil : Always P paths [] ↔ P paths := by
  refine ⟨Always.start, fun h fs hfs => ?_⟩
  rw [List.prefix_nil.mp hfs]
  exact h

theorem always_cons :
    Always P paths (e :: es) ↔ P paths ∧ Always P (e.followPath paths) es := by
  constructor
  · intro h
    exact ⟨h.start, fun fs hfs => h (e :: fs) (List.cons_prefix_cons.mpr ⟨rfl, hfs⟩)⟩
  · rintro ⟨hstart, h⟩ fs hfs
    rcases List.prefix_cons_iff.mp hfs with rfl | ⟨gs, rfl, hgs⟩
    · exact hstart
    · exact h gs hgs

theorem always_append :
    Always P paths (es ++ fs) ↔ Always P paths es ∧ Always P (pathsInProgress paths es) fs := by
  induction es generalizing paths with
  | nil => exact ⟨fun h => ⟨always_nil.mpr h.start, h⟩, And.right⟩
  | cons e es ih => rw [List.cons_append, always_cons, always_cons, ih, and_assoc]; rfl

/-- Events that neither start nor end a story. -/
theorem always_of_followPath (h : P paths) (hes : ∀ e ∈ es, e.followPath paths = paths) :
    Always P paths es ∧ pathsInProgress paths es = paths := by
  induction es with
  | nil => exact ⟨always_nil.mpr h, rfl⟩
  | cons e es ih =>
      obtain ⟨he, hrest⟩ := List.forall_mem_cons.mp hes
      obtain ⟨hall, hend⟩ := ih hrest
      refine ⟨always_cons.mpr ⟨h, ?_⟩, ?_⟩
      · rw [he]
        exact hall
      · show pathsInProgress (e.followPath paths) es = paths
        rw [he]
        exact hend

/-- A story that is told to its end leaves those around it in progress. -/
theorem always_story {path : Text} (embedded : Bool) (h : P paths)
    (hes : Always P (paths ++ [path]) es)
    (hend : pathsInProgress (paths ++ [path]) es = paths ++ [path]) :
    Always P paths (.beforeStory path embedded :: (es ++ [.afterStory embedded])) ∧
      pathsInProgress paths (.beforeStory path embedded :: (es ++ [.afterStory embedded])) =
        paths := by
  have hfirst : (Event.beforeStory path embedded).followPath paths = paths ++ [path] := rfl
  have hlast : (Event.afterStory embedded).followPath (paths ++ [path]) = paths :=
    List.dropLast_concat
  constructor
  · rw [always_cons, hfirst, always_append, hend, always_cons, hlast]
    exact ⟨h, hes, hend ▸ hes es (List.prefix_refl es), always_nil.mpr h⟩
  · rw [pathsInProgress, List.foldl_cons, hfirst, ← pathsInProgress, pathsInProgress_append, hend]
    exact hlast

end

/-! ## Parts of a run -/

namespace Runner

/-- No story is in progress, or those in progress run on behalf of each other. -/
def InChain (r : Runner κ σ) (root : Story) (paths : List Text) : Prop :=
  paths = [] ∨ ∃ s, r.Nested root paths s

theorem InChain.nodup {r : Runner κ σ} {root : Story} {paths : List Text}
    (h : r.InChain root paths) : paths.Nodup := by
  rcases h with rfl | ⟨s, h⟩
  · exact List.nodup_nil
  · exact h.nodup

variable {α β : Type}

/-- What a part of a run leaves that starts while the stories with the given paths are in progress:
they form a chain all the time, the stories that start within the part end there unless it stops,
and there is a reason why it stops. -/
structure Nests (r : Runner κ σ) (root : Story) (room : Nat) (paths : List Text)
    (o : Outcome (Entry κ σ) σ RunError α) : Prop where
  always : Always (r.InChain root) paths (Entry.eventsOf o.trace)
  back : ∀ a, o.result = .ok a → pathsInProgress paths (Entry.eventsOf o.trace) = paths
  stops : ∀ h, o.result = .error h → r.StopsFor root room h

section

variable {r : Runner κ σ} {root s : Story} {room : Nat} {paths : List Text}

/-- A part in which no story starts or ends, and which does not stop. -/
theorem nests_of_followPath {o : Outcome (Entry κ σ) σ RunError α} {a : α}
    (h : r.InChain root paths) (ho : o.result = .ok a)
    (hes : ∀ e ∈ Entry.eventsOf o.trace, e.followPath paths = paths) :
    r.Nests root room paths o := by
  obtain ⟨hall, hend⟩ := always_of_followPath h hes
  refine ⟨hall, fun _ _ => hend, fun e he => ?_⟩
  rw [ho] at he
  cases he

theorem nests_pure (h : r.InChain root paths) (a : α) (w : σ) :
    r.Nests root room paths ((pure a : StoryRun κ σ α) w) :=
  nests_of_followPath h rfl (by simp [Entry.eventsOf])

/-- A part that stops at once and only logs something before. -/
theorem nests_halt {h : Halt RunError} (hp : r.InChain root paths) (hh : r.StopsFor root room h)
    (ls : List Log.Record) (w : σ) :
    r.Nests root room paths (⟨ls.map .record, w, .error h⟩ : Outcome _ σ RunError α) where
  always := by
    rw [Entry.eventsOf_records]
    exact always_nil.mpr hp
  back _ ha := by cases ha
  stops _ he := by
    cases he
    exact hh

theorem Nests.bind {x : StoryRun κ σ α} {f : α → StoryRun κ σ β} {w : σ}
    (hx : r.Nests root room paths (x w)) (hf : ∀ a w, r.Nests root room paths (f a w)) :
    r.Nests root room paths ((x >>= f) w) := by
  cases hres : (x w).result with
  | error h =>
      rw [Run.bind_of_error hres]
      refine ⟨hx.always, fun _ ha => ?_, fun e he => ?_⟩
      · cases ha
      · cases he
        exact hx.stops _ hres
  | ok a =>
      obtain ⟨halways, hback, hstops⟩ := hf a (x w).world
      have hend := hx.back a hres
      rw [Run.bind_of_ok hres]
      refine ⟨?_, fun b hb => ?_, hstops⟩
      · rw [Entry.eventsOf_append, always_append, hend]
        exact ⟨hx.always, halways⟩
      · rw [Entry.eventsOf_append, pathsInProgress_append, hend]
        exact hback b hb

theorem partRules_nests (h : r.InChain root paths) :
    PartRules (fun _ (x : StoryRun κ σ Unit) => ∀ w, r.Nests root room paths (x w))
      (fun _ f => ∀ st w, r.Nests root room paths (f st w)) where
  done := nests_pure h ()
  report {e} he w := by
    refine nests_of_followPath h rfl fun e' he' => ?_
    rw [List.mem_singleton.mp he']
    cases e <;> first | rfl | cases he
  andThen hx hy w := (hx w).bind fun _ => hy
  keep st := nests_pure h st
  before hx hf st w := (hx w).bind fun _ => hf st
  bind hf hg st w := (hf st w).bind hg
  steps r lines st w := by
    obtain ⟨rs, hl⟩ := r.exists_stepsLeave st lines w
    obtain ⟨st', hok, -⟩ := hl.result_eq
    refine nests_of_followPath h hok fun e he => ?_
    rw [hl.events_eq] at he
    obtain ⟨q, -, rfl⟩ := List.mem_map.mp he
    rfl

/-! ## Whole stories -/

/-- A story is in progress from its first event to its last. -/
theorem nests_tell {enter : Text → StoryRun κ σ Unit} (houter : r.InChain root paths)
    (hs : r.Nested root (paths ++ [s.path]) s)
    (henter : ∀ path ∈ s.givenPaths, ∀ w, r.Nests root room (paths ++ [s.path]) (enter path w))
    (embedded : Bool) (w : σ) : r.Nests root room paths (r.tell enter embedded s w) := by
  have hparts := (partRules_nests (.inr ⟨s, hs⟩)).parts r (fun _ => {}) s henter
    { policy := r.configuration.policy } w
  simp only [tell, StoryRun.debug_bind, StoryRun.report_bind]
  cases hres : (r.parts enter { policy := r.configuration.policy } s w).result with
  | error h =>
      rw [Run.bind_of_error hres]
      refine ⟨always_cons.mpr ⟨houter, hparts.always⟩, fun _ ha => ?_, fun e he => ?_⟩
      · cases ha
      · cases he
        exact hparts.stops _ hres
  | ok st =>
      obtain ⟨hall, hend⟩ := always_story embedded houter hparts.always (hparts.back st hres)
      rw [Run.bind_of_ok hres]
      refine ⟨?_, fun _ _ => ?_, fun e he => by cases he⟩
      · simp only [Entry.eventsOf_record, Entry.eventsOf_event, Entry.eventsOf_append]
        exact hall
      · simp only [Entry.eventsOf_record, Entry.eventsOf_event, Entry.eventsOf_append]
        exact hend

theorem nests_conclude (h : r.InChain root paths) (path : Text) (st : RunState) (w : σ) :
    r.Nests root room paths ((conclude path st : StoryRun κ σ Unit) w) := by
  unfold conclude
  cases st.cause with
  | none => exact nests_pure h () w
  | some c =>
      cases st.strategy with
      | silent => exact nests_pure h () w
      | log => exact nests_of_followPath h rfl (by simp [Entry.eventsOf, Entry.event?])
      | rethrow => exact nests_halt h (.step c) [] w

/-- Loading and reading a story, and then what is done with it. -/
theorem nests_define {f : Story → StoryRun κ σ α} {path : Text} (hp : r.InChain root paths)
    (hf : ∀ t, r.stored? path = some t → ∀ w, r.Nests root room paths (f t w)) (w : σ) :
    r.Nests root room paths ((r.define path >>= f) w) := by
  unfold define
  cases hl : r.loader path with
  | error e => exact nests_halt hp (.load e) [] w
  | ok text =>
      unfold read
      cases hparse : Story.parse r.configuration.keywords path text with
      | error e =>
          simp only [hparse]
          exact nests_halt hp (.parse path e) (Story.parseRecords (.error e)) w
      | ok t =>
          have hstored : r.stored? path = some t := by
            simp [stored?, hl, hparse, Except.toOption]
          simp only [hparse]
          obtain ⟨halways, hback, hstops⟩ := hf t hstored w
          exact ⟨halways, hback, hstops⟩

/-- Entering a given story of the innermost one: it closes the chain, or makes it longer. -/
theorem nests_enter {run : Story → StoryRun κ σ Unit} {chain : List Text} {path : Text}
    (hs : r.Nested root chain s) (hlist : path ∈ s.givenPaths)
    (hrun : ∀ t, r.Nested root (chain ++ [t.path]) t → ∀ w, r.Nests root room chain (run t w))
    (w : σ) : r.Nests root room chain (r.enter run chain path w) := by
  have hchain : r.InChain root chain := .inr ⟨s, hs⟩
  unfold enter
  by_cases hmem : path ∈ chain
  · rw [if_pos hmem]
    exact nests_halt hchain (.cyclic hs hlist hmem) [] w
  · rw [if_neg hmem]
    have hgiven : ∀ t, r.stored? path = some t → ∀ w, r.Nests root room chain (run t w) := by
      intro t ht
      obtain rfl := path_of_stored? ht
      exact hrun t (.given hs hlist hmem ht)
    obtain ⟨halways, hback, hstops⟩ := nests_define hchain hgiven w
    exact ⟨halways, hback, hstops⟩

end

/-- **The stories in progress form a chain at every moment of a run.** The induction is on the room
of the call stack: what the chain gains in length, the room loses. -/
theorem nests_play (r : Runner κ σ) {root s : Story} {outer : List Text}
    (houter : r.InChain root outer) (hs : r.Nested root (outer ++ [s.path]) s) (room : Nat)
    (embedded : Bool) (w : σ) :
    r.Nests root (outer.length + room) outer (r.play room outer embedded s w) := by
  induction room generalizing outer s embedded w with
  | zero => exact nests_halt houter (.overflow hs (by simp)) [] w
  | succ room ih =>
      have hlength : outer.length + (room + 1) = (outer ++ [s.path]).length + room := by
        rw [List.length_append, List.length_singleton]
        omega
      rw [hlength]
      refine (nests_tell houter hs (fun path hlist w => ?_) embedded w).bind fun st w => ?_
      · exact nests_enter hs hlist (fun t ht w => ih (.inr ⟨s, hs⟩) ht true w) w
      · exact nests_conclude houter s.path st w

theorem nests_run (r : Runner κ σ) (s : Story) (w : σ) :
    r.Nests s r.stack [] (r.run s w) := by
  have h := r.nests_play (.inl rfl) (.root : r.Nested s ([] ++ [s.path]) s) r.stack false w
  rw [List.length_nil, Nat.zero_add] at h
  exact h

/-! ## Cycles -/

/-- A chain whose last element occurs earlier leads from its first element to a cycle. -/
theorem exists_cycle {R : Text → Text → Prop} {first path : Text} {ps : List Text}
    (h : (ps ++ [path]).IsChain R) (hfirst : ps.head? = some first) (hmem : path ∈ ps) :
    Relation.ReflTransGen R first path ∧ Relation.TransGen R path path := by
  obtain ⟨before, after, rfl⟩ := List.append_of_mem hmem
  have htrans : ((before ++ path :: after) ++ [path]).IsChain (Relation.TransGen R) :=
    h.imp fun _ _ => .single
  constructor
  · cases before with
    | nil =>
        cases hfirst
        exact .refl
    | cons b before =>
        cases hfirst
        exact (htrans.rel_cons (by simp)).to_reflTransGen
  · -- the part of the chain between the two occurrences
    rw [List.append_assoc, List.cons_append] at htrans
    exact (htrans.suffix (List.suffix_append _ _)).rel_cons (by simp)

/-- **Cycles are found exactly.** The stories in progress are distinct at every moment of a run. If
the run stops for being cyclic, then the chain that it gives starts with the story itself, goes from
each story to one that it lists, and ends with the first path that occurs again. If no cycle can be
reached from the story, then no run of it stops for that reason, however often a path is listed. -/
theorem run_finds_cycles (r : Runner κ σ) (s : Story) (world : σ) :
    let o := r.run s world
    (∀ es, es <+: Entry.eventsOf o.trace → (pathsInProgress [] es).Nodup) ∧
    (∀ path chain, o.result = .error (.failure (.cyclic path chain)) →
      ∃ running, chain = running ++ [path] ∧ running.head? = some s.path ∧ running.Nodup ∧
        path ∈ running ∧ chain.IsChain (r.Lists s)) ∧
    ((∀ p, Relation.ReflTransGen (r.Lists s) s.path p → ¬ Relation.TransGen (r.Lists s) p p) →
      ∀ path chain, o.result ≠ .error (.failure (.cyclic path chain))) := by
  intro o
  have hnests := r.nests_run s world
  have hcyclic : ∀ path chain, o.result = .error (.failure (.cyclic path chain)) →
      ∃ running, chain = running ++ [path] ∧ running.head? = some s.path ∧ running.Nodup ∧
        path ∈ running ∧ chain.IsChain (r.Lists s) := by
    intro path chain hres
    cases hnests.stops _ hres with
    | cyclic h hlist hmem =>
        exact ⟨_, rfl, h.head?_eq, h.nodup, hmem, h.isChain_concat h.isChain hlist⟩
  refine ⟨fun es hes => (hnests.always es hes).nodup, hcyclic, fun hacyclic path chain hres => ?_⟩
  obtain ⟨running, rfl, hfirst, -, hmem, hchain⟩ := hcyclic path chain hres
  obtain ⟨hreach, hcycle⟩ := exists_cycle hchain hfirst hmem
  exact hacyclic path hreach hcycle

/-- Two given stories share a third one, and one of them is listed twice. -/
theorem run_finds_cycles_diamond :
    let store : StoryStore := { stories := [("a".toList, "GivenStories: c".toList),
      ("b".toList, "GivenStories: c".toList), ("c".toList, [])] }
    let r : Runner Unit Unit :=
      { configuration := {}, collections := [], loader := store.load, stack := 3 }
    let s : Story := { path := "r".toList, givenStories := ["a".toList, "b".toList, "a".toList] }
    (∀ p, Relation.ReflTransGen (r.Lists s) s.path p → ¬ Relation.TransGen (r.Lists s) p p) ∧
      ∀ path chain, (r.run s ()).result ≠ .error (.failure (.cyclic path chain)) := by
  intro store r s
  have ha : r.stored? "a".toList = some { path := "a".toList, givenStories := ["c".toList] } := by
    decide +kernel
  have hb : r.stored? "b".toList = some { path := "b".toList, givenStories := ["c".toList] } := by
    decide +kernel
  have hc : r.stored? "c".toList = some { path := "c".toList } := by decide +kernel
  -- every list leads to paths of a smaller rank
  let rank (p : Text) : Nat := if p = "r".toList then 3 else if p = "c".toList then 1 else 2
  have hrank : ∀ p q, r.Lists s p q → rank q < rank p := by
    rintro p q ⟨t, ht, hq⟩
    unfold storyAt at ht
    split at ht
    · next hp =>
      cases ht
      subst hp
      have hq : q = "a".toList ∨ q = "b".toList ∨ q = "a".toList := by
        simpa [Story.givenPaths, s] using hq
      rcases hq with rfl | rfl | rfl <;> decide
    · have hload : r.loader = store.load := rfl
      have hmem : p ∈ ["a".toList, "b".toList, "c".toList] := mem_of_stored? hload ht
      simp only [List.mem_cons, List.not_mem_nil, or_false] at hmem
      rcases hmem with rfl | rfl | rfl
      · cases ha.symm.trans ht
        have hq : q = "c".toList := by simpa [Story.givenPaths] using hq
        rw [hq]
        decide
      · cases hb.symm.trans ht
        have hq : q = "c".toList := by simpa [Story.givenPaths] using hq
        rw [hq]
        decide
      · cases hc.symm.trans ht
        simp [Story.givenPaths] at hq
  have hdescends : ∀ p q, Relation.TransGen (r.Lists s) p q → rank q < rank p := by
    intro p q h
    induction h with
    | single h => exact hrank _ _ h
    | tail _ h ih => exact (hrank _ _ h).trans ih
  have hacyclic : ∀ p, Relation.ReflTransGen (r.Lists s) s.path p →
      ¬ Relation.TransGen (r.Lists s) p p := fun p _ h => Nat.lt_irrefl _ (hdescends p p h)
  exact ⟨hacyclic, (r.run_finds_cycles s ()).2.2 hacyclic⟩

end Runner

end Storyline
