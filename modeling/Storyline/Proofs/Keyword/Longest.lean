import Mathlib.Data.List.Nodup
import Storyline.Proofs.Keyword

/-!
# The longest literal decides

The markers are the keywords that are not among the `Keyword.labels`. A marker fits a line if its
literal starts the line and, for a word, ends there (`Keywords.Fits`).
In a valid table no two markers with literals of one length fit the same line
(`Keywords.Fits.unique`). So the keyword of a line is the one marker with the longest literal among
those that fit, and it is also found by trying the markers in any order that puts longer literals
first (`Keywords.classify_longest`).
-/

set_option autoImplicit false

namespace Storyline

/-- The size of a text in UTF-8. -/
def Text.bytes (t : Text) : Nat := (toString t).utf8ByteSize

theorem Text.bytes_append (s t : Text) : bytes (s ++ t) = bytes s + bytes t := by
  simp [bytes, Text.toString]

theorem Text.bytes_pos {t : Text} (h : t ≠ []) : 0 < bytes t := by
  refine Nat.pos_of_ne_zero fun hzero => h ?_
  simpa [bytes, Text.toString] using hzero

/-- Of two texts that start the same one, the longer one has more bytes. -/
theorem Text.bytes_lt_of_length_lt {s t line : Text} (hs : s <+: line) (ht : t <+: line)
    (h : s.length < t.length) : bytes s < bytes t := by
  obtain ⟨r, rfl⟩ := List.prefix_of_prefix_length_le hs ht h.le
  have hr : r ≠ [] := by
    rintro rfl
    simp at h
  rw [bytes_append]
  exact Nat.lt_add_of_pos_right (bytes_pos hr)

namespace Keyword

/-- The separators of tables and the labels of reports, which start no line of a story. -/
def labels : List Keyword :=
  [exampleRow, headerSeparator, valueSeparator, ignorableSeparator, pending, notPerformed, failed]

/-- All other keywords are markers. -/
theorem mem_markers_iff {k : Keyword} : k ∈ markers ↔ k ∉ labels := by
  cases k with
  | step s => cases s <;> decide
  | _ => decide

instance (p : Keyword → Prop) [DecidablePred p] : Decidable (∀ k, p k) :=
  decidable_of_iff (∀ k ∈ all, p k) ⟨fun h k => h k (mem_all k), fun h k _ => h k⟩

theorem isWord_iff {k : Keyword} : k.isWord = true ↔ ∃ s, k = .step s := by
  cases k <;> simp [isWord, stepKeyword?]

end Keyword

namespace Keywords

variable {ks : Keywords} {line rest : Text} {j k : Keyword}

/-! ## Valid tables -/

/-- No literal is blank, and the markers have different literals. -/
structure Valid (ks : Keywords) : Prop where
  ne_blank : ∀ k, Text.trim (ks.literal k) ≠ []
  distinct : ∀ j ∉ Keyword.labels, ∀ k ∉ Keyword.labels, ks.literal j = ks.literal k → j = k

theorem Valid.ne_nil (h : ks.Valid) (k : Keyword) : ks.literal k ≠ [] := by
  intro hnil
  exact h.ne_blank k (by rw [hnil]; rfl)

theorem clash?_eq_none_iff {l : List Keyword} :
    ks.clash? l = none ↔ (l.map ks.literal).Nodup := by
  induction l with
  | nil => simp [clash?]
  | cons k l ih =>
      rw [clash?, List.map_cons, List.nodup_cons, ← ih]
      cases hfind : l.find? fun j => ks.literal k == ks.literal j with
      | none =>
          have hnot : ks.literal k ∉ l.map ks.literal := fun hmem => by
            obtain ⟨j, hj, heq⟩ := List.mem_map.mp hmem
            exact List.find?_eq_none.mp hfind j hj (by simp [heq])
          simp [hnot]
      | some j =>
          have heq : ks.literal k = ks.literal j := by simpa using List.find?_some hfind
          have hmem : ks.literal k ∈ l.map ks.literal :=
            heq ▸ List.mem_map_of_mem (List.mem_of_find?_eq_some hfind)
          simp [hmem]

/-- A table is accepted just if it is valid. -/
theorem validate_eq_ok_iff : ks.validate = .ok () ↔ ks.Valid := by
  have hblank : (Keyword.all.find? fun k => (Text.trim (ks.literal k)).isEmpty) = none ↔
      ∀ k, Text.trim (ks.literal k) ≠ [] := by
    simp [List.find?_eq_none, Keyword.mem_all]
  have hclash : ks.clash? Keyword.markers = none ↔
      ∀ j ∉ Keyword.labels, ∀ k ∉ Keyword.labels, ks.literal j = ks.literal k → j = k := by
    rw [clash?_eq_none_iff, List.nodup_map_iff_inj_on (by decide)]
    simp only [Keyword.mem_markers_iff]
  unfold validate
  constructor
  · intro h
    split at h
    · cases h
    · next hnone =>
      split at h
      · cases h
      · next hnoclash => exact ⟨hblank.mp hnone, hclash.mp hnoclash⟩
  · intro h
    rw [hblank.mpr h.ne_blank, hclash.mpr h.distinct]

/-! ## Markers that fit a line -/

/-- The literal of `k` starts the line and, if `k` starts a step, a blank or nothing follows. -/
structure Fits (ks : Keywords) (k : Keyword) (line : Text) : Prop where
  starts : ks.literal k <+: line
  ends : ∀ s, k = .step s → (line.drop (ks.literal k).length).head?.all Unicode.isBlank = true

/-- Only the keywords of steps have to end where a word does. -/
theorem fits_iff : ks.Fits k line ↔ ks.literal k <+: line ∧
    (k.isWord = true → (line.drop (ks.literal k).length).head?.all Unicode.isBlank = true) := by
  constructor
  · intro h
    refine ⟨h.starts, fun hword => ?_⟩
    obtain ⟨s, hs⟩ := Keyword.isWord_iff.mp hword
    exact h.ends s hs
  · rintro ⟨hstarts, hends⟩
    exact ⟨hstarts, fun s hs => hends (Keyword.isWord_iff.mpr ⟨s, hs⟩)⟩

instance (ks : Keywords) (k : Keyword) (line : Text) : Decidable (ks.Fits k line) :=
  decidable_of_iff _ fits_iff.symm

/-- The reader of a line tries the markers that fit and are not empty. -/
theorem rest?_eq_some_iff : ks.rest? k line = some rest ↔ ks.literal k ≠ [] ∧
    ks.Fits k line ∧ rest = Text.trim (line.drop (ks.literal k).length) := by
  by_cases hempty : ks.literal k = []
  · simp [rest?, hempty]
  rw [rest?, if_neg (by simpa using hempty)]
  simp only [ne_eq, hempty, not_false_eq_true, true_and]
  cases hafter : Text.after? (ks.literal k) line with
  | none =>
      have hnot : ¬ ks.Fits k line := fun hfits => by
        obtain ⟨r, hr⟩ := hfits.starts
        rw [Text.after?_eq_some_iff.mpr hr.symm] at hafter
        cases hafter
      simp [hnot]
  | some r =>
      obtain rfl := Text.after?_eq_some_iff.mp hafter
      have hends : ks.Fits k (ks.literal k ++ r) ↔
          (k.isWord = true → r.head?.all Unicode.isBlank = true) := by
        rw [fits_iff, List.drop_left, and_iff_right (List.prefix_append _ _)]
      rw [hends, List.drop_left]
      dsimp only
      by_cases hend : k.isWord = true → r.head?.all Unicode.isBlank = true
      · rw [if_neg (by simpa using hend), Option.some.injEq]
        exact ⟨fun hr => ⟨hend, hr.symm⟩, fun hr => hr.2.symm⟩
      · rw [if_pos (by simpa using hend)]
        constructor
        · intro hnone
          cases hnone
        · intro hr
          exact absurd hr.1 hend

theorem Valid.rest?_eq_some_iff (h : ks.Valid) : ks.rest? k line = some rest ↔
    ks.Fits k line ∧ rest = Text.trim (line.drop (ks.literal k).length) := by
  rw [Keywords.rest?_eq_some_iff, and_iff_right (h.ne_nil k)]

/-- What follows the keyword of a line is the rest of the line. -/
theorem eq_of_classify (h : ks.classify line = some (k, rest)) :
    rest = Text.trim (line.drop (ks.literal k).length) :=
  (rest?_eq_some_iff.mp (classify_spec h).2.1).2.2

theorem Valid.isSome_rest?_iff (h : ks.Valid) :
    (ks.rest? k line).isSome = true ↔ ks.Fits k line := by
  rw [Option.isSome_iff_exists]
  simp only [h.rest?_eq_some_iff, exists_and_left, exists_eq, and_true]

/-- At most one marker of each length fits. -/
theorem Fits.unique (h : ks.Valid) (hj : j ∉ Keyword.labels) (hk : k ∉ Keyword.labels)
    (hfj : ks.Fits j line) (hfk : ks.Fits k line)
    (hlen : (ks.literal j).length = (ks.literal k).length) : j = k := by
  have hle := List.prefix_of_prefix_length_le hfj.starts hfk.starts hlen.le
  exact h.distinct j hj k hk (hle.eq_of_length hlen)

/-- Of the markers that fit, `k` has the longest literal. -/
structure Longest (ks : Keywords) (k : Keyword) (line : Text) : Prop where
  marker : k ∉ Keyword.labels
  fits : ks.Fits k line
  longest : ∀ j ∉ Keyword.labels, ks.Fits j line →
    (ks.literal j).length ≤ (ks.literal k).length

theorem Longest.unique (h : ks.Valid) (hj : ks.Longest j line) (hk : ks.Longest k line) :
    j = k :=
  hj.fits.unique h hj.marker hk.marker hk.fits <|
    Nat.le_antisymm (hk.longest j hj.marker hj.fits) (hj.longest k hk.marker hk.fits)

theorem Valid.longest_of_classify (h : ks.Valid) (hclass : ks.classify line = some (k, rest)) :
    ks.Longest k line ∧ rest = Text.trim (line.drop (ks.literal k).length) := by
  obtain ⟨hmem, hrest, hbest⟩ := classify_spec hclass
  obtain ⟨hfits, rfl⟩ := h.rest?_eq_some_iff.mp hrest
  refine ⟨⟨Keyword.mem_markers_iff.mp hmem, hfits, fun j hj hfj => ?_⟩, rfl⟩
  exact hbest j (Keyword.mem_markers_iff.mpr hj) (h.isSome_rest?_iff.mpr hfj)

theorem Valid.classify_eq_none_iff (h : ks.Valid) :
    ks.classify line = none ↔ ∀ k ∉ Keyword.labels, ¬ ks.Fits k line := by
  rw [← Option.map_eq_none_iff (f := Prod.fst), keyword_classify, best?_eq_none,
    List.filter_eq_nil_iff]
  simp only [h.isSome_rest?_iff, Keyword.mem_markers_iff]

/-- The keyword of a line is the marker with the longest literal among those that fit. -/
theorem Valid.classify_eq_some_iff (h : ks.Valid) :
    ks.classify line = some (k, rest) ↔
      ks.Longest k line ∧ rest = Text.trim (line.drop (ks.literal k).length) := by
  constructor
  · exact h.longest_of_classify
  · rintro ⟨hk, rfl⟩
    cases hclass : ks.classify line with
    | none => exact absurd hk.fits (h.classify_eq_none_iff.mp hclass k hk.marker)
    | some found =>
        obtain ⟨j, rest⟩ := found
        obtain ⟨hj, rfl⟩ := h.longest_of_classify hclass
        rw [hj.unique h hk]

/-! ## Any order by length -/

/-- Trying the markers one after the other, longer literals first, finds the longest one that
fits. -/
theorem Valid.classify_eq_findSome? (h : ks.Valid) {ms : List Keyword}
    (hms : ∀ k, k ∈ ms ↔ k ∉ Keyword.labels)
    (hsorted : ms.Pairwise fun a b => (ks.literal b).bytes ≤ (ks.literal a).bytes) (line : Text) :
    ks.classify line = ms.findSome? fun k => (ks.rest? k line).map (k, ·) := by
  cases hfind : ms.findSome? fun k => (ks.rest? k line).map (k, ·) with
  | none =>
      rw [h.classify_eq_none_iff]
      intro k hk hfits
      have hnone := List.findSome?_eq_none_iff.mp hfind k ((hms k).mpr hk)
      obtain ⟨r, hr⟩ := Option.isSome_iff_exists.mp (h.isSome_rest?_iff.mpr hfits)
      rw [hr] at hnone
      cases hnone
  | some found =>
      obtain ⟨before, k, after, rfl, hk, hbefore⟩ := List.findSome?_eq_some_iff.mp hfind
      obtain ⟨rest, hrest, rfl⟩ := Option.map_eq_some_iff.mp hk
      obtain ⟨hfits, rfl⟩ := h.rest?_eq_some_iff.mp hrest
      have hmem : k ∉ Keyword.labels := (hms k).mp (by simp)
      refine h.classify_eq_some_iff.mpr ⟨⟨hmem, hfits, fun j hj hfj => ?_⟩, rfl⟩
      -- a marker that fits does not come before `k`, and none that comes after it is longer
      rcases List.mem_append.mp ((hms j).mpr hj) with hj' | hj'
      · have hnone := hbefore j hj'
        obtain ⟨r, hr⟩ := Option.isSome_iff_exists.mp (h.isSome_rest?_iff.mpr hfj)
        rw [hr] at hnone
        cases hnone
      · rcases List.mem_cons.mp hj' with rfl | hafter
        · exact le_rfl
        · have hle := (List.pairwise_cons.mp (List.pairwise_append.mp hsorted).2.1).1 j hafter
          by_contra hlt
          have hbytes := Text.bytes_lt_of_length_lt hfits.starts hfj.starts (Nat.lt_of_not_le hlt)
          omega

/-- **The longest literal decides.** In a valid table the keyword of a line is the marker with the
longest literal among those that fit, and a line has no keyword just if none fits. Since at most one
marker of each length fits, nothing depends on the order of equally long literals. A marker never
hides a longer one that fits, and comes into play where the longer ones do not. -/
theorem classify_longest (h : ks.validate = .ok ()) (line : Text) :
    (∀ k rest, ks.classify line = some (k, rest) ↔
      ks.Longest k line ∧ rest = Text.trim (line.drop (ks.literal k).length)) ∧
    (ks.classify line = none ↔ ∀ k ∉ Keyword.labels, ¬ ks.Fits k line) ∧
    (∀ j ∉ Keyword.labels, ∀ k ∉ Keyword.labels, ks.Fits j line → ks.Fits k line →
      (ks.literal j).length = (ks.literal k).length → j = k) ∧
    (∀ ms : List Keyword, (∀ k, k ∈ ms ↔ k ∉ Keyword.labels) →
      (ms.Pairwise fun a b => (ks.literal b).bytes ≤ (ks.literal a).bytes) →
      ks.classify line = ms.findSome? fun k => (ks.rest? k line).map (k, ·)) ∧
    (∀ j ∉ Keyword.labels, ∀ k ∉ Keyword.labels, ks.Fits j line → k ≠ j →
      ks.literal k <+: ks.literal j → ∀ rest, ks.classify line ≠ some (k, rest)) ∧
    ∀ k ∉ Keyword.labels, ks.Fits k line →
      (∀ j ∉ Keyword.labels, (ks.literal k).length < (ks.literal j).length → ¬ ks.Fits j line) →
      ∃ rest, ks.classify line = some (k, rest) := by
  have hv : ks.Valid := validate_eq_ok_iff.mp h
  refine ⟨fun k rest => hv.classify_eq_some_iff, hv.classify_eq_none_iff, ?_, ?_, ?_, ?_⟩
  · intro j hj k hk hfj hfk hlen
    exact hfj.unique hv hj hk hfk hlen
  · intro ms hms hsorted
    exact hv.classify_eq_findSome? hms hsorted line
  · intro j hj k hk hfj hne hshort rest hclass
    have hlongest := (hv.longest_of_classify hclass).1
    have hlen := Nat.le_antisymm hshort.length_le (hlongest.longest j hj hfj)
    exact hne (hlongest.fits.unique hv hk hj hfj hlen)
  · intro k hk hfk hlonger
    have hlongest : ks.Longest k line :=
      ⟨hk, hfk, fun j hj hfj => Nat.le_of_not_lt fun hlt => hlonger j hj hlt hfj⟩
    exact ⟨_, hv.classify_eq_some_iff.mpr ⟨hlongest, rfl⟩⟩

/-- Three markers whose literals continue each other: the longest one does not start the line, the
next one is a word that goes on, and so the shortest one stands. -/
theorem classify_longest_chain :
    let ks := ((Keywords.default.set (.step .given) "Étant".toList).set (.step .action)
      "Étant donné".toList).set .givenStories "Étant donnés:".toList
    let line := "Étant donnée une lampe".toList
    ks.validate = .ok () ∧ ks.literal (.step .action) <+: line ∧
      ¬ ks.Fits (.step .action) line ∧
      ks.classify line = some (.step .given, "donnée une lampe".toList) := by
  intro ks line
  have h : ks.validate = .ok () := by rfl
  have hlongest : ks.Longest (.step .given) line := ⟨by decide, by decide, by decide⟩
  exact ⟨h, by decide, by decide, ((classify_longest h line).1 _ _).mpr ⟨hlongest, by decide⟩⟩

end Keywords

end Storyline
