import Storyline.Proofs.Pattern.Anchor
import Storyline.Proofs.Pattern.Specificity
import Storyline.Proofs.Regex.Counter
import Storyline.Proofs.Step.Ranking

/-!
# One scale for both flavours

The score of a pattern with placeholders counts the characters of its tokens, that of a regular
expression goes over the source and passes over escapes, classes, braces and groups. The tokens of a
pattern can be written as a regular expression, with escaped literals and a capture group for each
placeholder (`transcription`). It is a pattern with as many parameters and the same score, but for
the hints (`ofRegex_transcription`).
-/

set_option autoImplicit false

namespace Storyline.Pattern

open Regex Regex.Reader
open Regex.Counts (Special)
open Specificity (countLiterals)

/-! ## Escaped literals -/

/-- The expressions for text that stands for itself. -/
def characters (l : Text) : List Regex := l.map fun c => .char (.single c)

theorem escape_cons (c : Char) (l : Text) : escape (c :: l) = escape [c] ++ escape l := by
  simp [escape]

theorem head?_escape (l : Text) : (escape l).head? ≠ some '?' := by
  cases l with
  | nil => simp [escape]
  | cons c l =>
      cases hc : isMeta c with
      | true => simp [escape, hc]
      | false =>
          have hne : c ≠ '?' := by
            rintro rfl
            cases hc
          simp [escape, hc, hne]

/-- Escaped text is read as its characters. -/
theorem reads_escape [ClassNames] {s : Reader} (hs : s.flags = {}) (l : Text) :
    Reads s (escape l) (s.pushAll (characters l)) := by
  induction l generalizing s with
  | nil => exact .nil s
  | cons c l ih =>
      rw [escape_cons]
      exact (Reads.escape hs c).append (ih (s := s.push (.char (.single c))) hs) (head?_escape l)

/-- An escaped character is counted: it is no sign of the counter's own, and no letter or digit has
a backslash. -/
theorem counts_escape_char (c : Char) : Counts (.groups 0) (escape [c]) (.groups 0) 1 := by
  have hescaped : ∀ c ∈ "\\.+*?()|[]\x7B\x7D^$#&-~".toList, (!c.isAlphanum) = true :=
    List.all_eq_true.mp (by decide)
  have hspecial : ∀ c ∈ ['\\', '(', ')', '[', '\x7B'], isMeta c = true :=
    List.all_eq_true.mp (by decide)
  have hoperator : ∀ c ∈ ".^$*+?|".toList, isMeta c = true := List.all_eq_true.mp (by decide)
  cases h : isMeta c with
  | true =>
      have hsource : escape [c] = ['\\', c] := by simp [escape, h]
      have hcount := Counts.escape (d := 0) c
      rw [hescaped c (List.contains_iff_mem.mp h)] at hcount
      rwa [hsource]
  | false =>
      have hsource : escape [c] = [c] := by simp [escape, h]
      have hnot : ¬ Special c := fun hc => by
        rw [hspecial c hc] at h
        cases h
      have hcontains : ".^$*+?|".toList.contains c = false := by
        rw [← Bool.not_eq_true, List.contains_iff_mem]
        intro hc
        rw [hoperator c hc] at h
        cases h
      have hcount := Counts.plain (d := 0) hnot
      rw [hcontains] at hcount
      rwa [hsource]

theorem counts_escape (l : Text) : Counts (.groups 0) (escape l) (.groups 0) l.length := by
  induction l with
  | nil => exact .nil _
  | cons c l ih =>
      rw [escape_cons, List.length_cons, Nat.add_comm]
      exact (counts_escape_char c).append ih

/-- Nothing in the group of a placeholder is counted. -/
theorem counts_hint (c : HintClass) :
    Counts (.groups 0) ('(' :: c.source.toList ++ [')']) (.groups 0) 0 := by
  intro t
  cases c <;> simp [HintClass.source, countLiterals]

/-! ## The transcription of tokens -/

/-- The tokens as a regular expression: literals are escaped, and each placeholder is a capture
group around the expression for its hint. -/
def transcription (ts : List Token) : Text := ts.flatMap (Token.sourceWith Regex.escape)

/-- The counter counts the characters of the literals. -/
theorem counts_transcription (ts : List Token) : Counts (.groups 0) (transcription ts) (.groups 0)
    (Specificity.ofTokens ts).literalChars := by
  rw [ofTokens_eq]
  induction ts with
  | nil => exact .nil _
  | cons τ ts ih =>
      cases τ with
      | literal l =>
          -- what is required and the repeated blanks are all characters of the literal
          have hlength := length_squeeze_add false l
          have hcount : l.length + (required ts + repeatedBlanks ts) =
              required (.literal l :: ts) + repeatedBlanks (.literal l :: ts) := by
            rw [required, repeatedBlanks]
            omega
          have happend := (counts_escape l).append ih
          rwa [hcount] at happend
      | placeholder p =>
          have happend := (counts_hint (HintClass.ofHint p.hint)).append ih
          rwa [Nat.zero_add] at happend

theorem countLiterals_transcription (ts : List Token) :
    countLiterals (.groups 0) (transcription ts) = (Specificity.ofTokens ts).literalChars := by
  have hcounts := counts_transcription ts []
  rwa [List.append_nil] at hcounts

/-- The expression that the tokens write. -/
def transcriptionRegex (ts : List Token) : Regex := seqOf (regexesWith characters 1 ts)

theorem reads_transcription [ClassNames] (ts : List Token) : Reads {} (transcription ts)
    (pushAll { next := 1 + placeholderCount ts } (regexesWith characters 1 ts)) := by
  have hreads := reads_sourceWith (s := {}) head?_escape (fun _ => reads_escape) rfl ts
  rw [pushAll_eq] at hreads ⊢
  exact hreads

theorem parse?_transcription [ClassNames] (ts : List Token) :
    parse? (transcription ts) = some (transcriptionRegex ts) :=
  parse?_of_reads (reads_transcription ts)

/-- A bracket after the transcription is a stray one, since all groups are closed. -/
theorem not_endsInComment_transcription [ClassNames] (ts : List Token) :
    ¬ EndsInComment (transcription ts) := by
  rintro ⟨-, hsome⟩
  obtain ⟨n, hn, hrun⟩ :=
    reads_transcription ts (transcription ts ++ [')']).length [')'] (Nat.le_refl _) (by simp)
  obtain ⟨n, rfl⟩ : ∃ k, n = k + 1 := Nat.exists_eq_succ_of_ne_zero (Nat.ne_zero_of_lt hn)
  have hstuck (s : Reader) (hs : s.stack = []) (hflags : s.flags = {}) :
      run (n + 1) s [')'] = none := by
    obtain ⟨flags, current, stack, names, next⟩ := s
    subst hs hflags
    rfl
  rw [parse?, hrun, hstuck _ (by rw [pushAll_eq]) (by rw [pushAll_eq])] at hsome
  cases hsome

theorem groupCount_transcriptionRegex (ts : List Token) :
    (transcriptionRegex ts).groupCount = placeholderCount ts := by
  have hcharacters (l : Text) : (characters l).flatMap Regex.groups = [] := by
    simp [characters, List.flatMap_map, Regex.groups]
  refine groupCount_of_groups ?_
  rw [transcriptionRegex, groups_seqOf, groups_regexesWith hcharacters]

/-- **Both flavours are scored on one scale.** The tokens of a pattern with placeholders, written as
a regular expression, give a pattern with as many parameters and the same score, but for the hints.
So of two definitions with one priority that with placeholders never ranks below the other. -/
theorem ofRegex_transcription [ClassNames] {source : Text} {ts : List Token}
    (h : lex source = .ok ts) :
    ∃ p q, ofPlaceholders source = .ok p ∧ ofRegex (transcription ts) = .ok q ∧
      q.params.length = p.params.length ∧
      q.specificity = { p.specificity with typedPlaceholders := 0 } ∧
      p.specificity.compare q.specificity ≠ .lt ∧
      ∀ n, ¬ Rank.Below ⟨n, p.specificity⟩ ⟨n, q.specificity⟩ := by
  have hparse := parse?_anchored (parse?_transcription ts) (not_endsInComment_transcription ts)
  have hcount :
      (anchoredRegex (transcriptionRegex ts)).groupNames.length = placeholderCount ts := by
    rw [groupNames_anchoredRegex, groupNames, List.length_map, List.length_range,
      groupCount_transcriptionRegex]
  obtain ⟨q, hq, hparams, hspecificity⟩ : ∃ q, ofRegex (transcription ts) = .ok q ∧
      q.params.length = placeholderCount ts ∧
      q.specificity = .ofRegex (transcription ts) (placeholderCount ts) := by
    simp only [ofRegex, hparse, List.length_map, hcount]
    exact ⟨_, rfl, (List.length_map _).trans hcount, rfl⟩
  have hscore : q.specificity = { Specificity.ofTokens ts with typedPlaceholders := 0 } := by
    rw [hspecificity, Specificity.ofRegex, countLiterals_transcription, ofTokens_eq]
  -- the counts that decide first are equal, and the last one is not greater
  have hbelow (n : Int) : ¬ Rank.Below ⟨n, Specificity.ofTokens ts⟩ ⟨n, q.specificity⟩ := by
    rw [hscore, Rank.Below]
    dsimp only
    omega
  have hcompare : (Specificity.ofTokens ts).compare q.specificity ≠ .lt := by
    intro hlt
    exact hbelow 0 (Rank.compare_eq_lt.mp (by simpa [Rank.compare] using hlt))
  exact ⟨ofTokens source ts, q, ofPlaceholders_of_lex h, hq, hparams, hscore, hcompare, hbelow⟩

/-- A pattern with a number, a bracket and a text without hint. -/
theorem ofRegex_transcription_brackets :
    ∃ p q, ofPlaceholders "(set) $n:u8 = $x".toList = .ok p ∧
      ofRegex "\\(set\\) (\\d+) = (.+?)".toList = .ok q ∧ q.params.length = p.params.length ∧
      p.specificity = ⟨9, 2, 1⟩ ∧ q.specificity = ⟨9, 2, 0⟩ ∧
      ¬ Rank.Below ⟨0, p.specificity⟩ ⟨0, q.specificity⟩ := by
  have hlex : lex "(set) $n:u8 = $x".toList = .ok [.literal "(set) ".toList,
      .placeholder ⟨['n'], some "u8".toList⟩, .literal " = ".toList,
      .placeholder ⟨['x'], none⟩] := by
    simp [lex, scan, assemble, flush, takePlaceholder, takeName, takeHint, isNameStart, isNameChar,
      Except.map]
  obtain ⟨p, q, hp, hq, hparams, hscore, -, hbelow⟩ := ofRegex_transcription hlex
  obtain rfl := Except.ok.inj (hp.symm.trans (ofPlaceholders_of_lex hlex))
  exact ⟨_, q, hp, hq, hparams, rfl, hscore, hbelow 0⟩

end Storyline.Pattern
