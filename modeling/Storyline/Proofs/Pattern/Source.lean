import Storyline.Pattern.Basic
import Storyline.Proofs.Regex.Reading

/-!
# The regular expression of a pattern

The text that is made of the tokens of a pattern is always a regular expression, and it is the one
that the tokens suggest: a set for each character, a repetition for each run of blanks, and a
capture group for each placeholder, between the two ends of the text (`parse?_tokensSource`).
-/

set_option autoImplicit false

namespace Storyline

open Regex Regex.Reader

/-- The regular expression for the hints of a class. -/
def HintClass.regex (c : HintClass) : Regex := (Regex.parse? c.source.toList).getD .empty

/-- The sources of all hints are regular expressions. -/
theorem HintClass.parse?_source [ClassNames] (c : HintClass) :
    Regex.parse? c.source.toList = some c.regex := by
  cases c <;> rfl

namespace Pattern

open Unicode (isBlank)

/-! ## The expressions of tokens -/

/-- A run of blanks. -/
def blankRun : Regex := .rep (.char .blank) 1 none true

/-- The expressions for literal text. -/
def literalRegexes (afterBlank : Bool) : Text → List Regex
  | [] => []
  | c :: t =>
    if isBlank c then (if afterBlank then [] else [blankRun]) ++ literalRegexes true t
    else .char (.single c) :: literalRegexes false t

/-- The expressions for tokens, where `next` is the number of the first group. -/
def tokenRegexes (next : Nat) : List Token → List Regex
  | [] => []
  | .literal l :: ts => literalRegexes false l ++ tokenRegexes next ts
  | .placeholder p :: ts =>
    .group next none (HintClass.ofHint p.hint).regex :: tokenRegexes (next + 1) ts

/-- The expression for a list of tokens, which matches whole texts. -/
def tokensRegex (ts : List Token) : Regex :=
  seqOf (.assert .textStart :: (tokenRegexes 1 ts ++ [.assert .textEnd]))

/-! ## Reading literal text -/

variable {s : Reader}

theorem head?_literalSource (b : Bool) (l : Text) : (literalSource b l).head? ≠ some '?' := by
  induction l generalizing b with
  | nil => simp [literalSource]
  | cons c l ih =>
      rw [literalSource]
      cases hc : isBlank c with
      | true => cases b <;> simp [ih]
      | false =>
          cases hm : isMeta c with
          | true => simp [escape, hm]
          | false =>
              have hne : c ≠ '?' := by
                rintro rfl
                cases hm
              simp [escape, hm, hne]

theorem lazySign_of_head? {t : Text} (h : t.head? ≠ some '?') : lazySign t = (false, t) := by
  cases t with
  | nil => rfl
  | cons c t =>
      have hc : c ≠ '?' := by simpa using h
      unfold lazySign
      split
      · next heq => exact absurd (List.cons.inj heq).1 hc
      · rfl

theorem reads_blankRun [ClassNames] (hs : s.flags = {}) :
    Reads s "\\s+".toList (s.push blankRun) := by
  obtain ⟨f, current, stack, names, next⟩ := s
  obtain rfl : f = {} := hs
  have hset : Reads ⟨{}, current, stack, names, next⟩ ['\\', 's']
      (push ⟨{}, current, stack, names, next⟩ (.char .blank)) := .step rfl fun rest _ => rfl
  have hplus : Reads (push ⟨{}, current, stack, names, next⟩ (.char .blank)) ['+']
      (push ⟨{}, current, stack, names, next⟩ blankRun) := by
    refine .step rfl fun rest hrest => ?_
    simp only [step?, List.nil_append, lazySign_of_head? hrest]
    rfl
  change Reads _ (['\\', 's'] ++ ['+']) _
  exact hset.append hplus (by simp)

/-- Literal text is read as its characters and runs of blanks. -/
theorem reads_literal [ClassNames] (hs : s.flags = {}) (b : Bool) (l : Text) :
    Reads s (literalSource b l) (s.pushAll (literalRegexes b l)) := by
  induction l generalizing s b with
  | nil => exact .nil s
  | cons c l ih =>
      rw [literalSource, literalRegexes]
      cases hc : isBlank c with
      | true =>
          cases b with
          | true => exact ih hs true
          | false =>
              exact (reads_blankRun hs).append (ih (s := s.push blankRun) hs true)
                (head?_literalSource true l)
      | false =>
          exact (Reads.escape hs c).append (ih (s := s.push (.char (.single c))) hs false)
            (head?_literalSource false l)

/-! ## Reading placeholders -/

/-- The source of a hint in brackets is read as a group. -/
theorem reads_group [ClassNames] (hs : s.flags = {}) (c : HintClass) :
    Reads s ('(' :: c.source.toList ++ [')'])
      { s.push (.group s.next none c.regex) with next := s.next + 1 } := by
  obtain ⟨f, current, stack, names, next⟩ := s
  obtain rfl : f = {} := hs
  intro n rest hn _
  rw [List.length_append] at hn
  obtain ⟨k, hk, rfl⟩ : ∃ k, rest.length ≤ k ∧
      n = k + ('(' :: c.source.toList ++ [')']).length :=
    ⟨n - ('(' :: c.source.toList ++ [')']).length, by omega, by omega⟩
  -- the number of steps that reading takes is left out of the characters of the source
  cases c with
  | unsigned => exact ⟨k + 1, by omega, rfl⟩
  | signed => exact ⟨k + 4, by omega, rfl⟩
  | float => exact ⟨k + 20, by omega, rfl⟩
  | boolean => exact ⟨k + 3, by omega, rfl⟩
  | word => exact ⟨k + 1, by omega, rfl⟩
  | table => exact ⟨k + 3, by omega, rfl⟩
  | text => exact ⟨k + 1, by omega, rfl⟩

/-! ## Reading tokens -/

/-- The source of a token, with literals written by `write`. -/
def Token.sourceWith (write : Text → Text) : Token → Text
  | literal l => write l
  | placeholder p => '(' :: (hintSource p.hint).toList ++ [')']

theorem Token.source_eq : Token.source = Token.sourceWith (literalSource false) := by
  funext τ
  cases τ <;> rfl

/-- The expressions for tokens, with literals read by `read`. -/
def regexesWith (read : Text → List Regex) (next : Nat) : List Token → List Regex
  | [] => []
  | .literal l :: ts => read l ++ regexesWith read next ts
  | .placeholder p :: ts =>
    .group next none (HintClass.ofHint p.hint).regex :: regexesWith read (next + 1) ts

theorem tokenRegexes_eq (next : Nat) (ts : List Token) :
    tokenRegexes next ts = regexesWith (literalRegexes false) next ts := by
  induction ts generalizing next with
  | nil => rfl
  | cons τ ts ih =>
      cases τ with
      | literal l => rw [tokenRegexes, regexesWith, ih]
      | placeholder p => rw [tokenRegexes, regexesWith, ih]

/-- How many groups the tokens have. -/
def placeholderCount (ts : List Token) : Nat := (ts.filterMap Token.param?).length

section

variable {write : Text → Text} {read : Text → List Regex}

theorem head?_sourceWith (hwrite : ∀ l, (write l).head? ≠ some '?') (ts : List Token) :
    (ts.flatMap (Token.sourceWith write)).head? ≠ some '?' := by
  induction ts with
  | nil => simp
  | cons τ ts ih =>
      rw [List.flatMap_cons, List.head?_append]
      cases τ with
      | placeholder p => simp [Token.sourceWith]
      | literal l =>
          have hhead : (Token.sourceWith write (.literal l)).head? ≠ some '?' := hwrite l
          cases hl : (Token.sourceWith write (.literal l)).head? with
          | none => simpa using ih
          | some c => simpa [hl] using hhead

/-- Tokens are read one after the other, in whichever way their literals are written. -/
theorem reads_sourceWith [ClassNames] (hwrite : ∀ l, (write l).head? ≠ some '?')
    (hread : ∀ s : Reader, s.flags = {} → ∀ l, Reads s (write l) (s.pushAll (read l)))
    (hs : s.flags = {}) (ts : List Token) :
    Reads s (ts.flatMap (Token.sourceWith write))
      { s.pushAll (regexesWith read s.next ts) with next := s.next + placeholderCount ts } := by
  induction ts generalizing s with
  | nil => exact .nil s
  | cons τ ts ih =>
      rw [List.flatMap_cons]
      cases τ with
      | literal l =>
          -- literal text neither opens groups nor sets flags
          have hnext : (s.pushAll (read l)).next = s.next := by rw [pushAll_eq]
          have hflags : (s.pushAll (read l)).flags = {} := by rw [pushAll_eq, hs]
          have hrest := (hread s hs l).append (ih hflags) (head?_sourceWith hwrite ts)
          rw [hnext, ← pushAll_append] at hrest
          exact hrest
      | placeholder p =>
          have hrest := (reads_group hs (HintClass.ofHint p.hint)).append
            (ih (s := { s.push _ with next := s.next + 1 }) hs) (head?_sourceWith hwrite ts)
          have hcount : s.next + 1 + placeholderCount ts =
              s.next + placeholderCount (.placeholder p :: ts) := by
            simp only [placeholderCount, List.filterMap_cons, Token.param?, List.length_cons]
            omega
          rw [hcount, pushAll_eq] at hrest
          rw [regexesWith, pushAll_cons, pushAll_eq]
          exact hrest

end

theorem head?_tokenSource (ts : List Token) : (ts.flatMap Token.source).head? ≠ some '?' := by
  rw [Token.source_eq]
  exact head?_sourceWith (head?_literalSource false) ts

theorem reads_tokens [ClassNames] (hs : s.flags = {}) (ts : List Token) :
    Reads s (ts.flatMap Token.source)
      { s.pushAll (tokenRegexes s.next ts) with next := s.next + placeholderCount ts } := by
  rw [Token.source_eq, tokenRegexes_eq]
  exact reads_sourceWith (head?_literalSource false) (fun _ hs => reads_literal hs false) hs ts

/-- **The source of a list of tokens is a regular expression**, whatever the tokens are. -/
theorem parse?_tokensSource [ClassNames] (ts : List Token) :
    Regex.parse? (tokensSource ts) = some (tokensRegex ts) := by
  have hstart : Reads {} ['^'] (push {} (.assert .textStart)) := .step rfl fun rest _ => rfl
  have htokens := reads_tokens (s := push {} (.assert .textStart)) rfl ts
  have hend : Reads { pushAll (push {} (.assert .textStart)) (tokenRegexes 1 ts) with
        next := 1 + placeholderCount ts } ['$']
      (pushAll { next := 1 + placeholderCount ts }
        (.assert .textStart :: (tokenRegexes 1 ts ++ [.assert .textEnd]))) := by
    refine .step (by rw [pushAll_eq]; rfl) fun rest _ => ?_
    rw [pushAll_eq, pushAll_eq, List.map_cons, List.map_append, List.reverse_cons,
      List.reverse_append, List.append_assoc, List.append_assoc]
    rfl
  exact parse?_of_reads ((hstart.append htokens (head?_tokenSource ts)).append hend (by simp))

/-- The pattern that is made of tokens. -/
def ofTokens (source : Text) (ts : List Token) : Pattern where
  source
  flavour := .placeholders
  expression := tokensSource ts
  regex := tokensRegex ts
  params := ts.filterMap Token.param?
  specificity := .ofTokens ts

theorem ofPlaceholders_of_lex [ClassNames] {source : Text} {ts : List Token}
    (h : lex source = .ok ts) : ofPlaceholders source = .ok (ofTokens source ts) := by
  simp only [ofPlaceholders, h, parse?_tokensSource]
  rfl

end Pattern

end Storyline
