import Storyline.Proofs.Pattern.Cut

/-!
# Literal characters that a text must have

A pattern counts all characters of its literals. A text that it describes has them, apart from
blanks that follow another blank, and the values as well (`Cut.required_add_length_le`). How many
characters the literals require can be read off the regular expression of the pattern
(`atLeast_tokensRegex`), so patterns with the same expression differ at most in the blanks that they
count beyond these (`ofTokens_eq_iff`).
-/

set_option autoImplicit false

namespace Storyline

/-! ## Expressions -/

/-- How many characters the parts of a sequence match at least, apart from its groups and
alternatives. -/
def Regex.atLeast : Regex → Nat
  | empty => 0
  | char _ => 1
  | assert _ => 0
  | seq r s => r.atLeast + s.atLeast
  | alt _ _ => 0
  | rep _ least _ _ => least
  | group _ _ _ => 0

theorem Regex.atLeast_seqOf_cons (r : Regex) (rs : List Regex) :
    (seqOf (r :: rs)).atLeast = r.atLeast + (seqOf rs).atLeast := by
  cases rs <;> rfl

namespace Pattern

open Regex
open Unicode (isBlank)

/-! ## Literals -/

/-- How many blanks follow another blank. With `afterBlank` one stands before the text. -/
def blanksAfterBlank (afterBlank : Bool) : Text → Nat
  | [] => 0
  | c :: t => (if isBlank c && afterBlank then 1 else 0) + blanksAfterBlank (isBlank c) t

/-- How many blanks in the literals follow another blank. -/
def repeatedBlanks : List Token → Nat
  | [] => 0
  | .literal l :: ts => blanksAfterBlank false l + repeatedBlanks ts
  | .placeholder _ :: ts => repeatedBlanks ts

/-- How many characters a text has for the literals at least. -/
def required : List Token → Nat
  | [] => 0
  | .literal l :: ts => (squeeze false l).length + required ts
  | .placeholder _ :: ts => required ts

theorem length_squeeze_add (b : Bool) (l : Text) :
    (squeeze b l).length + blanksAfterBlank b l = l.length := by
  induction l generalizing b with
  | nil => rfl
  | cons c l ih =>
      have hrest := ih (isBlank c)
      cases hc : isBlank c with
      | false =>
          rw [hc] at hrest
          simp only [squeeze, blanksAfterBlank, hc, List.length_cons]
          simp
          omega
      | true =>
          rw [hc] at hrest
          cases b <;> simp [squeeze, blanksAfterBlank, hc] <;> omega

theorem foldl_count (s : Specificity) (ts : List Token) : ts.foldl .count s =
    ⟨s.literalChars + (required ts + repeatedBlanks ts), s.placeholders + placeholderCount ts,
      s.typedPlaceholders + (ts.filterMap Token.param?).countP fun p => p.hint.isSome⟩ := by
  induction ts generalizing s with
  | nil => rfl
  | cons τ ts ih =>
      rw [List.foldl_cons, ih]
      cases τ with
      | literal l =>
          have hl := length_squeeze_add false l
          simp only [Specificity.count, required, repeatedBlanks, placeholderCount,
            List.filterMap_cons, Token.param?, Specificity.mk.injEq, and_self, and_true]
          omega
      | placeholder p =>
          obtain ⟨name, hint⟩ := p
          cases hint <;>
            simp [Specificity.count, required, repeatedBlanks, placeholderCount, Token.param?] <;>
            omega

/-- What is counted of the tokens. -/
theorem ofTokens_eq (ts : List Token) : Specificity.ofTokens ts =
    ⟨required ts + repeatedBlanks ts, placeholderCount ts,
      (ts.filterMap Token.param?).countP fun p => p.hint.isSome⟩ := by
  rw [Specificity.ofTokens, foldl_count]
  simp only [Nat.zero_add]

/-- A text has the characters that the literals require beside those of the values. -/
theorem Cut.required_add_length_le {ts : List Token} {vs : List Text} {t : Text}
    (h : Cut ts vs t) : required ts + vs.flatten.length ≤ t.length := by
  induction h with
  | nil => exact Nat.le_refl 0
  | @literal l w ts vs t hl _ ih =>
      have hw := length_squeeze_add false w
      rw [hl] at hw
      rw [required, List.length_append]
      omega
  | placeholder _ _ ih =>
      rw [required, List.flatten_cons, List.length_append, List.length_append]
      omega

/-! ## Patterns with the same expression -/

theorem atLeast_literalRegexes (b : Bool) (l : Text) (rs : List Regex) :
    (seqOf (literalRegexes b l ++ rs)).atLeast = (squeeze b l).length + (seqOf rs).atLeast := by
  induction l generalizing b with
  | nil => exact (Nat.zero_add _).symm
  | cons c l ih =>
      rw [literalRegexes, squeeze]
      cases hc : isBlank c with
      | false =>
          rw [if_neg Bool.false_ne_true, if_neg Bool.false_ne_true, List.cons_append,
            atLeast_seqOf_cons, ih, List.length_cons, atLeast]
          omega
      | true =>
          rw [if_pos rfl, if_pos rfl]
          cases b with
          | true => exact ih true
          | false =>
              rw [if_neg Bool.false_ne_true, if_neg Bool.false_ne_true, List.singleton_append,
                List.cons_append, atLeast_seqOf_cons, ih, List.singleton_append, List.length_cons,
                blankRun, atLeast]
              omega

theorem atLeast_tokenRegexes (n : Nat) (ts : List Token) (rs : List Regex) :
    (seqOf (tokenRegexes n ts ++ rs)).atLeast = required ts + (seqOf rs).atLeast := by
  induction ts generalizing n with
  | nil => exact (Nat.zero_add _).symm
  | cons τ ts ih =>
      cases τ with
      | literal l =>
          rw [tokenRegexes, List.append_assoc, atLeast_literalRegexes, ih, required, Nat.add_assoc]
      | placeholder p =>
          rw [tokenRegexes, List.cons_append, atLeast_seqOf_cons, ih, required, atLeast,
            Nat.zero_add]

theorem atLeast_tokensRegex (ts : List Token) : (tokensRegex ts).atLeast = required ts := by
  rw [tokensRegex, atLeast_seqOf_cons, atLeast_tokenRegexes, atLeast]
  exact Nat.zero_add _

/-- Patterns with the same expression and hints differ in the repeated blanks only. -/
theorem ofTokens_eq_iff {ts us : List Token} (hregex : tokensRegex ts = tokensRegex us)
    (hhints : (ts.filterMap Token.param?).map (·.hint) = (us.filterMap Token.param?).map (·.hint)) :
    Specificity.ofTokens ts = .ofTokens us ↔ repeatedBlanks ts = repeatedBlanks us := by
  have hrequired : required ts = required us := by
    rw [← atLeast_tokensRegex, hregex, atLeast_tokensRegex]
  have hcount : placeholderCount ts = placeholderCount us := by
    simpa [placeholderCount] using congrArg List.length hhints
  have htyped : (ts.filterMap Token.param?).countP (fun p => p.hint.isSome) =
      (us.filterMap Token.param?).countP fun p => p.hint.isSome := by
    have h := congrArg (List.countP Option.isSome) hhints
    rwa [List.countP_map, List.countP_map] at h
  rw [ofTokens_eq, ofTokens_eq, hrequired, hcount, htyped, Specificity.mk.injEq]
  simp only [and_self, and_true, Nat.add_left_cancel_iff]

end Pattern

end Storyline
