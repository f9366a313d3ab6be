import Storyline.Pattern.Hint
import Storyline.Pattern.Specificity
import Storyline.Regex.Parse
import Storyline.Regex.Search

/-!
# Patterns

A pattern describes the texts of a step and the parameters in them. It is written either with
placeholders or as a regular expression, and in both cases compiled to one regular expression that
is anchored at both ends.
-/

set_option autoImplicit false

namespace Storyline

variable [ClassNames]

namespace Pattern

/-- How a pattern is written. -/
inductive Flavour
  | placeholders
  | regex
deriving DecidableEq, Repr

def Flavour.name : Flavour → String
  | placeholders => "placeholders"
  | regex => "regex"

/-- A parameter of a pattern. -/
structure Param where
  name : Option Text
  hint : Option Text
deriving DecidableEq, Repr

end Pattern

/-- A compiled pattern. -/
structure Pattern where
  /-- The pattern as it was written. -/
  source : Text
  flavour : Pattern.Flavour
  /-- The anchored regular expression. -/
  expression : Text
  regex : Regex
  params : List Pattern.Param
  specificity : Specificity
deriving DecidableEq, Repr

/-- Why a pattern is refused. -/
inductive PatternError
  | placeholder (e : Pattern.PlaceholderError)
  /-- The expression is no regular expression. -/
  | regex
deriving DecidableEq, Repr

namespace Pattern

/-- The regular expression for literal text. A run of blanks matches any run of blanks. -/
def literalSource (afterBlank : Bool) : Text → Text
  | [] => []
  | c :: t =>
    if Unicode.isBlank c then
      (if afterBlank then [] else "\\s+".toList) ++ literalSource true t
    else Regex.escape [c] ++ literalSource false t

/-- The regular expression for a token. Each placeholder becomes a capture group. -/
def Token.source : Token → Text
  | literal t => literalSource false t
  | placeholder p => '(' :: (hintSource p.hint).toList ++ [')']

/-- The anchored regular expression for a list of tokens. -/
def tokensSource (ts : List Token) : Text := '^' :: ts.flatMap Token.source ++ ['$']

/-- The parameter that a token declares. -/
def Token.param? : Token → Option Param
  | literal _ => none
  | placeholder p => some ⟨some p.name, p.hint⟩

/-- The regular expression for a pattern with placeholders. -/
def placeholderSource (source : Text) : Except PlaceholderError Text :=
  (lex source).map tokensSource

/-- Compiles a pattern with placeholders. -/
def ofPlaceholders (source : Text) : Except PatternError Pattern :=
  match lex source with
  | .error e => .error (.placeholder e)
  | .ok ts =>
    match Regex.parse? (tokensSource ts) with
    | none => .error .regex
    | some r =>
      .ok {
        source
        flavour := .placeholders
        expression := tokensSource ts
        regex := r
        params := ts.filterMap Token.param?
        specificity := .ofTokens ts }

/-- The expression `source`, made to match whole texts only. -/
def anchored (source : Text) : Text := "^(?:".toList ++ source ++ ")$".toList

/-- Compiles a regular expression. Its capture groups are the parameters. -/
def ofRegex (source : Text) : Except PatternError Pattern :=
  match Regex.parse? (anchored source) with
  | none => .error .regex
  | some r =>
    let params := r.groupNames.map fun name => ⟨name, none⟩
    .ok {
      source
      flavour := .regex
      expression := anchored source
      regex := r
      params
      specificity := .ofRegex source params.length }

/-- Compiles a pattern of either flavour. -/
def compile (flavour : Flavour) (source : Text) : Except PatternError Pattern :=
  match flavour with
  | .placeholders => ofPlaceholders source
  | .regex => ofRegex source

/-- The pattern describes the text. -/
def isMatch (p : Pattern) (t : Text) : Bool := p.regex.isMatch t

/-- The values of the parameters in a text that the pattern describes. A group that took no part in
the match has the empty value. -/
def captures (p : Pattern) (t : Text) : Option (List Text) :=
  (p.regex.search t).map fun gs => gs.map (·.getD [])

end Pattern

end Storyline
