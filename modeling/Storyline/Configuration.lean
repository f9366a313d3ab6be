import Storyline.Conversion
import Storyline.Policy

/-!
# Configuration

What a program can choose: keywords, policies, the mode of runs and the converters. Properties set
it by keys and values. The converter of tables always uses the separators of the keywords.
-/

set_option autoImplicit false

namespace Storyline

/-- Why properties are refused. -/
inductive ConfigurationError
  | unknownKey (key : Text)
  | invalidFlag (key value : Text)
  | invalidStrategy (key : Text) (e : UnknownStrategy)
  | keyword (e : KeywordError)
deriving DecidableEq, Repr

def ConfigurationError.message : ConfigurationError → String
  | unknownKey key => s!"unknown configuration key '{key.toString}'"
  | invalidFlag key value => s!"'{value.toString}' is not a boolean for '{key.toString}'"
  | invalidStrategy key e => s!"invalid value for '{key.toString}': {e.message}"
  | keyword e => e.message

/-! ## Properties -/

/-- What one property sets. -/
inductive Setting
  | keyword (k : Keyword) (literal : Text)
  | pending (s : ErrorStrategy)
  | failure (s : ErrorStrategy)
  | batch (on : Bool)
  | skip (on : Bool)
  | ignoreFailure (on : Bool)
deriving DecidableEq, Repr

namespace Setting

def trueWords : List String := ["1", "true", "TRUE", "True", "yes", "YES", "Yes", "on", "ON", "On"]

def falseWords : List String :=
  ["0", "false", "FALSE", "False", "no", "NO", "No", "off", "OFF", "Off"]

/-- The value of a flag. -/
def flag? (value : Text) : Option Bool :=
  let word := (Text.trim value).toString
  if trueWords.contains word then some true
  else if falseWords.contains word then some false
  else none

/-- Reads a flag. -/
def flag (make : Bool → Setting) (key value : Text) : Except ConfigurationError Setting :=
  match flag? value with
  | some on => .ok (make on)
  | none => .error (.invalidFlag key value)

/-- Reads a strategy. -/
def strategy (make : ErrorStrategy → Setting) (key value : Text) :
    Except ConfigurationError Setting :=
  match ErrorStrategy.parse value with
  | .ok s => .ok (make s)
  | .error e => .error (.invalidStrategy key e)

/-- What a key with a value sets. -/
def parse (key value : Text) : Except ConfigurationError Setting :=
  match key.toString with
  | "table.header_separator" => .ok (.keyword .headerSeparator value)
  | "table.value_separator" => .ok (.keyword .valueSeparator value)
  | "strategy.pending" => strategy .pending key value
  | "strategy.error" => strategy .failure key value
  | "mode.batch" => flag .batch key value
  | "mode.skip" => flag .skip key value
  | "mode.ignore_failure" => flag .ignoreFailure key value
  | _ =>
    match Text.after? "keyword.".toList key with
    | none => .error (.unknownKey key)
    | some name =>
      match Keyword.parse name with
      | .ok k => .ok (.keyword k value)
      | .error e => .error (.keyword e)

/-- The property sets a keyword. -/
def isKeyword : Setting → Bool
  | keyword _ _ => true
  | _ => false

/-- The keywords after the property was set. -/
def applyKeywords (ks : Keywords) : Setting → Keywords
  | keyword k literal => ks.set k literal
  | _ => ks

end Setting

/-! ## Configurations -/

/-- A configuration. -/
structure Configuration (κ : Type) where
  keywords : Keywords := .default
  policy : ErrorPolicy := {}
  mode : RunMode := {}
  converters : Converters κ := .default

namespace Configuration

variable {κ : Type}

/-- The configuration with other keywords. -/
def withKeywords (c : Configuration κ) (ks : Keywords) : Configuration κ :=
  { c with keywords := ks, converters := c.converters.withSeparators ks.separators }

/-- The configuration with other converters. -/
def withConverters (c : Configuration κ) (cs : Converters κ) : Configuration κ :=
  { c with converters := cs.withSeparators c.keywords.separators }

/-- The configuration with another strategy for pending steps. -/
def withPending (c : Configuration κ) (s : ErrorStrategy) : Configuration κ :=
  { c with policy := { c.policy with pending := s } }

/-- The configuration with another strategy for failures. -/
def withFailure (c : Configuration κ) (s : ErrorStrategy) : Configuration κ :=
  { c with policy := { c.policy with failure := s } }

/-- The configuration with another mode. -/
def withMode (c : Configuration κ) (m : RunMode) : Configuration κ := { c with mode := m }

/-- The configuration after a property other than a keyword was set. -/
def set (c : Configuration κ) : Setting → Configuration κ
  | .keyword _ _ => c
  | .pending s => c.withPending s
  | .failure s => c.withFailure s
  | .batch on => c.withMode { c.mode with batch := on }
  | .skip on => c.withMode { c.mode with skip := on }
  | .ignoreFailure on => c.withMode { c.mode with ignoreFailure := on }

/-- The configuration after the settings, in order. Keywords are checked once all are set. -/
def setAll (c : Configuration κ) (ss : List Setting) :
    Except ConfigurationError (Configuration κ) :=
  let set := ss.foldl set c
  if ss.any Setting.isKeyword then
    let ks := ss.foldl Setting.applyKeywords c.keywords
    match ks.validate with
    | .ok () => .ok (set.withKeywords ks)
    | .error e => .error (.keyword e)
  else .ok set

/-- The configuration after properties, given by keys and values. -/
def apply (c : Configuration κ) (ps : List (Text × Text)) :
    Except ConfigurationError (Configuration κ) :=
  match ps.mapM fun (key, value) => Setting.parse key value with
  | .ok ss => c.setAll ss
  | .error e => .error e

/-- The configuration that properties give. -/
def ofProperties (ps : List (Text × Text)) : Except ConfigurationError (Configuration κ) :=
  apply {} ps

/-- The variables of an environment that set properties, without the prefix of a program's
variables. -/
def environmentKeys : List (String × String) :=
  [("BATCH", "mode.batch"), ("SKIP", "mode.skip"), ("IGNORE_FAILURE", "mode.ignore_failure"),
   ("PENDING_STRATEGY", "strategy.pending"), ("ERROR_STRATEGY", "strategy.error")]

/-- The configuration that an environment gives. The names of its variables start with `lead`. -/
def ofEnvironment (lead : String) (lookup : String → Option Text) :
    Except ConfigurationError (Configuration κ) :=
  ofProperties <| environmentKeys.filterMap fun (name, key) =>
    (lookup (lead ++ name)).map (key.toList, ·)

end Configuration

end Storyline
