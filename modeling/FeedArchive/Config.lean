import FeedArchive.Search.Input

/-! # Configuration

The limits of searches, and where they and the address of the database are read from: a lookup of
variables by name, such as the environment of a process. -/

namespace FeedArchive

/-- A failure of reading the configuration. -/
inductive ConfigError where
  | missingVariable (name : String)
  | invalidValue (reason : String)
  deriving DecidableEq, Repr

def ConfigError.message : ConfigError → String
  | .missingVariable name => "環境変数が見つかりません: " ++ name
  | .invalidValue reason => "設定値が不正です: " ++ reason

/-- The value of a variable, if it is set. -/
abbrev Lookup := String → Option String

/-- The limits of a search. -/
structure SearchConfig where
  maxKeywordCount : Nat := 10
  maxKeywordLength : Nat := 100
  timeout : Span := .ofSeconds 5
  deriving DecidableEq

namespace SearchConfig

/-- The limits on keywords. -/
def limits (c : SearchConfig) : KeywordLimits :=
  { maxCount := c.maxKeywordCount, maxLength := c.maxKeywordLength }

/-- The failure that a variable has a value other than a positive integer. -/
def notPositive (name value : String) : ConfigError :=
  .invalidValue (name ++ "は正の整数で指定してください: '" ++ value ++ "'")

/-- A positive integer of 64 bits, with any white space around it, or the default where the
variable is not set. -/
def readPositive (lookup : Lookup) (name : String) (default : Nat) : Except ConfigError Nat :=
  match lookup name with
  | none => .ok default
  | some value => match (Decimal.readNat64 (Text.trim value.toList)).filter (0 < ·) with
    | some n => .ok n
    | none => .error (notPositive name value)

/-- The variables that have the limits. -/
def variableNames : List String :=
  ["SEARCH_MAX_KEYWORDS", "SEARCH_MAX_KEYWORD_LENGTH", "SEARCH_TIMEOUT_SECS"]

/-- Reads the limits; the first variable at fault is reported. -/
def read (lookup : Lookup) : Except ConfigError SearchConfig := do
  return {
    maxKeywordCount := ← readPositive lookup "SEARCH_MAX_KEYWORDS" 10
    maxKeywordLength := ← readPositive lookup "SEARCH_MAX_KEYWORD_LENGTH" 100
    timeout := .ofSeconds (← readPositive lookup "SEARCH_TIMEOUT_SECS" 5) }

end SearchConfig

/-- The variable that has the address of the database. -/
def databaseVariable : String := "DATABASE_URL"

/-- The address of the database. -/
def databaseUrl (lookup : Lookup) : Except ConfigError String :=
  match lookup databaseVariable with
  | some url => .ok url
  | none => .error (.missingVariable databaseVariable)

end FeedArchive
