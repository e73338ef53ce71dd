import FeedArchive.Search.Error
import FeedArchive.Search.Predicate
import FeedArchive.Text.Blank
import FeedArchive.Time.Layout
import FeedArchive.Time.Rfc3339

/-! # What a search is asked for

A query is split at its white space into keywords, whose number and lengths are limited. Filters
narrow a search besides: they are read from texts, of which the first that is at fault is reported,
and become predicates in a fixed order. -/

namespace FeedArchive

/-! ## Keywords -/

/-- A word to search for. -/
structure Keyword where
  text : String
  deriving DecidableEq, Repr

/-- The number of characters. -/
def Keyword.length (k : Keyword) : Nat := k.text.length

/-- How many keywords a query may have, and how many characters each of them. -/
structure KeywordLimits where
  maxCount : Nat := 10
  maxLength : Nat := 100
  deriving DecidableEq

/-- The keywords of a query. Too many of them is reported before one that is too long. -/
def KeywordLimits.parse (limits : KeywordLimits) (query : String) :
    Except SearchError (List Keyword) :=
  let keywords := query.blankWords.map Keyword.mk
  if keywords.isEmpty then .error .emptyInput
  else if limits.maxCount < keywords.length then
    .error (.tooManyKeywords keywords.length limits.maxCount)
  else match keywords.find? fun k => limits.maxLength < k.length with
    | some long => .error (.keywordTooLong long.text limits.maxLength)
    | none => .ok keywords

/-! ## Parameters

Reading the texts of filters. The empty text means that a filter is not set. -/

namespace Parameter

/-- Reads a date, which stands for its midnight in UTC, or a timestamp of RFC 3339. -/
def instantOf? (text : String) : Option Instant :=
  match Layout.isoDate.readDate text.toList with
  | some d => some (Instant.ofLocal d .midnight 0)
  | none => Rfc3339.read text.toList

/-- An instant as a date or a timestamp. -/
def date (text : String) : Except SearchError (Option Instant) :=
  if text.isEmpty then .ok none
  else match instantOf? text with
    | some i => .ok (some i)
    | none => .error (.invalidDate text)

/-- The spellings of the truth values. -/
def boolOf? (text : String) : Option Bool :=
  if ["1", "t", "T", "TRUE", "true", "True"].contains text then some true
  else if ["0", "f", "F", "FALSE", "false", "False"].contains text then some false
  else none

/-- A truth value. -/
def bool (text : String) : Except SearchError (Option Bool) :=
  if text.isEmpty then .ok none
  else match boolOf? text with
    | some b => .ok (some b)
    | none => .error (.invalidBoolean text)

/-- The value is allowed if it is empty or in the list as it stands. -/
def oneOf (value : String) (allowed : List String) (field : String) : Except SearchError Unit :=
  if value.isEmpty || allowed.contains value then .ok ()
  else .error (.invalidFilterValue ⟨field, value, allowed⟩)

/-- An identifier, a positive integer of 64 bits. -/
def id (text : String) (field : String) : Except SearchError (Option Int) :=
  if text.isEmpty then .ok none
  else match (Decimal.readInt64 text.toList).filter (0 < ·) with
    | some n => .ok (some n)
    | none => .error (.invalidFilterValue ⟨field, text, ["正の整数"]⟩)

end Parameter

/-! ## Filters -/

/-- Filters on articles. Both bounds of the time of publishing are inclusive. -/
structure ArticleFilters where
  sourceId : Option Int := none
  publishedFrom : Option Instant := none
  publishedTo : Option Instant := none
  deriving DecidableEq

namespace ArticleFilters

/-- Reads filters; an empty text leaves one unset. -/
def read (sourceId earliest latest : String) : Except SearchError ArticleFilters := do
  return {
    sourceId := ← Parameter.id sourceId "source_id"
    publishedFrom := ← Parameter.date earliest
    publishedTo := ← Parameter.date latest }

/-- One predicate for each filter that is set. -/
def predicates (f : ArticleFilters) : List Predicate :=
  (f.sourceId.map fun n => Predicate.equals .sourceId (.int n)).toList ++
    (f.publishedFrom.map (Predicate.onOrAfter .publishedAt)).toList ++
    (f.publishedTo.map (Predicate.onOrBefore .publishedAt)).toList

end ArticleFilters

/-- Filters on sources. -/
structure SourceFilters where
  sourceType : Option SourceType := none
  active : Option Bool := none
  deriving DecidableEq

namespace SourceFilters

/-- The kind of source that a text names, none for the empty text. -/
def readType (text : String) : Except SearchError (Option SourceType) :=
  if text.isEmpty then .ok none
  else match SourceType.parse text with
    | .ok t => .ok (some t)
    | .error e => .error (.invalidFilterValue e)

/-- Reads filters; an empty text leaves one unset. -/
def read (sourceType active : String) : Except SearchError SourceFilters := do
  return { sourceType := ← readType sourceType, active := ← Parameter.bool active }

/-- One predicate for each filter that is set. -/
def predicates (f : SourceFilters) : List Predicate :=
  (f.sourceType.map fun t => Predicate.equals .sourceType (.text t.name)).toList ++
    (f.active.map fun b => Predicate.equals .active (.bool b)).toList

end SourceFilters

end FeedArchive
