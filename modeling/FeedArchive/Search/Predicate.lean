import FeedArchive.Pattern.Like
import FeedArchive.Time.Instant

/-! # Predicates

The conditions of a search. A predicate names the fields it looks at, and is decided for a record
through the values of its fields. -/

namespace FeedArchive

/-- A field of a record. -/
inductive Field where
  | title
  | summary
  | publishedAt
  | sourceId
  | name
  | feedUrl
  | sourceType
  | active
  deriving DecidableEq, Repr

namespace Field

/-- All fields. -/
def all : List Field :=
  [.title, .summary, .publishedAt, .sourceId, .name, .feedUrl, .sourceType, .active]

/-- The column in which a field is stored. -/
def column : Field → String
  | .title => "title"
  | .summary => "summary"
  | .publishedAt => "published_at"
  | .sourceId => "source_id"
  | .name => "name"
  | .feedUrl => "feed_url"
  | .sourceType => "source_type"
  | .active => "active"

/-- The field that is stored in a column. -/
def ofColumn? (s : String) : Option Field :=
  all.find? (·.column == s)

end Field

/-- The value of a field. -/
inductive FieldValue where
  | text (s : String)
  | int (n : Int)
  | bool (b : Bool)
  | time (i : Instant)
  deriving DecidableEq

/-- A value that a field is compared with. -/
inductive FilterValue where
  | text (s : String)
  | int (n : Int)
  | bool (b : Bool)
  deriving DecidableEq

/-- Equality of two values; values of different types are not equal. -/
def FilterValue.equals : FilterValue → FieldValue → Bool
  | .text s, .text t => s == t
  | .int m, .int n => m == n
  | .bool a, .bool b => a == b
  | _, _ => false

/-- A condition on a record. -/
inductive Predicate where
  /-- One of the fields is a text that matches the pattern. -/
  | contains (fields : List Field) (pattern : String)
  | equals (field : Field) (value : FilterValue)
  /-- The field is a time, and not earlier. -/
  | onOrAfter (field : Field) (bound : Instant)
  /-- The field is a time, and not later. -/
  | onOrBefore (field : Field) (bound : Instant)
  deriving DecidableEq

/-- Decides a predicate for a record whose fields have these values. -/
def Predicate.holds (p : Predicate) (value : Field → Option FieldValue) : Bool :=
  match p with
  | .contains fields pattern =>
    let like := Pattern.Like.compile pattern.toList
    fields.any fun f => match value f with
      | some (.text s) => like.matches s.toList
      | _ => false
  | .equals f expected => (value f).any expected.equals
  | .onOrAfter f bound => match value f with
    | some (.time i) => bound.le i
    | _ => false
  | .onOrBefore f bound => match value f with
    | some (.time i) => i.le bound
    | _ => false

end FeedArchive
