import FeedArchive.Json.Value
import FeedArchive.Json.Reader
import FeedArchive.Record
import FeedArchive.Time.Layout

/-! # Records in JSON

A record is written as an object whose members are its fields in order. It is read from an object
whose members come in any order, among others with keys that are not known, or from a list of the
values of its fields. -/

namespace FeedArchive

namespace Json

/-! ## Values -/

def Value.int? : Value → Option Int
  | .int n => if Decimal.inInt64 n then some n else none
  | _ => none

def Value.bool? : Value → Option Bool
  | .bool b => some b
  | _ => none

def Value.text? : Value → Option String
  | .text s => some s
  | _ => none

/-- A timestamp. -/
def Value.time? (v : Value) : Option Instant :=
  v.text?.bind fun s => Layout.looseTimestamp.readInstant s.toList

/-- A value or null. -/
def Value.orNull? {α : Type} (read : Value → Option α) : Value → Option (Option α)
  | .null => some none
  | v => (read v).map some

def Value.ofTime (i : Instant) : Value := .text i.text

/-- A kind of source by its name, which may also be the key of a null. -/
def Value.sourceType? : Value → Option SourceType
  | .text s => SourceType.ofName? s
  | .object [(s, .null)] => SourceType.ofName? s
  | _ => none

def Value.ofSourceType (t : SourceType) : Value := .text t.name

/-! ## Fields -/

/-- The values of fields under their names. -/
abbrev Fields := List (String × Value)

namespace Fields

/-- None of the names comes twice. -/
def areDistinct (names : List String) (fields : Fields) : Bool :=
  names.all fun name => fields.countP (·.1 == name) ≤ 1

/-- The value of a field, which is required. -/
def get? {α : Type} (fields : Fields) (name : String) (read : Value → Option α) : Option α :=
  (fields.lookup name).bind read

/-- The value of a field, null where it is missing. -/
def getOrNull? {α : Type} (fields : Fields) (name : String) (read : Value → Option α) :
    Option (Option α) :=
  ((fields.lookup name).getD .null).orNull? read

end Fields

/-- The fields of a record in an object. -/
def Value.members? (names : List String) : Value → Option Fields
  | .object members => if Fields.areDistinct names members then some members else none
  | _ => none

/-- The fields of a record in an object, or in a list of all their values in order. -/
def Value.fields? (names : List String) : Value → Option Fields
  | .list items => if items.length = names.length then some (names.zip items) else none
  | v => v.members? names

/-! ## Values that are set aside -/

mutual

/-- No text in a value has halves of surrogate pairs, all numbers lie within the range, and no more
than `depth` lists and objects stand within one another. -/
def Value.isWhole (depth : Nat) : Value → Bool
  | .halfText => false
  | .int n => n.natAbs < rangeLimit
  | .decimal literal => isInRange literal
  | .list items => 0 < depth && areWhole (depth - 1) items
  | .object members => 0 < depth && membersAreWhole (depth - 1) members
  | _ => true

/-- See `Value.isWhole`. -/
def areWhole (depth : Nat) : List Value → Bool
  | [] => true
  | v :: vs => v.isWhole depth && areWhole depth vs

/-- See `Value.isWhole`. -/
def membersAreWhole (depth : Nat) : List (String × Value) → Bool
  | [] => true
  | (_, v) :: ms => v.isWhole depth && membersAreWhole depth ms

end

end Json

open Json

/-! ## Articles -/

/-- The members of the object for an article. -/
def Article.members (a : Article) : Fields :=
  [("id", .int a.id), ("source_id", .int a.sourceId), ("title", .text a.title),
    ("url", .text a.url), ("summary", .text a.summary),
    ("published_at", .ofTime a.publishedAt), ("created_at", .ofTime a.createdAt)]

def Article.toJson (a : Article) : Value := .object a.members

/-- The article with these fields. -/
def Article.ofFields? (fields : Fields) : Option Article := do
  return {
    id := ← fields.get? "id" Value.int?
    sourceId := ← fields.get? "source_id" Value.int?
    title := ← fields.get? "title" Value.text?
    url := ← fields.get? "url" Value.text?
    summary := ← fields.get? "summary" Value.text?
    publishedAt := ← fields.get? "published_at" Value.time?
    createdAt := ← fields.get? "created_at" Value.time? }

def Article.ofJson? (v : Value) : Option Article :=
  (v.fields? Article.fieldNames).bind Article.ofFields?

/-- A list of articles. -/
def Article.listToJson (articles : List Article) : Value := .list (articles.map Article.toJson)

def Article.listOfJson? : Value → Option (List Article)
  | .list items => items.mapM Article.ofJson?
  | _ => none

/-- The name of the source is a member beside those of the article. -/
def ArticleWithSource.toJson (a : ArticleWithSource) : Value :=
  .object (a.article.members ++ [("source_name", .text a.sourceName)])

/-- Such an article comes as an object only, whose values are set aside before they are read: no
more than 127 lists and objects may stand within one another. -/
def ArticleWithSource.ofJson? (v : Value) : Option ArticleWithSource := do
  guard (v.isWhole 127)
  let fields ← v.members? ("source_name" :: Article.fieldNames)
  return {
    article := ← Article.ofFields? fields
    sourceName := ← fields.get? "source_name" Value.text? }

def NewArticle.toJson (a : NewArticle) : Value :=
  .object [("source_id", .int a.sourceId), ("title", .text a.title), ("url", .text a.url),
    ("summary", .text a.summary), ("published_at", .ofTime a.publishedAt)]

def NewArticle.ofJson? (v : Value) : Option NewArticle := do
  let fields ← v.fields? NewArticle.fieldNames
  return {
    sourceId := ← fields.get? "source_id" Value.int?
    title := ← fields.get? "title" Value.text?
    url := ← fields.get? "url" Value.text?
    summary := ← fields.get? "summary" Value.text?
    publishedAt := ← fields.get? "published_at" Value.time? }

/-! ## Sources -/

def Source.toJson (s : Source) : Value :=
  .object [("id", .int s.id), ("name", .text s.name), ("feed_url", .text s.feedUrl),
    ("source_type", .ofSourceType s.sourceType), ("active", .bool s.active),
    ("last_crawled_at", (s.lastCrawledAt.map Value.ofTime).getD .null)]

def Source.ofJson? (v : Value) : Option Source := do
  let fields ← v.fields? Source.fieldNames
  return {
    id := ← fields.get? "id" Value.int?
    name := ← fields.get? "name" Value.text?
    feedUrl := ← fields.get? "feed_url" Value.text?
    sourceType := ← fields.get? "source_type" Value.sourceType?
    active := ← fields.get? "active" Value.bool?
    lastCrawledAt := ← fields.getOrNull? "last_crawled_at" Value.time? }

def NewSource.toJson (s : NewSource) : Value :=
  .object [("name", .text s.name), ("feed_url", .text s.feedUrl),
    ("source_type", .ofSourceType s.sourceType), ("active", .bool s.active)]

def NewSource.ofJson? (v : Value) : Option NewSource := do
  let fields ← v.fields? NewSource.fieldNames
  return {
    name := ← fields.get? "name" Value.text?
    feedUrl := ← fields.get? "feed_url" Value.text?
    sourceType := ← fields.get? "source_type" Value.sourceType?
    active := ← fields.get? "active" Value.bool? }

end FeedArchive
