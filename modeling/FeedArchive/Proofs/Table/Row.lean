import FeedArchive.Database.Row
import FeedArchive.Search.Entity

/-!
# Records as rows

The row in which a record is stored. Reading it gives the record back, and the value of each field
of the record stands in the column of that field.
-/

namespace FeedArchive

open Database

/-- The row of an article. -/
def Article.row (a : Article) : Row :=
  [("id", .int a.id), ("source_id", .int a.sourceId), ("title", .text a.title),
    ("url", .text a.url), ("summary", .text a.summary), ("published_at", .time a.publishedAt),
    ("created_at", .time a.createdAt)]

/-- A time that may be missing, in a cell. -/
def Database.Cell.ofTime? : Option Instant → Cell
  | none => .null
  | some i => .time i

/-- The row of a source. -/
def Source.row (s : Source) : Row :=
  [("id", .int s.id), ("name", .text s.name), ("feed_url", .text s.feedUrl),
    ("source_type", .text s.sourceType.name), ("active", .bool s.active),
    ("last_crawled_at", .ofTime? s.lastCrawledAt)]

/-- The value of a field in a cell. -/
def FieldValue.cell : FieldValue → Cell
  | .text s => .text s
  | .int n => .int n
  | .bool b => .bool b
  | .time i => .time i

/-- The row of an article is read as the article. -/
theorem Article.read_row (a : Article) : a.row.article = .ok a := rfl

/-- The row of a source is read as the source. -/
theorem Source.read_row (s : Source) : s.row.source = .ok s := by
  obtain ⟨id, name, feedUrl, sourceType, active, lastCrawledAt⟩ := s
  cases sourceType <;> cases lastCrawledAt <;> rfl

namespace Entity

/-- The table of an entity. -/
def table : Entity → String
  | .article => "articles"
  | .source => "sources"

/-- The columns of an entity. -/
def columns : Entity → List String
  | .article => Article.fieldNames
  | .source => Source.fieldNames

/-- The row of a record. -/
def row : (e : Entity) → e.Record → Row
  | .article => Article.row
  | .source => Source.row

/-- Reads a record from a row. -/
def readRow : (e : Entity) → Row → Except Database.Error e.Record
  | .article => Row.article
  | .source => Row.source

variable {e : Entity}

/-- The row of a record is read as the record. -/
theorem readRow_row (r : e.Record) : e.readRow (e.row r) = .ok r := by
  cases e with
  | article => exact Article.read_row r
  | source => exact Source.read_row r

/-- Rows of records are read as the records, in order. -/
theorem mapM_readRow (rs : List e.Record) : (rs.map e.row).mapM e.readRow = .ok rs := by
  induction rs with
  | nil => rfl
  | cons r rs ih =>
    rw [List.map_cons, List.mapM_cons, readRow_row, ih]
    rfl

/-- The value of a field stands in its column. -/
theorem lookup_column {r : e.Record} {f : Field} {v : FieldValue} (h : e.value r f = some v) :
    (e.row r).lookup f.column = some v.cell := by
  cases e <;> cases f <;> cases h <;> rfl

end Entity

end FeedArchive
