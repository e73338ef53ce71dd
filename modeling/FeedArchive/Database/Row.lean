import FeedArchive.Record

/-! # Rows

The rows that the database returns, and reading records from them. Columns are found by name, in
the order of the fields of the record; the first one that cannot be read is reported. -/

namespace FeedArchive.Database

/-! ## Failures -/

/-- Why a cell of a row could not be read. -/
inductive CellError where
  /-- The cell is empty where a value is required. -/
  | unexpectedNull
  /-- The cell holds a value of another type. -/
  | otherType (expected found : String)
  /-- The cell holds a text that names no value. -/
  | invalid (cause : InvalidValue)
  deriving DecidableEq, Repr

def CellError.message : CellError → String
  | .unexpectedNull => "unexpected null; try decoding as an `Option`"
  | .otherType expected found =>
    "mismatched types; SQL type `" ++ found ++ "` is not compatible with `" ++ expected ++ "`"
  | .invalid cause => cause.message

/-- How a column is referred to. -/
inductive ColumnRef where
  | named (name : String)
  | first
  deriving DecidableEq, Repr

def ColumnRef.text : ColumnRef → String
  | .named name => "\"" ++ name ++ "\""
  | .first => "0"

/-- A failure of a statement or of reading what it returned. -/
inductive Error where
  /-- The database reported a failure. -/
  | reported (message : String)
  /-- A row was required and none came. -/
  | noRow
  /-- A row lacks a column. -/
  | missingColumn (name : String)
  /-- A row without any column. -/
  | emptyRow
  /-- A cell could not be read. -/
  | badCell (column : ColumnRef) (cause : CellError)
  deriving DecidableEq, Repr

def Error.message : Error → String
  | .reported message => "error returned from database: " ++ message
  | .noRow => "no rows returned by a query that expected to return at least one row"
  | .missingColumn name => "no column found for name: " ++ name
  | .emptyRow => "column index out of bounds: the len is 0, but the index is 0"
  | .badCell column cause =>
    "error occurred while decoding column " ++ column.text ++ ": " ++ cause.message

/-! ## Cells and rows -/

/-- The value in a column of a row. -/
inductive Cell where
  | null
  | text (s : String)
  | int (n : Int)
  | bool (b : Bool)
  | time (i : Instant)
  deriving DecidableEq

namespace Cell

/-- The name of the type of a cell. -/
def typeName : Cell → String
  | .null => "NULL"
  | .text _ => "TEXT"
  | .int _ => "INT8"
  | .bool _ => "BOOL"
  | .time _ => "TIMESTAMPTZ"

def asText : Cell → Except CellError String
  | .text s => .ok s
  | .null => .error .unexpectedNull
  | c => .error (.otherType "TEXT" c.typeName)

def asInt : Cell → Except CellError Int
  | .int n => .ok n
  | .null => .error .unexpectedNull
  | c => .error (.otherType "INT8" c.typeName)

def asBool : Cell → Except CellError Bool
  | .bool b => .ok b
  | .null => .error .unexpectedNull
  | c => .error (.otherType "BOOL" c.typeName)

def asTime : Cell → Except CellError Instant
  | .time i => .ok i
  | .null => .error .unexpectedNull
  | c => .error (.otherType "TIMESTAMPTZ" c.typeName)

/-- A time that may be missing. -/
def asTime? : Cell → Except CellError (Option Instant)
  | .null => .ok none
  | c => some <$> c.asTime

/-- A kind of source by its name. -/
def asSourceType (c : Cell) : Except CellError SourceType := do
  match SourceType.parse (← c.asText) with
  | .ok t => .ok t
  | .error e => .error (.invalid e)

end Cell

/-- The cells of a row under the names of their columns. -/
abbrev Row := List (String × Cell)

namespace Row

/-- Reads the cell of a column. -/
def read {α : Type} (r : Row) (column : String) (as : Cell → Except CellError α) :
    Except Error α :=
  match r.lookup column with
  | none => .error (.missingColumn column)
  | some c => match as c with
    | .ok a => .ok a
    | .error e => .error (.badCell (.named column) e)

/-- Reads the cell of the first column. -/
def readFirst {α : Type} (r : Row) (as : Cell → Except CellError α) : Except Error α :=
  match r with
  | [] => .error .emptyRow
  | (_, c) :: _ => match as c with
    | .ok a => .ok a
    | .error e => .error (.badCell .first e)

def article (r : Row) : Except Error Article := do
  return {
    id := ← r.read "id" Cell.asInt
    sourceId := ← r.read "source_id" Cell.asInt
    title := ← r.read "title" Cell.asText
    url := ← r.read "url" Cell.asText
    summary := ← r.read "summary" Cell.asText
    publishedAt := ← r.read "published_at" Cell.asTime
    createdAt := ← r.read "created_at" Cell.asTime }

def articleWithSource (r : Row) : Except Error ArticleWithSource := do
  return { article := ← r.article, sourceName := ← r.read "source_name" Cell.asText }

def source (r : Row) : Except Error Source := do
  return {
    id := ← r.read "id" Cell.asInt
    name := ← r.read "name" Cell.asText
    feedUrl := ← r.read "feed_url" Cell.asText
    sourceType := ← r.read "source_type" Cell.asSourceType
    active := ← r.read "active" Cell.asBool
    lastCrawledAt := ← r.read "last_crawled_at" Cell.asTime? }

end Row

end FeedArchive.Database
