import FeedArchive.Program.Basic
import FeedArchive.Proofs.Sql.Change
import FeedArchive.Proofs.Sql.Meaning
import Mathlib.Logic.Function.Basic

/-!
# What statements do

What a statement with its parameters does to the tables of a database, and what it returns. A new
row takes what the statement does not give from the table: a fresh number, the time or a fixed
value. A statement fails, and changes nothing, if it cannot be read or has no meaning, or if two
rows would share what has to be unique (`Performs`). A world `Executes` statements if it answers
each of them by what it does.
-/

namespace FeedArchive.Sql

open Database (Cell Param Row Statement)

/-! ## Tables -/

/-- What a new row has in a column for which nothing is given. -/
inductive Default where
  /-- Nothing: a value has to be given. -/
  | required
  /-- A fresh number. -/
  | serial
  /-- The time. -/
  | clock
  | value (c : Cell)
  deriving DecidableEq

/-- The columns of a table, and those in which all rows differ. -/
structure Schema where
  columns : List (String × Default)
  unique : List String

/-- The table of sources. -/
def Schema.sources : Schema where
  columns := [("id", .serial), ("name", .required), ("feed_url", .required),
    ("source_type", .value (.text "RSS")), ("active", .value (.bool true)),
    ("last_crawled_at", .value .null)]
  unique := ["id", "feed_url"]

/-- The table of articles. -/
def Schema.articles : Schema where
  columns := [("id", .serial), ("source_id", .required), ("title", .required),
    ("url", .required), ("summary", .value (.text "")), ("published_at", .required),
    ("created_at", .clock)]
  unique := ["id", "url"]

/-- The tables that migrating creates. -/
def Schema.ofTable? : String → Option Schema
  | "sources" => some .sources
  | "articles" => some .articles
  | _ => none

/-- The rows of the tables of a database. -/
abbrev Tables := String → List Row

/-- What a database takes for a new row by itself. -/
structure Supply where
  number : Int
  time : Instant

def Default.cell? (supply : Supply) : Default → Option Cell
  | .required => none
  | .serial => some (.int supply.number)
  | .clock => some (.time supply.time)
  | .value c => some c

namespace Schema

variable (schema : Schema)

/-- The cells that a statement gives for columns, each of which the table has. -/
def given? (names : List String) (cells : List Cell) : Option Row :=
  if names.Nodup ∧ (∀ name ∈ names, name ∈ schema.columns.map (·.1)) ∧
      names.length = cells.length then some (names.zip cells) else none

/-- A new row in which some cells are given. -/
def newRow? (supply : Supply) (given : Row) : Option Row :=
  schema.columns.mapM fun column =>
    ((given.lookup column.1).or (column.2.cell? supply)).map (column.1, ·)

/-- No two rows share what has to be unique. -/
def Admits (rows : List Row) : Prop :=
  ∀ name ∈ schema.unique, (rows.filterMap (·.lookup name)).Nodup

instance (rows : List Row) : Decidable (schema.Admits rows) :=
  inferInstanceAs (Decidable (∀ name ∈ schema.unique, (rows.filterMap (·.lookup name)).Nodup))

end Schema

/-! ## Effects -/

/-- What a statement does. -/
structure Effect where
  /-- The rows that are returned. -/
  rows : List Row
  /-- How many rows are returned or changed. -/
  count : Nat
  /-- The tables afterwards. -/
  tables : Tables

/-- Whether a condition, if there is one, holds of a row. -/
def selects? (condition : Option Expr) (params : List Param) (row : Row) : Option Bool :=
  match condition with
  | none => some true
  | some e => (e.truth? params row).map (· = .yes)

/-- A row with other cells in some columns. -/
def assign (given row : Row) : Row :=
  row.map fun cell => (cell.1, (given.lookup cell.1).getD cell.2)

namespace Change

/-- What a change does to tables. -/
def effect? (supply : Supply) (params : List Param) (tables : Tables) : Change → Option Effect
  | .insert table columns values returned => do
    let schema ← Schema.ofTable? table
    let given ← schema.given? columns (← values.mapM (·.cell? params []))
    let row ← schema.newRow? supply given
    let shown ← returned.toList.mapM fun name => project? [name] row
    if schema.Admits (tables table ++ [row]) then
      return ⟨shown, 1, Function.update tables table (tables table ++ [row])⟩
    else none
  | .update table assignments condition => do
    let schema ← Schema.ofTable? table
    let rows ← (tables table).mapM fun row => do
      if (← selects? condition params row) then
        let cells ← assignments.mapM (·.2.cell? params row)
        return assign (← schema.given? (assignments.map (·.1)) cells) row
      else return row
    if schema.Admits rows then
      return ⟨[], (tables table).countP (selects? condition params · = some true),
        Function.update tables table rows⟩
    else none
  | .delete table condition => do
    let _ ← Schema.ofTable? table
    let selected ← (tables table).mapM (selects? condition params)
    return ⟨[], selected.count true,
      Function.update tables table
        ((tables table).filter (selects? condition params · = some false))⟩

end Change

/-- A number that no row has under the name `id`. -/
def Supply.Fresh (supply : Supply) (rows : List Row) : Prop :=
  ∀ row ∈ rows, row.lookup "id" ≠ some (.int supply.number)

/-- What a statement may do to tables; nothing if it fails. -/
inductive Performs (statement : Statement) (tables : Tables) : Option Effect → Prop
  /-- A query returns an answer and leaves the tables as they are. -/
  | query {q : Query} {rows : List Row} (hread : Query.read statement.command.text = some q)
      (hrows : q.Answers statement.params tables rows) :
      Performs statement tables (some ⟨rows, rows.length, tables⟩)
  | noAnswer {q : Query} (hread : Query.read statement.command.text = some q)
      (hrows : ∀ rows, ¬q.Answers statement.params tables rows) :
      Performs statement tables none
  | change {c : Change} (hread : Change.read statement.command.text = some c) {supply : Supply}
      (hfresh : supply.Fresh (tables c.table)) :
      Performs statement tables (c.effect? supply statement.params tables)
  | unread (hquery : Query.read statement.command.text = none)
      (hchange : Change.read statement.command.text = none) : Performs statement tables none

/-- A text is not both a query and a change. -/
theorem Query.read_eq_none_of_change {text : String} {c : Change}
    (h : Change.read text = some c) : Query.read text = none := by
  rw [Change.read] at h
  rw [Query.read]
  cases hlexemes : lexemes text.toList with
  | none => rfl
  | some ls =>
    rw [hlexemes, Option.bind_some] at h
    rw [Option.bind_some]
    unfold Query.ofLexemes?
    split
    · cases h
    · rfl

namespace Performs

variable {statement : Statement} {tables : Tables} {effect : Option Effect}

/-- A statement whose text is read as a change does what the change does, with some fresh number. -/
theorem of_change {c : Change} (h : Performs statement tables effect)
    (hread : Change.read statement.command.text = some c) :
    ∃ supply : Supply, supply.Fresh (tables c.table) ∧
      effect = c.effect? supply statement.params tables := by
  have hnone := Query.read_eq_none_of_change hread
  cases h with
  | query hquery => exact nomatch hnone.symm.trans hquery
  | noAnswer hquery => exact nomatch hnone.symm.trans hquery
  | @change c' hread' supply hfresh =>
    cases hread.symm.trans hread'
    exact ⟨supply, hfresh, rfl⟩
  | unread _ hchange => exact nomatch hchange.symm.trans hread

/-- A statement whose text is read as a query, which has an answer, returns one and changes
nothing. -/
theorem of_query {q : Query} {rows : List Row} (h : Performs statement tables effect)
    (hread : Query.read statement.command.text = some q)
    (hrows : q.Answers statement.params tables rows) :
    ∃ rows, q.Answers statement.params tables rows ∧
      effect = some ⟨rows, rows.length, tables⟩ := by
  cases h with
  | query hread' hanswer =>
    cases hread.symm.trans hread'
    exact ⟨_, hanswer, rfl⟩
  | noAnswer hread' hnone =>
    cases hread.symm.trans hread'
    exact absurd hrows (hnone rows)
  | change hchange => exact nomatch (Query.read_eq_none_of_change hchange).symm.trans hread
  | unread hquery => exact nomatch hquery.symm.trans hread

end Performs

/-- An answer says what an effect says, and the tables are as it leaves them. Without an effect
there is a failure and nothing changes. -/
def Effect.Shows {α : Type} (value : Effect → α) (before : Tables) (effect : Option Effect)
    (answer : Except String α) (after : Tables) : Prop :=
  match effect with
  | some e => answer = .ok (value e) ∧ after = e.tables
  | none => (∃ message, answer = .error message) ∧ after = before

/-- A world whose database does what statements say. -/
structure Executes {σ : Type} (world : World σ) (tables : σ → Tables) : Prop where
  rows : ∀ statement s, ∃ effect, Performs statement (tables s) effect ∧
    Effect.Shows Effect.rows (tables s) effect (world.answer (.rows statement) s).1
      (tables (world.answer (.rows statement) s).2)
  affected : ∀ statement s, ∃ effect, Performs statement (tables s) effect ∧
    Effect.Shows Effect.count (tables s) effect (world.answer (.affected statement) s).1
      (tables (world.answer (.affected statement) s).2)

end FeedArchive.Sql
