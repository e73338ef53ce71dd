import FeedArchive.Database.Row
import FeedArchive.Proofs.Pattern.Matching
import FeedArchive.Proofs.Sql.Syntax

/-!
# Meaning of SQL

What a query asks of the tables of a database. A condition is true, false or, where a value is
missing, neither; a query selects the rows of its table for which its condition is true. It may
return them in any order that its columns to order by allow: `Query.Answers` says which lists of
rows are answers.

What has no meaning here is `none`: a column that does not exist, a slot without a parameter, values
of different types in a comparison.
-/

namespace FeedArchive

/-- A text in the language of a pattern can be told by matching. -/
instance Pattern.decidableMemLanguage (p t : List Char) : Decidable (t ∈ Pattern.language p) :=
  decidable_of_iff _ ((Pattern.Like.matches_compile p t).trans (Pattern.mem_language_iff p t).symm)

namespace Sql

open Database (Cell Comparison Param Row)

/-! ## Truth -/

/-- What a condition may be for a row. -/
inductive Truth where
  | yes
  | no
  | unknown
  deriving DecidableEq

namespace Truth

def ofBool : Bool → Truth
  | true => .yes
  | false => .no

def and : Truth → Truth → Truth
  | .yes, b => b
  | .no, _ => .no
  | .unknown, .no => .no
  | .unknown, _ => .unknown

def or : Truth → Truth → Truth
  | .no, b => b
  | .yes, _ => .yes
  | .unknown, .yes => .yes
  | .unknown, _ => .unknown

end Truth

/-! ## Values -/

/-- How two values of one type compare. -/
def ordering? : Cell → Cell → Option Ordering
  | .text s, .text t => some (compare s t)
  | .int m, .int n => some (compare m n)
  | .bool a, .bool b => some (compare a b)
  | .time i, .time j => some (compare i j)
  | _, _ => none

/-- A comparison holds of values that compare so. -/
def admits : Comparison → Ordering → Bool
  | .equal, o => o.isEq
  | .atLeast, o => o.isGE
  | .atMost, o => o.isLE

/-- Compares two values; with a missing one nothing is known. -/
def compared? (comparison : Comparison) (a b : Cell) : Option Truth :=
  if a = .null ∨ b = .null then some .unknown
  else (ordering? a b).map fun o => .ofBool (admits comparison o)

/-- Matches a text with a pattern, in which the backslash makes the next character ordinary. -/
def liked? (escape : Char) : Cell → Cell → Option Truth
  | .text t, .text p =>
    if escape = '\\' then some (.ofBool (t.toList ∈ Pattern.language p.toList)) else none
  | .null, .text _ | .text _, .null | .null, .null => some .unknown
  | _, _ => none

/-- The value of a parameter. -/
def paramCell? : Param → Option Cell
  | .text s => some (.text s)
  | .int n => some (.int n)
  | .bool b => some (.bool b)
  | .time i => some (.time i)
  | .texts _ => none

/-- The value of an operand for a row; the first parameter has the number one. -/
def Operand.cell? (params : List Param) (row : Row) : Operand → Option Cell
  | .column name => row.lookup name
  | .slot 0 => none
  | .slot (n + 1) => (params[n]?).bind paramCell?

/-! ## Conditions and queries -/

/-- What a condition is for a row. -/
def Expr.truth? (params : List Param) (row : Row) : Expr → Option Truth
  | .compare a comparison b => do
    compared? comparison (← a.cell? params row) (← b.cell? params row)
  | .iLike text pattern escape => do
    liked? escape (← text.cell? params row) (← pattern.cell? params row)
  | .and a b => do return (← a.truth? params row).and (← b.truth? params row)
  | .or a b => do return (← a.truth? params row).or (← b.truth? params row)

/-- How rows compare by a column; a missing value comes after all others. -/
def rank? (name : String) (a b : Row) : Option Ordering := do
  match (← a.lookup name), (← b.lookup name) with
  | .null, .null => return .eq
  | .null, _ => return .gt
  | _, .null => return .lt
  | x, y => ordering? x y

/-- One row may stand in front of another one. -/
def InOrder : List (String × Bool) → Row → Row → Prop
  | [], _, _ => True
  | (name, descends) :: keys, a, b =>
    match rank? name a b with
    | some .eq => InOrder keys a b
    | some .lt => descends = false
    | some .gt => descends = true
    | none => False

/-- The columns of a row that are asked for. -/
def project? (columns : List String) (row : Row) : Option Row :=
  columns.mapM fun name => (row.lookup name).map (name, ·)

namespace Query

/-- What the condition of a query is for a row. -/
def truth? (q : Query) (params : List Param) (row : Row) : Option Truth :=
  match q.condition with
  | none => some .yes
  | some e => e.truth? params row

/-- These rows are an answer to a query with parameters, asked of a database with these tables. -/
def Answers (q : Query) (params : List Param) (tables : String → List Row) (rows : List Row) :
    Prop :=
  (∀ r ∈ tables q.table, (q.truth? params r).isSome) ∧
    ∃ selected : List Row,
      selected.Perm ((tables q.table).filter (q.truth? params · = some .yes)) ∧
        selected.Pairwise (InOrder q.order) ∧ selected.mapM (project? q.columns) = some rows

end Query

end Sql

end FeedArchive
