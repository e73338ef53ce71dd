import FeedArchive.Search.Predicate
import FeedArchive.Text.Decimal

/-! # Statements

The SQL statements that are sent to the database. A statement is a command, in which parameters
stand as numbered slots `$1`, `$2`, …, and the parameters for these slots; no value is ever part of
the text of a command. `Condition.ofPredicates` gives the conditions of predicates, with the slots
numbered from left to right. -/

namespace FeedArchive.Database

/-- A parameter of a statement. -/
inductive Param where
  | text (s : String)
  | int (n : Int)
  | bool (b : Bool)
  | time (i : Instant)
  | texts (ss : List String)
  deriving DecidableEq

/-- The numbered place of a parameter in a text. -/
def slotText (slot : Nat) : String := "$" ++ slot.decimalText

/-- How a column is compared with a parameter. -/
inductive Comparison where
  | equal
  | atLeast
  | atMost
  deriving DecidableEq, Repr

def Comparison.text : Comparison → String
  | .equal => "="
  | .atLeast => ">="
  | .atMost => "<="

/-- A condition on a row. -/
inductive Condition where
  /-- One of the columns matches the pattern in its slot, without regard to case. -/
  | anyMatches (terms : List (String × Nat))
  | compare (column : String) (comparison : Comparison) (slot : Nat)
  /-- The column is true. -/
  | isTrue (column : String)
  /-- The column is one of the values in a slot. -/
  | among (column : String) (slot : Nat)
  deriving DecidableEq

namespace Condition

/-- The text of one alternative of `anyMatches`. -/
def matchText (term : String × Nat) : String :=
  term.1 ++ " ILIKE " ++ slotText term.2 ++ " ESCAPE '\\'"

def text : Condition → String
  | .anyMatches terms => "(" ++ " OR ".intercalate (terms.map matchText) ++ ")"
  | .compare column comparison slot =>
    column ++ " " ++ comparison.text ++ " " ++ slotText slot
  | .isTrue column => column ++ " = TRUE"
  | .among column slot => column ++ " = ANY(" ++ slotText slot ++ ")"

/-- The parameter for a value. -/
def paramOf : FilterValue → Param
  | .text s => .text s
  | .int n => .int n
  | .bool b => .bool b

/-- The condition of a predicate, whose slots are numbered from `next`, and its parameters. -/
def ofPredicate (next : Nat) : Predicate → Condition × List Param
  | .contains fields pattern =>
    (.anyMatches ((fields.map Field.column).zip (List.range' next fields.length)),
      List.replicate fields.length (.text pattern))
  | .equals f v => (.compare f.column .equal next, [paramOf v])
  | .onOrAfter f i => (.compare f.column .atLeast next, [.time i])
  | .onOrBefore f i => (.compare f.column .atMost next, [.time i])

/-- The conditions of some predicates, whose slots are numbered from `next`, and their
parameters. -/
def ofPredicates (next : Nat) : List Predicate → List Condition × List Param
  | [] => ([], [])
  | p :: ps =>
    let (c, params) := ofPredicate next p
    let (cs, others) := ofPredicates (next + params.length) ps
    (c :: cs, params ++ others)

/-- The text of a chain of conditions, empty if there is none. -/
def chainText (cs : List Condition) : String :=
  if cs.isEmpty then "" else " WHERE " ++ " AND ".intercalate (cs.map text)

end Condition

/-- The direction of an order; where none is written it is ascending. -/
inductive Direction where
  | unwritten
  | ascending
  | descending
  deriving DecidableEq, Repr

def Direction.text : Direction → String
  | .unwritten => ""
  | .ascending => " ASC"
  | .descending => " DESC"

/-- The columns by which rows are ordered, the first one first. -/
abbrev RowOrder := List (String × Direction)

/-- The text of an order, empty if there is none. -/
def RowOrder.text (keys : RowOrder) : String :=
  if keys.isEmpty then ""
  else " ORDER BY " ++ ", ".intercalate (keys.map fun k => k.1 ++ k.2.text)

/-- What an insertion does besides. -/
inductive InsertTail where
  /-- It returns a column of the row. -/
  | returning (column : String)
  /-- It does nothing if a row has the same value in this column. -/
  | unlessPresent (column : String)
  deriving DecidableEq

def InsertTail.text : InsertTail → String
  | .returning column => " RETURNING " ++ column
  | .unlessPresent column => " ON CONFLICT (" ++ column ++ ") DO NOTHING"

/-- What the database is asked to do. -/
inductive Command where
  /-- The columns of the rows that satisfy all conditions. -/
  | select (columns : List String) (relation : String) (conditions : List Condition)
      (order : RowOrder)
  /-- Whether a row satisfies all conditions. -/
  | present (relation : String) (conditions : List Condition)
  /-- A new row; its columns have the parameters in order. -/
  | insert (relation : String) (columns : List String) (tail : InsertTail)
  /-- New values for the columns, the parameters in order, in the row whose key is the last
  parameter. -/
  | update (relation : String) (columns : List String) (key : String)
  /-- Without the row whose key is the only parameter. -/
  | delete (relation : String) (key : String)
  deriving DecidableEq

namespace Command

def text : Command → String
  | .select columns relation conditions order =>
    "SELECT " ++ ", ".intercalate columns ++ " FROM " ++ relation ++
      Condition.chainText conditions ++ RowOrder.text order
  | .present relation conditions =>
    "SELECT EXISTS (SELECT 1 FROM " ++ relation ++ Condition.chainText conditions ++ ")"
  | .insert relation columns tail =>
    "INSERT INTO " ++ relation ++ " (" ++ ", ".intercalate columns ++ ") VALUES (" ++
      ", ".intercalate ((List.range' 1 columns.length).map slotText) ++ ")" ++ tail.text
  | .update relation columns key =>
    "UPDATE " ++ relation ++ " SET " ++
      ", ".intercalate ((columns.zip (List.range' 1 columns.length)).map fun c =>
        c.1 ++ " = " ++ slotText c.2) ++
      " WHERE " ++ key ++ " = " ++ slotText (columns.length + 1)
  | .delete relation key => "DELETE FROM " ++ relation ++ " WHERE " ++ key ++ " = " ++ slotText 1

end Command

/-- A command with its parameters. -/
structure Statement where
  command : Command
  params : List Param
  deriving DecidableEq

/-- What is sent besides statements with parameters. -/
inductive Control where
  | begin
  | commit
  | rollback
  /-- Statements without parameters, sent as one text. -/
  | script (text : String)
  deriving DecidableEq

def Control.text : Control → String
  | .begin => "BEGIN"
  | .commit => "COMMIT"
  | .rollback => "ROLLBACK"
  | .script text => text

/-- Anything sent to the database. -/
inductive Sent where
  | statement (s : Statement)
  | control (c : Control)
  deriving DecidableEq

def Sent.text : Sent → String
  | .statement s => s.command.text
  | .control c => c.text

def Sent.params : Sent → List Param
  | .statement s => s.params
  | .control _ => []

end FeedArchive.Database
