import FeedArchive.Database.Statement
import FeedArchive.Proofs.Sql.Lexeme

/-!
# Syntax of SQL

The queries that a text in SQL may be, as far as searches need them: columns of one table, a
condition of comparisons and pattern matches joined by `AND` and `OR`, and columns to order by.

Precedence is kept by `Level`, one for each open parenthesis: an `AND` goes on with the conjunction
at hand, and an `OR` begins the next one.
-/

namespace FeedArchive.Sql

open Database (Comparison)

/-- What is compared or matched. -/
inductive Operand where
  | column (name : String)
  | slot (number : Nat)
  deriving DecidableEq

/-- A condition on a row. -/
inductive Expr where
  | compare (a : Operand) (comparison : Comparison) (b : Operand)
  /-- The text is like the pattern, with a character that makes the next one ordinary. -/
  | iLike (text pattern : Operand) (escape : Char)
  | and (a b : Expr)
  | or (a b : Expr)
  deriving DecidableEq

/-- A query on one table. -/
structure Query where
  columns : List String
  table : String
  condition : Option Expr
  /-- The columns to order by, the first one first, and whether they descend. -/
  order : List (String × Bool)
  deriving DecidableEq

/-! ## Conditions -/

/-- A condition without its structure. -/
inductive Item where
  | test (e : Expr)
  | and
  | or
  | open
  | close
  deriving DecidableEq

/-- The words that are no names. -/
def reserved : List String :=
  ["select", "from", "where", "and", "or", "not", "ilike", "escape", "order", "by", "asc", "desc"]

def Operand.ofLexeme? : Lexeme → Option Operand
  | .word name => if reserved.contains name then none else some (.column name)
  | .slot n => some (.slot n)
  | _ => none

def comparison? : Lexeme → Option Comparison
  | .equal => some .equal
  | .atLeast => some .atLeast
  | .atMost => some .atMost
  | _ => none

/-- The tests of a condition, with what stands between them. -/
def items : List Lexeme → Option (List Item)
  | [] => some []
  | .left :: ls => (items ls).map (.open :: ·)
  | .right :: ls => (items ls).map (.close :: ·)
  | .word "and" :: ls => (items ls).map (.and :: ·)
  | .word "or" :: ls => (items ls).map (.or :: ·)
  | a :: .word "ilike" :: b :: .word "escape" :: .quoted [c] :: ls => do
    let test := Expr.iLike (← Operand.ofLexeme? a) (← Operand.ofLexeme? b) c
    return .test test :: (← items ls)
  | a :: sign :: b :: ls => do
    let test := Expr.compare (← Operand.ofLexeme? a) (← comparison? sign) (← Operand.ofLexeme? b)
    return .test test :: (← items ls)
  | _ => none

/-- What has been read since a parenthesis was opened: the alternatives before the last `OR`, if
there are any, and the conjunction since. -/
inductive Level where
  /-- A conjunction has to begin. -/
  | start (alternatives : Option Expr)
  /-- The conjunction may end here. -/
  | whole (alternatives : Option Expr) (conjunction : Expr)
  /-- The conjunction has to go on. -/
  | more (alternatives : Option Expr) (conjunction : Expr)

namespace Level

/-- Goes on with an operand of `AND` or `OR`. -/
def operand? : Level → Expr → Option Level
  | .start alternatives, e => some (.whole alternatives e)
  | .more alternatives conjunction, e => some (.whole alternatives (conjunction.and e))
  | .whole .., _ => none

/-- All alternatives. -/
def expr? : Level → Option Expr
  | .whole none conjunction => some conjunction
  | .whole (some alternatives) conjunction => some (alternatives.or conjunction)
  | _ => none

def and? : Level → Option Level
  | .whole alternatives conjunction => some (.more alternatives conjunction)
  | _ => none

def or? (l : Level) : Option Level :=
  l.expr?.map fun e => .start (some e)

/-- A parenthesis may be opened. -/
def wants : Level → Bool
  | .whole .. => false
  | _ => true

end Level

/-- Puts the structure of a condition together, with the levels of the parentheses around. -/
def structured? : List Level → Level → List Item → Option Expr
  | [], l, [] => l.expr?
  | _ :: _, _, [] => none
  | around, l, .test e :: rest => (l.operand? e).bind (structured? around · rest)
  | around, l, .and :: rest => l.and?.bind (structured? around · rest)
  | around, l, .or :: rest => l.or?.bind (structured? around · rest)
  | around, l, .open :: rest =>
    if l.wants then structured? (l :: around) (.start none) rest else none
  | [], _, .close :: _ => none
  | outer :: around, l, .close :: rest => do
    structured? around (← outer.operand? (← l.expr?)) rest

/-- The condition of some lexemes. -/
def condition? (ls : List Lexeme) : Option Expr := do
  structured? [] (.start none) (← items ls)

/-! ## Queries -/

/-- Names with commas between them. -/
def names? : List Lexeme → Option (List String)
  | [.word name] => some [name]
  | .word name :: .comma :: ls => (names? ls).map (name :: ·)
  | _ => none

/-- Columns to order by. -/
def order? : List Lexeme → Option (List (String × Bool))
  | [.word name] => some [(name, false)]
  | [.word name, .word "asc"] => some [(name, false)]
  | [.word name, .word "desc"] => some [(name, true)]
  | .word name :: .comma :: ls => (order? ls).map ((name, false) :: ·)
  | .word name :: .word "asc" :: .comma :: ls => (order? ls).map ((name, false) :: ·)
  | .word name :: .word "desc" :: .comma :: ls => (order? ls).map ((name, true) :: ·)
  | _ => none

def whereClause? : List Lexeme → Option (Option Expr)
  | [] => some none
  | .word "where" :: ls => (condition? ls).map some
  | _ => none

def orderClause? : List Lexeme → Option (List (String × Bool))
  | [] => some []
  | .word "order" :: .word "by" :: ls => order? ls
  | _ => none

/-- Is not this word. -/
def isNotWord (name : String) (l : Lexeme) : Bool :=
  l != .word name

/-- What comes after the columns of a query. -/
def Query.ofRest? (columns : List String) : List Lexeme → Option Query
  | .word "from" :: .word table :: ls => do
    let condition ← whereClause? (ls.takeWhile (isNotWord "order"))
    let order ← orderClause? (ls.dropWhile (isNotWord "order"))
    return { columns, table, condition, order }
  | _ => none

def Query.ofLexemes? : List Lexeme → Option Query
  | .word "select" :: ls => do
    let columns ← names? (ls.takeWhile (isNotWord "from"))
    Query.ofRest? columns (ls.dropWhile (isNotWord "from"))
  | _ => none

/-- The query that a text is. -/
def Query.read (text : String) : Option Query :=
  (lexemes text.toList).bind Query.ofLexemes?

/-- `AND` binds closer than `OR`. -/
example : Query.read "SELECT id FROM t WHERE a = $1 OR b >= $2 AND c = $3 ORDER BY id" =
    some ⟨["id"], "t", some (.or (.compare (.column "a") .equal (.slot 1))
      (.and (.compare (.column "b") .atLeast (.slot 2))
        (.compare (.column "c") .equal (.slot 3)))), [("id", false)]⟩ := by cbv

end FeedArchive.Sql
