import FeedArchive.Proofs.Sql.Select

/-!
# Changes in SQL

Statements that insert, update and delete rows are read from their text (`Change.read`). The texts
of the commands that change rows by a key are read as such changes, whose slots are numbered in the
order of the columns (`Command.read_insert`, `read_update`, `read_delete`).
-/

namespace FeedArchive

open Sql

namespace Sql

/-! ## Reading -/

/-- A statement that changes the rows of a table. -/
inductive Change where
  /-- A new row, and the column of it that is returned. -/
  | insert (table : String) (columns : List String) (values : List Operand)
      (returned : Option String)
  /-- Other values in the rows that satisfy the condition. -/
  | update (table : String) (assignments : List (String × Operand)) (condition : Option Expr)
  /-- Without the rows that satisfy the condition. -/
  | delete (table : String) (condition : Option Expr)
  deriving DecidableEq

/-- Operands with commas between them. -/
def operands? : List Lexeme → Option (List Operand)
  | [l] => (Operand.ofLexeme? l).map ([·])
  | l :: .comma :: ls => do return (← Operand.ofLexeme? l) :: (← operands? ls)
  | _ => none

/-- New values for columns, with commas between them. -/
def assignments? : List Lexeme → Option (List (String × Operand))
  | [.word name, .equal, l] => (Operand.ofLexeme? l).map fun value => [(name, value)]
  | .word name :: .equal :: l :: .comma :: ls => do
    return (name, ← Operand.ofLexeme? l) :: (← assignments? ls)
  | _ => none

def returningClause? : List Lexeme → Option (Option String)
  | [] => some none
  | [.word "returning", .word name] => some (some name)
  | _ => none

namespace Change

/-- The table that is changed. -/
def table : Change → String
  | insert table .. | update table .. | delete table .. => table

/-- What comes after the columns of an insertion. -/
def ofValues? (table : String) (columns : List String) : List Lexeme → Option Change
  | .right :: .word "values" :: .left :: ls => do
    let values ← operands? (ls.takeWhile (· != .right))
    let returned ← returningClause? (ls.dropWhile (· != .right)).tail
    return .insert table columns values returned
  | _ => none

def ofLexemes? : List Lexeme → Option Change
  | .word "insert" :: .word "into" :: .word table :: .left :: ls => do
    let columns ← names? (ls.takeWhile (· != .right))
    ofValues? table columns (ls.dropWhile (· != .right))
  | .word "update" :: .word table :: .word "set" :: ls => do
    let assignments ← assignments? (ls.takeWhile (isNotWord "where"))
    let condition ← whereClause? (ls.dropWhile (isNotWord "where"))
    return .update table assignments condition
  | .word "delete" :: .word "from" :: .word table :: ls => do
    return .delete table (← whereClause? ls)
  | _ => none

/-- The change that a text is. -/
def read (text : String) : Option Change :=
  (lexemes text.toList).bind ofLexemes?

end Change

/-! ## Lists of slots -/

/-- The lexemes of slots with commas between them. -/
def slotLexemes (slots : List Nat) : List Lexeme :=
  [.comma].intercalate (slots.map fun n => [.slot n])

/-- Slots with commas between them are read as operands. -/
theorem operands?_slotLexemes {slot : Nat} {slots : List Nat} :
    operands? (slotLexemes (slot :: slots)) = some ((slot :: slots).map .slot) := by
  induction slots generalizing slot with
  | nil => rfl
  | cons next slots ih =>
    rw [slotLexemes, List.map_cons, List.map_cons, List.intercalate_cons_cons]
    show (operands? (slotLexemes (next :: slots))).bind _ = _
    rw [ih]
    rfl

/-- The text of slots with commas between them has their lexemes. -/
theorem reads_slots (slot : Nat) (slots : List Nat) :
    Reads (", ".intercalate ((slot :: slots).map Database.slotText)).toList
      (slotLexemes (slot :: slots)) := by
  have hall := Reads.intercalate_comma fun n (_ : n ∈ slot :: slots) => Database.reads_slotText n
  rw [String.toList_intercalate, List.map_map]
  exact hall

/-- The lexemes of columns that are set to slots. -/
def assignmentLexemes (assignments : List (String × Nat)) : List Lexeme :=
  [.comma].intercalate (assignments.map fun a => [.word a.1, .equal, .slot a.2])

/-- Assignments with commas between them are read as they are. -/
theorem assignments?_assignmentLexemes {a : String × Nat} {assignments : List (String × Nat)} :
    assignments? (assignmentLexemes (a :: assignments))
      = some ((a :: assignments).map fun a => (a.1, .slot a.2)) := by
  induction assignments generalizing a with
  | nil => rfl
  | cons next assignments ih =>
    rw [assignmentLexemes, List.map_cons, List.map_cons, List.intercalate_cons_cons]
    show (assignments? (assignmentLexemes (next :: assignments))).bind _ = _
    rw [ih]
    rfl

/-- The text of assignments with commas between them has their lexemes. -/
theorem reads_assignments {a : String × Nat} {assignments : List (String × Nat)}
    (h : ∀ b ∈ a :: assignments, IsName b.1) :
    Reads (", ".intercalate ((a :: assignments).map fun b =>
        b.1 ++ " = " ++ Database.slotText b.2)).toList
      (assignmentLexemes (a :: assignments)) := by
  have hequal : Reads "=".toList [.equal] := rfl
  have hone : ∀ b ∈ a :: assignments, Reads (b.1 ++ " = " ++ Database.slotText b.2).toList
      [.word b.1, .equal, .slot b.2] := fun b hb => by
    simpa using (h b hb).reads.join (hequal.join (Database.reads_slotText b.2))
  have hall := Reads.intercalate_comma hone
  rw [String.toList_intercalate, List.map_map]
  exact hall

/-- Lexemes up to one that ends them. -/
theorem splitAt_end {p : Lexeme → Bool} {before after : List Lexeme} {last : Lexeme}
    (hbefore : ∀ l ∈ before, p l = true) (hlast : p last = false) :
    (before ++ last :: after).takeWhile p = before ∧
      (before ++ last :: after).dropWhile p = last :: after := by
  rw [List.takeWhile_append_of_pos hbefore, List.dropWhile_append_of_pos hbefore,
    List.takeWhile_cons_of_neg (by rw [hlast]; decide),
    List.dropWhile_cons_of_neg (by rw [hlast]; decide)]
  exact ⟨List.append_nil _, rfl⟩

/-- Lists of single lexemes and commas hold no parenthesis. -/
theorem ne_right_of_mem {α : Type} {part : α → List Lexeme} {parts : List α}
    (h : ∀ x ∈ parts, ∀ l ∈ part x, (l != .right) = true) :
    ∀ l ∈ [.comma].intercalate (parts.map part), (l != .right) = true :=
  forall_mem_intercalate (List.forall_mem_singleton.mpr rfl) (List.forall_mem_map.mpr h)

namespace Change

/-- The lexemes of an insertion with a column to return are read as the insertion. -/
theorem ofLexemes?_insert {table column returned : String} {columns : List String} {slot : Nat}
    {slots : List Nat} :
    ofLexemes? (.word "insert" :: .word "into" :: .word table :: .left ::
        (nameLexemes (column :: columns) ++ .right :: .word "values" :: .left ::
          (slotLexemes (slot :: slots) ++ [.right, .word "returning", .word returned])))
      = some (.insert table (column :: columns) ((slot :: slots).map .slot) (some returned)) := by
  have hright : (Lexeme.right != .right) = false := by decide
  have hnames : ∀ l ∈ nameLexemes (column :: columns), (l != .right) = true :=
    ne_right_of_mem fun _ _ => List.forall_mem_singleton.mpr rfl
  have hslots : ∀ l ∈ slotLexemes (slot :: slots), (l != .right) = true :=
    ne_right_of_mem fun _ _ => List.forall_mem_singleton.mpr rfl
  rw [ofLexemes?, (splitAt_end hnames hright).1, (splitAt_end hnames hright).2,
    names?_nameLexemes, Option.bind_eq_bind, Option.bind_some, ofValues?,
    (splitAt_end hslots hright).1, (splitAt_end hslots hright).2, operands?_slotLexemes]
  rfl

/-- The lexemes of an update under a condition are read as the update. -/
theorem ofLexemes?_update {table : String} {a : String × Nat} {assignments : List (String × Nat)}
    {condition : Option Expr} {keyed : List Lexeme} (h : ∀ b ∈ a :: assignments, IsName b.1)
    (hkeyed : whereClause? (.word "where" :: keyed) = some condition) :
    ofLexemes? (.word "update" :: .word table :: .word "set" ::
        (assignmentLexemes (a :: assignments) ++ .word "where" :: keyed))
      = some (.update table ((a :: assignments).map fun b => (b.1, .slot b.2)) condition) := by
  have hwhere : isNotWord "where" (.word "where") = false := rfl
  have hassignments : ∀ l ∈ assignmentLexemes (a :: assignments), isNotWord "where" l = true := by
    refine forall_mem_intercalate (List.forall_mem_singleton.mpr rfl) ?_
    refine List.forall_mem_map.mpr fun b hb => ?_
    simp only [List.forall_mem_cons, (h b hb).isNotWord "where" (by decide), true_and]
    exact ⟨rfl, rfl, List.forall_mem_nil _⟩
  rw [ofLexemes?, (splitAt_end hassignments hwhere).1, (splitAt_end hassignments hwhere).2,
    assignments?_assignmentLexemes, hkeyed]
  rfl

end Change

end Sql

namespace Database.Command

variable {relation key column : String} {columns : List String}

/-- The condition that a column is the parameter in a slot. -/
def keyedBy (key : String) (slot : Nat) : Expr :=
  .compare (.column key) .equal (.slot slot)

/-- The lexemes after the columns that are set. -/
theorem reads_keyed (hkey : IsName key) (slot : Nat) :
    Reads ("WHERE ".toList ++ (key ++ " = " ++ slotText slot).toList)
      [.word "where", .word key, .equal, .slot slot] := by
  have hwhere : Reads "WHERE".toList [.word "where"] := rfl
  have hequal : Reads "=".toList [.equal] := rfl
  simpa using hwhere.join (hkey.reads.join (hequal.join (reads_slotText slot)))

/-- The clause that compares a key with a slot is read as this condition. -/
theorem whereClause?_keyed (hkey : IsName key) (slot : Nat) :
    whereClause? [.word "where", .word key, .equal, .slot slot]
      = some (some (keyedBy key slot)) := by
  have hnames : ∀ c ∈ [Condition.compare key .equal slot], ∀ name ∈ c.columns, IsName name :=
    List.forall_mem_singleton.mpr (List.forall_mem_singleton.mpr hkey)
  exact whereClause?_chainLexemes hnames (.cons rfl .nil)

/-- The text of an insertion, put together from its parts. -/
theorem text_insert (relation : String) (columns : List String) (key : String) :
    (Command.insert relation columns (.returning key)).text = "INSERT INTO " ++ relation ++ " ("
      ++ ", ".intercalate columns ++ ") VALUES ("
      ++ ", ".intercalate ((List.range' 1 columns.length).map slotText) ++ ")"
      ++ (" RETURNING " ++ key) := rfl

/-- The text of an update, put together from its parts. -/
theorem text_update (relation : String) (columns : List String) (key : String) :
    (Command.update relation columns key).text = "UPDATE " ++ relation ++ " SET "
      ++ ", ".intercalate ((columns.zip (List.range' 1 columns.length)).map fun c =>
        c.1 ++ " = " ++ slotText c.2)
      ++ " WHERE " ++ key ++ " = " ++ slotText (columns.length + 1) := rfl

/-- The text of a deletion, put together from its parts. -/
theorem text_delete (relation key : String) :
    (Command.delete relation key).text
      = "DELETE FROM " ++ relation ++ " WHERE " ++ key ++ " = " ++ slotText 1 := rfl

/-- A command that inserts a row is read as an insertion. -/
theorem read_insert (hrelation : IsName relation)
    (hcolumns : ∀ name ∈ column :: columns, IsName name) (hkey : IsName key) :
    Change.read (Command.insert relation (column :: columns) (.returning key)).text
      = some (.insert relation (column :: columns)
          ((List.range' 1 (columns.length + 1)).map .slot) (some key)) := by
  have hinsert : Reads "INSERT INTO".toList [.word "insert", .word "into"] := rfl
  have hvalues : Reads "VALUES".toList [.word "values"] := rfl
  have hreturning : Reads "RETURNING".toList [.word "returning"] := rfl
  have hall := hinsert.join (hrelation.reads.join ((reads_names hcolumns).parenthesized.join
    (hvalues.join ((reads_slots 1 (List.range' 2 columns.length)).parenthesized.join
      (hreturning.join hkey.reads)))))
  have htext : (Command.insert relation (column :: columns) (.returning key)).text.toList
      = "INSERT INTO".toList ++ ' ' :: (relation.toList ++ ' ' ::
          (('(' :: (", ".intercalate (column :: columns)).toList ++ [')']) ++ ' ' ::
            ("VALUES".toList ++ ' ' ::
              (('(' :: (", ".intercalate ((1 :: List.range' 2 columns.length).map
                slotText)).toList ++ [')']) ++ ' ' ::
                ("RETURNING".toList ++ ' ' :: key.toList))))) := by
    have hrange : List.range' 1 (column :: columns).length = 1 :: List.range' 2 columns.length :=
      rfl
    rw [text_insert, hrange]
    generalize ", ".intercalate ((1 :: List.range' 2 columns.length).map slotText) = slots
    generalize ", ".intercalate (column :: columns) = names
    simp
  rw [Change.read, htext, hall.lexemes_eq, Option.bind_some]
  simp only [List.append_assoc, List.cons_append, List.nil_append]
  exact Change.ofLexemes?_insert

/-- A command that updates a row is read as an update. -/
theorem read_update (hrelation : IsName relation)
    (hcolumns : ∀ name ∈ column :: columns, IsName name) (hkey : IsName key) :
    Change.read (Command.update relation (column :: columns) key).text
      = some (.update relation
          (((column :: columns).zip (List.range' 1 (columns.length + 1))).map fun a =>
            (a.1, .slot a.2))
          (some (keyedBy key (columns.length + 2)))) := by
  have hupdate : Reads "UPDATE".toList [.word "update"] := rfl
  have hset : Reads "SET".toList [.word "set"] := rfl
  have hzip : (column :: columns).zip (List.range' 1 (column :: columns).length)
      = (column, 1) :: columns.zip (List.range' 2 columns.length) := rfl
  have hassigned : ∀ a ∈ (column, 1) :: columns.zip (List.range' 2 columns.length),
      IsName a.1 := fun a ha => hcolumns a.1 (List.of_mem_zip (hzip ▸ ha)).1
  have hall := hupdate.join (hrelation.reads.join (hset.join
    ((reads_assignments hassigned).join (reads_keyed hkey (columns.length + 2)))))
  have htext : (Command.update relation (column :: columns) key).text.toList
      = "UPDATE".toList ++ ' ' :: (relation.toList ++ ' ' :: ("SET".toList ++ ' ' ::
          ((", ".intercalate (((column, 1) :: columns.zip (List.range' 2 columns.length)).map
            fun c => c.1 ++ " = " ++ slotText c.2)).toList ++ ' ' ::
            ("WHERE ".toList ++ (key ++ " = " ++ slotText (columns.length + 2)).toList)))) := by
    rw [text_update, hzip]
    generalize ", ".intercalate _ = assignments
    simp
  rw [Change.read, htext, hall.lexemes_eq, Option.bind_some]
  exact Change.ofLexemes?_update hassigned (whereClause?_keyed hkey _)

/-- A command that deletes a row is read as a deletion. -/
theorem read_delete (hrelation : IsName relation) (hkey : IsName key) :
    Change.read (Command.delete relation key).text
      = some (.delete relation (some (keyedBy key 1))) := by
  have hdelete : Reads "DELETE FROM".toList [.word "delete", .word "from"] := rfl
  have hall := hdelete.join (hrelation.reads.join (reads_keyed hkey 1))
  have htext : (Command.delete relation key).text.toList = "DELETE FROM".toList ++ ' ' ::
      (relation.toList ++ ' ' :: ("WHERE ".toList ++ (key ++ " = " ++ slotText 1).toList)) := by
    rw [text_delete]
    generalize slotText 1 = slot
    simp
  rw [Change.read, htext, hall.lexemes_eq]
  show (whereClause? [.word "where", .word key, .equal, .slot 1]).bind _ = _
  rw [whereClause?_keyed hkey]
  rfl

end Database.Command

end FeedArchive
