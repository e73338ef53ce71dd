import FeedArchive.Proofs.Sql.Effect
import Mathlib.Data.List.Permutation

/-!
# A database

A world in which statements are executed on tables held in memory: a query is answered with the
first arrangement of its rows that its order allows, and the rows of a table are numbered
upwards.
-/

namespace FeedArchive.Sql

open Database (Cell Param Row Statement)

/-- Whether one row may stand in front of another one can be told by their columns. -/
instance decidableInOrder : (keys : List (String × Bool)) → (a b : Row) →
    Decidable (InOrder keys a b)
  | [], _, _ => isTrue trivial
  | (name, descends) :: keys, a, b =>
    match h : rank? name a b with
    | some .eq =>
      haveI := decidableInOrder keys a b
      decidable_of_iff (InOrder keys a b) (by simp only [InOrder, h])
    | some .lt => decidable_of_iff (descends = false) (by simp only [InOrder, h])
    | some .gt => decidable_of_iff (descends = true) (by simp only [InOrder, h])
    | none => isFalse (by simp only [InOrder, h, not_false_eq_true])

namespace Query

/-- The first answer to a query among the arrangements of the selected rows. -/
def answer? (q : Query) (params : List Param) (tables : Tables) : Option (List Row) :=
  if ∀ r ∈ tables q.table, (q.truth? params r).isSome then
    ((tables q.table).filter (q.truth? params · = some .yes)).permutations.findSome? fun selected =>
      if selected.Pairwise (InOrder q.order) then selected.mapM (project? q.columns) else none
  else none

variable {q : Query} {params : List Param} {tables : Tables} {rows : List Row}

/-- The answer that is computed for a query is an answer to it. -/
theorem answers_of_answer? (h : q.answer? params tables = some rows) :
    q.Answers params tables rows := by
  rw [answer?] at h
  split at h
  · next htruth =>
    obtain ⟨selected, hselected, hrows⟩ := List.exists_of_findSome?_eq_some h
    split at hrows
    · next hordered => exact ⟨htruth, selected, List.mem_permutations.mp hselected, hordered, hrows⟩
    · cases hrows
  · cases h

/-- A query for which no answer is computed has none. -/
theorem not_answers_of_answer? (h : q.answer? params tables = none) :
    ¬q.Answers params tables rows := by
  rintro ⟨htruth, selected, hperm, hordered, hrows⟩
  rw [answer?, if_pos htruth, List.findSome?_eq_none_iff] at h
  have hnone := h selected (List.mem_permutations.mpr hperm)
  rw [if_pos hordered] at hnone
  exact nomatch hnone.symm.trans hrows

end Query

/-- A number above those that rows have under the name `id`. -/
def nextNumber : List Row → Int
  | [] => 1
  | row :: rows => match row.lookup "id" with
    | some (.int n) => max (n + 1) (nextNumber rows)
    | _ => nextNumber rows

/-- The next number is above all identifiers. -/
theorem lt_nextNumber {rows : List Row} {row : Row} {n : Int} (hrow : row ∈ rows)
    (hn : row.lookup "id" = some (.int n)) : n < nextNumber rows := by
  induction rows with
  | nil => cases hrow
  | cons other rows ih =>
    rw [nextNumber]
    cases hrow with
    | head =>
      rw [hn]
      exact lt_of_lt_of_le (lt_add_one n) (le_max_left _ _)
    | tail _ hrow =>
      split
      · exact lt_of_lt_of_le (ih hrow) (le_max_right _ _)
      · exact ih hrow

/-- What is done with a statement at a time. -/
def executed? (time : Instant) (statement : Statement) (tables : Tables) : Option Effect :=
  match Query.read statement.command.text, Change.read statement.command.text with
  | some q, _ => (q.answer? statement.params tables).map fun rows => ⟨rows, rows.length, tables⟩
  | none, some c => c.effect? ⟨nextNumber (tables c.table), time⟩ statement.params tables
  | none, none => none

/-- What is computed for a statement is something that the statement may do. -/
theorem performs_executed? (time : Instant) (statement : Statement) (tables : Tables) :
    Performs statement tables (executed? time statement tables) := by
  rw [executed?]
  split
  · next _ _ q hquery =>
    cases hanswer : q.answer? statement.params tables with
    | none => exact .noAnswer hquery fun rows => Query.not_answers_of_answer? hanswer
    | some rows => exact .query hquery (Query.answers_of_answer? hanswer)
  · next _ _ c _ hchange =>
    exact .change hchange fun row hrow hn => lt_irrefl _ (lt_nextNumber hrow hn)
  · next _ _ hquery hchange => exact .unread hquery hchange

/-- A database at a time, whose tables are the state of the world. Everything else is as where
nothing is set up. -/
def reference (time : Instant) : World Tables where
  answer
    | .rows statement, tables => match executed? time statement tables with
      | some effect => (.ok effect.rows, effect.tables)
      | none => (.error "refused", tables)
    | .affected statement, tables => match executed? time statement tables with
      | some effect => (.ok effect.count, effect.tables)
      | none => (.error "refused", tables)
    | .connect _, tables | .control _, tables => (.ok (), tables)
    | .migrations, tables => ([], tables)
    | .search _ _, tables => ({ outcome := .ok [] }, tables)
    | .members _, tables => ({ outcome := .ok [] }, tables)
    | .fetch _ _, tables => (.error (.other "not found"), tables)
    | .now, tables => (time, tables)
    | .elapsed, tables => (⟨0⟩, tables)
    | .log _, tables | .print _, tables => ((), tables)

/-- The reference executes statements as their texts say. -/
theorem executes_reference (time : Instant) : Executes (reference time) id where
  rows statement tables := by
    refine ⟨_, performs_executed? time statement tables, ?_⟩
    simp only [reference]
    cases executed? time statement tables with
    | none => exact ⟨⟨_, rfl⟩, rfl⟩
    | some effect => exact ⟨rfl, rfl⟩
  affected statement tables := by
    refine ⟨_, performs_executed? time statement tables, ?_⟩
    simp only [reference]
    cases executed? time statement tables with
    | none => exact ⟨⟨_, rfl⟩, rfl⟩
    | some effect => exact ⟨rfl, rfl⟩

end FeedArchive.Sql
