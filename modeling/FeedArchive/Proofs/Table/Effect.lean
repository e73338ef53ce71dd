import FeedArchive.Proofs.Table.Contents

/-!
# Statements on the rows of records

What the statements on a table do to the rows of records. Each is read from its text and carried
out: an insertion adds the row of the record as it is stored at first, an update has the rows with
an identifier be those of changed records, a deletion removes them, and a query returns them.
-/

namespace FeedArchive

open Database Sql

namespace Entity

variable {e : Entity} {records : List e.Record} {r : e.Record} {supply : Supply} {x : e.New}
  {params : List Param} {tables : Tables} {id : Int} {slot : Nat}

/-- The table of an entity. -/
def schema : Entity → Schema
  | .article => .articles
  | .source => .sources

/-- The table of an entity has the schema of the entity. -/
theorem ofTable?_table : Schema.ofTable? e.table = some e.schema := by cases e <;> rfl

/-- The row of a record has its identifier. -/
theorem lookup_id : (e.row r).lookup "id" = some (.int (e.id r)) := by cases e <;> rfl

/-- A table admits the rows of records that have different identifiers and different URLs. -/
theorem admits_iff : e.schema.Admits (records.map e.row) ↔
    (records.map e.id).Nodup ∧ (records.map fun r => e.url (e.toNew r)).Nodup := by
  obtain ⟨column, hunique, hcolumn⟩ : ∃ column, e.schema.unique = ["id", column] ∧
      ∀ r, (e.row r).lookup column = some (.text (e.url (e.toNew r))) := by
    cases e with
    | article => exact ⟨"url", rfl, fun r => rfl⟩
    | source => exact ⟨"feed_url", rfl, fun r => rfl⟩
  have hids : (records.map e.row).filterMap (·.lookup "id") = (records.map e.id).map .int := by
    rw [List.filterMap_map, List.map_map, ← List.filterMap_eq_map]
    exact List.filterMap_congr fun r _ => lookup_id
  have hurls : (records.map e.row).filterMap (·.lookup column)
      = (records.map fun r => e.url (e.toNew r)).map .text := by
    rw [List.filterMap_map, List.map_map, ← List.filterMap_eq_map]
    exact List.filterMap_congr fun r _ => hcolumn r
  rw [Schema.Admits, hunique, List.forall_mem_cons, List.forall_mem_singleton, hids, hurls,
    List.nodup_map_iff fun _ _ => Cell.int.inj, List.nodup_map_iff fun _ _ => Cell.text.inj]

/-- A table admits the records of a map. -/
theorem Lists.admits {m : e.Contents} (h : e.Lists records m) :
    e.schema.Admits (records.map e.row) :=
  admits_iff.mpr ⟨h.ids, h.urls⟩

/-- Two records with the same URL have to be the same. -/
theorem eq_of_admits (h : e.schema.Admits (records.map e.row)) {a b : e.Record}
    (ha : a ∈ records) (hb : b ∈ records) (hurl : e.url (e.toNew a) = e.url (e.toNew b)) : a = b :=
  List.inj_on_of_nodup_map (admits_iff.mp h).2 ha hb hurl

/-- A number is fresh if no record has it. -/
theorem fresh_iff : supply.Fresh (records.map e.row) ↔ ∀ r ∈ records, e.id r ≠ supply.number := by
  rw [Supply.Fresh, List.forall_mem_map]
  refine forall₂_congr fun r _ => ?_
  rw [lookup_id, Ne, Option.some.injEq, Cell.int.injEq]

/-- The condition that the identifier is a parameter. -/
theorem truth?_keyedBy (hslot : (Operand.slot slot).cell? params (e.row r) = some (.int id)) :
    (Command.keyedBy "id" slot).truth? params (e.row r)
      = some (.ofBool (decide (e.id r = id))) := by
  have hcolumn : (Operand.column "id").cell? params (e.row r) = some (.int (e.id r)) := lookup_id
  have hcompare : (Ord.compare (e.id r) id).isEq = decide (e.id r = id) := by
    rw [isEq_compare, Bool.beq_eq_decide_eq]
    exact decide_eq_decide.mpr eq_comm
  rw [Command.keyedBy, Expr.truth?, hcolumn, hslot]
  show compared? .equal (.int (e.id r)) (.int id) = _
  rw [compared?_eq Cell.noConfusion Cell.noConfusion, ← hcompare]
  rfl

/-- A statement for one identifier selects the record that has it. -/
theorem selects?_keyedBy (hslot : (Operand.slot slot).cell? params (e.row r) = some (.int id)) :
    selects? (some (Command.keyedBy "id" slot)) params (e.row r) = some (decide (e.id r = id)) := by
  rw [selects?, truth?_keyedBy hslot]
  by_cases h : e.id r = id <;> simp [h, Truth.ofBool]

/-- Reading the rows of records one by one. -/
theorem mapM_map_row {α : Type} {f : Row → Option α} {g : e.Record → α}
    (h : ∀ r, f (e.row r) = some (g r)) : (records.map e.row).mapM f = some (records.map g) := by
  have hcomp : f ∘ e.row = fun r => pure (g r) := funext h
  rw [List.mapM_map, hcomp, List.mapM_pure]
  rfl

/-- The column of identifiers is a name, and no word of the language. -/
theorem isName_id : IsName "id" := ⟨by rfl, by decide⟩

/-! ## Insertions -/

/-- The insertion of a record. -/
def insertion (e : Entity) : Change :=
  .insert e.table e.newColumns ((List.range' 1 e.newColumns.length).map .slot) (some "id")

/-- The columns that are stored are names. -/
theorem isName_of_mem_newColumns : ∀ name ∈ e.newColumns, IsName name := by
  have hsub : ∀ name ∈ e.newColumns, name ∈ e.columns := by cases e <;> decide
  exact fun name hname => isName_of_mem_columns name (hsub name hname)

/-- The text of an insertion is read as the insertion. -/
theorem read_insertion :
    Change.read (Command.insert e.table e.newColumns (.returning "id")).text
      = some e.insertion := by
  have hnames := isName_of_mem_newColumns (e := e)
  cases e <;> exact Command.read_insert isName_table hnames isName_id

/-- The row of the record as it is stored at first is added, if the table admits it. -/
theorem effect?_insertion (hrows : tables e.table = records.map e.row) :
    e.insertion.effect? supply (e.newParams x) tables
      = if e.schema.Admits ((records ++ [e.stored supply x]).map e.row) then
          some ⟨[[("id", .int supply.number)]], 1,
            Function.update tables e.table ((records ++ [e.stored supply x]).map e.row)⟩
        else none := by
  rw [List.map_append, List.map_singleton, ← hrows]
  cases e <;> rfl

/-! ## Updates -/

/-- The update of columns in the row with an identifier. -/
def updating (e : Entity) (columns : List String) : Change :=
  .update e.table ((columns.zip (List.range' 1 columns.length)).map fun a => (a.1, .slot a.2))
    (some (Command.keyedBy "id" (columns.length + 1)))

/-- With parameters for columns and for an identifier, the row of a record with the identifier
becomes that of a changed record. -/
structure Alters (e : Entity) (columns : List String) (params : List Param) (id : Int)
    (f : e.Record → e.Record) : Prop where
  columns_ne : columns ≠ []
  isName : ∀ name ∈ columns, IsName name
  id_slot : ∀ row, (Operand.slot (columns.length + 1)).cell? params row = some (.int id)
  assign_row : ∀ r, (do
    let assignments := (columns.zip (List.range' 1 columns.length)).map fun a =>
      (a.1, Operand.slot a.2)
    let cells ← assignments.mapM (·.2.cell? params (e.row r))
    return assign (← e.schema.given? (assignments.map (·.1)) cells) (e.row r)) = some (e.row (f r))
  id_eq : ∀ r, e.id (f r) = e.id r

/-- What is given of a record when it is stored changes. -/
theorem alters_new (x : e.New) (id : Int) :
    e.Alters e.newColumns (e.newParams x ++ [.int id]) id (e.change · x) where
  columns_ne := by cases e <;> nofun
  isName := isName_of_mem_newColumns
  id_slot _ := by cases e <;> rfl
  assign_row _ := by cases e <;> rfl
  id_eq _ := id_change

/-- The time of crawling changes. -/
theorem alters_crawled (time : Instant) (id : Int) :
    Entity.source.Alters ["last_crawled_at"] [.time time, .int id] id
      (fun s : Source => { s with lastCrawledAt := some time }) where
  columns_ne := nofun
  isName := List.forall_mem_singleton.mpr ⟨by rfl, by decide⟩
  id_slot _ := rfl
  assign_row _ := rfl
  id_eq _ := rfl

variable {columns : List String} {f : e.Record → e.Record}

/-- The text of an update is read as the update. -/
theorem Alters.read (h : e.Alters columns params id f) :
    Change.read (Command.update e.table columns "id").text = some (e.updating columns) := by
  have hne := h.columns_ne
  have hnames := h.isName
  cases columns with
  | nil => exact absurd rfl hne
  | cons column columns => exact Command.read_update isName_table hnames isName_id

/-- The rows with an identifier become those of changed records, if the table admits them. -/
theorem Alters.effect? (h : e.Alters columns params id f)
    (hrows : tables e.table = records.map e.row) :
    (e.updating columns).effect? supply params tables
      = if e.schema.Admits ((e.replaceIn id f records).map e.row) then
          some ⟨[], records.countP (e.id · = id),
            Function.update tables e.table ((e.replaceIn id f records).map e.row)⟩
        else none := by
  have hselects : ∀ r, selects? (some (Command.keyedBy "id" (columns.length + 1))) params (e.row r)
      = some (decide (e.id r = id)) := fun r => selects?_keyedBy (h.id_slot (e.row r))
  have hreplaced : (records.map e.row).mapM (fun row => do
      if (← selects? (some (Command.keyedBy "id" (columns.length + 1))) params row) then
        let assignments := (columns.zip (List.range' 1 columns.length)).map fun a =>
          (a.1, Operand.slot a.2)
        let cells ← assignments.mapM (·.2.cell? params row)
        return assign (← e.schema.given? (assignments.map (·.1)) cells) row
      else return row) = some ((e.replaceIn id f records).map e.row) := by
    rw [replaceIn, List.map_map]
    refine mapM_map_row fun r => ?_
    rw [hselects, Option.bind_eq_bind, Option.bind_some]
    by_cases hr : e.id r = id
    · rw [if_pos (decide_eq_true hr), h.assign_row, Function.comp_apply, if_pos hr]
    · rw [if_neg (by simpa using hr), Function.comp_apply, if_neg hr]
      rfl
  have hcount : (records.map e.row).countP
        (selects? (some (Command.keyedBy "id" (columns.length + 1))) params · = some true)
      = records.countP (e.id · = id) := by
    rw [List.countP_map]
    exact List.countP_congr fun r _ => by simp [hselects]
  rw [updating, Change.effect?, ofTable?_table, hrows, hcount, Option.bind_eq_bind,
    Option.bind_some, hreplaced]
  rfl

/-! ## Deletions -/

/-- The deletion of the row with an identifier. -/
def deletion (e : Entity) : Change :=
  .delete e.table (some (Command.keyedBy "id" 1))

/-- The text of a deletion is read as the deletion. -/
theorem read_deletion : Change.read (Command.delete e.table "id").text = some e.deletion :=
  Command.read_delete isName_table isName_id

/-- The rows with the identifier go. -/
theorem effect?_deletion (hrows : tables e.table = records.map e.row) :
    e.deletion.effect? supply [.int id] tables
      = some ⟨[], records.countP (e.id · = id),
          Function.update tables e.table ((records.filter (e.id · ≠ id)).map e.row)⟩ := by
  have hselects : ∀ r : e.Record, selects? (some (Command.keyedBy "id" 1)) [.int id] (e.row r)
      = some (decide (e.id r = id)) := fun r => selects?_keyedBy rfl
  have hselected : (records.map e.row).mapM (selects? (some (Command.keyedBy "id" 1)) [.int id])
      = some (records.map fun r => decide (e.id r = id)) := mapM_map_row hselects
  have hkept : (records.map e.row).filter
        (selects? (some (Command.keyedBy "id" 1)) [.int id] · = some false)
      = (records.filter (e.id · ≠ id)).map e.row := by
    rw [List.filter_map]
    exact congrArg _ (List.filter_congr fun r _ => by simp [hselects])
  rw [deletion, Change.effect?, ofTable?_table, hrows, hselected, hkept]
  simp [List.count, List.countP_map, Function.comp_def]

/-! ## Queries -/

/-- The query for the row with an identifier. -/
def query (e : Entity) : Query :=
  ⟨e.columns, e.table, some (Command.keyedBy "id" 1), []⟩

/-- The text of a query for one identifier is read as the query. -/
theorem read_query :
    Query.read (Command.select e.columns e.table [.compare "id" .equal 1] []).text
      = some e.query := by
  have hnames := isName_of_mem_columns (e := e)
  have hid : ∀ c ∈ [Condition.compare "id" .equal 1], ∀ name ∈ c.columns, IsName name :=
    List.forall_mem_singleton.mpr (List.forall_mem_singleton.mpr isName_id)
  cases e <;>
    exact Command.read_select hnames isName_table hid (.cons rfl .nil) (List.forall_mem_nil _)

/-- The only answer is the row with the identifier, or none if there is no such row. -/
theorem answers_query_iff {m : e.Contents} (h : e.Lists records m)
    (hrows : tables e.table = records.map e.row) {rows : List Row} :
    e.query.Answers [.int id] tables rows ↔ rows = (m.lookup id).toList.map e.row := by
  have htruth : ∀ r, e.query.truth? [.int id] (e.row r)
      = some (.ofBool (decide (e.id r = id))) := fun r => truth?_keyedBy rfl
  have htable : tables e.query.table = records.map e.row := hrows
  have hselected : (tables e.query.table).filter (e.query.truth? [.int id] · = some .yes)
      = (m.lookup id).toList.map e.row := by
    rw [← h.filter_eq, htable, List.filter_map]
    refine congrArg _ (List.filter_congr fun r _ => ?_)
    rw [Function.comp_apply, htruth]
    by_cases hr : e.id r = id <;> simp [hr, Truth.ofBool]
  have hsome : ∀ row ∈ tables e.query.table, (e.query.truth? [.int id] row).isSome := by
    rw [htable, List.forall_mem_map]
    intro r _
    rw [htruth]
    rfl
  have hall : ∀ l : List Row, l.Pairwise (InOrder e.query.order) := fun l =>
    List.pairwise_of_forall fun _ _ => trivial
  constructor
  · rintro ⟨-, selected, hperm, -, hproject⟩
    -- there is one row at most, and so one order only
    have heq : selected = (m.lookup id).toList.map e.row := by
      rw [hselected] at hperm
      revert hperm
      cases m.lookup id with
      | none => exact List.perm_nil.mp
      | some r => exact List.perm_singleton.mp
    rw [heq] at hproject
    exact (Option.some.inj ((mapM_project?_row _).symm.trans hproject)).symm
  · rintro rfl
    exact ⟨hsome, _, .of_eq hselected.symm, hall _, mapM_project?_row _⟩

end Entity

end FeedArchive
