import FeedArchive.Program.Stage
import FeedArchive.Proofs.Program.Run
import FeedArchive.Proofs.Search.Memory
import FeedArchive.Proofs.Search.Order
import FeedArchive.Proofs.Sql.Predicate
import FeedArchive.Table
import Mathlib

/-!
# Searching a table

The store in the database sends one statement for a search. Read as a query it has exactly one
answer, whatever the order in which the rows of the table are stored: the rows of the records that
the store in memory finds, in the same order (`Store.search_database_eq_memory`).
-/

namespace FeedArchive

open Database Sql

/-! ## The statement of a search -/

/-- The conditions of predicates are about columns. -/
theorem Database.Condition.isName_of_mem_ofPredicates {ps : List Predicate} {next : Nat} :
    ∀ c ∈ (Condition.ofPredicates next ps).1, ∀ name ∈ c.columns, IsName name := by
  induction ps generalizing next with
  | nil =>
    intro c hc
    cases hc
  | cons p ps ih =>
    intro c hc name hname
    rcases List.mem_cons.mp hc with rfl | hc
    · cases p with
      | contains fields pattern =>
        obtain ⟨term, hterm, rfl⟩ := List.mem_map.mp hname
        obtain ⟨f, -, hf⟩ := List.mem_map.mp (List.of_mem_zip hterm).1
        rw [← hf]
        exact f.isName_column
      | equals f v | onOrAfter f bound | onOrBefore f bound =>
        rw [List.mem_singleton.mp hname]
        exact f.isName_column
    · exact ih c hc name hname

/-- A record satisfies predicates if it satisfies each of them. -/
theorem Predicate.satisfies_eq_all (e : Entity) (ps : List Predicate) (r : e.Record) :
    e.satisfies ps r = (ps.map fun p => p.holds (e.value r)).all id := by
  rw [Entity.satisfies, List.all_map]
  rfl

namespace Entity

variable {e : Entity}

/-- The order of results, in columns. -/
def rowOrder : Entity → RowOrder
  | .article => Articles.latestFirst
  | .source => [("id", .ascending)]

/-- The statement that is sent for a search. -/
def searchStatement (e : Entity) (ps : List Predicate) : Statement :=
  ⟨.select e.columns e.table (Condition.ofPredicates 1 ps).1 e.rowOrder,
    (Condition.ofPredicates 1 ps).2⟩

/-- The columns of an entity are names. -/
theorem isName_of_mem_columns : ∀ name ∈ e.columns, IsName name := by
  cases e with
  | article =>
    simp only [columns, Article.fieldNames, List.forall_mem_cons]
    refine ⟨⟨by rfl, by decide⟩, ⟨by rfl, by decide⟩, ⟨by rfl, by decide⟩, ⟨by rfl, by decide⟩,
      ⟨by rfl, by decide⟩, ⟨by rfl, by decide⟩, ⟨by rfl, by decide⟩, List.forall_mem_nil _⟩
  | source =>
    simp only [columns, Source.fieldNames, List.forall_mem_cons]
    refine ⟨⟨by rfl, by decide⟩, ⟨by rfl, by decide⟩, ⟨by rfl, by decide⟩, ⟨by rfl, by decide⟩,
      ⟨by rfl, by decide⟩, ⟨by rfl, by decide⟩, List.forall_mem_nil _⟩

/-- The table of an entity is a name. -/
theorem isName_table : IsName e.table := by
  cases e <;> exact ⟨by rfl, by decide⟩

/-- The keys of the order of results are names. -/
theorem isName_of_mem_rowOrder : ∀ k ∈ e.rowOrder, IsName k.1 := by
  have hid : IsName "id" := ⟨by rfl, by decide⟩
  have hpublished : IsName "published_at" := Field.publishedAt.isName_column
  cases e with
  | article => exact List.forall_mem_cons.mpr ⟨hpublished, List.forall_mem_singleton.mpr hid⟩
  | source => exact List.forall_mem_singleton.mpr hid

/-- The query that the statement of a search is. -/
theorem exists_query {ps : List Predicate} (h : ∀ p ∈ ps, p.Fits e) :
    ∃ condition : Option Expr,
      Query.read (e.searchStatement ps).command.text
          = some ⟨e.columns, e.table, condition, e.rowOrder.keys⟩ ∧
        ∀ r, Query.truth? ⟨e.columns, e.table, condition, e.rowOrder.keys⟩
          (e.searchStatement ps).params (e.row r) = some (.ofBool (e.satisfies ps r)) := by
  obtain ⟨es, hexprs, hsays⟩ := Condition.says_ofPredicates h [] []
  refine ⟨conjunction? es, ?_, fun r => ?_⟩
  · have hcolumns : ∃ column columns, e.columns = column :: columns := by
      cases e <;> exact ⟨_, _, rfl⟩
    obtain ⟨column, columns, hcons⟩ := hcolumns
    have hnames := isName_of_mem_columns (e := e)
    rw [hcons] at hnames
    rw [searchStatement, hcons]
    exact Command.read_select hnames isName_table Condition.isName_of_mem_ofPredicates hexprs
      isName_of_mem_rowOrder
  · have hr := hsays r
    rw [List.append_nil, List.nil_append] at hr
    have hparams : (e.searchStatement ps).params = (Condition.ofPredicates 1 ps).2 := rfl
    rw [Predicate.satisfies_eq_all, hparams]
    revert hr
    generalize (Condition.ofPredicates 1 ps).2 = params
    generalize (ps.map fun p => p.holds (e.value r)) = bs
    intro hr
    cases hr with
    | nil => rfl
    | cons hfirst hmore => exact Says.foldl_and hmore hfirst

/-! ## Its answers -/

/-- All columns of a row are the row. -/
theorem project?_row (r : e.Record) : project? e.columns (e.row r) = some (e.row r) := by
  cases e <;> rfl

/-- All columns of rows are the rows. -/
theorem mapM_project?_row (rs : List e.Record) :
    (rs.map e.row).mapM (project? e.columns) = some (rs.map e.row) := by
  induction rs with
  | nil => rfl
  | cons r rs ih =>
    rw [List.map_cons, List.mapM_cons, project?_row, ih]
    rfl

/-- Two rows are in the order of one key if the key is. -/
theorem inOrder_last_iff {name : String} {descends : Bool} {a b : Row} {o : Ordering}
    (h : rank? name a b = some o) :
    InOrder [(name, descends)] a b ↔ (if descends then o.isGE else o.isLE) = true := by
  rw [InOrder, h]
  cases descends <;> cases o <;> simp [InOrder]

/-- Rows are in the order that is asked for if and only if their records are in the order of
results. -/
theorem inOrder_row_iff {a b : e.Record} :
    InOrder e.rowOrder.keys (e.row a) (e.row b) ↔ e.Precedes a b := by
  cases e with
  | article =>
    have htime : rank? "published_at" (Article.row a) (Article.row b)
        = some (Instant.compare (Article.publishedAt a) (Article.publishedAt b)) := rfl
    have hid : InOrder [("id", true)] (Article.row a) (Article.row b)
        ↔ Article.id b ≤ Article.id a :=
      (inOrder_last_iff rfl).trans Int.isGE_compare
    show InOrder [("published_at", true), ("id", true)] (Article.row a) (Article.row b) ↔ _
    rw [InOrder, htime, Precedes, ← Instant.compare_isGE]
    -- the time decides unless it is the same
    rcases hcmp : Instant.compare (Article.publishedAt a) (Article.publishedAt b) with _ | _ | _
    · simp
    · rw [Instant.compare_eq_eq] at hcmp
      simp [hid, hcmp]
    · have hne : Article.publishedAt a ≠ Article.publishedAt b := by
        rw [Ne, ← Instant.compare_eq_eq, hcmp]
        exact Ordering.noConfusion
      simp [hne]
  | source => exact (inOrder_last_iff rfl).trans Int.isLE_compare

/-- The only answer to a search are the rows of the records that are selected. -/
theorem answers_iff {ps : List Predicate} {records : List e.Record} {tables : String → List Row}
    {condition : Option Expr} {params : List Param} (hid : (records.map e.id).Nodup)
    (htable : (tables e.table).Perm (records.map e.row))
    (htruth : ∀ r, Query.truth? ⟨e.columns, e.table, condition, e.rowOrder.keys⟩ params (e.row r)
      = some (.ofBool (e.satisfies ps r))) (rows : List Row) :
    Query.Answers ⟨e.columns, e.table, condition, e.rowOrder.keys⟩ params tables rows
      ↔ rows = (e.select ps records).map e.row := by
  -- the rows that satisfy the condition are those of the records that satisfy the predicates
  have hchosen : ((tables e.table).filter (Query.truth?
        ⟨e.columns, e.table, condition, e.rowOrder.keys⟩ params · = some .yes)).Perm
      ((records.filter (e.satisfies ps)).map e.row) := by
    refine (htable.filter _).trans ?_
    rw [List.filter_map]
    refine List.Perm.of_eq (congrArg (List.map e.row) (List.filter_congr fun r _ => ?_))
    rw [Function.comp_apply, htruth]
    cases e.satisfies ps r <;> rfl
  have harranged := arranged_mergeSort (records.filter (e.satisfies ps))
  have hselect : e.select ps records = (records.filter (e.satisfies ps)).mergeSort
      fun a b => (e.compare a b).isLE := rfl
  rw [← hselect] at harranged
  constructor
  · -- an answer is made of the rows of records, for which identifiers leave only one order
    rintro ⟨-, selected, hperm, hordered, hproject⟩
    obtain ⟨found, rfl, hfound⟩ : ∃ found : List e.Record, selected = found.map e.row ∧
        found.Perm (records.filter (e.satisfies ps)) := by
      have hcomp := congrFun (congrFun (List.eq_map_comp_perm e.row) selected)
        (records.filter (e.satisfies ps))
      exact hcomp.mpr (hperm.trans hchosen)
    rw [List.pairwise_map] at hordered
    have hdistinct : ((e.select ps records).map e.id).Nodup :=
      (harranged.perm.map e.id).nodup_iff.mpr (hid.sublist (List.filter_sublist.map e.id))
    have heq : found = e.select ps records :=
      eq_of_perm_of_ordered hdistinct (hfound.trans harranged.perm.symm)
        (hordered.imp inOrder_row_iff.mp) harranged.ordered
    rw [mapM_project?_row] at hproject
    rw [← heq]
    exact (Option.some.inj hproject).symm
  · rintro rfl
    refine ⟨?_, (e.select ps records).map e.row, ?_, ?_, mapM_project?_row _⟩
    · intro row hrow
      obtain ⟨r, -, rfl⟩ := List.mem_map.mp (htable.subset hrow)
      rw [htruth]
      rfl
    · exact (harranged.perm.map e.row).trans hchosen.symm
    · rw [List.pairwise_map]
      exact harranged.ordered.imp inOrder_row_iff.mpr

end Entity

/-! ## The store in the database -/

variable {σ : Type} (world : World σ) (s : σ)

/-- A search of the database is one statement, whose rows are read as records. -/
theorem Entity.exists_searchTable_eq (e : Entity) (ps : List Predicate) :
    ∃ operation, e.searchTable ps
      = (fetchAll (e.searchStatement ps) e.readRow).mapError (.query operation) := by
  cases e <;> exact ⟨_, rfl⟩

/-- A search of the database sends one statement, reads the rows that come back, and asks how long
it took. -/
theorem Store.run_search_database (e : Entity) (ps : List Predicate) :
    ∃ operation, (Store.database.search e ps).run world s
      = (⟨(world.answer .elapsed (world.answer (.rows (e.searchStatement ps)) s).2).1,
            (((world.answer (.rows (e.searchStatement ps)) s).1.mapError
              Database.Error.reported).bind (·.mapM e.readRow)).mapError (.query operation)⟩,
          (world.answer .elapsed (world.answer (.rows (e.searchStatement ps)) s).2).2) := by
  obtain ⟨operation, htable⟩ := e.exists_searchTable_eq ps
  refine ⟨operation, ?_⟩
  have hrun := Attempt.runIn_mapError world s (StoreError.query operation)
    (fetchAll (e.searchStatement ps) e.readRow)
  rw [runIn_fetchAll, ← htable] at hrun
  show Program.run world ((e.searchTable ps).run >>= _) s = _
  rw [Program.run_bind]
  show (Timed.mk (world.answer .elapsed (Attempt.runIn world s (e.searchTable ps)).2).1
    (Attempt.runIn world s (e.searchTable ps)).1,
    (world.answer .elapsed (Attempt.runIn world s (e.searchTable ps)).2).2) = _
  rw [hrun]

/-- Where identifiers are pairwise distinct, the database and the store in memory find the same
records, however the rows are stored: a search sends one statement, and this has one answer, which
is what the store in memory finds for the same predicates over the same records. A database that
gives the answer has the search return these records. -/
theorem Store.search_database_eq_memory {memory : MemoryStore} (hfailure : memory.failure = none)
    (e : Entity) (keywords : List Keyword) (filters : e.Filters) {tables : String → List Row}
    (hid : ((memory.records e).map e.id).Nodup)
    (htable : (tables e.table).Perm ((memory.records e).map e.row)) :
    let ps := e.compose keywords filters
    ∃ (statement : Statement) (query : Query) (found : List e.Record),
      ((Store.database.search e ps).run world.recorded (s, [])).2.2 = [.rows statement, .elapsed] ∧
      Query.read statement.command.text = some query ∧
      (memory.search e ps).outcome = .ok found ∧
      (∀ rows, query.Answers statement.params tables rows ↔ rows = found.map e.row) ∧
      ∀ rows, (world.answer (.rows statement) s).1 = .ok rows →
        query.Answers statement.params tables rows →
          ((Store.database.search e ps).run world s).1.outcome = .ok found := by
  intro ps
  have hfits : ∀ p ∈ ps, p.Fits e := Entity.fits_of_mem_compose
  obtain ⟨condition, hread, htruth⟩ := Entity.exists_query hfits
  have hanswers := Entity.answers_iff hid htable htruth
  refine ⟨e.searchStatement ps, _, e.select ps (memory.records e), ?_, hread, ?_, hanswers, ?_⟩
  · obtain ⟨operation, hrun⟩ := Store.run_search_database world.recorded (s, []) e ps
    rw [hrun]
    rfl
  · exact MemoryStore.outcome_search hfailure e ps
  · intro rows hrows hanswer
    obtain ⟨operation, hrun⟩ := Store.run_search_database world s e ps
    rw [hrun, hrows, (hanswers rows).mp hanswer]
    show ((((e.select ps (memory.records e)).map e.row).mapM e.readRow).mapError _) = _
    rw [Entity.mapM_readRow]
    rfl

/-- Two keywords with special characters and two filters: of two articles published at the same
time, stored in the opposite order, the one with the greater identifier comes first. -/
theorem Store.search_database_eq_memory_tie :
    let articles : List Article :=
      [⟨1, 7, "100% a_b", "https://a.example", "", .ofSecond 0, .ofSecond 0⟩,
        ⟨2, 7, "none", "https://b.example", "A_B, 100%", .ofSecond 0, .ofSecond 0⟩,
        ⟨3, 7, "100 axb", "https://c.example", "", .ofSecond 0, .ofSecond 0⟩]
    let tables : String → List Row := fun _ => articles.reverse.map Article.row
    let filters : ArticleFilters := { sourceId := some 7, publishedTo := some (.ofSecond 0) }
    let statement :=
      Articles.searchStatement (Entity.article.compose [⟨"100%"⟩, ⟨"a_b"⟩] filters)
    ∃ query : Query, Query.read statement.command.text = some query ∧
      ∀ rows, query.Answers [.text "%100\\%%", .text "%100\\%%", .text "%a\\_b%",
          .text "%a\\_b%", .int 7, .time (.ofSecond 0)]
          tables rows
        ↔ rows = [articles[1], articles[0]].map Article.row := by
  intro articles tables filters statement
  let memory : MemoryStore := { articles }
  have htable : (tables Entity.article.table).Perm
      ((memory.records .article).map Entity.article.row) :=
    (List.reverse_perm articles).map Article.row
  obtain ⟨sent, query, found, hsent, hread, hfound, hanswers, -⟩ :=
    Store.search_database_eq_memory (Stage.world { now := .ofSecond 0 }) []
      (rfl : memory.failure = none) .article [⟨"100%"⟩, ⟨"a_b"⟩] filters
      (by decide) htable
  obtain rfl : statement = sent := Request.rows.inj (List.cons.inj hsent).1
  have hresult : (memory.search .article
      (Entity.article.compose [⟨"100%"⟩, ⟨"a_b"⟩] filters)).outcome
        = .ok [articles[1], articles[0]] := by cbv
  rw [hresult] at hfound
  cases hfound
  exact ⟨query, hread, hanswers⟩

end FeedArchive
