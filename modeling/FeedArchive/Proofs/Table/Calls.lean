import FeedArchive.Proofs.Program.Run
import FeedArchive.Proofs.Sql.Reference
import FeedArchive.Proofs.Table.Effect

/-!
# Calls on the tables

Creating, changing, removing and looking up records, one call after the other. Where the database
does what the statements say, the tables are maps from identifiers to records: each call does to
them, and returns, what `TableCall.Takes` says of maps (`TableCall.agrees_of_executes`).
-/

namespace FeedArchive

open Database Sql

/-! ## Calls -/

/-- A call on one of the tables. -/
inductive TableCall where
  | create (e : Entity) (x : e.New)
  | update (e : Entity) (r : e.Record)
  | delete (e : Entity) (id : Int)
  | get (e : Entity) (id : Int)
  /-- Sets the time at which a source was last crawled. -/
  | markCrawled (id : Int) (time : Instant)

namespace TableCall

/-- What a call returns. -/
abbrev Result : TableCall → Type
  | create .. => Int
  | update .. | delete .. | markCrawled .. => Bool
  | get e _ => Option e.Record

/-- The program of a call. -/
def attempt : (c : TableCall) → Attempt Failure c.Result
  | create .article x => Articles.create x
  | create .source x => Sources.create x
  | update .article a => Articles.update a
  | update .source s => Sources.update s
  | delete .article id => Articles.delete id
  | delete .source id => Sources.delete id
  | get .article id => Articles.get id
  | get .source id => Sources.get id
  | markCrawled id time => Sources.markCrawled id time

/-- What is reported if a call fails. -/
def task : TableCall → Task
  | create .article x => .createArticle (NewArticle.url x)
  | create .source x => .createSource (NewSource.feedUrl x)
  | update .article _ => .updateArticle
  | update .source _ => .updateSource
  | delete .article _ => .deleteArticle
  | delete .source _ => .deleteSource
  | get .article _ => .getArticle
  | get .source _ => .getSource
  | markCrawled .. => .markCrawled

end TableCall

/-- The contents of both tables. -/
abbrev Archive := (e : Entity) → e.Contents

/-- The archive in which a record stands under its identifier. -/
def Archive.put (archive : Archive) (e : Entity) (r : e.Record) : Archive :=
  Function.update archive e ((archive e).insert (e.id r) r)

/-- The archive without what stands under an identifier. -/
def Archive.remove (archive : Archive) (e : Entity) (id : Int) : Archive :=
  Function.update archive e ((archive e).erase id)

/-- What a call returns, and what it makes of the contents of the tables. -/
inductive TableCall.Takes (archive : Archive) :
    (c : TableCall) → Except Failure c.Result → Archive → Prop
  /-- A new record goes under an identifier that is not used yet. -/
  | created {e : Entity} {x : e.New} {supply : Supply}
      (hfresh : (archive e).lookup supply.number = none)
      (hurl : ¬e.TakenBeside (archive e) supply.number (e.url x)) :
      Takes archive (.create e x) (.ok supply.number) (archive.put e (e.stored supply x))
  /-- A URL is not stored twice. -/
  | notCreated {e : Entity} {x : e.New} {id : Int} {r : e.Record} {message : String}
      (hr : (archive e).lookup id = some r) (hurl : e.url (e.toNew r) = e.url x) :
      Takes archive (.create e x)
        (.error (.storage (TableCall.create e x).task (.reported message))) archive
  /-- A record that is there takes the fields that are given when it is stored. -/
  | updated {e : Entity} {r old : e.Record} (hold : (archive e).lookup (e.id r) = some old)
      (hurl : ¬e.TakenBeside (archive e) (e.id r) (e.url (e.toNew r))) :
      Takes archive (.update e r) (.ok true) (archive.put e (e.change old (e.toNew r)))
  /-- A record does not take the URL of another one. -/
  | notUpdated {e : Entity} {r old : e.Record} {message : String}
      (hold : (archive e).lookup (e.id r) = some old)
      (hurl : e.TakenBeside (archive e) (e.id r) (e.url (e.toNew r))) :
      Takes archive (.update e r)
        (.error (.storage (TableCall.update e r).task (.reported message))) archive
  | nothingToUpdate {e : Entity} {r : e.Record} (hnone : (archive e).lookup (e.id r) = none) :
      Takes archive (.update e r) (.ok false) archive
  | deleted {e : Entity} {id : Int} {r : e.Record} (hr : (archive e).lookup id = some r) :
      Takes archive (.delete e id) (.ok true) (archive.remove e id)
  | nothingToDelete {e : Entity} {id : Int} (hnone : (archive e).lookup id = none) :
      Takes archive (.delete e id) (.ok false) archive
  | got {e : Entity} {id : Int} : Takes archive (.get e id) (.ok ((archive e).lookup id)) archive
  | marked {id : Int} {time : Instant} {s : Source}
      (hs : (archive .source).lookup id = some s) :
      Takes archive (.markCrawled id time) (.ok true)
        (archive.put .source { s with lastCrawledAt := some time })
  | nothingToMark {id : Int} {time : Instant} (hnone : (archive .source).lookup id = none) :
      Takes archive (.markCrawled id time) (.ok false) archive

/-- The rows of both tables are those of an archive. -/
def Archive.IsIn (archive : Archive) (tables : Tables) : Prop :=
  ∀ e : Entity, e.Holds (tables e.table) (archive e)

variable {σ : Type} {world : World σ} {tables : σ → Tables} {s : σ} {archive : Archive}

/-- From one call to the next, the tables hold an archive, and the call does to it and returns what
it does to maps. -/
def TableCall.Agrees (world : World σ) (tables : σ → Tables) :
    List TableCall → σ → Archive → Prop
  | [], s, archive => archive.IsIn (tables s)
  | c :: cs, s, archive => archive.IsIn (tables s) ∧ ∃ archive',
      c.Takes archive (Attempt.runIn world s c.attempt).1 archive' ∧
        TableCall.Agrees world tables cs (Attempt.runIn world s c.attempt).2 archive'

/-! ## One call -/

namespace Entity

variable {e : Entity}

/-- No two entities have the same table. -/
theorem table_injective : Function.Injective table := by
  intro e e' h
  cases e <;> cases e' <;> first | rfl | exact absurd h (by decide)

end Entity

namespace Archive.IsIn

variable {before after : Tables} {e : Entity}

/-- One table changes. -/
theorem update (h : archive.IsIn before) {rows : List Row} {m : e.Contents} (hm : e.Holds rows m)
    (hafter : after = Function.update before e.table rows) :
    Archive.IsIn (Function.update archive e m) after := by
  subst hafter
  intro e'
  by_cases he : e' = e
  · subst he
    rw [Function.update_self, Function.update_self]
    exact hm
  · rw [Function.update_of_ne (Entity.table_injective.ne he), Function.update_of_ne he]
    exact h e'

/-- A table is written as it was. -/
theorem rewrite (h : archive.IsIn before) (hafter : after = Function.update before e.table
    (before e.table)) : archive.IsIn after := by
  rw [hafter, Function.update_eq_self]
  exact h

end Archive.IsIn

/-- The program of a statement that changes something. -/
theorem Database.runIn_changes {ε : Type} (world : World σ) (s : σ) (statement : Statement)
    (f : Error → ε) :
    Attempt.runIn world s ((fun rows => decide (0 < rows)) <$> (execute statement).mapError f)
      = (((world.answer (.affected statement) s).1.mapError fun m => f (.reported m)).map
            fun rows => decide (0 < rows),
          (world.answer (.affected statement) s).2) := by
  rw [map_eq_bind_pure_comp, Attempt.runIn_bind, Attempt.runIn_mapError, runIn_execute]
  rcases (world.answer (.affected statement) s).1 with _ | _ <;> rfl

/-! ### Updates -/

section Updates

variable {ε : Type} {e : Entity} {columns : List String} {params : List Param} {id : Int}
  {f : e.Record → e.Record} {g : Error → ε}

/-- What an update of the row with an identifier comes to: the record changes, or it would have the
URL of another one, or there is no such record. -/
theorem updates_cases (h : Executes world tables) (hin : archive.IsIn (tables s))
    (halters : e.Alters columns params id f) {run : Except ε Bool × σ}
    (hrun : run = Attempt.runIn world s ((fun rows => decide (0 < rows)) <$>
      (execute ⟨.update e.table columns "id", params⟩).mapError g)) :
    (∃ old, (archive e).lookup id = some old ∧
        ¬e.TakenBeside (archive e) id (e.url (e.toNew (f old))) ∧ run.1 = .ok true ∧
        (archive.put e (f old)).IsIn (tables run.2)) ∨
      (∃ old message, (archive e).lookup id = some old ∧
        e.TakenBeside (archive e) id (e.url (e.toNew (f old))) ∧
        run.1 = .error (g (.reported message)) ∧ archive.IsIn (tables run.2)) ∨
      ((archive e).lookup id = none ∧ run.1 = .ok false ∧ archive.IsIn (tables run.2)) := by
  subst hrun
  obtain ⟨records, hrows, hlists⟩ := hin e
  obtain ⟨effect, hperforms, hshows⟩ := h.affected ⟨.update e.table columns "id", params⟩ s
  obtain ⟨supply, -, rfl⟩ := hperforms.of_change halters.read
  rw [halters.effect? hrows] at hshows
  simp only [runIn_changes]
  -- no row is changed, or the one with the identifier is, unless the table refuses its new URL
  cases hold : (archive e).lookup id with
  | none =>
    have hnone := hlists.lookup_eq_none_iff.mp hold
    have hsame : e.replaceIn id f records = records :=
      (List.map_congr_left fun r hr => if_neg (hnone r hr)).trans (List.map_id records)
    rw [hsame, if_pos hlists.admits] at hshows
    obtain ⟨hanswer, hafter⟩ := hshows
    refine Or.inr (Or.inr ⟨rfl, ?_, hin.rewrite (hrows ▸ hafter)⟩)
    rw [hanswer]
    exact congrArg Except.ok (hlists.decide_countP.trans (congrArg Option.isSome hold))
  | some old =>
    obtain ⟨hmem, hid⟩ := hlists.lookup_eq_some_iff.mp hold
    by_cases htaken : e.TakenBeside (archive e) id (e.url (e.toNew (f old)))
    · have hrefused : ¬e.schema.Admits ((e.replaceIn id f records).map e.row) := by
        intro hadmits
        obtain ⟨r, hr, hne, hurl⟩ := hlists.takenBeside_iff.mp htaken
        have hr' : r ∈ e.replaceIn id f records := List.mem_map.mpr ⟨r, hr, if_neg hne⟩
        have hold' : f old ∈ e.replaceIn id f records := List.mem_map.mpr ⟨old, hmem, if_pos hid⟩
        have heq := Entity.eq_of_admits hadmits hr' hold' hurl
        exact hne (by rw [heq, halters.id_eq, hid])
      rw [if_neg hrefused] at hshows
      obtain ⟨⟨message, hanswer⟩, hafter⟩ := hshows
      refine Or.inr (Or.inl ⟨old, message, rfl, htaken, ?_, hafter ▸ hin⟩)
      rw [hanswer]
      rfl
    · have hreplaced := hlists.replaceIn hold halters.id_eq htaken
      rw [if_pos hreplaced.admits] at hshows
      obtain ⟨hanswer, hafter⟩ := hshows
      refine Or.inl ⟨old, rfl, htaken, ?_, ?_⟩
      · rw [hanswer]
        exact congrArg Except.ok (hlists.decide_countP.trans (congrArg Option.isSome hold))
      · rw [Archive.put, halters.id_eq, hid]
        exact hin.update ⟨_, rfl, hreplaced⟩ hafter

end Updates

/-! ### Every call -/

/-- A call returns what it returns of maps, and what it makes of them is in the tables. -/
def TableCall.Keeps (world : World σ) (tables : σ → Tables) (s : σ) (archive : Archive)
    (c : TableCall) : Prop :=
  ∃ archive', c.Takes archive (Attempt.runIn world s c.attempt).1 archive' ∧
    archive'.IsIn (tables (Attempt.runIn world s c.attempt).2)

variable {e : Entity}

/-- Storing a record is done to the map: it is there under a fresh number, or its URL was taken. -/
theorem TableCall.keeps_create (h : Executes world tables) (hin : archive.IsIn (tables s))
    (x : e.New) : TableCall.Keeps world tables s archive (.create e x) := by
  have hattempt : (TableCall.create e x).attempt =
      (fetchOne ⟨.insert e.table e.newColumns (.returning "id"), e.newParams x⟩
        (·.readFirst Cell.asInt)).mapError (.storage (TableCall.create e x).task) := by
    cases e <;> rfl
  obtain ⟨records, hrows, hlists⟩ := hin e
  obtain ⟨effect, hperforms, hshows⟩ :=
    h.rows ⟨.insert e.table e.newColumns (.returning "id"), e.newParams x⟩ s
  obtain ⟨supply, hfresh, rfl⟩ := hperforms.of_change Entity.read_insertion
  rw [Entity.effect?_insertion hrows] at hshows
  have hfresh' : supply.Fresh (records.map e.row) := hrows ▸ hfresh
  have hnone : (archive e).lookup supply.number = none :=
    hlists.lookup_eq_none_iff.mpr (Entity.fresh_iff.mp hfresh')
  rw [TableCall.Keeps, hattempt, Attempt.runIn_mapError, runIn_fetchOne]
  by_cases htaken : e.TakenBeside (archive e) supply.number (e.url x)
  · have hrefused : ¬e.schema.Admits ((records ++ [e.stored supply x]).map e.row) := by
      intro hadmits
      obtain ⟨r, hr, hne, hurl⟩ := hlists.takenBeside_iff.mp htaken
      have heq := Entity.eq_of_admits hadmits (List.mem_append_left _ hr)
        (List.mem_append_right _ (List.mem_singleton_self (e.stored supply x)))
        (by rw [hurl, Entity.toNew_stored])
      exact hne (by rw [heq, Entity.id_stored])
    obtain ⟨other, r, -, hr, hurl⟩ := htaken
    rw [if_neg hrefused] at hshows
    obtain ⟨⟨message, hanswer⟩, hafter⟩ := hshows
    rw [hanswer]
    exact ⟨archive, .notCreated hr hurl, hafter ▸ hin⟩
  · have hlists' := hlists.append (r := e.stored supply x)
      (by rwa [Entity.id_stored]) (by rwa [Entity.id_stored, Entity.toNew_stored])
    rw [if_pos hlists'.admits] at hshows
    obtain ⟨hanswer, hafter⟩ := hshows
    rw [hanswer]
    exact ⟨_, .created hnone htaken, hin.update ⟨_, rfl, hlists'⟩ hafter⟩

/-- Changing a record is done to the map: what is there is changed, unless the URL is taken. -/
theorem TableCall.keeps_update (h : Executes world tables) (hin : archive.IsIn (tables s))
    (r : e.Record) : TableCall.Keeps world tables s archive (.update e r) := by
  have hattempt : (TableCall.update e r).attempt = (fun rows => decide (0 < rows)) <$>
      (execute ⟨.update e.table e.newColumns "id", e.newParams (e.toNew r) ++ [.int (e.id r)]⟩
        ).mapError (.storage (TableCall.update e r).task) := by cases e <;> rfl
  rcases updates_cases h hin (Entity.alters_new (e.toNew r) (e.id r)) (congrArg _ hattempt) with
    ⟨old, hold, htaken, hresult, hafter⟩ | ⟨old, message, hold, htaken, hresult, hafter⟩ |
    ⟨hnone, hresult, hafter⟩
  · rw [Entity.toNew_change] at htaken
    exact ⟨_, hresult ▸ .updated hold htaken, hafter⟩
  · rw [Entity.toNew_change] at htaken
    exact ⟨_, hresult ▸ .notUpdated hold htaken, hafter⟩
  · exact ⟨_, hresult ▸ .nothingToUpdate hnone, hafter⟩

/-- The time of a crawl is set in the map, and nothing else is. -/
theorem TableCall.keeps_markCrawled (h : Executes world tables) (hin : archive.IsIn (tables s))
    (id : Int) (time : Instant) :
    TableCall.Keeps world tables s archive (.markCrawled id time) := by
  rcases updates_cases h hin (Entity.alters_crawled time id) rfl with
    ⟨old, hold, htaken, hresult, hafter⟩ | ⟨old, message, hold, htaken, hresult, hafter⟩ |
    ⟨hnone, hresult, hafter⟩
  · exact ⟨_, hresult ▸ .marked hold, hafter⟩
  · obtain ⟨records, -, hlists⟩ := hin .source
    exact absurd (show Entity.source.TakenBeside (archive .source) id (Entity.source.url
      (Entity.source.toNew old)) from htaken) (hlists.not_takenBeside hold)
  · exact ⟨_, hresult ▸ .nothingToMark hnone, hafter⟩

/-- Deleting a record erases it from the map. -/
theorem TableCall.keeps_delete (h : Executes world tables) (hin : archive.IsIn (tables s))
    (id : Int) : TableCall.Keeps world tables s archive (.delete e id) := by
  have hattempt : (TableCall.delete e id).attempt = (fun rows => decide (0 < rows)) <$>
      (execute ⟨.delete e.table "id", [.int id]⟩).mapError
        (.storage (TableCall.delete e id).task) := by cases e <;> rfl
  obtain ⟨records, hrows, hlists⟩ := hin e
  obtain ⟨effect, hperforms, hshows⟩ := h.affected ⟨.delete e.table "id", [.int id]⟩ s
  obtain ⟨supply, -, rfl⟩ := hperforms.of_change Entity.read_deletion
  rw [Entity.effect?_deletion hrows] at hshows
  obtain ⟨hanswer, hafter⟩ := hshows
  rw [TableCall.Keeps, hattempt, runIn_changes, hanswer]
  show ∃ archive', TableCall.Takes archive (.delete e id)
    (.ok (decide (0 < records.countP (e.id · = id)))) archive' ∧ _
  rw [hlists.decide_countP]
  cases hfound : (archive e).lookup id with
  | none =>
    have hnone := hlists.lookup_eq_none_iff.mp hfound
    have hkept : records.filter (e.id · ≠ id) = records :=
      List.filter_eq_self.mpr fun r hr => decide_eq_true (hnone r hr)
    rw [hkept, ← hrows] at hafter
    exact ⟨archive, .nothingToDelete hfound, hin.rewrite hafter⟩
  | some r =>
    exact ⟨_, .deleted hfound, hin.update ⟨_, rfl, hlists.remove id⟩ hafter⟩

/-- Asking for a record returns what the map has, and leaves the map as it is. -/
theorem TableCall.keeps_get (h : Executes world tables) (hin : archive.IsIn (tables s))
    (id : Int) : TableCall.Keeps world tables s archive (.get e id) := by
  have hattempt : (TableCall.get e id).attempt =
      (fetchFirst ⟨.select e.columns e.table [.compare "id" .equal 1] [], [.int id]⟩
        e.readRow).mapError (.storage (TableCall.get e id).task) := by
    cases e <;> rfl
  obtain ⟨records, hrows, hlists⟩ := hin e
  obtain ⟨effect, hperforms, hshows⟩ :=
    h.rows ⟨.select e.columns e.table [.compare "id" .equal 1] [], [.int id]⟩ s
  obtain ⟨rows, hanswers, rfl⟩ := hperforms.of_query Entity.read_query
    ((Entity.answers_query_iff hlists hrows).mpr rfl)
  obtain ⟨hanswer, hafter⟩ := hshows
  obtain rfl := (Entity.answers_query_iff hlists hrows).mp hanswers
  refine ⟨archive, ?_, ?_⟩
  · have hresult : (Attempt.runIn world s (TableCall.get e id).attempt).1
        = .ok ((archive e).lookup id) := by
      rw [hattempt, Attempt.runIn_mapError, runIn_fetchFirst, hanswer]
      cases (archive e).lookup id with
      | none => rfl
      | some r =>
        show ((some <$> e.readRow (e.row r)).mapError _ : Except Failure _) = _
        rw [Entity.readRow_row]
        rfl
    rw [hresult]
    exact .got
  · rw [hattempt, Attempt.runIn_mapError, runIn_fetchFirst]
    exact hafter ▸ hin

/-- Every call does to the contents of the tables, and returns, what it does to maps. -/
theorem TableCall.keeps_call (h : Executes world tables) (hin : archive.IsIn (tables s))
    (c : TableCall) : TableCall.Keeps world tables s archive c := by
  cases c with
  | create e x => exact TableCall.keeps_create h hin x
  | update e r => exact TableCall.keeps_update h hin r
  | delete e id => exact TableCall.keeps_delete h hin id
  | get e id => exact TableCall.keeps_get h hin id
  | markCrawled id time => exact TableCall.keeps_markCrawled h hin id time

/-! ## One call after the other -/

/-- Where the database does what the texts of the statements say, the tables are maps from
identifiers to records, whatever they hold at first and whatever calls are made. -/
theorem TableCall.agrees_of_executes (h : Executes world tables) (cs : List TableCall)
    (hin : archive.IsIn (tables s)) : TableCall.Agrees world tables cs s archive := by
  induction cs generalizing s archive with
  | nil => exact hin
  | cons c cs ih =>
    obtain ⟨archive', htakes, hin'⟩ := TableCall.keeps_call h hin c
    exact ⟨hin, archive', htakes, ih hin'⟩

/-- Of two sources with one URL the first is stored under a fresh number and found there, and the
second is refused. -/
theorem TableCall.agrees_of_executes_taken :
    let world := reference (.ofSecond 0)
    let first : NewSource := ⟨"a", "u", .rss, true⟩
    let second : NewSource := ⟨"b", "u", .remix, false⟩
    let empty : Archive := fun _ => ∅
    let cs : List TableCall := [.create .source first, .create .source second]
    (Executes world fun tables => tables) ∧ empty.IsIn (fun _ => []) ∧
      TableCall.Agrees world (fun tables => tables) cs (fun _ => []) empty ∧
      ∃ n t message, Attempt.runIn world (fun _ => []) (Sources.create first) = (.ok n, t) ∧
        (Attempt.runIn world t (Sources.create second)).1
          = .error (.storage (.createSource "u") (.reported message)) := by
  intro world first second empty cs
  have hin : empty.IsIn (fun _ => []) := fun e =>
    ⟨[], rfl, List.nodup_nil, List.nodup_nil, by simp [empty]⟩
  have hall : TableCall.Agrees world (fun tables => tables) cs (fun _ => []) empty :=
    TableCall.agrees_of_executes (executes_reference _) cs hin
  refine ⟨executes_reference _, hin, hall, ?_⟩
  obtain ⟨-, archive, hfirst, -, archive', hsecond, -⟩ := hall
  change (TableCall.create .source first).Takes empty
    (Attempt.runIn world (fun _ => []) (Sources.create first)).1 archive at hfirst
  change (TableCall.create .source second).Takes archive (Attempt.runIn world
    (Attempt.runIn world (fun _ => []) (Sources.create first)).2 (Sources.create second)).1
    archive' at hsecond
  rcases hrun : Attempt.runIn world (fun _ => []) (Sources.create first) with ⟨result, t⟩
  rw [hrun] at hfirst hsecond
  generalize hlast : (Attempt.runIn world t (Sources.create second)).1 = last at hsecond
  cases hfirst with
  | notCreated hr => exact nomatch (Finmap.lookup_empty _).symm.trans hr
  | @created _ _ supply hfresh hurl =>
    have hstored : (empty.put .source (Entity.source.stored supply first) .source).lookup
        supply.number = some (Entity.source.stored supply first) := by
      rw [Archive.put, Function.update_self]
      exact Finmap.lookup_insert _
    cases hsecond with
    | notCreated => exact ⟨_, _, _, rfl, hlast⟩
    | @created _ _ supply' hfresh' hurl' =>
      have hne : supply.number ≠ supply'.number := fun heq =>
        nomatch (heq ▸ hfresh').symm.trans hstored
      exact absurd ⟨_, _, hne, hstored, rfl⟩ hurl'

end FeedArchive
