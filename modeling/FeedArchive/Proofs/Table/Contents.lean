import FeedArchive.Proofs.Search.Order
import FeedArchive.Proofs.Sql.Effect
import FeedArchive.Proofs.Sql.Search
import FeedArchive.Table
import Mathlib.Data.Finmap

/-!
# Tables as maps

The contents of a table as a map from identifiers to records, and what the statements on it do to
the map. `Entity.Holds` says that the rows of a table are those of a map. Each statement is read
from its text and carried out on such rows: what it does to them is what is done to the map
(`Entity.insert_holds`, …).
-/

namespace FeedArchive

open Database Sql

namespace Entity

/-! ## Records to be stored -/

/-- What is given of a record when it is stored. -/
abbrev New : Entity → Type
  | .article => NewArticle
  | .source => NewSource

/-- What of a record is given when it is stored. -/
def toNew : (e : Entity) → e.Record → e.New
  | .article => Article.toNew
  | .source => Source.toNew

/-- The URL in which records differ. -/
def url : (e : Entity) → e.New → String
  | .article => NewArticle.url
  | .source => NewSource.feedUrl

/-- The parameters for a record to be stored. -/
def newParams : (e : Entity) → e.New → List Param
  | .article => NewArticle.params
  | .source => NewSource.params

/-- The columns of a record to be stored. -/
def newColumns : Entity → List String
  | .article => NewArticle.fieldNames
  | .source => NewSource.fieldNames

/-- A record as it is stored at first: an article with the time of storing, a source that has not
been crawled. -/
def stored (supply : Supply) : (e : Entity) → e.New → e.Record
  | .article, x => ⟨supply.number, NewArticle.sourceId x, NewArticle.title x, NewArticle.url x,
      NewArticle.summary x, NewArticle.publishedAt x, supply.time⟩
  | .source, x => ⟨supply.number, NewSource.name x, NewSource.feedUrl x, NewSource.sourceType x,
      NewSource.active x, none⟩

/-- A record with other fields; its identifier and the time of storing or crawling stay. -/
def change : (e : Entity) → e.Record → e.New → e.Record
  | .article, a, x => ⟨Article.id a, NewArticle.sourceId x, NewArticle.title x, NewArticle.url x,
      NewArticle.summary x, NewArticle.publishedAt x, Article.createdAt a⟩
  | .source, s, x => ⟨Source.id s, NewSource.name x, NewSource.feedUrl x, NewSource.sourceType x,
      NewSource.active x, Source.lastCrawledAt s⟩

variable {e : Entity} {supply : Supply} {x : e.New} {r : e.Record}

/-- A record is stored under the number it is given. -/
@[simp]
theorem id_stored : e.id (e.stored supply x) = supply.number := by cases e <;> rfl

/-- A record is stored with what is given of it. -/
@[simp]
theorem toNew_stored : e.toNew (e.stored supply x) = x := by cases e <;> rfl

/-- A record keeps its identifier when it is changed. -/
@[simp]
theorem id_change : e.id (e.change r x) = e.id r := by cases e <;> rfl

/-- A record that is changed has what it is changed to. -/
@[simp]
theorem toNew_change : e.toNew (e.change r x) = x := by cases e <;> rfl

/-! ## Maps -/

/-- The contents of a table: the records under their identifiers. -/
abbrev Contents (e : Entity) := Finmap fun _ : Int => e.Record

/-- These are the records of a map, each once. No two have the same URL. -/
structure Lists (e : Entity) (records : List e.Record) (m : e.Contents) : Prop where
  ids : (records.map e.id).Nodup
  urls : (records.map fun r => e.url (e.toNew r)).Nodup
  lookup_eq_some_iff : ∀ {id r}, m.lookup id = some r ↔ r ∈ records ∧ e.id r = id

/-- The rows of a table are those of a map. -/
def Holds (e : Entity) (rows : List Row) (m : e.Contents) : Prop :=
  ∃ records, rows = records.map e.row ∧ e.Lists records m

/-- Another record than the one with an identifier has a URL. -/
def TakenBeside (e : Entity) (m : e.Contents) (id : Int) (url : String) : Prop :=
  ∃ other r, other ≠ id ∧ m.lookup other = some r ∧ e.url (e.toNew r) = url

/-- A record with an identifier is replaced. -/
def replaceIn (e : Entity) (id : Int) (f : e.Record → e.Record) (records : List e.Record) :
    List e.Record :=
  records.map fun r => if e.id r = id then f r else r

namespace Lists

variable {records : List e.Record} {m : e.Contents} {id : Int} {old : e.Record}

/-- Nothing is under an identifier if no record has it. -/
theorem lookup_eq_none_iff (h : e.Lists records m) :
    m.lookup id = none ↔ ∀ r ∈ records, e.id r ≠ id := by
  rw [Option.eq_none_iff_forall_ne_some]
  simp only [ne_eq, h.lookup_eq_some_iff, not_and]

/-- A URL is taken if a record with another identifier has it. -/
theorem takenBeside_iff (h : e.Lists records m) {url : String} :
    e.TakenBeside m id url ↔ ∃ r ∈ records, e.id r ≠ id ∧ e.url (e.toNew r) = url := by
  constructor
  · rintro ⟨other, r, hne, hr, hurl⟩
    obtain ⟨hmem, rfl⟩ := h.lookup_eq_some_iff.mp hr
    exact ⟨r, hmem, hne, hurl⟩
  · rintro ⟨r, hmem, hne, hurl⟩
    exact ⟨e.id r, r, hne, h.lookup_eq_some_iff.mpr ⟨hmem, rfl⟩, hurl⟩

/-- Records with the same identifier are the same. -/
theorem eq_of_id_eq (h : e.Lists records m) {a b : e.Record} (ha : a ∈ records) (hb : b ∈ records)
    (hid : e.id a = e.id b) : a = b :=
  List.inj_on_of_nodup_map h.ids ha hb hid

/-- No other record has the URL of a record. -/
theorem not_takenBeside (h : e.Lists records m) (hold : m.lookup id = some old) :
    ¬e.TakenBeside m id (e.url (e.toNew old)) := by
  obtain ⟨hmem, rfl⟩ := h.lookup_eq_some_iff.mp hold
  rw [h.takenBeside_iff]
  rintro ⟨r, hr, hne, hurl⟩
  exact hne (congrArg e.id (List.inj_on_of_nodup_map h.urls hr hmem hurl))

/-- The record with an identifier, or none. -/
theorem filter_eq (h : e.Lists records m) :
    records.filter (e.id · = id) = (m.lookup id).toList := by
  cases hlookup : m.lookup id with
  | none =>
    rw [List.filter_eq_nil_iff.mpr fun r hr => by simpa using h.lookup_eq_none_iff.mp hlookup r hr]
    rfl
  | some r =>
    refine List.perm_singleton.mp ((List.perm_ext_iff_of_nodup
      (h.ids.of_map.filter _) (List.nodup_singleton r)).mpr fun r' => ?_)
    rw [List.mem_filter, decide_eq_true_eq, List.mem_singleton, ← h.lookup_eq_some_iff, hlookup,
      Option.some.injEq, eq_comm]

/-- Some record has an identifier exactly if the map has a record under it. -/
theorem decide_countP (h : e.Lists records m) :
    decide (0 < records.countP (e.id · = id)) = (m.lookup id).isSome := by
  rw [List.countP_eq_length_filter, h.filter_eq]
  cases m.lookup id <;> simp

/-- A new record goes under a new identifier. -/
theorem append (h : e.Lists records m) (hid : m.lookup (e.id r) = none)
    (hurl : ¬e.TakenBeside m (e.id r) (e.url (e.toNew r))) :
    e.Lists (records ++ [r]) (m.insert (e.id r) r) := by
  rw [h.lookup_eq_none_iff] at hid
  rw [h.takenBeside_iff] at hurl
  refine ⟨?_, ?_, fun {id r'} => ?_⟩
  · rw [List.map_append, List.map_singleton, ← List.concat_eq_append, List.nodup_concat]
    refine ⟨?_, h.ids⟩
    rw [List.mem_map]
    rintro ⟨r', hr', heq⟩
    exact hid r' hr' heq
  · rw [List.map_append, List.map_singleton, ← List.concat_eq_append, List.nodup_concat]
    refine ⟨?_, h.urls⟩
    rw [List.mem_map]
    rintro ⟨r', hr', heq⟩
    exact hurl ⟨r', hr', hid r' hr', heq⟩
  · rw [List.mem_append, List.mem_singleton]
    by_cases hsame : id = e.id r
    · subst hsame
      rw [Finmap.lookup_insert, Option.some.injEq]
      constructor
      · rintro rfl
        exact ⟨Or.inr rfl, rfl⟩
      · rintro ⟨hr' | rfl, heq⟩
        · exact absurd heq (hid r' hr')
        · rfl
    · rw [Finmap.lookup_insert_of_ne _ hsame, h.lookup_eq_some_iff]
      constructor
      · exact fun ⟨hr', heq⟩ => ⟨Or.inl hr', heq⟩
      · rintro ⟨hr' | rfl, heq⟩
        · exact ⟨hr', heq⟩
        · exact absurd heq.symm hsame

/-- The record with an identifier changes, and no other one. -/
theorem replaceIn (h : e.Lists records m) (hold : m.lookup id = some old)
    {f : e.Record → e.Record} (hid : ∀ r, e.id (f r) = e.id r)
    (hurl : ¬e.TakenBeside m id (e.url (e.toNew (f old)))) :
    e.Lists (e.replaceIn id f records) (m.insert id (f old)) := by
  obtain ⟨hmem, rfl⟩ := h.lookup_eq_some_iff.mp hold
  rw [h.takenBeside_iff] at hurl
  have hids : (e.replaceIn (e.id old) f records).map e.id = records.map e.id := by
    rw [Entity.replaceIn, List.map_map]
    refine List.map_congr_left fun r _ => ?_
    by_cases hr : e.id r = e.id old <;> simp [hr, hid]
  refine ⟨hids ▸ h.ids, ?_, fun {id r'} => ?_⟩
  -- two records may share a URL only if one of them is replaced, and then it would be taken
  · rw [Entity.replaceIn, List.map_map, List.nodup_map_iff_inj_on (List.Nodup.of_map _ h.ids)]
    intro a ha b hb heq
    simp only [Function.comp_apply] at heq
    by_cases ha' : e.id a = e.id old <;> by_cases hb' : e.id b = e.id old
    · exact h.eq_of_id_eq ha hb (ha'.trans hb'.symm)
    · rw [if_pos ha', if_neg hb', h.eq_of_id_eq ha hmem ha'] at heq
      exact absurd ⟨b, hb, hb', heq.symm⟩ hurl
    · rw [if_neg ha', if_pos hb', h.eq_of_id_eq hb hmem hb'] at heq
      exact absurd ⟨a, ha, ha', heq⟩ hurl
    · rw [if_neg ha', if_neg hb'] at heq
      exact List.inj_on_of_nodup_map h.urls ha hb heq
  · rw [Entity.replaceIn, List.mem_map]
    by_cases hsame : id = e.id old
    · subst hsame
      rw [Finmap.lookup_insert, Option.some.injEq]
      constructor
      · rintro rfl
        exact ⟨⟨old, hmem, if_pos rfl⟩, hid old⟩
      · rintro ⟨⟨a, ha, rfl⟩, heq⟩
        by_cases ha' : e.id a = e.id old
        · rw [if_pos ha', h.eq_of_id_eq ha hmem ha']
        · rw [if_neg ha'] at heq
          exact absurd heq ha'
    · rw [Finmap.lookup_insert_of_ne _ hsame, h.lookup_eq_some_iff]
      constructor
      · rintro ⟨hr', rfl⟩
        exact ⟨⟨r', hr', if_neg hsame⟩, rfl⟩
      · rintro ⟨⟨a, ha, rfl⟩, rfl⟩
        by_cases ha' : e.id a = e.id old
        · rw [if_pos ha', hid] at hsame
          exact absurd ha' hsame
        · rw [if_neg ha']
          exact ⟨ha, rfl⟩

/-- The record with an identifier goes. -/
theorem remove (h : e.Lists records m) (id : Int) :
    e.Lists (records.filter (e.id · ≠ id)) (m.erase id) := by
  refine ⟨h.ids.sublist (List.filter_sublist.map _), h.urls.sublist (List.filter_sublist.map _),
    fun {id' r} => ?_⟩
  rw [List.mem_filter, decide_eq_true_eq]
  by_cases hsame : id' = id
  · subst hsame
    rw [Finmap.lookup_erase]
    exact iff_of_false nofun fun ⟨⟨_, hne⟩, heq⟩ => hne heq
  · rw [Finmap.lookup_erase_ne hsame, h.lookup_eq_some_iff]
    exact ⟨fun ⟨hr, heq⟩ => ⟨⟨hr, heq ▸ hsame⟩, heq⟩, fun ⟨⟨hr, _⟩, heq⟩ => ⟨hr, heq⟩⟩

end Lists

end Entity

end FeedArchive
