import FeedArchive.Proofs.Search.Memory
import FeedArchive.Proofs.Search.Order

/-!
# Narrowing a search

What more predicates do to the result of a search. Each of them leaves records out and does nothing
else: the rest stands as it stood, also where records tie in the order of results
(`MemoryStore.search_append`). So it matters only which predicates there are, not in which order
they are given or how often.
-/

namespace FeedArchive

namespace Entity

variable {e : Entity} {ps qs : List Predicate} {records : List e.Record}

/-- What is selected is arranged. -/
theorem arranged_select (e : Entity) (ps : List Predicate) (records : List e.Record) :
    e.Arranged (records.filter (e.satisfies ps)) (e.select ps records) :=
  arranged_mergeSort _

/-- A record satisfies two lists of predicates if it satisfies both. -/
theorem satisfies_append (e : Entity) (ps qs : List Predicate) (r : e.Record) :
    e.satisfies (ps ++ qs) r = (e.satisfies ps r && e.satisfies qs r) :=
  List.all_append

/-- It does not matter in which order predicates stand, or how often. -/
theorem satisfies_congr (h : ∀ p, p ∈ ps ↔ p ∈ qs) (r : e.Record) :
    e.satisfies ps r = e.satisfies qs r := by
  rw [Bool.eq_iff_iff, satisfies, satisfies, List.all_eq_true, List.all_eq_true]
  constructor
  · intro hps p hp
    exact hps p ((h p).mpr hp)
  · intro hqs p hp
    exact hqs p ((h p).mp hp)

/-- Records may be left out before or after the others are put in order. -/
theorem select_append (e : Entity) (ps qs : List Predicate) (records : List e.Record) :
    e.select (ps ++ qs) records = (e.select ps records).filter (e.satisfies qs) := by
  have hnarrow : records.filter (e.satisfies (ps ++ qs))
      = (records.filter (e.satisfies ps)).filter (e.satisfies qs) := by
    rw [List.filter_filter]
    apply List.filter_congr
    intro r _
    rw [satisfies_append, Bool.and_comm]
  have hboth := e.arranged_select (ps ++ qs) records
  rw [hnarrow] at hboth
  exact hboth.eq ((e.arranged_select ps records).filter _)

/-- Predicates select the same records in any order and however often they come. -/
theorem select_congr (h : ∀ p, p ∈ ps ↔ p ∈ qs) (records : List e.Record) :
    e.select ps records = e.select qs records := by
  have hsame : e.satisfies ps = e.satisfies qs := funext fun r => satisfies_congr h r
  rw [select, select, hsame]

end Entity

/-- More predicates leave those records out of the result that fail one of them, and change nothing
else. Predicates that are given in another order or more than once give the same result. -/
theorem MemoryStore.search_append (memory : MemoryStore) (e : Entity) (ps qs : List Predicate) :
    (memory.search e (ps ++ qs)).outcome = (memory.search e ps).outcome.map
        (·.filter fun r => ∀ p ∈ qs, p.holds (e.value r) = true) ∧
      ∀ ps', (∀ p, p ∈ ps' ↔ p ∈ ps) → memory.search e ps' = memory.search e ps := by
  constructor
  · have hsatisfies : e.satisfies qs = fun r => decide (∀ p ∈ qs, p.holds (e.value r) = true) := by
      funext r
      rw [Bool.eq_iff_iff, decide_eq_true_iff, Entity.satisfies, List.all_eq_true]
    rw [← hsatisfies]
    rw [search_eq, search_eq, Entity.select_append]
    simp only [answer]
    cases memory.failure with
    | none => rfl
    | some reason => rfl
  · intro ps' h
    rw [search_eq, search_eq, Entity.select_congr h]

/-- Two records that tie in every respect stay as they are stored, and predicates given twice, or
with a field of another type, count as they stand. -/
theorem MemoryStore.search_append_tie :
    let articles : List Article :=
      [⟨1, 1, "Rust", "https://a.example", "", .ofSecond 0, .ofSecond 0⟩,
        ⟨1, 1, "rust 2", "https://b.example", "", .ofSecond 0, .ofSecond 0⟩,
        ⟨2, 1, "Rest", "https://c.example", "", .ofSecond 9, .ofSecond 0⟩]
    let memory : MemoryStore := { articles }
    let ps : List Predicate := [.contains [.title, .publishedAt] "r_s%", .equals .sourceId (.int 1)]
    let qs : List Predicate := [.onOrBefore .publishedAt (.ofSecond 5)]
    (memory.search .article (ps ++ qs)).outcome = (memory.search .article ps).outcome.map
        (·.filter fun r => ∀ p ∈ qs, p.holds (Entity.article.value r) = true) ∧
      (∀ p, p ∈ ps.reverse ++ ps ↔ p ∈ ps) ∧
      memory.search .article (ps.reverse ++ ps) = memory.search .article ps := by
  intro articles memory ps qs
  have hsame : ∀ p, p ∈ ps.reverse ++ ps ↔ p ∈ ps := by simp
  exact ⟨(MemoryStore.search_append memory .article ps qs).1, hsame,
    (MemoryStore.search_append memory .article ps qs).2 _ hsame⟩

end FeedArchive
