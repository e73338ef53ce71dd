import FeedArchive.Program.Stage
import FeedArchive.Proofs.Program.Run
import FeedArchive.Proofs.Search.Memory
import FeedArchive.Proofs.Search.Order
import FeedArchive.Proofs.Search.Sought
import FeedArchive.Search.Store

/-!
# Searching end to end

What a search service returns when its store holds its records in memory: the failure of reading
the query, or the stored records that the query asks for, arranged in the order of results
(`SearchService.runIn_search_memory`).
-/

namespace FeedArchive

variable {σ : Type} {world : World σ} {memory : MemoryStore} {states : σ → Prop} {s : σ}

open Attempt (runIn)

/-- A store in service that answers in time finds what satisfies the composed predicates. -/
theorem Store.runIn_find_memory (hworld : memory.Behind world states) (hs : states s)
    (hfailure : memory.failure = none) {timeout : Span}
    (hlatency : memory.latency.nanos ≤ timeout.nanos) (e : Entity) (keywords : List Keyword)
    (filters : e.Filters) :
    (runIn world s (Store.provided.find e keywords filters timeout)).1
      = .ok (e.select (e.compose keywords filters) (memory.records e)) := by
  have hnotLate : ∀ ps, ¬ timeout.nanos < (memory.search e ps).latency.nanos := fun _ =>
    Nat.not_lt.mpr hlatency
  have hanswer := fun ps => hworld.search e ps _
    (hworld.logged (.searching keywords.length (e.compose keywords filters).length) s hs)
  rw [Store.find, Attempt.runIn_bind_ok _ _ (Attempt.runIn_lift _ _ _), Attempt.runIn_mapError,
    Attempt.runIn_withDeadline]
  simp only [Store.run_provided_search, Program.run_log, hanswer, if_neg (hnotLate _),
    MemoryStore.outcome_search hfailure]
  rfl

open Classical in
/-- A search over records in memory fails as its query does. Else it returns, arranged in the order
of results, the stored records that are sought. -/
theorem SearchService.runIn_search_memory (hworld : memory.Behind world states) (hs : states s)
    (hfailure : memory.failure = none) (config : SearchConfig)
    (hlatency : memory.latency.nanos ≤ config.timeout.nanos) (e : Entity) (query : String)
    (filters : e.Filters) :
    let outcome := (runIn world s
      ((SearchService.mk .provided config).search e query filters)).1
    (∀ cause, config.limits.parse query = .error cause →
      outcome = .error cause ∧ cause.isValidation = true) ∧
    (∀ keywords, config.limits.parse query = .ok keywords →
      ∃ found, outcome = .ok found ∧
        e.Arranged ((memory.records e).filter (e.Sought query filters ·)) found) := by
  refine ⟨fun cause hparse => ⟨?_, KeywordLimits.isValidation_of_parse hparse⟩,
    fun keywords hparse => ?_⟩
  · have hkeywords : ∃ t, runIn world s ((SearchService.mk .provided config).keywords e query)
        = (.error cause, t) := by
      simp only [SearchService.keywords, hparse]
      rw [Attempt.runIn_bind_ok _ _ (Attempt.runIn_lift _ _ _), Attempt.runIn_throw]
      exact ⟨_, rfl⟩
    obtain ⟨t, ht⟩ := hkeywords
    rw [SearchService.search, Attempt.runIn_bind_error _ _ ht]
  · have hkeywords : runIn world s ((SearchService.mk .provided config).keywords e query)
        = (.ok keywords, s) := by
      simp only [SearchService.keywords, hparse, Attempt.runIn_pure]
    have hfind := Store.runIn_find_memory hworld hs hfailure hlatency e keywords filters
    refine ⟨e.select (e.compose keywords filters) (memory.records e), ?_, ?_⟩
    · rw [SearchService.search, Attempt.runIn_bind_ok _ _ hkeywords,
        Attempt.runIn_bind_ok _ _ (Prod.ext hfind rfl),
        Attempt.runIn_bind_ok _ _ (Attempt.runIn_lift _ _ _), Attempt.runIn_pure]
    · have hsought : (memory.records e).filter (e.satisfies (e.compose keywords filters))
          = (memory.records e).filter (e.Sought query filters ·) :=
        List.filter_congr fun r _ => by
          rw [Bool.eq_iff_iff, Entity.satisfies_compose_iff hparse, decide_eq_true_iff]
      rw [Entity.select, hsought]
      exact Entity.arranged_mergeSort _

open Classical in
/-- An underscore in a query is looked for as it stands, and of two articles published at the same
time both are arranged. -/
theorem SearchService.runIn_search_memory_underscore :
    let articles : List Article :=
      [⟨1, 1, "My_Var", "https://a.example", "", .ofSecond 0, .ofSecond 0⟩,
        ⟨2, 1, "myXvar", "https://b.example", "", .ofSecond 0, .ofSecond 0⟩,
        ⟨3, 1, "names", "https://c.example", "100% my_var", .ofSecond 0, .ofSecond 0⟩]
    let memory : MemoryStore := { articles, latency := .ofSeconds 5 }
    let world := (Stage.world { now := .ofSecond 0 }).withMemory
    ∃ found, (runIn world (memory, [])
        ((SearchService.mk .provided {}).search .article " MY_ " {})).1 = .ok found ∧
      Entity.article.Arranged (articles.filter (Entity.article.Sought " MY_ " {} ·)) found :=
  (SearchService.runIn_search_memory (MemoryStore.behind_withMemory _ _) rfl rfl {} (by decide)
    .article " MY_ " {}).2 [⟨"MY_"⟩] (by rfl)

end FeedArchive
