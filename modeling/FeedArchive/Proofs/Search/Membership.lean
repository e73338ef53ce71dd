import FeedArchive.Proofs.Search.Existence
import FeedArchive.Proofs.Search.Service

/-!
# Membership in memory

Which keys a store in memory has, and which candidates exist in it. However often keys are stored or
asked for, the store returns each one once, in the order in which they are stored
(`MemoryStore.HasAmong`), and a check for existence has one entry for each of them. Which entries
there are depends neither on the order of the candidates and the records nor on their repetitions
(`MemoryStore.returns_stored`).
-/

namespace FeedArchive

open Attempt (runIn)

/-- The keys are those of the candidates that stored articles have, each once, in the order of the
first articles that have them. -/
structure MemoryStore.HasAmong (memory : MemoryStore) (candidates keys : List String) : Prop where
  nodup : keys.Nodup
  mem_iff : ∀ u, u ∈ keys ↔ u ∈ candidates ∧ ∃ a ∈ memory.articles, a.url = u
  ordered : keys.Pairwise fun u v =>
    memory.articles.findIdx (·.url == u) < memory.articles.findIdx (·.url == v)

/-- A check for existence in the store returns the map, in every world and state that answers as the
store does. -/
def MemoryStore.Returns (memory : MemoryStore) (config : SearchConfig) (candidates : List String)
    (map : ExistenceMap) : Prop :=
  ∀ {σ : Type} (world : World σ) (states : σ → Prop), memory.Behind world states → ∀ s, states s →
    (runIn world s ((SearchService.mk .provided config).existing candidates)).1 = .ok map

variable (memory : MemoryStore)

/-- A store in service returns the keys that it has. -/
theorem MemoryStore.exists_hasAmong (hfailure : memory.failure = none) (candidates : List String) :
    ∃ keys, (memory.members candidates).outcome = .ok keys ∧ memory.HasAmong candidates keys := by
  refine ⟨distinct ((memory.articles.map (·.url)).filter candidates.contains), ?_, ?_⟩
  · rw [members_eq, answer, hfailure]
  refine ⟨nodup_distinct _, fun u => ?_, ?_⟩
  · simp [mem_distinct, and_comm]
  · -- leaving out what is no candidate leaves the others in their order
    have hfilter : distinct ((memory.articles.map (·.url)).filter candidates.contains)
        = (distinct (memory.articles.map (·.url))).filter candidates.contains :=
      distinctBy_filter id candidates.contains _
    have hordered := (firstAppearances_distinct (memory.articles.map (·.url))).ordered
    simp only [List.idxOf, List.findIdx_map] at hordered
    rw [hfilter]
    exact hordered.filter _

/-- In a store in service that answers in time, those candidates exist that a stored article has. -/
theorem MemoryStore.exists_returns (hfailure : memory.failure = none) (candidates : List String)
    {config : SearchConfig}
    (hintime : candidates = [] ∨ memory.latency.nanos ≤ config.timeout.nanos) :
    ∃ map, memory.Returns config candidates map ∧
      Marks candidates (memory.articles.map (·.url)) map := by
  by_cases hnil : candidates = []
  · subst hnil
    exact ⟨[], fun _ _ _ _ _ => rfl, by simp, by simp⟩
  have hnotLate : ¬ config.timeout.nanos < (memory.members (distinct candidates)).latency.nanos :=
    Nat.not_lt.mpr (hintime.resolve_left hnil)
  obtain ⟨keys, houtcome, hkeys⟩ := exists_hasAmong memory hfailure (distinct candidates)
  have hmarks := (Marks.existing (distinct candidates) keys).of_distinct
  refine ⟨existing (distinct candidates) keys, ?_, hmarks.nodup, fun entry => ?_⟩
  · intro σ world states hworld s hs
    rw [SearchService.existing, Store.runIn_lookUp world s hnil config.timeout]
    simp only [hworld.members _ _ hs, if_neg hnotLate, houtcome]
  · rw [hmarks.mem_iff, hkeys.mem_iff, mem_distinct, List.mem_map]
    constructor
    · rintro ⟨hcandidate, ⟨-, hstored⟩, htrue⟩
      exact ⟨hcandidate, hstored, htrue⟩
    · rintro ⟨hcandidate, hstored, htrue⟩
      exact ⟨hcandidate, ⟨hcandidate, hstored⟩, htrue⟩

/-- A store in memory that is in service returns those of the candidates that it has, each once, in
the order in which they are stored. If it answers in time, a check for existence returns the map of
just these, and the same map where candidates and articles stand in another order or are
repeated. -/
theorem MemoryStore.returns_stored (hfailure : memory.failure = none)
    (candidates : List String) (config : SearchConfig)
    (hintime : candidates = [] ∨ memory.latency.nanos ≤ config.timeout.nanos) :
    (∃ keys, (memory.members candidates).outcome = .ok keys ∧ memory.HasAmong candidates keys) ∧
      ∃ map, memory.Returns config candidates map ∧
        Marks candidates (memory.articles.map (·.url)) map ∧
        ∀ articles' candidates', (∀ a, a ∈ articles' ↔ a ∈ memory.articles) →
          (∀ u, u ∈ candidates' ↔ u ∈ candidates) →
          ∃ map', { memory with articles := articles' }.Returns config candidates' map' ∧
            map'.Perm map := by
  refine ⟨MemoryStore.exists_hasAmong memory hfailure candidates, ?_⟩
  obtain ⟨map, hreturns, hmarks⟩ := MemoryStore.exists_returns memory hfailure candidates hintime
  refine ⟨map, hreturns, hmarks, ?_⟩
  intro articles' candidates' harticles hcandidates
  have hintime' : candidates' = [] ∨ memory.latency.nanos ≤ config.timeout.nanos := by
    apply hintime.imp_left
    rintro rfl
    exact List.eq_nil_iff_forall_not_mem.mpr fun u hu => by simpa using (hcandidates u).mp hu
  obtain ⟨map', hreturns', hmarks'⟩ :=
    MemoryStore.exists_returns { memory with articles := articles' } hfailure candidates' hintime'
  refine ⟨map', hreturns', hmarks.perm hmarks' hcandidates fun u => ?_⟩
  simp [harticles]

/-- Keys that are stored twice and candidates that are given twice, and the same backwards. -/
theorem MemoryStore.returns_stored_backwards :
    let article := fun (id : Int) (url : String) =>
      (⟨id, 1, "", url, "", .ofSecond 0, .ofSecond 0⟩ : Article)
    let memory : MemoryStore := {
      articles := [article 1 "https://b.example", article 2 "https://a.example",
        article 3 "https://b.example"]
      latency := .ofSeconds 5 }
    let candidates := ["https://a.example", "https://c.example", "https://a.example",
      "https://b.example"]
    memory.failure = none ∧ memory.latency.nanos ≤ ({} : SearchConfig).timeout.nanos ∧
      (∃ keys, (memory.members candidates).outcome = .ok keys ∧
        memory.HasAmong candidates keys) ∧
      ∃ map, (runIn (Stage.world { now := .ofSecond 0 }).withMemory (memory, [])
          ((SearchService.mk .provided {}).existing candidates)).1 = .ok map ∧
        Marks candidates (memory.articles.map (·.url)) map ∧
        ∃ map', { memory with articles := memory.articles.reverse }.Returns {} candidates.reverse
          map' ∧ map'.Perm map := by
  intro article memory candidates
  have hintime : memory.latency.nanos ≤ ({} : SearchConfig).timeout.nanos := by decide
  obtain ⟨hkeys, map, hreturns, hmarks, hsame⟩ :=
    MemoryStore.returns_stored memory rfl candidates {} (Or.inr hintime)
  exact ⟨rfl, hintime, hkeys, map,
    hreturns _ _ (MemoryStore.behind_withMemory _ _) _ rfl, hmarks,
    hsame memory.articles.reverse candidates.reverse (by simp) (by simp)⟩

end FeedArchive
