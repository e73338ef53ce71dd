import FeedArchive.Record
import FeedArchive.Program.Basic

/-! # A store in memory

A store that holds its records itself. It may be out of service, may take its time, and counts how
often it is asked. What it does about a question is written down step by step (`Handling`), as it
matters in which order it does so: a question is counted before anything else (`enter`), so that it
is counted even if the store is out of service or the answer is given up.

`World.withMemory` puts such a store in the place of the stores of a world. -/

namespace FeedArchive

/-- Records in the order in which they are stored. -/
structure MemoryStore where
  articles : List Article := []
  sources : List Source := []
  /-- Why the store is out of service, if it is. -/
  failure : Option String := none
  /-- How long each answer takes. -/
  latency : Span := ⟨0⟩
  /-- How often records have been searched for. -/
  searchCalls : Nat := 0
  /-- How often keys have been asked for. -/
  membershipCalls : Nat := 0

namespace MemoryStore

/-- The records of an entity. -/
def records (store : MemoryStore) : (e : Entity) → List e.Record
  | .article => store.articles
  | .source => store.sources

/-! ## Counters -/

/-- What is counted. -/
inductive Counter where
  | searches
  | memberships
  deriving DecidableEq

/-- What a counter shows. -/
def calls (store : MemoryStore) : Counter → Nat
  | .searches => store.searchCalls
  | .memberships => store.membershipCalls

/-- A counter goes up by one. -/
def raise (store : MemoryStore) : Counter → MemoryStore
  | .searches => { store with searchCalls := store.searchCalls + 1 }
  | .memberships => { store with membershipCalls := store.membershipCalls + 1 }

/-- The store with its counters at zero. -/
def uncounted (store : MemoryStore) : MemoryStore :=
  { store with searchCalls := 0, membershipCalls := 0 }

/-! ## Questions -/

/-- What a store does about a question, one step after the other. -/
inductive Handling (α : Type) where
  | count (counter : Counter) (rest : Handling α)
  /-- Time passes. -/
  | sleep (time : Span) (rest : Handling α)
  | reply (outcome : Except StoreError α)

namespace Handling

variable {α β : Type}

/-- Replies with what is made of a result. -/
def map (f : α → β) : Handling α → Handling β
  | .count counter rest => .count counter (rest.map f)
  | .sleep time rest => .sleep time (rest.map f)
  | .reply outcome => .reply (outcome.map f)

/-- What one sees who waits for the reply. -/
def timed : Handling α → Timed α
  | .count _ rest => rest.timed
  | .sleep time rest => { rest.timed with latency := ⟨time.nanos + rest.timed.latency.nanos⟩ }
  | .reply outcome => { outcome }

/-- The store as it stands when it first lets time pass, or replies. -/
def begun : Handling α → MemoryStore → MemoryStore
  | .count counter rest, store => rest.begun (store.raise counter)
  | .sleep _ _, store => store
  | .reply _, store => store

end Handling

/-- Every question is counted first. Then the store takes its time, and only then it is seen
whether it is in service. -/
def enter (store : MemoryStore) (counter : Counter) : Handling Unit :=
  .count counter <| .sleep store.latency <| .reply <| match store.failure with
    | some reason => .error (.unavailable reason)
    | none => .ok ()

/-- Which records satisfy predicates. -/
def handleSearch (store : MemoryStore) (e : Entity) (ps : List Predicate) :
    Handling (List e.Record) :=
  (store.enter .searches).map fun _ => e.select ps (store.records e)

/-- Which of the keys are URLs of stored articles. -/
def handleMembers (store : MemoryStore) (keys : List String) : Handling (List String) :=
  (store.enter .memberships).map fun _ =>
    distinct ((store.articles.map (·.url)).filter keys.contains)

/-- The records that satisfy predicates, in the order of results. -/
def search (store : MemoryStore) (e : Entity) (ps : List Predicate) : Timed (List e.Record) :=
  (store.handleSearch e ps).timed

/-- The URLs of stored articles that are among the keys, each once, in the order in which they are
stored. -/
def members (store : MemoryStore) (keys : List String) : Timed (List String) :=
  (store.handleMembers keys).timed

end MemoryStore

/-- A world with a store in memory as its store. While the program waits for an answer the store
stands as it does when it begins to let time pass. -/
def World.withMemory {σ : Type} (world : World σ) : World (MemoryStore × σ) where
  answer
    | .search e ps, (store, s) => (store.search e ps, (store.handleSearch e ps).begun store, s)
    | .members keys, (store, s) => (store.members keys, (store.handleMembers keys).begun store, s)
    | r, (store, s) => ((world.answer r s).1, store, (world.answer r s).2)

end FeedArchive
