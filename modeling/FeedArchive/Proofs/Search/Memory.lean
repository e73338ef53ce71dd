import FeedArchive.Search.Memory

/-!
# Records in memory

What a store in memory replies, what it leaves of itself, and how a world stands to it. A reply does
not hang on the counters (`MemoryStore.search_congr`). A question raises its counter and changes
nothing else, whether the reply is a result or a failure, and whether it is waited for or given up:
`Handling.await` follows the steps of a store until the one who asks gives up, and comes to what a
world with the store in it says at once (`await_fst`, `await_snd_enter`).
-/

namespace FeedArchive

namespace MemoryStore

variable {α : Type} {store other memory : MemoryStore}

/-! ## Replies -/

/-- What a store that has this to answer replies. -/
def answer (memory : MemoryStore) (x : α) : Timed α where
  latency := memory.latency
  outcome := match memory.failure with
    | some reason => .error (.unavailable reason)
    | none => .ok x

/-- However a question is counted, its reply comes to this. -/
theorem timed_enter_map (memory : MemoryStore) (counter : Counter) (f : Unit → α) :
    ((memory.enter counter).map f).timed = memory.answer (f ()) := by
  have htimed : ((memory.enter counter).map f).timed = ⟨memory.latency, Except.map f _⟩ := rfl
  rw [htimed, answer]
  cases memory.failure <;> rfl

/-- A search replies with the records that satisfy the predicates. -/
theorem search_eq (memory : MemoryStore) (e : Entity) (ps : List Predicate) :
    memory.search e ps = memory.answer (e.select ps (memory.records e)) :=
  memory.timed_enter_map .searches _

/-- A question for keys replies with those that stored articles have. -/
theorem members_eq (memory : MemoryStore) (keys : List String) : memory.members keys
    = memory.answer (distinct ((memory.articles.map (·.url)).filter keys.contains)) :=
  memory.timed_enter_map .memberships _

/-- A store in service gives what it is asked for. -/
theorem outcome_search (hfailure : memory.failure = none) (e : Entity) (ps : List Predicate) :
    (memory.search e ps).outcome = .ok (e.select ps (memory.records e)) := by
  rw [search_eq, answer, hfailure]

/-- What is searched for does not hang on the counters. -/
theorem search_congr (h : store.uncounted = other.uncounted) (e : Entity) (ps : List Predicate) :
    store.search e ps = other.search e ps :=
  congrArg (fun store => store.search e ps) h

/-- Which keys there are does not hang on the counters. -/
theorem members_congr (h : store.uncounted = other.uncounted) (keys : List String) :
    store.members keys = other.members keys :=
  congrArg (fun store => store.members keys) h

/-! ## Counters -/

/-- One counter goes up by one, and any other one stands. -/
def Raises (counter : Counter) (before after : MemoryStore) : Prop :=
  after.calls counter = before.calls counter + 1 ∧
    ∀ other, other ≠ counter → after.calls other = before.calls other

/-- It is so where the counter is raised. -/
theorem raises_raise (store : MemoryStore) (counter : Counter) :
    Raises counter store (store.raise counter) := by
  constructor
  · cases counter <;> rfl
  · intro other hne
    cases counter <;> cases other <;> first | rfl | exact absurd rfl hne

/-- A counter is all that is raised. -/
theorem uncounted_raise (store : MemoryStore) (counter : Counter) :
    (store.raise counter).uncounted = store.uncounted := by
  cases counter <;> rfl

/-! ## Waiting -/

/-- What comes of a question for one who waits for so long at most, or for as long as it takes: the
reply, unless it is given up, and the store as it is left. What would be done later is not done. -/
def Handling.await :
    Handling α → Option Span → MemoryStore → Option (Except StoreError α) × MemoryStore
  | .count counter rest, patience, store => rest.await patience (store.raise counter)
  | .sleep _ rest, none, store => rest.await none store
  | .sleep time rest, some patience, store =>
    if patience.nanos < time.nanos then (none, store)
    else rest.await (some ⟨patience.nanos - time.nanos⟩) store
  | .reply outcome, _, store => (some outcome, store)

/-- A reply is given up if it takes longer than one waits. -/
theorem await_fst (handling : Handling α) (patience : Span) (store : MemoryStore) :
    (handling.await (some patience) store).1
      = if patience.nanos < handling.timed.latency.nanos then none
        else some handling.timed.outcome := by
  induction handling generalizing patience store with
  | count counter rest ih => exact ih patience _
  | sleep time rest ih =>
    by_cases hshort : patience.nanos < time.nanos
    · have hlate : patience.nanos < time.nanos + rest.timed.latency.nanos :=
        Nat.lt_add_right _ hshort
      rw [Handling.await, if_pos hshort, Handling.timed, if_pos hlate]
    · rw [Handling.await, if_neg hshort, ih, Handling.timed]
      -- what is left of the time after a pause is what the rest may take
      have hrest : patience.nanos - time.nanos < rest.timed.latency.nanos ↔
          patience.nanos < time.nanos + rest.timed.latency.nanos := by omega
      simp only [hrest]
  | reply outcome => rfl

/-- However long one waits, the store is left as it was when it began to take its time. -/
theorem await_snd_enter (store : MemoryStore) (counter : Counter) (f : Unit → α)
    (patience? : Option Span) (start : MemoryStore) :
    (((store.enter counter).map f).await patience? start).2
      = ((store.enter counter).map f).begun start := by
  cases patience? with
  | none => rfl
  | some patience =>
    simp only [enter, Handling.map, Handling.await, Handling.begun]
    split <;> rfl

/-! ## Behind a world -/

/-- In these states, which no event in the log leaves, a world answers in place of a store what
records in memory give. -/
structure Behind {σ : Type} (memory : MemoryStore) (world : World σ) (states : σ → Prop) :
    Prop where
  search : ∀ e ps s, states s → (world.answer (.search e ps) s).1 = memory.search e ps
  members : ∀ keys s, states s → (world.answer (.members keys) s).1 = memory.members keys
  logged : ∀ event s, states s → states (world.answer (.log event) s).2

/-- It is so in a world with the store in it, whatever its counters show. -/
theorem behind_withMemory {σ : Type} (memory : MemoryStore) (world : World σ) :
    memory.Behind world.withMemory fun s => s.1.uncounted = memory.uncounted where
  search e ps _ hs := search_congr hs e ps
  members keys _ hs := members_congr hs keys
  logged _ _ hs := hs

end MemoryStore

end FeedArchive
