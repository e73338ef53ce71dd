import FeedArchive.Crawl
import FeedArchive.Proofs.Search.Existence
import FeedArchive.Proofs.Search.Service

/-!
# Sessions

Calls of a search service over a store in memory, one after the other, by free text, with a time
limit of their own or to the store itself. `Call.question?` says what a call asks of the store, if
anything, and `MemoryStore.Serves` how the store may serve a call that asks it. From that all of
`CallRun.Lawful` follows: no call depends on those before it, and each one raises one counter of the
store by one or none at all, however it ends (`session_lawful`).
-/

namespace FeedArchive

open Attempt (runIn)

/-! ## Calls -/

/-- A call of a search service, or of the store behind it. -/
inductive Call where
  /-- Searches by free text. -/
  | search (e : Entity) (query : String) (filters : e.Filters)
  /-- Searches for keywords with a time limit of its own. -/
  | find (e : Entity) (keywords : List Keyword) (filters : e.Filters) (timeout : Span)
  /-- Asks the store itself for records. -/
  | select (e : Entity) (ps : List Predicate)
  /-- Asks the store itself for keys. -/
  | members (keys : List String)
  /-- Checks for existence. -/
  | existing (candidates : List String)
  /-- Leaves out the articles that the store has. -/
  | partition (articles : List NewArticle) (timeout : Span)

namespace Call

/-- What a call returns if it does not fail. -/
abbrev Answer : Call → Type
  | search e _ _ => List e.Record
  | find e _ _ _ => List e.Record
  | select e _ => List e.Record
  | members _ => List String
  | existing _ => ExistenceMap
  | partition _ _ => Partition

/-- What a store answers, however long it takes. -/
def directly {α : Type} (p : Program (Timed α)) : Attempt SearchError α :=
  ExceptT.mk do return (← p).outcome.mapError .storage

/-- What is done for a call. -/
def perform (service : SearchService) : (c : Call) → Attempt SearchError c.Answer
  | search e query filters => service.search e query filters
  | find e keywords filters timeout => service.store.find e keywords filters timeout
  | select e ps => directly (service.store.search e ps)
  | members keys => directly (service.store.members keys)
  | existing candidates => service.existing candidates
  | partition articles timeout => service.store.partitionNew articles timeout

/-- What a call asks of the store. A query that is refused and an empty list ask nothing. -/
def question? (config : SearchConfig) : Call → Option Request
  | search e query filters => match config.limits.parse query with
    | .ok keywords => some (.search e (e.compose keywords filters))
    | .error _ => none
  | find e keywords filters _ => some (.search e (e.compose keywords filters))
  | select e ps => some (.search e ps)
  | members keys => some (.members keys)
  | existing candidates =>
    if candidates = [] then none else some (.members (distinct candidates))
  | partition articles _ =>
    if articles = [] then none else some (.members (distinct (articles.map (·.url))))

/-- How long a call waits for the store, if not for as long as it takes. -/
def deadline? (config : SearchConfig) : Call → Option Span
  | search _ _ _ => some config.timeout
  | find _ _ _ timeout => some timeout
  | select _ _ => none
  | members _ => none
  | existing _ => some config.timeout
  | partition _ timeout => some timeout

end Call

/-- The counter that a question to a store raises. -/
def Request.counter? (r : Request) : Option MemoryStore.Counter :=
  if r.isSearch then some .searches else r.keys?.map fun _ => .memberships

/-- The states of a world with a store in memory, together with a record of what has been asked. -/
abbrev Asked (σ : Type) := (MemoryStore × σ) × List Request

/-! ## How the store serves a call -/

/-- The outcome of a call that asks the store: the store takes too long, which hides that it may be
out of service; or it is out of service; or it answers. -/
inductive MemoryStore.Serves {α : Type} (memory : MemoryStore) (deadline? : Option Span) :
    Except SearchError α → Prop
  | late {timeout : Span} (operation : String) (hdeadline : deadline? = some timeout)
      (hlate : timeout.nanos < memory.latency.nanos) :
      Serves memory deadline? (.error (.storage (.timeout operation timeout)))
  | failed {reason : String} (hintime : ∀ timeout ∈ deadline?, memory.latency.nanos ≤ timeout.nanos)
      (hfailure : memory.failure = some reason) :
      Serves memory deadline? (.error (.storage (.unavailable reason)))
  | answered (x : α) (hintime : ∀ timeout ∈ deadline?, memory.latency.nanos ≤ timeout.nanos)
      (hfailure : memory.failure = none) : Serves memory deadline? (.ok x)

namespace MemoryStore

variable {α β ε δ : Type} {memory : MemoryStore} {deadline? : Option Span}

/-- What is made of a result. -/
theorem Serves.map {y : Except SearchError α} (h : memory.Serves deadline? y) (f : α → β) :
    memory.Serves deadline? (y.map f) := by
  cases h with
  | late operation hdeadline hlate => exact .late operation hdeadline hlate
  | failed hintime hfailure => exact .failed hintime hfailure
  | answered x hintime hfailure => exact .answered (f x) hintime hfailure

/-- What comes in time is not late. -/
theorem not_exists_late (hintime : ∀ timeout ∈ deadline?, memory.latency.nanos ≤ timeout.nanos) :
    ¬∃ timeout ∈ deadline?, timeout.nanos < memory.latency.nanos := by
  rintro ⟨timeout, hdeadline, hlate⟩
  exact Nat.not_lt.mpr (hintime timeout hdeadline) hlate

/-- A call times out if the store takes longer than the call waits. -/
theorem Serves.timeout_iff {y : Except SearchError α} (h : memory.Serves deadline? y) :
    (∃ operation after, y = .error (.storage (.timeout operation after))) ↔
      ∃ timeout ∈ deadline?, timeout.nanos < memory.latency.nanos := by
  cases h with
  | @late timeout operation hdeadline hlate =>
    exact iff_of_true ⟨operation, timeout, rfl⟩ ⟨timeout, hdeadline, hlate⟩
  | failed hintime hfailure =>
    exact iff_of_false (fun ⟨_, _, heq⟩ => nomatch heq) (not_exists_late hintime)
  | answered x hintime hfailure =>
    exact iff_of_false (fun ⟨_, _, heq⟩ => nomatch heq) (not_exists_late hintime)

/-- A store that is out of service is seen to be so by those calls that do not time out. -/
theorem Serves.unavailable_iff {y : Except SearchError α} (h : memory.Serves deadline? y)
    (reason : String) : y = .error (.storage (.unavailable reason)) ↔
      memory.failure = some reason ∧ ∀ timeout ∈ deadline?,
        memory.latency.nanos ≤ timeout.nanos := by
  cases h with
  | @late timeout operation hdeadline hlate =>
    refine iff_of_false nofun ?_
    rintro ⟨-, hintime⟩
    exact not_exists_late hintime ⟨timeout, hdeadline, hlate⟩
  | @failed reason' hintime hfailure =>
    constructor
    · intro heq
      cases heq
      exact ⟨hfailure, hintime⟩
    · rintro ⟨hreason, -⟩
      rw [Option.some.inj (hfailure.symm.trans hreason)]
  | answered x hintime hfailure =>
    refine iff_of_false nofun ?_
    rintro ⟨hreason, -⟩
    rw [hfailure] at hreason
    cases hreason

/-- A call that asks the store is at fault for no failure. -/
theorem Serves.isValidation_eq_false {cause : SearchError}
    (h : memory.Serves deadline? (.error cause : Except SearchError α)) :
    cause.isValidation = false := by
  cases h with
  | late operation hdeadline hlate => rfl
  | failed hintime hfailure => rfl

/-! ## What attempts ask -/

variable {σ : Type} {world : World σ} {asked asked' : List Request}

/-- The store when all this has been asked. -/
def counting (store : MemoryStore) (asked : List Request) : MemoryStore :=
  (asked.filterMap Request.counter?).foldl raise store

/-- Only the counters of the store are changed. -/
theorem uncounted_counting (store : MemoryStore) (asked : List Request) :
    (store.counting asked).uncounted = store.uncounted := by
  rw [counting]
  induction asked.filterMap Request.counter? generalizing store with
  | nil => rfl
  | cons counter rest ih => rw [List.foldl_cons, ih, uncounted_raise]

/-- What is asked in two parts. -/
theorem counting_append (store : MemoryStore) (asked asked' : List Request) :
    store.counting (asked ++ asked') = (store.counting asked).counting asked' := by
  rw [counting, counting, counting, List.filterMap_append, List.foldl_append]

/-- Whatever the counters of the store show, the attempt asks this of the world apart from what it
writes to the log, and comes to that. -/
def Settles (memory : MemoryStore) (world : World σ) (a : Attempt ε α) (asked : List Request)
    (y : Except ε α) : Prop :=
  ∀ store s record, store.uncounted = memory.uncounted → ∃ t added,
    runIn world.withMemory.recorded ((store, s), record) a
      = (y, ((store.counting asked, t), record ++ added)) ∧
    added.filter (·.event?.isNone) = asked

/-- A result that is there already asks nothing. -/
theorem settles_pure (x : α) : memory.Settles world (pure x : Attempt ε α) [] (.ok x) := by
  intro store s record _
  exact ⟨s, [], by rw [List.append_nil]; rfl, rfl⟩

/-- A failure asks nothing. -/
theorem settles_throw (e : ε) : memory.Settles world (throw e : Attempt ε α) [] (.error e) := by
  intro store s record _
  exact ⟨s, [], by rw [List.append_nil]; rfl, rfl⟩

/-- What is written to the log is not counted. -/
theorem settles_log (event : Event) :
    memory.Settles world (liftM (Program.log event) : Attempt ε Unit) [] (.ok ()) := by
  intro store s record _
  exact ⟨_, [.log event], rfl, rfl⟩

/-- An attempt that succeeds is followed by what else is asked. -/
theorem Settles.bind_ok {a : Attempt ε α} {x : α} {f : α → Attempt ε β} {y : Except ε β}
    (h : memory.Settles world a asked (.ok x)) (hf : memory.Settles world (f x) asked' y) :
    memory.Settles world (a >>= f) (asked ++ asked') y := by
  intro store s record hstore
  obtain ⟨t, first, hfirst, rfl⟩ := h store s record hstore
  obtain ⟨u, rest, hrest, rfl⟩ := hf _ t (record ++ first) ((uncounted_counting _ _).trans hstore)
  refine ⟨u, first ++ rest, ?_, List.filter_append _ _⟩
  rw [Attempt.runIn_bind_ok _ _ hfirst, hrest, List.append_assoc, counting_append]

/-- An attempt that fails is followed by nothing. -/
theorem Settles.bind_error {a : Attempt ε α} {e : ε} (h : memory.Settles world a asked (.error e))
    (f : α → Attempt ε β) : memory.Settles world (a >>= f) asked (.error e) := by
  intro store s record hstore
  obtain ⟨t, added, hrun, hasked⟩ := h store s record hstore
  exact ⟨t, added, Attempt.runIn_bind_error _ _ hrun f, hasked⟩

/-- Other words for a failure. -/
theorem Settles.mapError {a : Attempt ε α} {y : Except ε α} (h : memory.Settles world a asked y)
    (f : ε → δ) : memory.Settles world (a.mapError f) asked (y.mapError f) := by
  intro store s record hstore
  obtain ⟨t, added, hrun, hasked⟩ := h store s record hstore
  exact ⟨t, added, by rw [Attempt.runIn_mapError, hrun], hasked⟩

/-! ## Questions -/

/-- The program puts one question, to which a store in service has an answer, and which raises a
counter. -/
structure Asks (memory : MemoryStore) (world : World σ) (p : Program (Timed α)) (question : Request)
    (x : α) : Prop where
  unlogged : question.event?.isNone = true
  run : ∀ store s record, store.uncounted = memory.uncounted →
    p.run world.withMemory.recorded ((store, s), record)
      = (memory.answer x, ((store.counting [question], s), record ++ [question]))

/-- Whatever the counters of the store show, the attempt puts one question, and comes to what the
store makes of it. -/
def Puts (memory : MemoryStore) (world : World σ) (a : Attempt SearchError α) (question : Request)
    (deadline? : Option Span) : Prop :=
  ∃ y, memory.Settles world a [question] y ∧ memory.Serves deadline? y

/-- An answer that comes in time is passed on, and so is that there is none. -/
theorem serves_answer (x : α)
    (hintime : ∀ timeout ∈ deadline?, memory.latency.nanos ≤ timeout.nanos) :
    memory.Serves deadline? ((memory.answer x).outcome.mapError SearchError.storage) := by
  cases hfailure : memory.failure with
  | some reason =>
    simp only [answer, hfailure]
    exact .failed hintime hfailure
  | none =>
    simp only [answer, hfailure]
    exact .answered x hintime hfailure

variable {p : Program (Timed α)} {question : Request} {x : α}

/-- A question that is waited for as long as it takes. -/
theorem Asks.puts_directly (h : memory.Asks world p question x) :
    memory.Puts world (Call.directly p) question none := by
  refine ⟨_, ?_, serves_answer x nofun⟩
  intro store s record hstore
  refine ⟨s, [question], ?_, by rw [List.filter_singleton, h.unlogged]; rfl⟩
  show (p >>= _).run _ _ = _
  rw [Program.run_bind, h.run store s record hstore]
  rfl

/-- Giving an answer up is written to the log, and the question has been put all the same. -/
theorem Asks.settles_late (h : memory.Asks world p question x) (operation : String) {timeout : Span}
    (hlate : timeout.nanos < memory.latency.nanos) :
    memory.Settles world (withDeadline operation timeout p) [question]
      (.error (.timeout operation timeout)) := by
  intro store s record hstore
  let event : Event := .storeTimedOut operation timeout
  refine ⟨(world.answer (.log event) s).2, [question, .log event], ?_, ?_⟩
  · -- the question has been put, and counted, by the time that its answer is given up
    have happend : record ++ [question, .log event] = record ++ [question] ++ [.log event] := by
      rw [List.append_assoc, List.singleton_append]
    rw [Attempt.runIn_withDeadline, h.run store s record hstore, happend]
    exact if_pos hlate
  · simp only [List.filter_cons, h.unlogged, if_true]
    rfl

/-- An answer that comes in time is the one of the store. -/
theorem Asks.settles_intime (h : memory.Asks world p question x) (operation : String)
    {timeout : Span} (hintime : ¬ timeout.nanos < memory.latency.nanos) :
    memory.Settles world (withDeadline operation timeout p) [question]
      (memory.answer x).outcome := by
  intro store s record hstore
  refine ⟨s, [question], ?_, by rw [List.filter_singleton, h.unlogged]; rfl⟩
  rw [Attempt.runIn_withDeadline, h.run store s record hstore]
  exact if_neg hintime

/-- A question that is given up after some time. -/
theorem Asks.puts_withDeadline (h : memory.Asks world p question x) (operation : String)
    (timeout : Span) :
    memory.Puts world ((withDeadline operation timeout p).mapError SearchError.storage) question
      (some timeout) := by
  by_cases hlate : timeout.nanos < memory.latency.nanos
  · exact ⟨_, (h.settles_late operation hlate).mapError SearchError.storage,
      .late operation rfl hlate⟩
  · have hintime : ∀ t ∈ some timeout, memory.latency.nanos ≤ t.nanos := by
      intro t ht
      obtain rfl := Option.mem_some.mp ht
      exact Nat.not_lt.mp hlate
    exact ⟨_, (h.settles_intime operation hlate).mapError SearchError.storage,
      serves_answer x hintime⟩

/-- A step before the question that asks nothing is passed. -/
theorem Puts.after {b : Attempt SearchError β} {z : β} {f : β → Attempt SearchError α}
    (h : memory.Puts world (f z) question deadline?) (hb : memory.Settles world b [] (.ok z)) :
    memory.Puts world (b >>= f) question deadline? := by
  obtain ⟨y, hsettles, hserves⟩ := h
  exact ⟨y, hb.bind_ok hsettles, hserves⟩

/-- What is made of an answer without asking more. -/
theorem Puts.bind {a : Attempt SearchError α} (h : memory.Puts world a question deadline?)
    {f : α → Attempt SearchError β} {g : α → β}
    (hf : ∀ x, memory.Settles world (f x) [] (.ok (g x))) :
    memory.Puts world (a >>= f) question deadline? := by
  obtain ⟨y, hsettles, hserves⟩ := h
  refine ⟨y.map g, ?_, hserves.map g⟩
  cases y with
  | error e => exact hsettles.bind_error f
  | ok x => exact hsettles.bind_ok (hf x)

/-! ## What each call asks -/

variable (memory) (world)

/-- A search of the store puts one question. -/
theorem asks_search (e : Entity) (ps : List Predicate) :
    memory.Asks world (Store.provided.search e ps) (.search e ps)
      (e.select ps (memory.records e)) where
  unlogged := rfl
  run store s record hstore := by
    rw [← search_eq, ← search_congr hstore]
    rfl

/-- Asking the store for keys puts one question. -/
theorem asks_members (keys : List String) :
    memory.Asks world (Store.provided.members keys) (.members keys)
      (distinct ((memory.articles.map (·.url)).filter keys.contains)) where
  unlogged := rfl
  run store s record hstore := by
    rw [← members_eq, ← members_congr hstore]
    rfl

/-- A search for keywords asks for what they are composed to. -/
theorem puts_find (e : Entity) (keywords : List Keyword) (filters : e.Filters) (timeout : Span) :
    memory.Puts world (Store.provided.find e keywords filters timeout)
      (.search e (e.compose keywords filters)) (some timeout) := by
  have hsearch := memory.asks_search world e (e.compose keywords filters)
  rw [Store.find]
  exact Puts.after (hsearch.puts_withDeadline _ timeout) (settles_log _)

variable {config : SearchConfig}

/-- A query that is refused goes no further. -/
theorem settles_search_refused {query : String} {cause : SearchError}
    (hparse : config.limits.parse query = .error cause) (e : Entity) (filters : e.Filters) :
    memory.Settles world ((SearchService.mk .provided config).search e query filters) []
      (.error cause) := by
  have hkeywords : memory.Settles world ((SearchService.mk .provided config).keywords e query) []
      (.error cause) := by
    simp only [SearchService.keywords, hparse]
    exact (settles_log _).bind_ok (settles_throw cause)
  exact hkeywords.bind_error _

/-- A query that is accepted is searched for. -/
theorem puts_search {query : String} {keywords : List Keyword}
    (hparse : config.limits.parse query = .ok keywords) (e : Entity) (filters : e.Filters) :
    memory.Puts world ((SearchService.mk .provided config).search e query filters)
      (.search e (e.compose keywords filters)) (some config.timeout) := by
  have hkeywords : memory.Settles world ((SearchService.mk .provided config).keywords e query) []
      (.ok keywords) := by
    simp only [SearchService.keywords, hparse]
    exact settles_pure keywords
  refine Puts.after ?_ hkeywords
  apply (memory.puts_find world e keywords filters config.timeout).bind
  intro found
  exact (settles_log _).bind_ok (settles_pure found)

/-- Candidates are asked for all at once. -/
theorem puts_lookUp {candidates : List String} (hne : candidates ≠ []) (timeout : Span) :
    memory.Puts world (Store.provided.lookUp candidates timeout) (.members (distinct candidates))
      (some timeout) := by
  have hempty : ¬ candidates.isEmpty = true := fun h => hne (List.isEmpty_iff.mp h)
  rw [Store.lookUp, if_neg hempty]
  apply ((memory.asks_members world (distinct candidates)).puts_withDeadline _ timeout).bind
  intro found
  exact (settles_log _).bind_ok (settles_pure _)

/-- Articles are divided by one question for their URLs. -/
theorem puts_partitionNew {articles : List NewArticle} (hne : articles ≠ []) (timeout : Span) :
    memory.Puts world (Store.provided.partitionNew articles timeout)
      (.members (distinct (articles.map (·.url)))) (some timeout) := by
  have hurls : articles.map (·.url) ≠ [] := fun h => hne (List.map_eq_nil_iff.mp h)
  exact (memory.puts_lookUp world hurls timeout).bind fun _ => settles_pure _

/-- A call puts its question to the store, if it has one. -/
theorem puts_perform (config : SearchConfig) (c : Call) :
    match c.question? config with
    | some question =>
      memory.Puts world (c.perform ⟨.provided, config⟩) question (c.deadline? config)
    | none => ∃ y, memory.Settles world (c.perform ⟨.provided, config⟩) [] y := by
  cases c with
  | search e query filters =>
    cases hparse : config.limits.parse query with
    | error cause =>
      simp only [Call.question?, hparse]
      exact ⟨_, memory.settles_search_refused world hparse e filters⟩
    | ok keywords =>
      simp only [Call.question?, hparse]
      exact memory.puts_search world hparse e filters
  | find e keywords filters timeout => exact memory.puts_find world e keywords filters timeout
  | select e ps => exact (memory.asks_search world e ps).puts_directly
  | members keys => exact (memory.asks_members world keys).puts_directly
  | existing candidates =>
    by_cases hnil : candidates = []
    · subst hnil
      exact ⟨_, settles_pure _⟩
    · simp only [Call.question?, if_neg hnil]
      exact memory.puts_lookUp world hnil config.timeout
  | partition articles timeout =>
    by_cases hnil : articles = []
    · subst hnil
      exact ⟨_, (settles_pure _).bind_ok (settles_pure _)⟩
    · simp only [Call.question?, if_neg hnil]
      exact memory.puts_partitionNew world hnil timeout

/-- A call asks its question, if it has one, and nothing else; if it has, it comes to what the store
makes of it. -/
theorem settles_perform (config : SearchConfig) (c : Call) :
    ∃ y, memory.Settles world (c.perform ⟨.provided, config⟩) (c.question? config).toList y ∧
      (c.question? config ≠ none → memory.Serves (c.deadline? config) y) := by
  have hputs := memory.puts_perform world config c
  cases hquestion : c.question? config with
  | some question =>
    rw [hquestion] at hputs
    obtain ⟨y, hsettles, hserves⟩ := hputs
    exact ⟨y, hsettles, fun _ => hserves⟩
  | none =>
    rw [hquestion] at hputs
    obtain ⟨y, hsettles⟩ := hputs
    exact ⟨y, hsettles, fun h => absurd rfl h⟩

end MemoryStore

/-- A question of a call is one for which the store has a counter. -/
theorem Call.counter_of_question {config : SearchConfig} {c : Call} {question : Request}
    (h : c.question? config = some question) : ∃ counter, question.counter? = some counter := by
  cases c with
  | search e query filters =>
    simp only [question?] at h
    split at h
    · exact ⟨.searches, Option.some.inj h ▸ rfl⟩
    · cases h
  | find e keywords filters timeout => exact ⟨.searches, Option.some.inj h ▸ rfl⟩
  | select e ps => exact ⟨.searches, Option.some.inj h ▸ rfl⟩
  | members keys => exact ⟨.memberships, Option.some.inj h ▸ rfl⟩
  | existing candidates =>
    simp only [question?] at h
    split at h
    · cases h
    · exact ⟨.memberships, Option.some.inj h ▸ rfl⟩
  | partition articles timeout =>
    simp only [question?] at h
    split at h
    · cases h
    · exact ⟨.memberships, Option.some.inj h ▸ rfl⟩

/-! ## Sessions -/

/-- A call as it was run, and the states of the world before and after it. -/
structure CallRun (σ : Type) where
  call : Call
  before : σ
  outcome : Except SearchError call.Answer
  after : σ

/-- The run of a call from a state. -/
def Call.runFrom {σ : Type} (world : World σ) (service : SearchService) (c : Call) (s : σ) :
    CallRun σ :=
  { call := c
    before := s
    outcome := (runIn world s (c.perform service)).1
    after := (runIn world s (c.perform service)).2 }

/-- The runs of calls one after the other. -/
def session {σ : Type} (world : World σ) (service : SearchService) :
    List Call → σ → List (CallRun σ)
  | [], _ => []
  | c :: rest, s => c.runFrom world service s :: session world service rest
      (c.runFrom world service s).after

/-- An empty list is checked for existence or divided. -/
inductive Call.IsEmpty : Call → Prop where
  | existing : IsEmpty (.existing [])
  | partition (timeout : Span) : IsEmpty (.partition [] timeout)

/-- What holds of each call in a session with a store in memory, which has these records, and is in
service or not, and takes its time as it does. A call reaches the store if it has a question. -/
structure CallRun.Lawful {σ : Type} (memory : MemoryStore) (world : World σ) (config : SearchConfig)
    (run : CallRun (Asked σ)) : Prop where
  /-- Whatever the counters show and whatever else has passed, the call would have come out the
  same. -/
  stateless : ∀ s : Asked σ, s.1.1.uncounted = memory.uncounted →
    (runIn world.withMemory.recorded s (run.call.perform ⟨.provided, config⟩)).1 = run.outcome
  /-- Nothing of the store has changed but its counters. -/
  kept : run.before.1.1.uncounted = memory.uncounted ∧
    run.after.1.1.uncounted = memory.uncounted
  /-- Apart from the log, a call that reaches the store asks its question, once, and another one
  asks nothing. -/
  asked : ∃ added, run.after.2 = run.before.2 ++ added ∧
    added.filter (·.event?.isNone) = (run.call.question? config).toList
  /-- A call that reaches the store raises one counter by one, however it ends. -/
  once : ∀ question, run.call.question? config = some question →
    ∃ counter, question.counter? = some counter ∧
      MemoryStore.Raises counter run.before.1.1 run.after.1.1
  refused : ∀ cause, run.outcome = .error cause → cause.isValidation = true →
    ∀ counter, run.after.1.1.calls counter = run.before.1.1.calls counter
  empty : run.call.IsEmpty →
    ∀ counter, run.after.1.1.calls counter = run.before.1.1.calls counter
  timeout_iff : run.call.question? config ≠ none →
    ((∃ operation after, run.outcome = .error (.storage (.timeout operation after))) ↔
      ∃ timeout ∈ run.call.deadline? config, timeout.nanos < memory.latency.nanos)
  unavailable_iff : run.call.question? config ≠ none → ∀ reason,
    (run.outcome = .error (.storage (.unavailable reason)) ↔
      memory.failure = some reason ∧
        ∀ timeout ∈ run.call.deadline? config, memory.latency.nanos ≤ timeout.nanos)

variable {σ : Type} (world : World σ) (config : SearchConfig)

/-- Any call may be made from any state in which the store has these records. -/
theorem Call.lawful_runFrom {memory : MemoryStore} (c : Call) (s : Asked σ)
    (hs : s.1.1.uncounted = memory.uncounted) :
    (c.runFrom world.withMemory.recorded ⟨.provided, config⟩ s).Lawful memory world config := by
  obtain ⟨y, hsettles, hserves⟩ := memory.settles_perform world config c
  obtain ⟨t, added, hrun, hasked⟩ := hsettles s.1.1 s.1.2 s.2 hs
  have houtcome : ∀ t : Asked σ, t.1.1.uncounted = memory.uncounted →
      (runIn world.withMemory.recorded t (c.perform ⟨.provided, config⟩)).1 = y := by
    intro t ht
    obtain ⟨_, _, hrun', -⟩ := hsettles t.1.1 t.1.2 t.2 ht
    exact congrArg Prod.fst hrun'
  have hstore : (c.runFrom world.withMemory.recorded ⟨.provided, config⟩ s).after.1.1
      = s.1.1.counting (c.question? config).toList := congrArg (·.2.1.1) hrun
  have hsettled : (c.runFrom world.withMemory.recorded ⟨.provided, config⟩ s).outcome = y :=
    houtcome s hs
  -- a refusal and an empty list come down to this: without a question no counter moves
  have hstands : c.question? config = none → ∀ counter,
      (c.runFrom world.withMemory.recorded ⟨.provided, config⟩ s).after.1.1.calls counter
        = s.1.1.calls counter := by
    intro hnone counter
    rw [hstore, hnone]
    rfl
  constructor
  case stateless =>
    intro t ht
    exact (houtcome t ht).trans (houtcome s hs).symm
  case kept =>
    refine ⟨hs, ?_⟩
    rw [hstore, MemoryStore.uncounted_counting]
    exact hs
  case asked => exact ⟨added, congrArg (·.2.2) hrun, hasked⟩
  case once =>
    intro question hsome
    obtain ⟨counter, hcounter⟩ := counter_of_question hsome
    have hraised : s.1.1.counting [question] = s.1.1.raise counter := by
      rw [MemoryStore.counting, List.filterMap_cons_some hcounter]
      rfl
    refine ⟨counter, hcounter, ?_⟩
    have hquestion : c.question? config = some question := hsome
    rw [hstore, hquestion, Option.toList_some, hraised]
    exact MemoryStore.raises_raise s.1.1 counter
  case refused =>
    intro cause heq hvalidation
    apply hstands
    -- had the call reached the store, it would be the store that failed
    by_contra hne
    have hserved := hserves hne
    rw [← hsettled, heq] at hserved
    rw [hserved.isValidation_eq_false] at hvalidation
    cases hvalidation
  case empty =>
    intro hempty
    apply hstands
    cases hempty with
    | existing => rfl
    | partition timeout => rfl
  case timeout_iff =>
    intro hne
    rw [hsettled]
    exact (hserves hne).timeout_iff
  case unavailable_iff =>
    intro hne reason
    rw [hsettled]
    exact (hserves hne).unavailable_iff reason

/-- Calls from a state in which the store has these records. -/
theorem lawful_of_mem_session {memory : MemoryStore} (calls : List Call) (start : Asked σ)
    (hstart : start.1.1.uncounted = memory.uncounted) :
    ∀ run ∈ session world.withMemory.recorded ⟨.provided, config⟩ calls start,
      run.Lawful memory world config := by
  induction calls generalizing start with
  | nil => exact List.forall_mem_nil _
  | cons c rest ih =>
    have hfirst := c.lawful_runFrom world config start hstart
    exact List.forall_mem_cons.mpr ⟨hfirst, ih _ hfirst.kept.2⟩

/-- In every session of calls of a search service over a store in memory, whose counters may show
anything in the beginning, each call is lawful, whatever calls precede it. -/
theorem session_lawful (calls : List Call) (start : Asked σ) :
    let runs := session world.withMemory.recorded ⟨.provided, config⟩ calls start
    runs.map (·.call) = calls ∧ ∀ run ∈ runs, run.Lawful start.1.1 world config := by
  refine ⟨?_, lawful_of_mem_session world config calls start rfl⟩
  induction calls generalizing start with
  | nil => rfl
  | cons c rest ih => exact congrArg (c :: ·) (ih _)

/-- A store out of service that takes three seconds for each answer counts one call of each kind,
of which the second one times out; what is refused and what is empty is not counted. -/
theorem session_lawful_failing :
    let memory : MemoryStore := { failure := some "down", latency := .ofSeconds 3 }
    let world := Stage.world { now := .ofSecond 0 }
    let runs := session world.withMemory.recorded ⟨.provided, {}⟩
      [.search .article " " {}, .existing ["a", "a"], .partition [] (.ofSeconds 1),
        .find .source [] {} (.ofSeconds 2)] ((memory, []), [])
    (∀ run ∈ runs, run.Lawful memory world {}) ∧
      runs.map (fun run => (run.after.1.1.searchCalls, run.after.1.1.membershipCalls))
        = [(0, 0), (0, 1), (0, 1), (1, 1)] :=
  ⟨(session_lawful _ _ _ _).2, by rfl⟩

end FeedArchive
