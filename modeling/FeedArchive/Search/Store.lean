import FeedArchive.Config
import FeedArchive.Program.Basic

/-! # Stores

A store answers two questions: which records satisfy predicates, and which of some keys it has.
`withDeadline` gives an answer up that takes too long. A `SearchService` checks free text against
the limits of its configuration before a store is asked once. -/

namespace FeedArchive

/-- The two questions to a store. -/
structure Store where
  search : (e : Entity) → List Predicate → Program (Timed (List e.Record))
  members : List String → Program (Timed (List String))

/-- The store that the world provides. -/
def Store.provided : Store where
  search e ps := Program.request (.search e ps)
  members keys := Program.request (.members keys)

/-- An attempt that asks the database, as an answer that takes the time the database took. -/
def Attempt.timed {α : Type} (a : Attempt StoreError α) : Program (Timed α) := do
  let outcome ← a.run
  let latency ← Program.request .elapsed
  return { latency, outcome }

/-- The answer of a store, if it comes within the time allowed. -/
def withDeadline {α : Type} (operation : String) (timeout : Span) (p : Program (Timed α)) :
    Attempt StoreError α :=
  ExceptT.mk do
    let answer ← p
    if timeout.nanos < answer.latency.nanos then
      Program.log (.storeTimedOut operation timeout)
      return .error (.timeout operation timeout)
    else
      return answer.outcome

/-- Searches a store once for records that contain all keywords and pass the filters. -/
def Store.find (store : Store) (e : Entity) (keywords : List Keyword) (filters : e.Filters)
    (timeout : Span) : Attempt SearchError (List e.Record) := do
  let predicates := e.compose keywords filters
  Program.log (.searching keywords.length predicates.length)
  (withDeadline "部分一致検索" timeout (store.search e predicates)).mapError SearchError.storage

/-! ## Checking for existence

Which of some candidates a store has already, asked for all of them at once. -/

/-- The candidates that exist, each with the value `true`; those that do not are left out. -/
abbrev ExistenceMap := List (String × Bool)

/-- The candidates that are among the keys a store has returned. A key that was not asked for is
left out. -/
def existing (candidates found : List String) : ExistenceMap :=
  (distinct (found.filter candidates.contains)).map (·, true)

/-- Looks candidates up in a store: with one question for the distinct ones, or none if there are
no candidates. -/
def Store.lookUp (store : Store) (candidates : List String) (timeout : Span) :
    Attempt SearchError ExistenceMap :=
  if candidates.isEmpty then return []
  else do
    let unique := distinct candidates
    let found ← (withDeadline "URL一括存在確認" timeout (store.members unique)).mapError
      SearchError.storage
    let result := existing unique found
    Program.log (.lookedUp candidates.length unique.length result.length)
    return result

/-! ## The search service -/

/-- A store under a configuration. -/
structure SearchService where
  store : Store
  config : SearchConfig

namespace SearchService

/-- The keywords of a query within the limits; a refusal is written to the log. -/
def keywords (service : SearchService) (e : Entity) (query : String) :
    Attempt SearchError (List Keyword) :=
  match service.config.limits.parse query with
  | .ok ks => return ks
  | .error cause => do
    Program.log (.keywordsRefused e cause)
    throw cause

/-- Searches by free text and filters. -/
def search (service : SearchService) (e : Entity) (query : String) (filters : e.Filters) :
    Attempt SearchError (List e.Record) := do
  let ks ← service.keywords e query
  let found ← service.store.find e ks filters service.config.timeout
  Program.log (.searched e found.length)
  return found

/-- The candidates that the store has. -/
def existing (service : SearchService) (candidates : List String) :
    Attempt SearchError ExistenceMap :=
  service.store.lookUp candidates service.config.timeout

end SearchService

end FeedArchive
