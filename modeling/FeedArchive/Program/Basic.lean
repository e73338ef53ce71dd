import FeedArchive.Database.Row
import FeedArchive.Database.Statement
import FeedArchive.Program.Event

/-! # Programs

A program asks the world one thing after the other, and what it asks next may hang on the answers
so far. It is a tree of requests, so that all it can do is open to inspection: nothing is done
until the program is run against a `World`, which answers requests and keeps a state of its
own. `Attempt` is a program that may fail, and `Database.transaction` one whose statements are
committed together or not at all. -/

namespace FeedArchive

/-- What a store returns, and how long it takes for it. -/
structure Timed (α : Type) where
  latency : Span := ⟨0⟩
  outcome : Except StoreError α

/-- Why a text could not be fetched over HTTP. -/
inductive Feed.FetchError where
  /-- The request could not be sent. -/
  | unsent (url : String)
  /-- The answer had a status that reports a failure. -/
  | badStatus (url : String)
  /-- The answer broke off. -/
  | noBody
  /-- A prepared failure of a stand-in for the network. -/
  | staged (reason : String)
  /-- A failure that is reported in the words of whoever fetched. -/
  | other (reason : String)
  deriving DecidableEq, Repr

def Feed.FetchError.message : FetchError → String
  | .unsent url => "HTTPリクエストの送信に失敗: " ++ url
  | .badStatus url => "HTTPステータスが異常: " ++ url
  | .noBody => "レスポンステキストの取得に失敗"
  | .staged reason => "モックHTTPエラー: " ++ reason
  | .other reason => reason

/-- A migration that the database has on record. -/
structure AppliedMigration where
  version : Nat
  /-- The script that was applied is the one known under this version. -/
  unchanged : Bool
  /-- The script was applied to its end. -/
  complete : Bool
  deriving DecidableEq

/-- Something that a program asks of the world. -/
inductive Request where
  /-- Opens the database. -/
  | connect (url : String)
  /-- Sends a statement for the sake of the rows it returns. -/
  | rows (s : Database.Statement)
  /-- Sends a statement for the sake of what it changes. -/
  | affected (s : Database.Statement)
  | control (c : Database.Control)
  /-- The migrations on record. -/
  | migrations
  /-- Asks a store for the records that satisfy predicates. -/
  | search (e : Entity) (ps : List Predicate)
  /-- Asks a store which of the keys it has. -/
  | members (keys : List String)
  /-- Fetches a text over HTTP. -/
  | fetch (url : String) (timeout : Span)
  /-- Reads the clock. -/
  | now
  /-- How long the last answer of the database took. -/
  | elapsed
  | log (event : Event)
  /-- Prints a line. -/
  | print (line : String)

/-- What the world may answer. A database that fails reports a text. -/
abbrev Request.Answer : Request → Type
  | .connect _ => Except String Unit
  | .rows _ => Except String (List Database.Row)
  | .affected _ => Except String Nat
  | .control _ => Except String Unit
  | .migrations => List AppliedMigration
  | .search e _ => Timed (List e.Record)
  | .members _ => Timed (List String)
  | .fetch _ _ => Except Feed.FetchError String
  | .now => Instant
  | .elapsed => Span
  | .log _ => Unit
  | .print _ => Unit

/-- A tree of requests that ends in a result. -/
inductive Program (α : Type) where
  | done (result : α)
  | ask (request : Request) (next : request.Answer → Program α)

namespace Program

/-- Goes on with the result of a program. -/
def andThen {α β : Type} : Program α → (α → Program β) → Program β
  | .done a, f => f a
  | .ask r next, f => .ask r fun answer => (next answer).andThen f

instance : Monad Program where
  pure := .done
  bind := andThen

/-- Asks one thing. -/
def request (r : Request) : Program r.Answer := .ask r .done

/-- Writes to the log. -/
def log (event : Event) : Program Unit := request (.log event)

/-- Prints a line. -/
def print (line : String) : Program Unit := request (.print line)

end Program

/-- A program that may fail. -/
abbrev Attempt (ε α : Type) := ExceptT ε Program α

namespace Attempt

/-- Reports a failure in other terms. -/
def mapError {ε δ α : Type} (f : ε → δ) (a : Attempt ε α) : Attempt δ α :=
  ExceptT.mk do
    match (← a.run) with
    | .ok x => return .ok x
    | .error e => return .error (f e)

/-- A result that is there already. -/
def ofExcept {ε α : Type} (e : Except ε α) : Attempt ε α :=
  ExceptT.mk (pure e)

/-- A request whose answer is a failure or a result. -/
def request {ε δ α : Type} (f : ε → δ) (p : Program (Except ε α)) : Attempt δ α :=
  mapError f (ExceptT.mk p)

end Attempt

/-! ## Running -/

/-- What answers the requests of programs, with a state that answers may change. -/
structure World (σ : Type) where
  answer : (r : Request) → σ → r.Answer × σ

/-- Runs a program from a state of the world. -/
def Program.run {σ α : Type} (world : World σ) : Program α → σ → α × σ
  | .done a, s => (a, s)
  | .ask r next, s => (next (world.answer r s).1).run world (world.answer r s).2

/-- Runs a program whose requests are answered with effects. -/
def Program.runWith {m : Type → Type} [Monad m] {α : Type} (answer : (r : Request) → m r.Answer) :
    Program α → m α
  | .done a => pure a
  | .ask r next => do
    let given ← answer r
    (next given).runWith answer

/-- Running a program and then another one is running them one after the other. -/
theorem Program.run_bind {σ α β : Type} (world : World σ) (p : Program α) (f : α → Program β)
    (s : σ) : (p >>= f).run world s = (f (p.run world s).1).run world (p.run world s).2 := by
  induction p generalizing s with
  | done a => rfl
  | ask r next ih => exact ih _ _

/-! ## Asking the database

Statements and reading what comes back, and transactions. -/

namespace Database

/-- Sends a statement and reads every row it returns. -/
def fetchAll {α : Type} (s : Statement) (read : Row → Except Error α) : Attempt Error (List α) := do
  let rows ← Attempt.request Error.reported (Program.request (.rows s))
  Attempt.ofExcept (rows.mapM read)

/-- Sends a statement and reads the first row it returns, if there is one. -/
def fetchFirst {α : Type} (s : Statement) (read : Row → Except Error α) :
    Attempt Error (Option α) := do
  let rows ← Attempt.request Error.reported (Program.request (.rows s))
  Attempt.ofExcept (rows.head?.mapM read)

/-- Sends a statement and reads the first row it returns, which is required. -/
def fetchOne {α : Type} (s : Statement) (read : Row → Except Error α) : Attempt Error α := do
  match (← fetchFirst s read) with
  | some a => return a
  | none => throw .noRow

/-- Sends a statement for the sake of what it changes; the number of rows it has changed. -/
def execute (s : Statement) : Attempt Error Nat :=
  Attempt.request Error.reported (Program.request (.affected s))

/-- Begins, commits or rolls back a transaction, or sends a script. -/
def send (c : Control) : Attempt Error Unit :=
  Attempt.request Error.reported (Program.request (.control c))

/-- Takes back what has been done since the transaction began, and fails. -/
def giveUp {ε α : Type} (cause : ε) : Attempt ε α := do
  let _ ← Program.request (.control .rollback)
  throw cause

/-- Does something in a transaction, which is committed if all goes well and rolled back if not.
A transaction that cannot be begun is not rolled back. -/
def transaction {ε α : Type} (notBegun notCommitted : Error → ε) (body : Attempt ε α) :
    Attempt ε α := do
  (send .begin).mapError notBegun
  let result ← tryCatch body giveUp
  tryCatch ((send .commit).mapError notCommitted) giveUp
  return result

end Database

end FeedArchive
