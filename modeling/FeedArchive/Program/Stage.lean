import FeedArchive.Program.Basic

/-! # A world set up beforehand

`Stage.world` answers programs without any network or database: the replies of the database are
taken from a list in order, and everything else is fixed. `World.recorded` keeps a record of what
any world is asked. -/

namespace FeedArchive

/-- A reply of the database. -/
inductive Reply where
  | rows (rows : List Database.Row)
  /-- The number of rows that a statement has changed. -/
  | affected (count : Nat)
  | failure (message : String)

namespace Reply

/-- The reply where rows are expected; if there is a number instead, no row has come. -/
def asRows : Reply → Except String (List Database.Row)
  | .rows rs => .ok rs
  | .affected _ => .ok []
  | .failure message => .error message

/-- The reply where a number is expected; each row counts as one. -/
def asCount : Reply → Except String Nat
  | .rows rs => .ok rs.length
  | .affected count => .ok count
  | .failure message => .error message

/-- The first of some replies and those after it; when there are none left, a failure. -/
def take : List Reply → Reply × List Reply
  | [] => (.failure "script exhausted", [])
  | r :: rs => (r, rs)

end Reply

/-- What stays the same while programs run. Where nothing else is said, nothing fails, no migration
is on record, no feed exists and the stores hold nothing. -/
structure Stage where
  /-- Why the database cannot be opened, if it cannot. -/
  closed : Option String := none
  beginFailure : Option String := none
  commitFailure : Option String := none
  scriptFailure : Option String := none
  migrations : List AppliedMigration := []
  search : (e : Entity) → List Predicate → Timed (List e.Record) := fun _ _ => { outcome := .ok [] }
  members : List String → Timed (List String) := fun _ => { outcome := .ok [] }
  fetch : String → Except Feed.FetchError String := fun _ => .error (.other "not found")
  now : Instant
  /-- How long the database takes for each answer. -/
  elapsed : Span := ⟨0⟩

namespace Stage

/-- Success unless there is a failure. -/
def okUnless (failure : Option String) : Except String Unit :=
  match failure with
  | some message => .error message
  | none => .ok ()

/-- The reply to a control; what is rolled back never fails. -/
def control (stage : Stage) : Database.Control → Except String Unit
  | .begin => okUnless stage.beginFailure
  | .commit => okUnless stage.commitFailure
  | .rollback => .ok ()
  | .script _ => okUnless stage.scriptFailure

/-- The world of a stage. Its state is the replies of the database that are left. -/
def world (stage : Stage) : World (List Reply) where
  answer
    | .connect _, s => (okUnless stage.closed, s)
    | .rows _, s => ((Reply.take s).1.asRows, (Reply.take s).2)
    | .affected _, s => ((Reply.take s).1.asCount, (Reply.take s).2)
    | .control c, s => (stage.control c, s)
    | .migrations, s => (stage.migrations, s)
    | .search e ps, s => (stage.search e ps, s)
    | .members keys, s => (stage.members keys, s)
    | .fetch url _, s => (stage.fetch url, s)
    | .now, s => (stage.now, s)
    | .elapsed, s => (stage.elapsed, s)
    | .log _, s => ((), s)
    | .print _, s => ((), s)

end Stage

/-! ## Records -/

/-- The world together with a record of what it has been asked, in order. -/
def World.recorded {σ : Type} (world : World σ) : World (σ × List Request) where
  answer r s := ((world.answer r s.1).1, ((world.answer r s.1).2, s.2 ++ [r]))

namespace Request

/-- What is sent to the database, if anything. -/
def sent? : Request → Option Database.Sent
  | .rows s => some (.statement s)
  | .affected s => some (.statement s)
  | .control c => some (.control c)
  | _ => none

/-- The URL that is asked over HTTP, if any. -/
def url? : Request → Option String
  | .fetch url _ => some url
  | _ => none

/-- What is written to the log, if anything. -/
def event? : Request → Option Event
  | .log event => some event
  | _ => none

/-- The line that is printed, if any. -/
def line? : Request → Option String
  | .print line => some line
  | _ => none

/-- The keys that a store is asked for, if any. -/
def keys? : Request → Option (List String)
  | .members keys => some keys
  | _ => none

/-- A store is searched. -/
def isSearch : Request → Bool
  | .search _ _ => true
  | _ => false

end Request

end FeedArchive
