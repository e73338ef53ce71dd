import FeedArchive.Command
import Std.Time.DateTime.Timestamp

/-! # The program

Runs the command with the environment of the process. No database and no network can be reached
from here, so that the command ends when it opens the database; everything else is done. -/

namespace FeedArchive

/-- The time of the clock. -/
def readClock : IO Instant := do
  let time ← Std.Time.Timestamp.now
  return .ofNanos time.toNanosecondsSinceUnixEpoch.toInt

/-- An event as a line. -/
def Event.line (e : Event) : String :=
  let field := fun (f : String × Datum) => match f.2 with
    | .text s => " " ++ f.1 ++ "=" ++ s
    | .int n => " " ++ f.1 ++ "=" ++ n.decimalText
  e.level.name ++ " " ++ e.message ++ String.join (e.fields.map field)

/-- Answers a request of a program. -/
def answerRequest : (r : Request) → IO r.Answer
  | .connect _ => return .error "no database can be reached"
  | .rows _ => return .error "no database is open"
  | .affected _ => return .error "no database is open"
  | .control _ => return .error "no database is open"
  | .migrations => return []
  | .search _ _ => return { outcome := .error (.unavailable "no store") }
  | .members _ => return { outcome := .error (.unavailable "no store") }
  | .fetch url _ => return .error (.unsent url)
  | .now => readClock
  | .elapsed => return ⟨0⟩
  | .log event => IO.eprintln event.line
  | .print line => IO.println line

end FeedArchive

/-- Runs the command; the exit code is 1 if it fails. -/
def main (args : List String) : IO UInt32 := do
  let names := FeedArchive.databaseVariable :: FeedArchive.SearchConfig.variableNames
  let environment ← names.mapM fun name => return (name, ← IO.getEnv name)
  let lookup := fun name => (environment.lookup name).join
  match (← (FeedArchive.command args lookup).run.runWith FeedArchive.answerRequest) with
  | .ok () => return 0
  | .error failure =>
    IO.eprintln ("Error: " ++ failure.message)
    match failure.cause with
    | some cause => IO.eprintln ("Caused by: " ++ cause)
    | none => pure ()
    return 1
