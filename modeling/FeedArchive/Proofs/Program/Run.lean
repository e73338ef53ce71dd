import FeedArchive.Program.Basic
import FeedArchive.Search.Store

/-!
# Running attempts

What a program comes to when it is run in a world, one lemma for each way of putting programs
together. A proof about a program follows its text with these lemmas and never opens the tree of
requests.
-/

namespace FeedArchive

/-- It does not matter how the steps of a program are put together. -/
instance : LawfulMonad Program := LawfulMonad.mk' _
  (fun p => by
    induction p with
    | done a => rfl
    | ask r next ih => exact congrArg (Program.ask r) (funext ih))
  (fun _ _ => rfl)
  (fun p _ _ => by
    induction p with
    | done a => rfl
    | ask r next ih => exact congrArg (Program.ask r) (funext ih))

variable {σ α β ε δ : Type} (world : World σ) (s : σ)

/-- A question to the store that the world provides is answered by the world. -/
@[simp] theorem Store.run_provided_search (e : Entity) (ps : List Predicate) :
    (Store.provided.search e ps).run world s = world.answer (.search e ps) s := rfl

/-- A question for keys is, too. -/
@[simp] theorem Store.run_provided_members (keys : List String) :
    (Store.provided.members keys).run world s = world.answer (.members keys) s := rfl

/-- What is written to the log has no answer. -/
@[simp] theorem Program.run_log (event : Event) :
    (Program.log event).run world s = ((), (world.answer (.log event) s).2) := rfl

namespace Attempt

/-- What an attempt comes to, and the state in which it leaves the world. -/
def runIn (a : Attempt ε α) : Except ε α × σ :=
  Program.run world a.run s

/-- A result that is there already asks nothing. -/
@[simp] theorem runIn_pure (a : α) :
    runIn world s (pure a : Attempt ε α) = (.ok a, s) := rfl

/-- A failure asks nothing. -/
@[simp] theorem runIn_throw (e : ε) :
    runIn world s (throw e : Attempt ε α) = (.error e, s) := rfl

/-- A failure ends an attempt; else it goes on from the result. -/
theorem runIn_bind (a : Attempt ε α) (f : α → Attempt ε β) :
    runIn world s (a >>= f) = match runIn world s a with
      | (.ok x, t) => runIn world t (f x)
      | (.error e, t) => (.error e, t) := by
  show Program.run world (ExceptT.run a >>= ExceptT.bindCont f) s = _
  rw [Program.run_bind, runIn]
  rcases Program.run world a.run s with ⟨_ | x, t⟩ <;> rfl

/-- A step that succeeds is passed. -/
theorem runIn_bind_ok {a : Attempt ε α} {x : α} {t : σ} (h : runIn world s a = (.ok x, t))
    (f : α → Attempt ε β) : runIn world s (a >>= f) = runIn world t (f x) := by
  rw [runIn_bind, h]

/-- A step that fails is the last one. -/
theorem runIn_bind_error {a : Attempt ε α} {e : ε} {t : σ} (h : runIn world s a = (.error e, t))
    (f : α → Attempt ε β) : runIn world s (a >>= f) = (.error e, t) := by
  rw [runIn_bind, h]

/-- A program that cannot fail, as a step of an attempt. -/
@[simp] theorem runIn_lift (p : Program α) :
    runIn world s (liftM p : Attempt ε α)
      = (.ok (p.run world s).1, (p.run world s).2) := by
  show Program.run world (p >>= fun a => pure (Except.ok a)) s = _
  rw [Program.run_bind]
  rfl

/-- Other words for a failure change neither a result nor the world. -/
theorem runIn_mapError (f : ε → δ) (a : Attempt ε α) :
    runIn world s (a.mapError f) = ((runIn world s a).1.mapError f, (runIn world s a).2) := by
  show Program.run world (ExceptT.run a >>= _) s = _
  rw [Program.run_bind, runIn]
  rcases Program.run world a.run s with ⟨_ | x, t⟩ <;> rfl

/-- An answer is given up if it takes longer than is allowed. -/
theorem runIn_withDeadline (operation : String) (timeout : Span) (p : Program (Timed α)) :
    runIn world s (withDeadline operation timeout p)
      = if timeout.nanos < (p.run world s).1.latency.nanos then
          (.error (.timeout operation timeout),
            (world.answer (.log (.storeTimedOut operation timeout)) (p.run world s).2).2)
        else ((p.run world s).1.outcome, (p.run world s).2) := by
  show Program.run world (p >>= _) s = _
  rw [Program.run_bind]
  split <;> rfl

end Attempt

/-! ## Asking the database -/

namespace Database

open Attempt (runIn)

/-- A statement is sent, and its rows or its failure come back. -/
theorem runIn_rows (statement : Statement) :
    runIn world s (Attempt.request Error.reported (Program.request (.rows statement)))
      = ((world.answer (.rows statement) s).1.mapError Error.reported,
          (world.answer (.rows statement) s).2) :=
  Attempt.runIn_mapError world s _ _

/-- The rows of a statement are read one by one. -/
theorem runIn_fetchAll (statement : Statement) (read : Row → Except Error α) :
    runIn world s (fetchAll statement read)
      = (((world.answer (.rows statement) s).1.mapError Error.reported).bind (·.mapM read),
          (world.answer (.rows statement) s).2) := by
  rw [fetchAll, Attempt.runIn_bind, runIn_rows]
  rcases (world.answer (.rows statement) s).1 with _ | rows <;> rfl

/-- The first row of a statement is read. -/
theorem runIn_fetchFirst (statement : Statement) (read : Row → Except Error α) :
    runIn world s (fetchFirst statement read)
      = (((world.answer (.rows statement) s).1.mapError Error.reported).bind (·.head?.mapM read),
          (world.answer (.rows statement) s).2) := by
  rw [fetchFirst, Attempt.runIn_bind, runIn_rows]
  rcases (world.answer (.rows statement) s).1 with _ | rows <;> rfl

/-- The first row of a statement is read, and there has to be one. -/
theorem runIn_fetchOne (statement : Statement) (read : Row → Except Error α) :
    runIn world s (fetchOne statement read)
      = ((((world.answer (.rows statement) s).1.mapError Error.reported).bind
            (·.head?.mapM read)).bind fun
              | some a => .ok a
              | none => .error .noRow,
          (world.answer (.rows statement) s).2) := by
  rw [fetchOne, Attempt.runIn_bind, runIn_fetchFirst]
  rcases ((world.answer (.rows statement) s).1.mapError Error.reported).bind (·.head?.mapM read)
    with _ | _ | _ <;> rfl

/-- What a statement changes is counted. -/
theorem runIn_execute (statement : Statement) :
    runIn world s (execute statement)
      = ((world.answer (.affected statement) s).1.mapError Error.reported,
          (world.answer (.affected statement) s).2) :=
  Attempt.runIn_mapError world s _ _

end Database

end FeedArchive
