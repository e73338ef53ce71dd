import FeedArchive.Proofs.Table.Storing
import FeedArchive.Table

/-!
# Plans

What is sent to the database where the statements are known beforehand. `Carries` says what is sent
when a plan is carried out, and what comes of it; the first statement that fails is the last one of
the plan that is sent. Storing articles carries out a plan (`Articles.Stores.carries`).
-/

namespace FeedArchive

open Database

/-- A statement of a plan, and the task that has failed if the statement fails. -/
structure Step where
  sent : Sent
  task : Task

namespace Step

def begin : Step := ⟨.control .begin, .beginTransaction⟩

def insert (a : NewArticle) : Step :=
  ⟨.statement (Articles.insertUnlessPresent a), .createArticle a.url⟩

def commit : Step := ⟨.control .commit, .commitTransaction⟩

def mark (id : Int) (time : Instant) : Step :=
  ⟨.statement (Sources.crawledStatement id time), .markCrawled⟩

/-- The statement is sent and does not fail. -/
def succeeded (step : Step) : Sent × Bool := (step.sent, true)

/-- What is sent if the step fails: the statement, and then a rollback if a transaction is open.
The outcome of the rollback does not matter. -/
def failed (step : Step) (undone : Bool) : List (Sent × Bool) :=
  (step.sent, false) ::
    match step.task with
    | .createArticle _ | .commitTransaction => [(.control .rollback, undone)]
    | _ => []

end Step

/-- The plan to store articles in one transaction, empty if there are no articles. -/
def Articles.plan (as : List NewArticle) : List Step :=
  if as.isEmpty then [] else .begin :: (as.map .insert ++ [.commit])

/-- What is sent when a plan is carried out, and the result. Either all steps succeed, or one of
them fails and no later one is sent. -/
inductive Carries {α : Type} (plan : List Step) : List (Sent × Bool) → Except Failure α → Prop
  | through (x : α) : Carries plan (plan.map Step.succeeded) (.ok x)
  | upTo (done : List Step) (step : Step) (rest : List Step) (hplan : plan = done ++ step :: rest)
      (message : String) (undone : Bool) :
      Carries plan (done.map Step.succeeded ++ step.failed undone)
        (.error (.storage step.task (.reported message)))

namespace Carries

variable {α β : Type} {plan : List Step} {sent : List (Sent × Bool)}

/-- A plan with a result has been carried out to its end. -/
theorem eq_of_ok {x : α} (h : Carries plan sent (.ok x)) : sent = plan.map Step.succeeded := by
  obtain ⟨⟩ := h
  rfl

/-- What is left of a plan that has failed does not matter. -/
theorem append_of_error {e : Failure} (h : Carries plan sent (.error e : Except Failure α))
    (more : List Step) : Carries (plan ++ more) sent (.error e : Except Failure β) := by
  obtain _ | ⟨done, step, rest, hplan, message, undone⟩ := h
  refine .upTo done step (rest ++ more) ?_ message undone
  rw [hplan, List.append_assoc, List.cons_append]

end Carries

/-! ## Exchanges -/

/-- What is sent to the database in an exchange, if anything, and whether it succeeds. -/
def Exchange.sent? : Exchange → Option (Sent × Bool)
  | ⟨.rows s, answer⟩ => some (.statement s, answer.isOk)
  | ⟨.affected s, answer⟩ => some (.statement s, answer.isOk)
  | ⟨.control c, answer⟩ => some (.control c, answer.isOk)
  | _ => none

/-- What is sent to the database, in order, and what of it succeeds. -/
def sentIn (trace : List Exchange) : List (Sent × Bool) :=
  trace.filterMap Exchange.sent?

/-- What is sent in two parts is what is sent in the one and then in the other. -/
theorem sentIn_append (first rest : List Exchange) :
    sentIn (first ++ rest) = sentIn first ++ sentIn rest :=
  List.filterMap_append

namespace Articles

variable {as : List NewArticle} {trace : List Exchange}

/-- The plan for articles, of which there is at least one. -/
theorem plan_of_ne_nil (hne : as ≠ []) : plan as = .begin :: (as.map .insert ++ [.commit]) :=
  if_neg fun hempty => hne (List.isEmpty_iff.mp hempty)

/-- Articles are inserted one by one, and each step succeeds. -/
theorem Inserts.sentIn_eq {n : Nat} (h : Inserts as trace n) :
    sentIn trace = (as.map Step.insert).map Step.succeeded := by
  induction h with
  | nil => rfl
  | cons count h ih =>
    rw [List.map_cons, List.map_cons, ← ih]
    rfl

/-- Insertions that succeed, with what is sent before and after them. -/
theorem Inserts.sentIn_transaction {n : Nat} (h : Inserts as trace n) (outside : List Exchange) :
    sentIn (⟨.control .begin, .ok ()⟩ :: (trace ++ outside))
      = (Step.begin :: as.map Step.insert).map Step.succeeded ++ sentIn outside := by
  rw [List.map_cons, List.cons_append, ← h.sentIn_eq, ← sentIn_append]
  rfl

/-- Storing articles carries out the plan for it. -/
theorem Stores.carries {y : Except Failure Nat} (h : Stores as trace y) :
    Carries (plan as) (sentIn trace) y := by
  cases h with
  | nothing => exact .through 0
  | notBegun hne message =>
    rw [plan_of_ne_nil hne]
    exact .upTo [] .begin (as.map .insert ++ [.commit]) rfl message true
  | @notInserted done rest a _ _ hdone message answer =>
    rw [hdone.sentIn_transaction]
    refine .upTo (.begin :: done.map .insert) (.insert a) (rest.map .insert ++ [.commit]) ?_
      message answer.isOk
    rw [plan_of_ne_nil (List.append_ne_nil_of_right_ne_nil _ (List.cons_ne_nil _ _)),
      List.map_append, List.map_cons, List.append_assoc, List.cons_append, List.cons_append]
  | notCommitted hne hinserts message answer =>
    rw [hinserts.sentIn_transaction]
    exact .upTo (.begin :: as.map .insert) .commit [] (plan_of_ne_nil hne) message answer.isOk
  | @committed _ trace n hne hinserts =>
    have hsent : sentIn (⟨.control .begin, .ok ()⟩ :: (trace ++ [⟨.control .commit, .ok ()⟩]))
        = (plan as).map Step.succeeded := by
      rw [hinserts.sentIn_transaction, plan_of_ne_nil hne, ← List.cons_append, List.map_append]
      rfl
    rw [hsent]
    exact .through n

end Articles

end FeedArchive
