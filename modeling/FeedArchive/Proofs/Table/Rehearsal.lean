import FeedArchive.Proofs.Table.Alone
import FeedArchive.Proofs.Table.Schedule

/-!
# A table that fails as told

A world that can be computed: a table of articles for a single session, and a list that says which
requests are refused. `Rehearsal.keeps_world` says that its answers are those which a session may
get that is alone at the table.
-/

namespace FeedArchive

open Database SharedTable

/-- What does not change: the texts at URLs, and the rows that are not about articles. -/
structure Rehearsal where
  feed : String → String
  listing : List Row := []

namespace Rehearsal

/-- What comes of a request that is refused. Even if a rollback is refused, nothing is left of the
transaction. -/
def refuse (table : SharedTable Unit) : (r : Request) → r.Answer × SharedTable Unit
  | .connect _ => (.error "refused", table)
  | .rows _ => (.error "refused", table)
  | .affected _ => (.error "refused", table)
  | .control .rollback => (.error "refused", table.rollback ())
  | .control _ => (.error "refused", table)
  | .migrations => ([], table)
  | .search _ _ => ({ outcome := .error (.unavailable "refused") }, table)
  | .members _ => ({ outcome := .error (.unavailable "refused") }, table)
  | .fetch _ _ => (.error (.other "refused"), table)
  | .now => (.ofSecond 0, table)
  | .elapsed => (⟨0⟩, table)
  | .log _ => ((), table)
  | .print _ => ((), table)

/-- The rows that a statement returns: those of the URLs that it asks for, or the listing. -/
def rows (rehearsal : Rehearsal) (table : SharedTable Unit) (statement : Statement) : List Row :=
  match statement.params with
  | [.texts keys] =>
    (keys.filter (· ∈ urls (table.visible ()))).map fun u => [("url", .text u)]
  | _ => rehearsal.listing

/-- What comes of a request that is not refused. -/
def serve (rehearsal : Rehearsal) (table : SharedTable Unit) :
    (r : Request) → r.Answer × SharedTable Unit
  | .rows statement => (.ok (rehearsal.rows table statement), table)
  | r => (table.answer? (fun _ => rehearsal.feed) () r).getD (refuse table r)

/-- The world of a rehearsal. Each request uses up one member of the list, which says whether the
request is refused; when none is left nothing is refused any more. -/
def world (rehearsal : Rehearsal) : World (SharedTable Unit × List Bool) where
  answer r s :=
    let x := if s.2.headD false then refuse s.1 r else rehearsal.serve s.1 r
    (x.1, x.2, s.2.tail)

variable {feed : Unit → String → String} {table : SharedTable Unit}

/-- A refusal is served on the terms of a session that is alone. -/
theorem serves_refuse (r : Request) :
    Serves feed () table r (refuse table r).1 (refuse table r).2 := by
  cases r with
  | affected statement =>
    simp only [Serves]
    cases statement.newArticle? with
    | none => exact fun _ => rfl
    | some a => rfl
  | control c => cases c <;> first | rfl | trivial
  | rows statement => exact ⟨fun _ => rfl, fun _ _ _ hrows => by cases hrows⟩
  | members keys => exact ⟨rfl, fun _ hfound => by cases hfound⟩
  | fetch url timeout => exact ⟨rfl, fun _ htext => by cases htext⟩
  | _ => rfl

/-- What a rehearsal serves is served on the terms of a session that is alone. -/
theorem serves_serve (rehearsal : Rehearsal) (r : Request) :
    Serves (fun _ => rehearsal.feed) () table r (rehearsal.serve table r).1
      (rehearsal.serve table r).2 := by
  have hother : ∀ r : Request,
      let x := (table.answer? (fun _ => rehearsal.feed) () r).getD (refuse table r)
      Serves (fun _ => rehearsal.feed) () table r x.1 x.2 := by
    intro r
    cases hanswer : table.answer? (fun _ => rehearsal.feed) () r with
    | none => exact serves_refuse r
    | some x => exact serves_of_answer? hanswer
  cases r with
  | rows statement =>
    refine ⟨fun _ => rfl, fun keys rows hstatement hrows => ?_⟩
    subst hstatement
    obtain rfl := Except.ok.inj hrows
    refine ⟨_, rfl, fun u => ?_⟩
    rw [List.mem_filter, decide_eq_true_iff]
  | _ => exact hother _

/-- A rehearsal keeps its table. -/
theorem keeps_world (rehearsal : Rehearsal) :
    rehearsal.world.Keeps (fun s => s.1) fun _ => rehearsal.feed := by
  refine ⟨fun r s => ?_⟩
  by_cases hrefused : s.2.headD false = true
  · simp only [world, if_pos hrefused]
    exact serves_refuse r
  · simp only [world, if_neg hrefused]
    exact serves_serve rehearsal r

end Rehearsal

end FeedArchive
