import FeedArchive.Proofs.Table.Interleaving

/-!
# Schedules

Steps that can be computed: a table whose answers do not fail, and sessions that take their turns as
a schedule says. `Sessions.steps_of_run?` says that these are steps of interleaved sessions.
-/

namespace FeedArchive

open Database

variable {ι α : Type} [DecidableEq ι] [Fintype ι] {feed : ι → String → String}

namespace SharedTable

/-- A row for an article. Its identifier is the number of articles that there are, whether they are
committed or not. -/
def newRow (table : SharedTable ι) (a : NewArticle) : Article where
  id := (table.rows.length + ∑ j, (table.uncommitted j).length : Nat)
  sourceId := a.sourceId
  title := a.title
  url := a.url
  summary := a.summary
  publishedAt := a.publishedAt
  createdAt := .ofSecond 0

/-- An answer that is no failure, and what it leaves of the table. There is none while an article
has to wait for another session, and none for what is not asked by a crawl through the store that
the world provides. -/
def answer? (feed : ι → String → String) (i : ι) (table : SharedTable ι) :
    (r : Request) → Option (r.Answer × SharedTable ι)
  | .affected statement =>
    match statement.newArticle? with
    | some a =>
      if a.url ∈ urls (table.visible i) then some (.ok 0, table)
      else if ∀ j, j ≠ i → a.url ∉ urls (table.uncommitted j) then
        some (.ok 1, table.add i (table.newRow a))
      else none
    | none => if statement.command.changed? = some "articles" then none else some (.ok 1, table)
  | .members keys =>
    some ({ outcome := .ok (keys.filter (· ∈ urls (table.visible i))) }, table)
  | .control .begin => some (.ok (), table.begin i)
  | .control .commit => some (.ok (), table.commit i)
  | .control .rollback => some (.ok (), table.rollback i)
  | .fetch url _ => some (.ok (feed i url), table)
  | .now => some (.ofSecond 0, table)
  | .elapsed => some (⟨0⟩, table)
  | .log _ => some ((), table)
  | _ => none

variable {i : ι} {table : SharedTable ι}

/-- These answers are among those that a session may get. -/
theorem serves_of_answer? {r : Request} {x : r.Answer × SharedTable ι}
    (h : table.answer? feed i r = some x) : Serves feed i table r x.1 x.2 := by
  cases r with
  | affected statement =>
    rw [answer?] at h
    cases hnew : statement.newArticle? with
    | none =>
      simp only [hnew] at h
      by_cases hchanged : statement.command.changed? = some "articles"
      · rw [if_pos hchanged] at h
        cases h
      · rw [if_neg hchanged] at h
        obtain rfl := Option.some.inj h
        simp only [Serves, hnew]
        exact fun _ => trivial
    | some a =>
      simp only [hnew] at h
      -- an article is there already, or it is new; it waits if another session has it uncommitted
      by_cases hseen : a.url ∈ urls (table.visible i)
      · rw [if_pos hseen] at h
        obtain rfl := Option.some.inj h
        simp only [Serves, hnew]
        exact .present hseen
      · rw [if_neg hseen] at h
        by_cases hfree : ∀ j, j ≠ i → a.url ∉ urls (table.uncommitted j)
        · rw [if_pos hfree] at h
          obtain rfl := Option.some.inj h
          simp only [Serves, hnew]
          exact .new _ rfl hseen hfree
        · rw [if_neg hfree] at h
          cases h
  | members keys =>
    obtain rfl := Option.some.inj h
    refine ⟨rfl, fun found hfound u => ?_⟩
    obtain rfl := Except.ok.inj hfound
    rw [List.mem_filter, decide_eq_true_iff]
  | control c =>
    cases c with
    | script text => cases h
    | begin => obtain rfl := Option.some.inj h; rfl
    | commit => obtain rfl := Option.some.inj h; rfl
    | rollback => obtain rfl := Option.some.inj h; rfl
  | fetch url timeout =>
    obtain rfl := Option.some.inj h
    exact ⟨rfl, fun text htext => (Except.ok.inj htext).symm⟩
  | now => obtain rfl := Option.some.inj h; rfl
  | elapsed => obtain rfl := Option.some.inj h; rfl
  | log event => obtain rfl := Option.some.inj h; rfl
  | connect url => cases h
  | rows statement => cases h
  | migrations => cases h
  | search e ps => cases h
  | print line => cases h

end SharedTable

namespace Sessions

/-- The turn of a session, if it gets an answer. -/
def step? (feed : ι → String → String) (s : Sessions ι α) (i : ι) : Option (Sessions ι α) :=
  match s.programs i with
  | .done _ => none
  | .ask r next => (s.table.answer? feed i r).map fun x =>
      ⟨x.2, Function.update s.programs i (next x.1)⟩

/-- Sessions take their turns in order, as long as each of them gets an answer. -/
def run? (feed : ι → String → String) (schedule : List ι) (s : Sessions ι α) :
    Option (Sessions ι α) :=
  schedule.foldlM (step? feed) s

variable {s t : Sessions ι α}

/-- What is computed for a session is a step that it may take. -/
theorem step_of_step? {i : ι} (h : s.step? feed i = some t) : Step feed s t := by
  rw [step?] at h
  cases hprogram : s.programs i with
  | done a =>
    rw [hprogram] at h
    cases h
  | ask r next =>
    rw [hprogram] at h
    obtain ⟨x, hx, rfl⟩ := Option.map_eq_some_iff.mp h
    exact .answer i hprogram (SharedTable.serves_of_answer? hx)

/-- What sessions come to by a schedule they come to in steps. -/
theorem steps_of_run? {schedule : List ι} (h : s.run? feed schedule = some t) :
    Steps feed s t := by
  induction schedule generalizing s with
  | nil =>
    obtain rfl : s = t := Option.some.inj h
    exact .refl
  | cons i schedule ih =>
    rw [run?, List.foldlM_cons] at h
    obtain ⟨u, hstep, hrest⟩ := Option.bind_eq_some_iff.mp h
    exact .head (step_of_step? hstep) (ih hrest)

end Sessions

end FeedArchive
