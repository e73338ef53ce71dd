import FeedArchive.Proofs.Crawl.Course
import FeedArchive.Proofs.Table.Plan
import Mathlib

/-!
# What a crawl sends

The statements of a crawl follow a plan that is known as soon as the fresh articles are: they are
stored in one transaction, then the time is recorded. `Source.crawl_sends` says that a crawl sends
nothing before it knows what is fresh, and then carries out its plan.
-/

namespace FeedArchive

open Database

/-- The plan of a crawl that has found out which articles are fresh. -/
def Source.plan (source : Source) (fresh : List NewArticle) (time : Instant) : List Step :=
  Articles.plan fresh ++ [.mark source.id time]

/-- A store that the world provides sends nothing to the database. -/
theorem Store.LooksUp.sentIn_eq_nil {timeout : Span} {candidates : List String}
    {trace : List Exchange} {x : Except SearchError (List String)}
    (h : Store.provided.LooksUp timeout candidates trace x) : sentIn trace = [] := by
  refine h.filterMap_eq_nil ?_ fun _ => rfl
  intro asked answer hends
  obtain rfl := Program.Ends.of_request hends
  rfl

namespace Source

variable {source : Source} {reader : Feed.Reader} {trace : List Exchange}

/-- Nothing is sent to the database before it is known which articles are fresh. -/
theorem Finds.sentIn_eq_nil {timeout : Span} {x : Except Failure Partition}
    (h : source.Finds reader .provided timeout trace x) : sentIn trace = [] := by
  cases h with
  | unfetched e => rfl
  | unreadable hread => rfl
  | unknown hread hlookUp => exact hlookUp.sentIn_eq_nil
  | found hread hlookUp => exact hlookUp.sentIn_eq_nil

/-- Saving what is fresh carries out the plan of the crawl. -/
theorem Saves.carries {parts : Partition} {y : Except Failure Tally}
    (h : source.Saves parts trace y) :
    ∃ time, Carries (source.plan parts.fresh time) (sentIn trace) y := by
  cases h with
  | unstored hstores => exact ⟨.ofSecond 0, hstores.carries.append_of_error _⟩
  | unmarked hstores time message =>
    refine ⟨time, ?_⟩
    rw [sentIn_append, hstores.carries.eq_of_ok]
    exact .upTo (Articles.plan parts.fresh) (.mark source.id time) [] rfl message true
  | saved hstores time count =>
    refine ⟨time, ?_⟩
    have hsent : ∀ event, sentIn [⟨.now, time⟩,
          ⟨.affected (Sources.crawledStatement source.id time), .ok count⟩, ⟨.log event, ()⟩]
        = [Step.succeeded (.mark source.id time)] := fun _ => rfl
    rw [sentIn_append, hstores.carries.eq_of_ok, hsent, ← List.map_singleton, ← List.map_append]
    exact .through _

/-- A crawl that does not find out what is fresh sends nothing to the database. One that does
carries out its plan, and sends nothing before. -/
theorem crawl_sends {σ : Type} (world : World σ) (s : σ) (source : Source) (config : SearchConfig)
    (reader : Feed.Reader) :
    let crawl := source.crawl .provided config reader
    ∃ first rest, crawl.run.exchanges world s = first ++ rest ∧ sentIn first = [] ∧
      ((∃ failure, source.Finds reader .provided config.timeout first (.error failure) ∧ rest = [] ∧
          (crawl.runIn world s).1 = .error failure) ∨
        ∃ parts time, source.Finds reader .provided config.timeout first (.ok parts) ∧
          Carries (source.plan parts.fresh time) (sentIn rest) (crawl.runIn world s).1) := by
  intro crawl
  have hends : crawl.Ends (crawl.run.exchanges world s) (crawl.runIn world s).1 :=
    Program.ends_run world _ s
  rcases course_of_ends hends with ⟨failure, hfinds, hresult⟩ |
    ⟨first, rest, parts, htrace, hfinds, hsaves⟩
  · exact ⟨_, [], (List.append_nil _).symm, hfinds.sentIn_eq_nil,
      Or.inl ⟨failure, hfinds, rfl, hresult⟩⟩
  · obtain ⟨time, hcarries⟩ := hsaves.carries
    exact ⟨first, rest, htrace, hfinds.sentIn_eq_nil, Or.inr ⟨parts, time, hfinds, hcarries⟩⟩

/-- No plan has a rollback in it. -/
theorem rollback_notMem_plan (source : Source) (fresh : List NewArticle) (time : Instant) :
    .control .rollback ∉ (source.plan fresh time).map Step.sent := by
  intro h
  obtain ⟨step, hstep, hsent⟩ := List.mem_map.mp h
  rcases List.mem_append.mp hstep with hstep | hstep
  · by_cases hne : fresh = []
    · rw [hne] at hstep
      cases hstep
    · rw [Articles.plan_of_ne_nil hne, List.mem_cons, List.mem_append, List.mem_map,
        List.mem_singleton] at hstep
      obtain rfl | ⟨a, -, rfl⟩ | rfl := hstep
      all_goals cases hsent
  · rw [List.mem_singleton.mp hstep] at hsent
    cases hsent

set_option maxRecDepth 4000 in
/-- The transaction of a crawl is rolled back when an insertion fails, which no plan provides
for. -/
theorem crawl_sends_rollback :
    let stage : Stage := {
      fetch := fun _ => .ok "<rss><channel><item><link>a</link></item></channel></rss>"
      now := .ofSecond 0 }
    let source : Source := ⟨1, "", "https://feed.example", .rss, true, none⟩
    let article : NewArticle := ⟨1, "タイトルなし", "a", "", .ofSecond 0⟩
    let crawl := source.crawl .provided {} .standard
    let sent := sentIn (crawl.run.exchanges stage.world [.failure "full"])
    sent = [(.control .begin, true), (.statement (Articles.insertUnlessPresent article), false),
        (.control .rollback, true)] ∧
      ∀ fresh time, ¬ sent.map Prod.fst <+: (source.plan fresh time).map Step.sent := by
  intro stage source article crawl sent
  have hsent : sentIn (crawl.run.exchanges stage.world [.failure "full"])
      = [(.control .begin, true), (.statement (Articles.insertUnlessPresent article), false),
          (.control .rollback, true)] := by cbv
  refine ⟨hsent, fun fresh time h => rollback_notMem_plan source fresh time (h.subset ?_)⟩
  show _ ∈ (sentIn _).map Prod.fst
  rw [hsent]
  exact List.mem_map_of_mem (List.mem_cons_of_mem _ (List.mem_cons_of_mem _ List.mem_cons_self))

end Source

end FeedArchive
