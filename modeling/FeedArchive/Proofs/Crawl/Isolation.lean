import FeedArchive.Proofs.Crawl.Total

/-!
# Sources do not affect each other

Whatever becomes of the crawl of a source, the other sources are crawled all the same. In a crawl of
all active sources the feed of each source in RSS is asked for once (`requestedIn`), the crawls
follow each other with nothing in between but lines that are logged or printed (`InTurn`), and those
that succeed are summed up (`crawlActive_isolates`).
-/

namespace FeedArchive

open Database

open Attempt (runIn)

/-! ## What is asked over HTTP -/

/-- The URLs that are asked over HTTP, in order. -/
def requestedIn (trace : List Exchange) : List String :=
  trace.filterMap (·.request.url?)

theorem requestedIn_append (first rest : List Exchange) :
    requestedIn (first ++ rest) = requestedIn first ++ requestedIn rest :=
  List.filterMap_append

namespace Articles

variable {as : List NewArticle} {trace : List Exchange}

/-- Inserting articles fetches nothing. -/
theorem Inserts.requestedIn_eq_nil {n : Nat} (h : Inserts as trace n) : requestedIn trace = [] := by
  induction h with
  | nil => rfl
  | cons count h ih => exact ih

/-- Storing articles fetches nothing. -/
theorem Stores.requestedIn_eq_nil {y : Except Failure Nat} (h : Stores as trace y) :
    requestedIn trace = [] := by
  cases h with
  | nothing => rfl
  | notBegun hne message => rfl
  | notInserted hdone message answer =>
    exact (requestedIn_append _ _).trans (congrArg (· ++ []) hdone.requestedIn_eq_nil)
  | notCommitted hne hinserts message answer =>
    exact (requestedIn_append _ _).trans (congrArg (· ++ []) hinserts.requestedIn_eq_nil)
  | committed hne hinserts =>
    exact (requestedIn_append _ _).trans (congrArg (· ++ []) hinserts.requestedIn_eq_nil)

end Articles

namespace Store

variable {trace : List Exchange} {timeout : Span}

/-- Looking candidates up fetches nothing. -/
theorem LooksUp.requestedIn_eq_nil {candidates : List String} {y : Except SearchError (List String)}
    (h : Store.database.LooksUp timeout candidates trace y) : requestedIn trace = [] := by
  refine h.filterMap_eq_nil ?_ fun _ => rfl
  intro asked answer hends
  obtain ⟨reply, rfl, -⟩ := Store.ends_database_members hends
  rfl

end Store

namespace Source

variable {source : Source} {reader : Feed.Reader} {trace : List Exchange}

/-- The articles of a source are found by fetching its feed, once. -/
theorem Finds.requestedIn_eq {timeout : Span} {y : Except Failure Partition}
    (h : source.Finds reader .database timeout trace y) : requestedIn trace = [source.feedUrl] := by
  cases h with
  | unfetched e => rfl
  | unreadable hread => rfl
  | unknown hread hlookUp => exact congrArg (source.feedUrl :: ·) hlookUp.requestedIn_eq_nil
  | found hread hlookUp => exact congrArg (source.feedUrl :: ·) hlookUp.requestedIn_eq_nil

/-- Saving articles and the time of the crawl fetches nothing. -/
theorem Saves.requestedIn_eq_nil {parts : Partition} {y : Except Failure Tally}
    (h : source.Saves parts trace y) : requestedIn trace = [] := by
  cases h with
  | unstored hstores => exact hstores.requestedIn_eq_nil
  | unmarked hstores time message =>
    rw [requestedIn_append, hstores.requestedIn_eq_nil]
    rfl
  | saved hstores time count =>
    rw [requestedIn_append, hstores.requestedIn_eq_nil]
    rfl

/-- A crawl asks for the feed of its source, once, however it goes on. -/
theorem requestedIn_of_ends {config : SearchConfig} {y : Except Failure Tally}
    (h : (source.crawl .database config reader).Ends trace y) :
    requestedIn trace = [source.feedUrl] := by
  rcases course_of_ends h with ⟨failure, hfinds, rfl⟩ | ⟨first, rest, parts, rfl, hfinds, hsaves⟩
  · exact hfinds.requestedIn_eq
  · rw [requestedIn_append, hfinds.requestedIn_eq, hsaves.requestedIn_eq_nil, List.append_nil]

end Source

/-- Crawls of sources ask for the feeds of those in RSS, in order, whatever each of them comes
to. -/
theorem requestedIn_of_ends_crawlEach {reader : Feed.Reader} {config : SearchConfig}
    {sources : List Source} {total total' : Tally} {trace : List Exchange}
    (h : (crawlEach reader config total sources).Ends trace total') :
    requestedIn trace = (sources.filter (·.sourceType = .rss)).map (·.feedUrl) := by
  induction sources generalizing total trace with
  | nil =>
    obtain ⟨⟩ := h
    rfl
  | cons source rest ih =>
    by_cases hrss : source.sourceType = .rss
    · rw [crawlEach, if_pos hrss] at h
      rw [List.filter_cons, if_pos (decide_eq_true hrss), List.map_cons]
      obtain ⟨crawled, _, y, rfl, hcrawl, hnext⟩ := Program.Ends.of_bind h
      have hcrawled := Source.requestedIn_of_ends hcrawl
      cases y with
      | error e =>
        obtain ⟨said, others, _, rfl, hlog, hothers⟩ := Program.Ends.of_bind hnext
        obtain rfl := hlog.of_request
        rw [requestedIn_append, requestedIn_append, hcrawled, ih hothers]
        rfl
      | ok tally =>
        obtain ⟨said, others, _, rfl, hprint, hothers⟩ := Program.Ends.of_bind hnext
        obtain rfl := hprint.of_request
        rw [requestedIn_append, requestedIn_append, hcrawled, ih hothers]
        rfl
    · rw [crawlEach, if_neg hrss] at h
      rw [List.filter_cons, if_neg (by simpa using hrss)]
      obtain ⟨said, others, _, rfl, hlog, hothers⟩ := Program.Ends.of_bind h
      obtain rfl := hlog.of_request
      exact (requestedIn_append _ _).trans (ih hothers)

variable {σ : Type} {world : World σ} {reader : Feed.Reader} {config : SearchConfig}

/-! ## One crawl after the other -/

/-- Sources are crawled in turn, from one state of the world to another one, with these runs. The
crawl of a source in RSS begins where those before it have left the world, except for what has been
written to the log or printed in between; other sources are left out. -/
inductive InTurn (world : World σ) (reader : Feed.Reader) (config : SearchConfig) :
    List Source → σ → List (CrawlRun σ) → σ → Prop
  | done (s : σ) : InTurn world reader config [] s [] s
  | logged {sources : List Source} {s t : σ} {runs : List (CrawlRun σ)} (event : Event)
      (h : InTurn world reader config sources (world.answer (.log event) s).2 runs t) :
      InTurn world reader config sources s runs t
  | printed {sources : List Source} {s t : σ} {runs : List (CrawlRun σ)} (line : String)
      (h : InTurn world reader config sources (world.answer (.print line) s).2 runs t) :
      InTurn world reader config sources s runs t
  | leftOut {source : Source} {rest : List Source} {s t : σ} {runs : List (CrawlRun σ)}
      (hkind : source.sourceType ≠ .rss) (h : InTurn world reader config rest s runs t) :
      InTurn world reader config (source :: rest) s runs t
  | crawled {source : Source} {rest : List Source} {s t : σ} {runs : List (CrawlRun σ)}
      (hrss : source.sourceType = .rss)
      (h : InTurn world reader config rest (source.crawlIn world reader .database config s).after
        runs t) :
      InTurn world reader config (source :: rest) s
        (source.crawlIn world reader .database config s :: runs) t

/-- A line may be logged after the last crawl, too. -/
theorem InTurn.then_logged {sources : List Source} {s t : σ} {runs : List (CrawlRun σ)}
    (h : InTurn world reader config sources s runs t) (event : Event) :
    InTurn world reader config sources s runs (world.answer (.log event) t).2 := by
  induction h with
  | done s => exact .logged event (.done _)
  | logged event' h ih => exact .logged event' ih
  | printed line h ih => exact .printed line ih
  | leftOut hkind h ih => exact .leftOut hkind ih
  | crawled hrss h ih => exact .crawled hrss ih

/-- A crawl and those of the other sources after it are crawls in turn. -/
theorem inTurn_of_noted {source : Source} {rest : List Source} {s t : σ}
    {runs : List (CrawlRun σ)} (hrss : source.sourceType = .rss)
    (h : InTurn world reader config rest
      ((source.crawlIn world reader .database config s).noted world source) runs t) :
    InTurn world reader config (source :: rest) s
      (source.crawlIn world reader .database config s :: runs) t := by
  apply InTurn.crawled hrss
  rw [CrawlRun.noted] at h
  cases hresult : (source.crawlIn world reader .database config s).result with
  | error e =>
    rw [hresult] at h
    exact .logged _ h
  | ok tally =>
    rw [hresult] at h
    exact .printed _ h

/-- The crawls of sources are in turn, each from the state in which the one before it is noted. -/
theorem inTurn_crawlRuns (sources : List Source) (total : Tally) (s : σ) :
    InTurn world reader config sources s (crawlRuns world reader config sources s)
      ((crawlEach reader config total sources).run world s).2 := by
  induction sources generalizing total s with
  | nil => exact .done s
  | cons source rest ih =>
    by_cases hrss : source.sourceType = .rss
    · rw [run_crawlEach_cons hrss, crawlRuns, if_pos hrss]
      exact inTurn_of_noted hrss (ih _ _)
    · rw [crawlEach, if_neg hrss, crawlRuns, if_neg hrss]
      exact .leftOut hrss (.logged _ (ih total _))

/-! ## The total -/

/-- The tallies of the crawls that have succeeded. -/
def tallies (runs : List (CrawlRun σ)) : List Tally :=
  runs.filterMap (·.result.toOption)

/-- To the total is added what the crawls that succeed have counted. -/
theorem total_crawlEach (world : World σ) (reader : Feed.Reader) (config : SearchConfig)
    (sources : List Source) (total : Tally) (s : σ) :
    let counted := tallies (crawlRuns world reader config sources s)
    ((crawlEach reader config total sources).run world s).1
      = ⟨total.inserted + (counted.map (·.inserted)).sum,
          total.skipped + (counted.map (·.skipped)).sum⟩ := by
  induction sources generalizing total s with
  | nil => rfl
  | cons source rest ih =>
    by_cases hrss : source.sourceType = .rss
    · rw [run_crawlEach_cons hrss, crawlRuns, if_pos hrss, ih]
      cases hresult : (source.crawlIn world reader .database config s).result with
      | error e => simp [tallies, hresult, Except.toOption]
      | ok tally => simp [tallies, hresult, Except.toOption, Tally.merge, Nat.add_assoc]
    · rw [crawlEach, if_neg hrss, crawlRuns, if_neg hrss]
      exact ih total _

/-! ## All active sources -/

/-- What is done with sources that have been listed. -/
def crawlListed (reader : Feed.Reader) (config : SearchConfig) (sources : List Source) :
    Attempt Failure Tally := do
  Program.log (.crawling sources.length)
  let total ← (crawlEach reader config {} sources : Program Tally)
  Program.log (.crawled total.inserted total.skipped)
  return total

/-- The active sources are listed first, and then crawled. -/
theorem crawlActive_eq (reader : Feed.Reader) (config : SearchConfig) :
    crawlActive config reader = Sources.listActive >>= crawlListed reader config := rfl

/-- Crawling the sources listed never fails, and writes to the log before and after it. -/
theorem runIn_crawlListed (sources : List Source) (s : σ) :
    let each := (crawlEach reader config {} sources).run world
      (world.answer (.log (.crawling sources.length)) s).2
    runIn world s (crawlListed reader config sources)
      = (.ok each.1, (world.answer (.log (.crawled each.1.inserted each.1.skipped)) each.2).2) := by
  intro each
  rw [crawlListed]
  simp only [Attempt.runIn_bind, Attempt.runIn_lift, Attempt.runIn_pure]
  rfl

/-- The feeds of the sources in RSS are fetched, in order and once each, whatever is answered. -/
theorem requestedIn_of_ends_crawlListed {sources : List Source} {trace : List Exchange}
    {y : Except Failure Tally} (h : (crawlListed reader config sources).Ends trace y) :
    requestedIn trace = (sources.filter (·.sourceType = .rss)).map (·.feedUrl) := by
  obtain ⟨_, _, _, rfl, hbegin, hcrawl⟩ := Attempt.Ends.of_lift_bind h
  obtain ⟨_, _, total, rfl, heach, hrest⟩ := Attempt.Ends.of_lift_bind hcrawl
  obtain ⟨_, _, _, rfl, hfinish, hend⟩ := Attempt.Ends.of_lift_bind hrest
  obtain rfl := hbegin.of_request
  obtain rfl := hfinish.of_request
  obtain ⟨rfl, -⟩ := hend.of_pure
  rw [requestedIn_append, requestedIn_append, requestedIn_of_ends_crawlEach heach]
  exact List.append_nil _

/-- Listing sources asks for nothing over HTTP. -/
theorem requestedIn_of_ends_listActive {trace : List Exchange} {y : Except Failure (List Source)}
    (h : Sources.listActive.Ends trace y) : requestedIn trace = [] := by
  obtain ⟨_, hfetch, -⟩ := h.of_mapError
  obtain ⟨reply, rfl, -⟩ := ends_fetchAll hfetch
  rfl

/-- A crawl of all active sources fails only as listing them does. Else it asks for the feed of each
of them in RSS, once and in order, whatever the crawls before it have come to, and its total is the
sum over those crawls that succeed. -/
theorem crawlActive_isolates (world : World σ) (config : SearchConfig) (reader : Feed.Reader)
    (s : σ) :
    let requested := requestedIn ((crawlActive config reader).run.exchanges world s)
    match runIn world s Sources.listActive with
    | (.error failure, t) =>
      runIn world s (crawlActive config reader) = (.error failure, t) ∧ requested = []
    | (.ok sources, t) =>
      let runs := activeRuns world reader config s
      requested = (sources.filter (·.sourceType = .rss)).map (·.feedUrl) ∧
      ∃ total u, runIn world s (crawlActive config reader) = (.ok total, u) ∧
        InTurn world reader config sources t runs u ∧
        total.inserted = ((tallies runs).map (·.inserted)).sum ∧
        total.skipped = ((tallies runs).map (·.skipped)).sum := by
  intro requested
  have hlisting := requestedIn_of_ends_listActive (Program.ends_run world Sources.listActive.run s)
  -- listing the sources is the one step that can fail
  rcases hlist : runIn world s Sources.listActive with ⟨failure | sources, t⟩
  · have hexchanges := Attempt.exchanges_bind_error hlist (crawlListed reader config)
    refine ⟨Attempt.runIn_bind_error _ _ hlist _, ?_⟩
    rw [← hlisting, ← hexchanges, ← crawlActive_eq]
  · have hexchanges := Attempt.exchanges_bind_ok hlist (crawlListed reader config)
    have hcrawling := requestedIn_of_ends_crawlListed
      (Program.ends_run world (crawlListed reader config sources).run t)
    have htotal := total_crawlEach world reader config sources {}
      (world.answer (.log (.crawling sources.length)) t).2
    have hruns : activeRuns world reader config s = crawlRuns world reader config sources
        (world.answer (.log (.crawling sources.length)) t).2 := by
      rw [activeRuns, hlist]
    have hrun : runIn world s (crawlActive config reader) = _ :=
      (Attempt.runIn_bind_ok _ _ hlist _).trans (runIn_crawlListed sources t)
    refine ⟨?_, _, _, hrun, ?_, ?_⟩
    · show requestedIn ((crawlActive config reader).run.exchanges world s) = _
      rw [crawlActive_eq, hexchanges, requestedIn_append, hlisting, hcrawling, List.nil_append]
    · rw [hruns]
      exact .logged _ ((inTurn_crawlRuns sources {} _).then_logged _)
    · rw [hruns, htotal]
      exact ⟨Nat.zero_add _, Nat.zero_add _⟩

end FeedArchive
