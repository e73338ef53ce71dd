import FeedArchive.Proofs.Crawl.Session
import FeedArchive.Proofs.Table.Alone

/-!
# A crawl without other sessions

What a crawl leaves of a table of articles that nothing else changes, wherever it fails
(`World.Keeps.crawled`). Either the rows are as before, or those articles of the feed are added
whose URLs were not in the table; the latter may happen although the crawl fails, namely when the
articles are stored and the time is not recorded.
-/

namespace FeedArchive

open Database SharedTable

/-! ## Outcomes -/

/-- A crawl has got past storing articles: it has a result, or only the time was not recorded. -/
inductive Stored : Except Failure Tally → Prop
  | marked (tally : Tally) : Stored (.ok tally)
  | unmarked (cause : Database.Error) : Stored (.error (.storage .markCrawled cause))

/-- What a crawl of a feed leaves of the rows of a table, and its result. -/
inductive Source.Leaves (source : Source) (reader : Feed.Reader) (text : String)
    (rows : List Article) :
    Except Failure Tally → List Article → Prop
  | unstored {failure : Failure} (h : ¬ Stored (.error failure)) :
      Leaves source reader text rows (.error failure) rows
  | stored {channel : Feed.Channel} {now : Instant} {added : List Article}
      {y : Except Failure Tally} (hread : reader.channel? text = some channel)
      (hadded : added.map Article.toNew
        = (channel.articles source.id now reader).filter fun a => a.url ∉ urls rows)
      (hstored : Stored y) (hcount : ∀ tally, y = .ok tally →
        tally = ⟨added.length, channel.links.length - added.length⟩) :
      Leaves source reader text rows y (rows ++ added)

namespace Source.Leaves

variable {source : Source} {reader : Feed.Reader} {text : String} {rows rows' : List Article}
  {y : Except Failure Tally}

/-- A crawl that does not get past storing leaves the rows as they are. -/
theorem eq_of_not_stored (h : source.Leaves reader text rows y rows') (hnot : ¬ Stored y) :
    rows' = rows := by
  cases h with
  | unstored => rfl
  | stored _ _ hstored _ => exact absurd hstored hnot

/-- A crawl that gets past storing adds those links of the feed that are not there yet. -/
theorem exists_urls_eq (h : source.Leaves reader text rows y rows') (hstored : Stored y) :
    ∃ channel added, reader.channel? text = some channel ∧ rows' = rows ++ added ∧
      urls added = (channel.links.filter (· ∉ urls rows)) ∧
      ∀ tally, y = .ok tally → tally = ⟨added.length, channel.links.length - added.length⟩ := by
  cases h with
  | unstored hnot => exact absurd hstored hnot
  | @stored channel now added _ hread hadded _ hcount =>
    refine ⟨channel, added, hread, rfl, ?_, hcount⟩
    rw [← map_url_map_toNew, hadded, ← channel.map_url_articles source.id now reader,
      List.filter_map]
    rfl

end Source.Leaves

/-- Storing articles that fails has stored none of them. -/
theorem not_stored_of_stores {as : List NewArticle} {trace : List Exchange} {failure : Failure}
    (h : Articles.Stores as trace (.error failure)) : ¬ Stored (.error failure) := by
  intro hstored
  obtain ⟨⟩ := hstored
  obtain ⟨⟩ := h

/-- A crawl that fails before its articles are divided has stored none. -/
theorem Source.not_stored_of_finds {source : Source} {reader : Feed.Reader} {store : Store}
    {timeout : Span}    {trace : List Exchange} {failure : Failure}
    (h : source.Finds reader store timeout trace (.error failure)) : ¬ Stored (.error failure) := by
  intro hstored
  obtain ⟨⟩ := hstored
  obtain ⟨⟩ := h

/-! ## In a world -/

/-- A crawl with the states of the world before and after it. -/
structure CrawlRun (σ : Type) where
  before : σ
  result : Except Failure Tally
  after : σ

/-- A crawl of a source from a state of the world. -/
def Source.crawlIn {σ : Type} (world : World σ) (source : Source) (reader : Feed.Reader)
    (store : Store) (config : SearchConfig) (s : σ) : CrawlRun σ :=
  let run := (source.crawl store config reader).runIn world s
  ⟨s, run.1, run.2⟩

/-- The store in the database asks for keys with one statement, whatever time this takes. -/
theorem Store.ends_database_members {keys : List String} {trace : List Exchange}
    {answer : Timed (List String)} (h : (Store.database.members keys).Ends trace answer) :
    ∃ reply, trace = [⟨.rows (Articles.urlsStatement keys), reply⟩, ⟨.elapsed, answer.latency⟩] ∧
      answer.outcome = ((reply.mapError Error.reported).bind
        (·.mapM (·.readFirst Cell.asText))).mapError (.query "URL一括存在確認") := by
  obtain ⟨first, rfl, hends⟩ := ends_timed h
  obtain ⟨y, hfetch, heq⟩ := Attempt.Ends.of_mapError hends
  obtain ⟨reply, rfl, rfl⟩ := ends_fetchAll hfetch
  exact ⟨reply, rfl, heq⟩

namespace World.Keeps

variable {σ : Type} {world : World σ} {table : σ → SharedTable Unit} {feed : σ → String → String}
  {s t : σ} {trace : List Exchange} {reader : Feed.Reader} {store : Store}

/-- A store in front of the table finds those keys that are in it. -/
theorem has_of_members (hkeeps : world.Keeps table feed) (hstore : store.OfTable)
    {keys : List String} {answer : Timed (List String)}
    (h : (store.members keys).Ends trace answer) (hleads : world.Leads s trace t) :
    table t = table s ∧ ∀ found, answer.outcome = .ok found → (table s).Has () keys found := by
  rcases hstore with rfl | rfl
  · obtain ⟨reply, rfl, houtcome⟩ := Store.ends_database_members h
    obtain ⟨u, hanswer, htimed⟩ := hleads.of_cons
    obtain ⟨v, hsame, hrest⟩ := hkeeps.after_quiet (fun _ => quiet_elapsed) htimed
    obtain ⟨hquiet, hrows⟩ := hkeeps.served hanswer
    refine ⟨(hrest.eq_of_nil ▸ hsame).trans (hquiet nofun), fun found hfound => ?_⟩
    rw [houtcome] at hfound
    rcases reply with message | rows
    · cases hfound
    · obtain ⟨found', rfl, hhas⟩ := hrows keys rows rfl rfl
      have hread : (found'.map fun u => [("url", Cell.text u)]).mapM
          (fun row : Row => row.readFirst Cell.asText) = .ok found' := mapM_readFirst_asText found'
      simp only [Except.mapError, Except.bind, hread] at hfound
      obtain rfl := Except.ok.inj hfound
      exact hhas
  · obtain rfl := Program.Ends.of_request h
    obtain ⟨u, hanswer, hrest⟩ := hleads.of_cons
    obtain ⟨hsame, hhas⟩ := hkeeps.served hanswer
    exact ⟨hrest.eq_of_nil ▸ hsame, hhas⟩

/-- Looking candidates up leaves the table as it is, and finds those that are in it. -/
theorem lookedUp (hkeeps : world.Keeps table feed) (hstore : store.OfTable) {timeout : Span}
    {candidates : List String} {x : Except SearchError (List String)}
    (h : store.LooksUp timeout candidates trace x) (hleads : world.Leads s trace t) :
    table t = table s ∧ ∀ keys, x = .ok keys → ∀ u ∈ candidates,
      (u ∈ keys ↔ u ∈ urls ((table s).visible ())) := by
  cases h with
  | nothing => exact ⟨hleads.eq_of_nil ▸ rfl, fun _ _ _ hu => absurd hu List.not_mem_nil⟩
  | late hne hasked hlate =>
    obtain ⟨u, hfirst, hlog⟩ := hleads.of_append
    obtain ⟨v, hsame, hrest⟩ := hkeeps.after_quiet (fun _ => quiet_log _) hlog
    refine ⟨?_, nofun⟩
    rw [hrest.eq_of_nil, hsame]
    exact (hkeeps.has_of_members hstore hasked hfirst).1
  | failed hne hasked hintime houtcome =>
    exact ⟨(hkeeps.has_of_members hstore hasked hleads).1, nofun⟩
  | found hne hasked hintime houtcome =>
    obtain ⟨u, hfirst, hlog⟩ := hleads.of_append
    obtain ⟨v, hsame, hrest⟩ := hkeeps.after_quiet (fun _ => quiet_log _) hlog
    obtain ⟨hmembers, hhas⟩ := hkeeps.has_of_members hstore hasked hfirst
    refine ⟨?_, fun keys hkeys u hu => ?_⟩
    · rw [hrest.eq_of_nil, hsame]
      exact hmembers
    · obtain rfl := Except.ok.inj hkeys
      exact (hhas _ houtcome u).trans (and_iff_right (mem_distinct.mpr hu))

/-- Finding out what is fresh leaves the table as it is. What is fresh are the articles of the feed
whose URLs are not in the table. -/
theorem found (hkeeps : world.Keeps table feed) (hstore : store.OfTable) {source : Source}
    {timeout : Span} {x : Except Failure Partition} (h : source.Finds reader store timeout trace x)
    (hleads : world.Leads s trace t) (hidle : (table s).pending () = none) :
    table t = table s ∧ ∀ parts, x = .ok parts → ∃ channel now,
      reader.channel? (feed s source.feedUrl) = some channel ∧
      parts.fresh = ((channel.articles source.id now reader).filter fun a =>
        a.url ∉ urls (table s).rows) ∧
      parts.skipped = (channel.articles source.id now reader).length - parts.fresh.length := by
  have hfetch : ∀ feed, Quiet feed () (.fetch source.feedUrl timeout) := fun _ => quiet_fetch _ _
  cases h with
  | unfetched e =>
    obtain ⟨u, hsame, hrest⟩ := hkeeps.after_quiet hfetch hleads
    exact ⟨hrest.eq_of_nil ▸ hsame, nofun⟩
  | unreadable hread =>
    obtain ⟨u, hsame, hrest⟩ := hkeeps.after_quiet hfetch hleads
    exact ⟨hrest.eq_of_nil ▸ hsame, nofun⟩
  | unknown hread hlookUp =>
    obtain ⟨u, hfetched, hrest⟩ := hkeeps.after_quiet hfetch hleads
    obtain ⟨v, hread, hrest⟩ := hkeeps.after_quiet (fun _ => quiet_now) hrest
    refine ⟨?_, nofun⟩
    rw [(hkeeps.lookedUp hstore hlookUp hrest).1, hread, hfetched]
  | @found text channel now trace keys hread hlookUp =>
    obtain ⟨u, hanswer, hrest⟩ := hleads.of_cons
    obtain ⟨hfetched, htext⟩ := hkeeps.served hanswer
    obtain rfl : text = feed s source.feedUrl := htext text rfl
    obtain ⟨v, hnow, hrest⟩ := hkeeps.after_quiet (fun _ => quiet_now) hrest
    obtain ⟨hlast, hkeys⟩ := hkeeps.lookedUp hstore hlookUp hrest
    refine ⟨by rw [hlast, hnow, hfetched], fun parts hparts => ?_⟩
    obtain rfl := Except.ok.inj hparts
    refine ⟨channel, now, hread, List.filter_congr fun a ha => ?_, rfl⟩
    -- without an open transaction the store sees just the rows
    have hseen := hkeys keys rfl a.url (List.mem_map_of_mem ha)
    rw [hnow, hfetched, visible_of_pending hidle, Option.getD_none, List.append_nil] at hseen
    rw [decide_eq_decide]
    exact not_congr hseen

/-- Reading the clock and recording its time as that of a crawl leaves the table as it is. -/
theorem after_marked (hkeeps : world.Keeps table feed) {id : Int} {time : Instant}
    {answer : Except String Nat} (hleads : world.Leads s
      (⟨.now, time⟩ :: ⟨.affected (Sources.crawledStatement id time), answer⟩ :: trace) t) :
    ∃ u, table u = table s ∧ world.Leads u trace t := by
  obtain ⟨u, hnow, hmark⟩ := hkeeps.after_quiet (fun _ => quiet_now) hleads
  obtain ⟨v, hmarked, hrest⟩ :=
    hkeeps.after_quiet (fun _ => Sources.quiet_crawledStatement id time) hmark
  exact ⟨v, hmarked.trans hnow, hrest⟩

/-- Saving what is fresh leaves no transaction open. Either nothing is stored, or all that is fresh
and not in the table, and then at most the time is not recorded. -/
theorem saved (hkeeps : world.Keeps table feed) {source : Source} {parts : Partition}
    {y : Except Failure Tally} (h : source.Saves parts trace y) (hleads : world.Leads s trace t)
    (hidle : (table s).pending () = none) :
    (table t).pending () = none ∧
      ((∃ failure, y = .error failure ∧ ¬ Stored y ∧ (table t).rows = (table s).rows) ∨
        Stored y ∧ ∃ added, (table t).rows = (table s).rows ++ added ∧
          added.map Article.toNew
            = distinctBy (·.url) (parts.fresh.filter fun a => a.url ∉ urls (table s).rows) ∧
          ∀ tally, y = .ok tally →
            tally = ⟨added.length, parts.skipped + (parts.fresh.length - added.length)⟩) := by
  cases h with
  | @unstored _ failure hstores =>
    obtain ⟨hnone, hrows⟩ := hkeeps.stored hstores hleads hidle
    exact ⟨hnone, Or.inl ⟨failure, rfl, not_stored_of_stores hstores, hrows⟩⟩
  | unmarked hstores time message =>
    obtain ⟨u, hstored, hrest⟩ := hleads.of_append
    obtain ⟨v, hmarked, hrest⟩ := hkeeps.after_marked hrest
    have hsame : table t = table u := by rw [hrest.eq_of_nil, hmarked]
    obtain ⟨hnone, added, hrows, hlength, hadded⟩ := hkeeps.stored hstores hstored hidle
    rw [hsame]
    exact ⟨hnone, Or.inr ⟨.unmarked _, added, hrows, hadded, nofun⟩⟩
  | saved hstores time count =>
    obtain ⟨u, hstored, hrest⟩ := hleads.of_append
    obtain ⟨v, hmarked, hrest⟩ := hkeeps.after_marked hrest
    obtain ⟨w, hlog, hrest⟩ := hkeeps.after_quiet (fun _ => quiet_log _) hrest
    have hsame : table t = table u := by rw [hrest.eq_of_nil, hlog, hmarked]
    obtain ⟨hnone, added, hrows, hlength, hadded⟩ := hkeeps.stored hstores hstored hidle
    rw [hsame]
    refine ⟨hnone, Or.inr ⟨.marked _, added, hrows, hadded, fun tally htally => ?_⟩⟩
    rw [← Except.ok.inj htally, hlength]

/-- A crawl leaves no transaction open, and wherever it fails the rows are as before, or all fresh
articles are added to them. -/
theorem crawled (hkeeps : world.Keeps table feed) (hstore : store.OfTable) (source : Source)
    (reader : Feed.Reader) (config : SearchConfig) (hidle : (table s).pending () = none) :
    let run := source.crawlIn world reader store config s
    (table run.after).pending () = none ∧
      source.Leaves reader (feed s source.feedUrl) (table s).rows run.result
        (table run.after).rows := by
  intro run
  have hends : (source.crawl store config reader).Ends
      ((source.crawl store config reader).run.exchanges world s) run.result :=
    Program.ends_run world _ s
  have hleads : world.Leads s ((source.crawl store config reader).run.exchanges world s)
      run.after :=
    world.leads_run _ s
  -- the crawl ends before its articles are divided, or it goes on to save what is fresh
  rcases Source.course_of_ends hends with ⟨failure, hfinds, hresult⟩ |
    ⟨first, rest, parts, htrace, hfinds, hsaves⟩
  · have hsame : table run.after = table s := (hkeeps.found hstore hfinds hleads hidle).1
    rw [hsame, hresult]
    exact ⟨hidle, .unstored (Source.not_stored_of_finds hfinds)⟩
  · rw [htrace] at hleads
    obtain ⟨u, hfirst, hrest⟩ := hleads.of_append
    obtain ⟨hsame, hparts⟩ := hkeeps.found hstore hfinds hfirst hidle
    obtain ⟨channel, now, hread, hfresh, hskipped⟩ := hparts parts rfl
    have hlinks : (channel.articles source.id now reader).length = channel.links.length := by
      rw [← channel.map_url_articles source.id now reader, List.length_map]
    have hnodup : (parts.fresh.map (·.url)).Nodup := by
      refine List.Nodup.sublist (List.Sublist.map _ (hfresh ▸ List.filter_sublist)) ?_
      rw [channel.map_url_articles]
      exact channel.nodup_links
    obtain ⟨hnone, hsaved⟩ := hkeeps.saved hsaves hrest (hsame ▸ hidle)
    rw [hsame] at hsaved
    refine ⟨hnone, ?_⟩
    rcases hsaved with ⟨failure, hresult, hnot, hrows⟩ | ⟨hstored, added, hrows, hadded, htally⟩
    · rw [hrows, hresult]
      exact .unstored (hresult ▸ hnot)
    · -- what is fresh has been found not to be in the table
      have hall : (parts.fresh.filter fun a => a.url ∉ urls (table s).rows) = parts.fresh := by
        rw [hfresh, List.filter_filter]
        simp only [Bool.and_self]
      rw [hall, distinctBy_of_nodup hnodup] at hadded
      have hlength : added.length = parts.fresh.length := by
        rw [← hadded, List.length_map]
      rw [hrows]
      refine .stored hread (hadded.trans hfresh) hstored fun tally hok => ?_
      rw [htally tally hok, hskipped, hlinks, hlength, Nat.sub_self, Nat.add_zero]

end World.Keeps

end FeedArchive
