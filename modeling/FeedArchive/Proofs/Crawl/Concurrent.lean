import FeedArchive.Proofs.Crawl.Session
import FeedArchive.Proofs.Table.Schedule
import Mathlib

/-!
# Concurrent crawls

Crawls that share one table of articles neither lose nor duplicate articles, however their requests
are interleaved (`Source.crawl_interleaved`).
-/

namespace FeedArchive

open Database SharedTable

variable {ι : Type} [DecidableEq ι] {feed : ι → String → String} {reader : Feed.Reader}

namespace Source

/-- The end of a crawl that has added so many rows: all URLs of its feed are in the table. -/
def Crawled (feed : ι → String → String) (source : Source) (reader : Feed.Reader) (i : ι)
    (tally : Tally) (s : Counted ι) : Prop :=
  ∃ channel, reader.channel? (feed i source.feedUrl) = some channel ∧
    Knows i tally.inserted none {u | u ∈ channel.links} s ∧
    tally.inserted + tally.skipped = channel.links.length

/-- The end of a crawl, with a tally or with a failure. -/
def CrawlEnds (feed : ι → String → String) (source : Source) (reader : Feed.Reader) (i : ι) :
    Except Failure Tally → Counted ι → Prop :=
  Meets (source.Crawled feed reader i) fun s => ∃ added, Knows i added none ∅ s

/-- What is known at the end of a crawl is not undone by other crawls. -/
theorem crawlEnds_stable {own : NewArticle → Prop} (source : Source) (i : ι)
    (x : Except Failure Tally) : (terms feed own i).Stable (source.CrawlEnds feed reader i x) := by
  intro s t hrely h
  cases x with
  | error e =>
    obtain ⟨added, hs⟩ := h
    exact ⟨added, knows_stable s t hrely hs⟩
  | ok tally =>
    obtain ⟨channel, hread, hs, hlength⟩ := h
    exact ⟨channel, hread, knows_stable s t hrely hs, hlength⟩

/-- The invariant of crawls that are interleaved. -/
theorem invariant_crawl [Fintype ι] (sources : ι → Source) {stores : ι → Store}
    (hstores : ∀ i, (stores i).OfTable) (configs : ι → SearchConfig) {initial : List Article}
    (hinitial : (urls initial).Nodup) {final : Sessions ι (Except Failure Tally)}
    (hsteps : Sessions.Steps feed
      (Sessions.start initial fun i => ((sources i).crawl (stores i) (configs i) reader).run)
      final) :
    final.Invariant feed (fun i => (sources i).Offers reader (feed i (sources i).feedUrl))
      (fun i => (sources i).CrawlEnds feed reader i) initial := by
  refine Sessions.invariant_of_steps (fun i x => crawlEnds_stable (sources i) i x) hsteps
    (Sessions.invariant_start hinitial fun i s hs => ?_)
  refine (holds_crawl (sources i) reader (hstores i) (configs i) hs).mono (fun tally t ht => ?_)
    fun _ ht => ht
  rw [Nat.zero_add] at ht
  exact ht

/-- The URLs of the articles that a source has at a URL are the links of the channel there. -/
theorem exists_offers_iff {source : Source} {text : String} {channel : Feed.Channel}
    (hread : reader.channel? text = some channel) (u : String) :
    (∃ a, source.Offers reader text a ∧ a.url = u) ↔ u ∈ channel.links := by
  constructor
  · rintro ⟨a, ⟨channel', now, hread', ha⟩, rfl⟩
    obtain rfl : channel' = channel := Option.some.inj (hread'.symm.trans hread)
    rw [← channel'.map_url_articles source.id now reader]
    exact List.mem_map_of_mem ha
  · intro hu
    rw [← channel.map_url_articles source.id (.ofSecond 0) reader] at hu
    obtain ⟨a, ha, rfl⟩ := List.mem_map.mp hu
    exact ⟨a, ⟨channel, _, hread, ha⟩, rfl⟩

/-- Any number of crawls share one table, with their requests in any order. If all of them succeed,
each URL is in one row, the URLs are those from before and those of all feeds, the rows from before
are still there, each new row is counted by one crawl, and each article of a feed is counted once by
its crawl. -/
theorem crawl_interleaved [Fintype ι] (sources : ι → Source) {stores : ι → Store}
    (hstores : ∀ i, (stores i).OfTable) (configs : ι → SearchConfig) {initial : List Article}
    (hinitial : (urls initial).Nodup) {final : Sessions ι (Except Failure Tally)}
    (hsteps : Sessions.Steps feed
      (Sessions.start initial fun i => ((sources i).crawl (stores i) (configs i) reader).run) final)
    {tallies : ι → Tally} (hdone : ∀ i, final.programs i = .done (.ok (tallies i))) :
    (urls final.table.rows).Nodup ∧
      (∀ u, u ∈ urls final.table.rows ↔ u ∈ urls initial ∨
        ∃ i a, (sources i).Offers reader (feed i (sources i).feedUrl) a ∧ a.url = u) ∧
      initial <+: final.table.rows ∧
      final.table.rows.length = initial.length + ∑ i, (tallies i).inserted ∧
      ∀ i, ∃ channel, reader.channel? (feed i (sources i).feedUrl) = some channel ∧
        ∀ now, (tallies i).inserted + (tallies i).skipped
          = (channel.articles (sources i).id now reader).length := by
  obtain ⟨hconsistent, hgrows, horigin, added, hlength, hholds⟩ :=
    invariant_crawl sources hstores configs hinitial hsteps
  have hends : ∀ i, (sources i).Crawled feed reader i (tallies i) ⟨final.table, added i⟩ := by
    intro i
    have hi := hholds i
    rw [hdone i] at hi
    exact hi
  have hadded : ∀ i, added i = (tallies i).inserted := by
    intro i
    obtain ⟨_, _, hknows, _⟩ := hends i
    exact hknows.added
  refine ⟨hconsistent.rows, fun u => ⟨fun hu => ?_, ?_⟩, hgrows, ?_, fun i => ?_⟩
  · -- a row is from before, or some session has added it from its feed
    obtain ⟨row, hrow, rfl⟩ := List.mem_map.mp hu
    rcases horigin row hrow with hrow | ⟨i, hoffers⟩
    · exact Or.inl (List.mem_map_of_mem hrow)
    · exact Or.inr ⟨i, row.toNew, hoffers, rfl⟩
  · rintro (hu | ⟨i, hu⟩)
    · exact List.map_subset Article.url hgrows.subset hu
    · obtain ⟨channel, hread, hknows, _⟩ := hends i
      have hseen := hknows.stored u ((exists_offers_iff hread u).mp hu)
      -- nothing is pending in the end, so what the session sees is committed
      rw [visible, uncommitted_of_pending hknows.pending, Option.getD_none,
        List.append_nil] at hseen
      exact hseen
  · simp only [hadded] at hlength
    exact hlength
  · obtain ⟨channel, hread, _, hcount⟩ := hends i
    refine ⟨channel, hread, fun now => ?_⟩
    rw [hcount, ← channel.map_url_articles (sources i).id now reader, List.length_map]

set_option maxRecDepth 4000 in
/-- Two crawls of a source ask whether an article is stored before either of them stores it. One of
them stores it, and the other one skips it. -/
theorem crawl_interleaved_race :
    let text (i : Bool) (_ : String) : String :=
      if i then "<rss><channel><item><link>b</link></item></channel></rss>"
      else "<rss><channel><item><link>a</link></item><item><link>b</link></item></channel></rss>"
    let source : Source := ⟨1, "", "https://feed.example", .rss, true, none⟩
    let initial : List Article := [⟨1, 1, "", "a", "", .ofSecond 0, .ofSecond 0⟩]
    let tallies (i : Bool) : Tally := if i then ⟨0, 1⟩ else ⟨1, 1⟩
    ∃ final, Sessions.Steps text
        (Sessions.start initial fun _ => (source.crawl .provided {} .standard).run) final ∧
      (∀ i, final.programs i = .done (.ok (tallies i))) ∧
      (urls final.table.rows).Nodup ∧ final.table.rows.length = 2 := by
  intro text source initial tallies
  let crawls := Sessions.start initial fun _ : Bool => (source.crawl .provided {} .standard).run
  -- each session gets to the end of its look-up, then each in turn stores what it has left
  let schedule := [false, true, false, true, false, true, false, true,
    false, false, false, false, false, false, true, true, true, true, true, true]
  have hrun : (crawls.run? text schedule).map (fun s => (s.programs false, s.programs true))
      = some (.done (.ok ⟨1, 1⟩), .done (.ok ⟨0, 1⟩)) := by cbv
  obtain ⟨final, hfinal, hprograms⟩ := Option.map_eq_some_iff.mp hrun
  have hsteps : Sessions.Steps text crawls final := Sessions.steps_of_run? hfinal
  have hdone : ∀ i, final.programs i = .done (.ok (tallies i)) := by
    rintro (_ | _)
    · exact congrArg Prod.fst hprograms
    · exact congrArg Prod.snd hprograms
  have hinitial : (urls initial).Nodup := List.nodup_singleton "a"
  obtain ⟨hnodup, _, _, hlength, _⟩ := crawl_interleaved (fun _ => source)
    (fun _ => Or.inr rfl) (fun _ => {}) hinitial hsteps hdone
  exact ⟨final, hsteps, hdone, hnodup, hlength⟩

end Source

end FeedArchive
