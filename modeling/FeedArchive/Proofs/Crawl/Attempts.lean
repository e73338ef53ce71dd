import FeedArchive.Proofs.Crawl.Alone
import FeedArchive.Proofs.Table.Rehearsal
import Mathlib

/-!
# Repeated crawls

A source is crawled again and again while its feed stays the same, and each crawl may fail at any
step. Until a crawl gets past storing articles nothing is stored; that crawl stores all there is to
store, and no later one changes anything (`Source.attempts_settle`).
-/

namespace FeedArchive

open SharedTable

variable {σ : Type}

namespace Source

/-- Crawls of a source one after the other, each with a configuration of its own. -/
def attempts (world : World σ) (source : Source) (reader : Feed.Reader) (store : Store) :
    List SearchConfig → σ → List (CrawlRun σ)
  | [], _ => []
  | config :: rest, s =>
    let run := source.crawlIn world reader store config s
    run :: attempts world source reader store rest run.after

namespace Leaves

variable {source : Source} {reader : Feed.Reader} {text : String} {rows rows' : List Article}
  {y : Except Failure Tally} {channel : Feed.Channel}

/-- A crawl that gets past storing leaves a table in which all links of the feed are. -/
theorem mem_urls_iff (h : source.Leaves reader text rows y rows') (hstored : Stored y)
    (hread : reader.channel? text = some channel) (u : String) :
    u ∈ urls rows' ↔ u ∈ urls rows ∨ u ∈ channel.links := by
  obtain ⟨channel', added, hread', rfl, hurls, -⟩ := h.exists_urls_eq hstored
  obtain rfl : channel' = channel := Option.some.inj (hread'.symm.trans hread)
  have happend : urls (rows ++ added) = urls rows ++ urls added := List.map_append
  rw [happend, List.mem_append, hurls, List.mem_filter, decide_eq_true_iff]
  constructor
  · rintro (hu | ⟨hu, -⟩)
    · exact Or.inl hu
    · exact Or.inr hu
  · intro h
    by_cases hu : u ∈ urls rows
    · exact Or.inl hu
    · exact Or.inr ⟨h.resolve_left hu, hu⟩

/-- If all links of the feed are in the table already, a crawl changes nothing and counts each of
them as skipped. -/
theorem eq_of_links_subset (h : source.Leaves reader text rows y rows')
    (hread : reader.channel? text = some channel) (hall : ∀ u ∈ channel.links, u ∈ urls rows) :
    rows' = rows ∧ ∀ tally, y = .ok tally → tally = ⟨0, channel.links.length⟩ := by
  by_cases hstored : Stored y
  · obtain ⟨channel', added, hread', rfl, hurls, hcount⟩ := h.exists_urls_eq hstored
    obtain rfl : channel' = channel := Option.some.inj (hread'.symm.trans hread)
    have hnone : added = [] := by
      refine List.map_eq_nil_iff.mp (hurls.trans (List.filter_eq_nil_iff.mpr fun u hu => ?_))
      rw [decide_eq_true_iff, not_not]
      exact hall u hu
    subst hnone
    exact ⟨List.append_nil rows, hcount⟩
  · refine ⟨h.eq_of_not_stored hstored, fun tally hok => absurd ?_ hstored⟩
    rw [hok]
    exact .marked tally

end Leaves

variable {world : World σ} {table : σ → SharedTable Unit} {feed : σ → String → String} {s : σ}
  {source : Source} {reader : Feed.Reader} {body : String} {store : Store} {channel : Feed.Channel}

/-- Once all links of the feed are in the table, crawls change nothing. -/
theorem attempts_settled (hkeeps : world.Keeps table feed)
    (hbody : ∀ s, feed s source.feedUrl = body) (hstore : store.OfTable)
    (configs : List SearchConfig) (hidle : (table s).pending () = none)
    (hread : reader.channel? body = some channel)
    (hall : ∀ u ∈ channel.links, u ∈ urls (table s).rows) :
    ∀ run ∈ source.attempts world reader store configs s,
      (table run.before).rows = (table s).rows ∧ (table run.after).rows = (table s).rows ∧
        ∀ tally, run.result = .ok tally → tally = ⟨0, channel.links.length⟩ := by
  induction configs generalizing s with
  | nil => exact fun run hrun => absurd hrun List.not_mem_nil
  | cons config rest ih =>
    obtain ⟨hidle', hleaves⟩ := hkeeps.crawled hstore source reader config hidle
    rw [hbody] at hleaves
    obtain ⟨hsame, htally⟩ := hleaves.eq_of_links_subset hread hall
    intro run hrun
    rcases List.mem_cons.mp hrun with rfl | hrun
    · exact ⟨rfl, hsame, htally⟩
    · obtain ⟨hbefore, hafter, hlater⟩ := ih hidle' (hsame ▸ hall) run hrun
      exact ⟨hbefore.trans hsame, hafter.trans hsame, hlater⟩

/-- A source is crawled any number of times, its feed stays the same, and nothing else writes to the
table. Before the first crawl that gets past storing articles the table is as it was. From then on
its URLs are those from before and those of the articles of the feed. After that crawl no other one
changes a row, and those that succeed report all articles as skipped. -/
theorem attempts_settle (hkeeps : world.Keeps table feed)
    (hbody : ∀ s, feed s source.feedUrl = body) (hstore : store.OfTable)
    {configs : List SearchConfig} (hidle : (table s).pending () = none)
    {earlier later : List (CrawlRun σ)} {run : CrawlRun σ}
    (hruns : source.attempts world reader store configs s = earlier ++ run :: later) :
    ((∀ r ∈ earlier, ¬ Stored r.result) → (table run.before).rows = (table s).rows ∧
        (¬ Stored run.result → (table run.after).rows = (table s).rows)) ∧
      ((∃ r ∈ earlier ++ [run], Stored r.result) → ∃ channel,
        reader.channel? body = some channel ∧ ∀ now u, u ∈ urls (table run.after).rows ↔
          u ∈ urls (table s).rows ∨ u ∈ (channel.articles source.id now reader).map (·.url)) ∧
      ((∃ r ∈ earlier, Stored r.result) → (table run.after).rows = (table run.before).rows ∧
        ∀ tally, run.result = .ok tally → ∃ channel, reader.channel? body = some channel ∧
          ∀ now, tally = ⟨0, (channel.articles source.id now reader).length⟩) := by
  -- only the first attempt is looked at; what it leaves is where the others begin
  induction configs generalizing s earlier with
  | nil => exact absurd hruns.symm (List.append_ne_nil_of_right_ne_nil _ (List.cons_ne_nil _ _))
  | cons config rest ih =>
    obtain ⟨hidle', hleaves⟩ := hkeeps.crawled hstore source reader config hidle
    rw [hbody] at hleaves
    rcases earlier with _ | ⟨first, earlier⟩
    · obtain ⟨rfl, -⟩ := List.cons.inj hruns
      refine ⟨fun _ => ⟨rfl, hleaves.eq_of_not_stored⟩, fun hstored => ?_, fun hstored => ?_⟩
      · replace hstored : Stored (source.crawlIn world reader store config s).result := by
          simpa using hstored
        obtain ⟨channel, -, hread, -⟩ := hleaves.exists_urls_eq hstored
        refine ⟨channel, hread, fun now u => ?_⟩
        rw [channel.map_url_articles]
        exact hleaves.mem_urls_iff hstored hread u
      · obtain ⟨_, hmem, -⟩ := hstored
        cases hmem
    · obtain ⟨rfl, hrest⟩ := List.cons.inj hruns
      rw [List.cons_append, List.forall_mem_cons, List.exists_mem_cons_iff,
        List.exists_mem_cons_iff]
      by_cases hfirst : Stored (source.crawlIn world reader store config s).result
      · -- the first crawl has stored all there is to store
        obtain ⟨channel, -, hread, -⟩ := hleaves.exists_urls_eq hfirst
        have hurls := hleaves.mem_urls_iff hfirst hread
        obtain ⟨hbefore, hafter, htally⟩ := attempts_settled hkeeps hbody hstore rest hidle' hread
          (fun u hu => (hurls u).mpr (Or.inr hu)) run (hrest ▸ List.mem_append_cons_self)
        refine ⟨fun hnot => absurd hfirst hnot.1, fun _ => ⟨channel, hread, fun now u => ?_⟩,
          fun _ => ⟨hafter.trans hbefore.symm, fun tally hok => ⟨channel, hread, fun now => ?_⟩⟩⟩
        · rw [channel.map_url_articles, hafter]
          exact hurls u
        · rw [htally tally hok, ← channel.map_url_articles source.id now reader, List.length_map]
      · -- the first crawl has left the rows as they were
        have hsame := hleaves.eq_of_not_stored hfirst
        obtain ⟨hbefore, hstored, hlater⟩ := ih hidle' hrest
        rw [hsame] at hbefore hstored
        refine ⟨fun hnot => hbefore hnot.2, fun hany => hstored (hany.resolve_left hfirst),
          fun hany => hlater (hany.resolve_left hfirst)⟩

set_option maxRecDepth 4000 in
/-- The first crawl fails to commit, the second one fails to record the time, and the third one
finds nothing to do. -/
theorem attempts_settle_third :
    let text :=
      "<rss><channel><item><link>a</link></item><item><link>b</link></item></channel></rss>"
    let rehearsal : Rehearsal := { feed := fun _ => text }
    let source : Source := ⟨1, "", "https://feed.example", .rss, true, none⟩
    let initial : List Article := [⟨1, 1, "", "a", "", .ofSecond 0, .ofSecond 0⟩]
    let refused := List.replicate 7 false ++ [true] ++ List.replicate 10 false ++ [true]
    ∃ first second third,
      source.attempts rehearsal.world .standard .database [{}, {}, {}]
          (⟨initial, fun _ => none⟩, refused)
        = [first, second, third] ∧
      first.result = .error (.storage .commitTransaction (.reported "refused")) ∧
      second.result = .error (.storage .markCrawled (.reported "refused")) ∧
      third.result = .ok ⟨0, 2⟩ ∧
      first.after.1.rows = initial ∧
      (∀ u, u ∈ urls second.after.1.rows ↔ u ∈ ["a"] ∨ u ∈ ["a", "b"]) ∧
      third.after.1.rows = third.before.1.rows := by
  intro text rehearsal source initial refused
  have hresults : (source.attempts rehearsal.world .standard .database [{}, {}, {}]
        (⟨initial, fun _ => none⟩, refused)).map (·.result)
      = [.error (.storage .commitTransaction (.reported "refused")),
          .error (.storage .markCrawled (.reported "refused")), .ok ⟨0, 2⟩] := by cbv
  obtain ⟨first, _, hruns, hfirst, hothers⟩ := List.map_eq_cons_iff.mp hresults
  obtain ⟨second, _, rfl, hsecond, hothers⟩ := List.map_eq_cons_iff.mp hothers
  obtain ⟨third, _, rfl, hthird, hnil⟩ := List.map_eq_cons_iff.mp hothers
  obtain rfl := List.map_eq_nil_iff.mp hnil
  have hnot : ¬ Stored first.result := by
    rw [hfirst]
    intro h
    cases h
  have hstored : Stored second.result := hsecond ▸ .unmarked _
  have hkeeps := rehearsal.keeps_world
  have hbody : ∀ _ : SharedTable Unit × List Bool, rehearsal.feed source.feedUrl = text :=
    fun _ => rfl
  obtain ⟨hbefore, -, -⟩ := attempts_settle hkeeps hbody (Or.inl rfl) rfl
    (show _ = [] ++ first :: [second, third] from hruns)
  obtain ⟨-, hurls, -⟩ := attempts_settle hkeeps hbody (Or.inl rfl) rfl
    (show _ = [first] ++ second :: [third] from hruns)
  obtain ⟨-, -, hafter⟩ := attempts_settle hkeeps hbody (Or.inl rfl) rfl
    (show _ = [first, second] ++ third :: [] from hruns)
  refine ⟨first, second, third, hruns, hfirst, hsecond, hthird,
    (hbefore (List.forall_mem_nil _)).2 hnot, ?_, ?_⟩
  · obtain ⟨channel, hread, hiff⟩ := hurls ⟨second, by simp, hstored⟩
    have hlinks : (Feed.Reader.standard.channel? text).map Feed.Channel.links
        = some ["a", "b"] := by
      cbv
    rw [hread] at hlinks
    intro u
    have hu := hiff (.ofSecond 0) u
    rw [channel.map_url_articles, Option.some.inj hlinks] at hu
    exact hu
  · exact (hafter ⟨second, by simp, hstored⟩).1

end Source

end FeedArchive
