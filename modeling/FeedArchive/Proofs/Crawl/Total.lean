import FeedArchive.Crawl
import FeedArchive.Proofs.Crawl.Alone
import FeedArchive.Proofs.Table.Rehearsal
import FeedArchive.Proofs.Table.Row
import Mathlib

/-!
# The total of a crawl

What the total of a crawl of all active sources says about the table (`rows_crawlActive`). All that
is counted is in the table. What a source adds is not counted if its crawl fails after the articles
have been stored, which is when the time of the crawl cannot be recorded.
-/

namespace FeedArchive

open SharedTable

variable {σ : Type} {world : World σ} {table : σ → SharedTable Unit} {feed : σ → String → String}
  {s t : σ} {reader : Feed.Reader}

/-! ## Rows that are not counted -/

/-- How many rows a crawl has added although it failed, so that they are not counted. -/
def CrawlRun.uncounted (table : σ → SharedTable Unit) (run : CrawlRun σ) : Nat :=
  match run.result with
  | .ok _ => 0
  | .error _ => (table run.after).rows.length - (table run.before).rows.length

namespace Source.Leaves

variable {source : Source} {reader : Feed.Reader} {text : String} {rows rows' : List Article}

/-- A crawl that succeeds has added as many rows as it says. -/
theorem length_of_ok {tally : Tally} (h : source.Leaves reader text rows (.ok tally) rows') :
    rows'.length = rows.length + tally.inserted := by
  obtain _ | ⟨_, _, _, hcount⟩ := h
  rw [hcount tally rfl, List.length_append]

/-- However a crawl ends, there are no fewer rows after it. -/
theorem length_le {y : Except Failure Tally} (h : source.Leaves reader text rows y rows') :
    rows.length ≤ rows'.length := by
  cases h with
  | unstored => exact Nat.le_refl _
  | stored =>
    rw [List.length_append]
    exact Nat.le_add_right _ _

/-- A crawl that fails adds rows only if the time could not be recorded. -/
theorem unmarked_of_uncounted {run : CrawlRun σ}
    (h : source.Leaves reader text (table run.before).rows run.result (table run.after).rows)
    (huncounted : run.uncounted table ≠ 0) :
    ∃ cause, run.result = .error (.storage .markCrawled cause) := by
  by_cases hstored : Stored run.result
  · rw [CrawlRun.uncounted] at huncounted
    generalize run.result = y at hstored huncounted
    cases hstored with
    | marked tally => exact absurd rfl huncounted
    | unmarked cause => exact ⟨cause, rfl⟩
  · refine absurd ?_ huncounted
    rw [CrawlRun.uncounted, h.eq_of_not_stored hstored]
    split
    · rfl
    · exact Nat.sub_self _

end Source.Leaves

/-! ## Crawls one after the other -/

/-- What is said about a crawl before the next source is crawled. -/
def CrawlRun.noted (world : World σ) (source : Source) (run : CrawlRun σ) : σ :=
  match run.result with
  | .ok tally => (world.answer (.print (tally.textFor source.name)) run.after).2
  | .error _ => (world.answer (.log (.sourceFailed source.id)) run.after).2

/-- Nothing of this concerns the table. -/
theorem World.Keeps.table_noted (hkeeps : world.Keeps table feed) (source : Source)
    (run : CrawlRun σ) : table (run.noted world source) = table run.after := by
  rw [CrawlRun.noted]
  cases run.result with
  | error e => exact hkeeps.table_answer (fun _ => quiet_log _) run.after
  | ok tally => exact hkeeps.table_answer (fun _ => quiet_print _) run.after

/-- The crawls of sources one after the other, in the states in which they begin and end. -/
def crawlRuns (world : World σ) (reader : Feed.Reader) (config : SearchConfig) :
    List Source → σ → List (CrawlRun σ)
  | [], _ => []
  | source :: rest, s =>
    if source.sourceType = .rss then
      let run := source.crawlIn world reader .database config s
      run :: crawlRuns world reader config rest (run.noted world source)
    else
      crawlRuns world reader config rest
        (world.answer (.log (.sourceLeftOut source.id source.sourceType)) s).2

/-- A source is crawled before the others are, and counts if its crawl succeeds. -/
theorem run_crawlEach_cons {source : Source} (hrss : source.sourceType = .rss)
    (config : SearchConfig) (rest : List Source) (total : Tally) (s : σ) :
    let run := source.crawlIn world reader .database config s
    (crawlEach reader config total (source :: rest)).run world s =
      (crawlEach reader config (match run.result with
        | .ok tally => total.merge tally
        | .error _ => total) rest).run world (run.noted world source) := by
  intro run
  rw [crawlEach, if_pos hrss, Program.run_bind]
  show (match run.result with | .ok tally => _ | .error _ => _ : Program Tally).run world run.after
    = _
  rw [CrawlRun.noted]
  cases run.result with
  | error e => rfl
  | ok tally => rfl

/-- What crawls of sources add to the table is what they add to the total, and what is not
counted. -/
theorem rows_crawlEach (hkeeps : world.Keeps table feed) (reader : Feed.Reader)
    (config : SearchConfig) (sources : List Source) (total : Tally)
    (hidle : (table s).pending () = none) :
    let run := (crawlEach reader config total sources).run world s
    (table run.2).rows.length + total.inserted = (table s).rows.length + run.1.inserted +
      ((crawlRuns world reader config sources s).map (·.uncounted table)).sum := by
  -- what is still to come is the same whether or not the first crawl has been counted
  induction sources generalizing total s with
  | nil => rfl
  | cons source rest ih =>
    by_cases hrss : source.sourceType = .rss
    · obtain ⟨hidle', hleaves⟩ := hkeeps.crawled (Or.inl rfl) source reader config hidle
      have hnoted := hkeeps.table_noted source (source.crawlIn world reader .database config s)
      have hrest := fun total => ih total (hnoted ▸ hidle')
      simp only [hnoted] at hrest
      rw [run_crawlEach_cons hrss, crawlRuns, if_pos hrss, List.map_cons, List.sum_cons,
        CrawlRun.uncounted]
      cases hresult : (source.crawlIn world reader .database config s).result with
      | error e =>
        have hle := hleaves.length_le
        have hbefore : (source.crawlIn world reader .database config s).before = s := rfl
        have hothers := hrest total
        simp only [hbefore] at hothers ⊢
        omega
      | ok tally =>
        have hlength := (hresult ▸ hleaves).length_of_ok
        have hothers := hrest (total.merge tally)
        simp only [Tally.merge] at hothers ⊢
        omega
    · rw [crawlEach, if_neg hrss, crawlRuns, if_neg hrss]
      have hsame : table (world.answer (.log (.sourceLeftOut source.id source.sourceType)) s).2
          = table s := hkeeps.table_answer (fun _ => quiet_log _) s
      have hrest := ih total (hsame ▸ hidle)
      rw [hsame] at hrest
      exact hrest

/-- Only a crawl whose time could not be recorded has added rows that are not counted. -/
theorem unmarked_of_uncounted (hkeeps : world.Keeps table feed) (config : SearchConfig)
    (sources : List Source) (hidle : (table s).pending () = none) :
    ∀ run ∈ crawlRuns world reader config sources s, run.uncounted table ≠ 0 →
      ∃ cause, run.result = .error (.storage .markCrawled cause) := by
  induction sources generalizing s with
  | nil => exact fun run hrun => absurd hrun List.not_mem_nil
  | cons source rest ih =>
    intro run hrun huncounted
    by_cases hrss : source.sourceType = .rss
    · obtain ⟨hidle', hleaves⟩ := hkeeps.crawled (Or.inl rfl) source reader config hidle
      have hnoted := hkeeps.table_noted source (source.crawlIn world reader .database config s)
      rw [crawlRuns, if_pos hrss] at hrun
      rcases List.mem_cons.mp hrun with rfl | hrun
      · exact hleaves.unmarked_of_uncounted huncounted
      · exact ih (hnoted ▸ hidle') run hrun huncounted
    · rw [crawlRuns, if_neg hrss] at hrun
      have hsame : table (world.answer (.log (.sourceLeftOut source.id source.sourceType)) s).2
          = table s := hkeeps.table_answer (fun _ => quiet_log _) s
      exact ih (hsame ▸ hidle) run hrun huncounted

/-! ## All active sources -/

/-- The crawls of all active sources, none if these cannot be listed. -/
def activeRuns (world : World σ) (reader : Feed.Reader) (config : SearchConfig) (s : σ) :
    List (CrawlRun σ) :=
  match Sources.listActive.runIn world s with
  | (.ok sources, t) =>
    crawlRuns world reader config sources (world.answer (.log (.crawling sources.length)) t).2
  | (.error _, _) => []

/-- Listing the active sources leaves the table as it is. -/
theorem World.Keeps.table_listActive (hkeeps : world.Keeps table feed) (s : σ) :
    table (Sources.listActive.runIn world s).2 = table s := by
  have hquiet : ∀ feed, Quiet feed () (.rows ⟨Sources.selectCommand [.isTrue "active"]
      [("id", .unwritten)], []⟩) := fun _ => quiet_rows nofun
  rw [Sources.listActive, Attempt.runIn_mapError, Database.runIn_fetchAll]
  exact hkeeps.table_answer hquiet s

/-- A crawl of all active sources adds to the table what it counts, and what is added by those
crawls whose time could not be recorded. -/
theorem rows_crawlActive (hkeeps : world.Keeps table feed) (config : SearchConfig)
    (reader : Feed.Reader) (hidle : (table s).pending () = none) {total : Tally}
    (hrun : (crawlActive config reader).runIn world s = (.ok total, t)) :
    (table t).rows.length = (table s).rows.length + total.inserted +
        ((activeRuns world reader config s).map (·.uncounted table)).sum ∧
      ∀ run ∈ activeRuns world reader config s, run.uncounted table ≠ 0 →
        ∃ cause, run.result = .error (.storage .markCrawled cause) := by
  have hlisted := hkeeps.table_listActive s
  rw [crawlActive, Attempt.runIn_bind] at hrun
  rw [activeRuns]
  rcases hlist : Sources.listActive.runIn world s with ⟨e | sources, u⟩
  · rw [hlist] at hrun
    cases hrun
  · rw [hlist] at hrun hlisted
    simp only [Attempt.runIn_bind, Attempt.runIn_lift, Attempt.runIn_pure] at hrun
    -- what is written to the log does not concern the table
    have hbegun : table (world.answer (.log (.crawling sources.length)) u).2 = table s :=
      (hkeeps.table_answer (fun _ => quiet_log _) u).trans hlisted
    have hidle' := hbegun ▸ hidle
    obtain ⟨htotal, rfl⟩ := Prod.mk.inj hrun
    obtain rfl := Except.ok.inj htotal
    have hrows := rows_crawlEach hkeeps reader config sources {} hidle'
    rw [hbegun] at hrows
    refine ⟨?_, unmarked_of_uncounted hkeeps config sources hidle'⟩
    refine (congrArg (·.rows.length) (hkeeps.table_answer (fun _ => quiet_log _) _)).trans ?_
    exact hrows

set_option maxRecDepth 4000 in
/-- Of two sources the time is recorded only for the second one, so that one of two new rows is
counted. -/
theorem rows_crawlActive_two :
    let first : Source := ⟨1, "", "https://a.example", .rss, true, none⟩
    let second : Source := ⟨2, "", "https://b.example", .rss, true, none⟩
    let rehearsal : Rehearsal := {
      feed := fun url =>
        if url = first.feedUrl then "<rss><channel><item><link>a</link></item></channel></rss>"
        else "<rss><channel><item><link>b</link></item></channel></rss>"
      listing := [first.row, second.row] }
    let start : SharedTable Unit × List Bool :=
      (⟨[], fun _ => none⟩, List.replicate 11 false ++ [true])
    ∃ t, (crawlActive {} .standard).runIn rehearsal.world start = (.ok ⟨1, 0⟩, t) ∧
      t.1.rows.length = 0 + 1 +
        ((activeRuns rehearsal.world .standard {} start).map (·.uncounted Prod.fst)).sum := by
  intro first second rehearsal start
  have htotal : ((crawlActive {} .standard).runIn rehearsal.world start).1 = .ok ⟨1, 0⟩ := by cbv
  have hrun : (crawlActive {} .standard).runIn rehearsal.world start
      = (.ok ⟨1, 0⟩, ((crawlActive {} .standard).runIn rehearsal.world start).2) :=
    Prod.ext htotal rfl
  exact ⟨_, hrun, (rows_crawlActive rehearsal.keeps_world {} .standard rfl hrun).1⟩

set_option maxRecDepth 4000 in
/-- The article of a source is stored, but as the time of its crawl cannot be recorded the total
says that nothing is. -/
theorem rows_crawlActive_uncounted :
    let source : Source := ⟨1, "", "https://feed.example", .rss, true, none⟩
    let rehearsal : Rehearsal := {
      feed := fun _ => "<rss><channel><item><link>a</link></item></channel></rss>"
      listing := [source.row] }
    let refused := List.replicate 11 false ++ [true]
    let run := (crawlActive {} .standard).runIn rehearsal.world (⟨[], fun _ => none⟩, refused)
    run.1 = .ok ⟨0, 0⟩ ∧ urls run.2.1.rows = ["a"] := by
  intro source rehearsal refused
  refine ⟨?_, ?_⟩
  · show ((crawlActive {} .standard).runIn rehearsal.world (⟨[], fun _ => none⟩, refused)).1 = _
    cbv
  · show urls ((crawlActive {} .standard).runIn rehearsal.world
      (⟨[], fun _ => none⟩, refused)).2.1.rows = _
    cbv

end FeedArchive
