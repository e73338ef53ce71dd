import FeedArchive.Program.Stage
import FeedArchive.Proofs.Crawl.Course
import FeedArchive.Proofs.Table.Shared
import Mathlib

/-!
# What a crawl counts

The tally of a crawl under any replies of the database. The insertions that report at least one row
are the new articles (`Articles.Stores.count`), and there is one reply for each fresh article; all
other articles of the feed are skipped, so that the two counts add up to what the feed has in it
(`Source.crawl_counts`).
-/

namespace FeedArchive

open Database

/-- The number of rows that the database reports for an insertion of an article. -/
def Exchange.insertedRows? : Exchange → Option Nat
  | ⟨.affected statement, .ok count⟩ => statement.newArticle?.map fun _ => count
  | _ => none

/-- The replies to insertions of articles, in order. -/
def insertedRows (trace : List Exchange) : List Nat :=
  trace.filterMap Exchange.insertedRows?

theorem insertedRows_append (first rest : List Exchange) :
    insertedRows (first ++ rest) = insertedRows first ++ insertedRows rest :=
  List.filterMap_append

namespace Articles

variable {as : List NewArticle} {trace : List Exchange} {n : Nat}

/-- There is one reply for each article, and what is counted are those with a row in them. -/
theorem Inserts.count (h : Inserts as trace n) :
    (insertedRows trace).length = as.length ∧ n = (insertedRows trace).countP (0 < ·) := by
  induction h with
  | nil => exact ⟨rfl, rfl⟩
  | @cons a as trace n count h ih =>
    obtain ⟨hlength, hcount⟩ := ih
    have hreplies : insertedRows (⟨.affected (insertUnlessPresent a), .ok count⟩ :: trace)
        = count :: insertedRows trace := rfl
    rw [hreplies, List.length_cons, List.length_cons, List.countP_cons, hlength, ← hcount]
    refine ⟨rfl, ?_⟩
    simp only [decide_eq_true_eq]

/-- Each article has one row count, and the number of those stored is that of the counts above
zero. -/
theorem Stores.count (h : Stores as trace (.ok n)) :
    (insertedRows trace).length = as.length ∧ n = (insertedRows trace).countP (0 < ·) := by
  cases h with
  | nothing => exact ⟨rfl, rfl⟩
  | @committed _ trace _ hne h =>
    have hreplies : insertedRows (⟨.control .begin, .ok ()⟩ ::
        (trace ++ [⟨.control .commit, .ok ()⟩])) = insertedRows trace := by
      show insertedRows (trace ++ _) = _
      rw [insertedRows_append]
      exact List.append_nil _
    rw [hreplies]
    exact h.count

end Articles

/-- What the counts of a crawl say of the articles of a feed, of those among them that are found to
be fresh, and of the replies to the insertions. -/
structure Tally.Counts (tally : Tally) (articles fresh : List NewArticle) (replies : List Nat) :
    Prop where
  replied : replies.length = fresh.length
  inserted : tally.inserted = replies.countP (0 < ·)
  inserted_le : tally.inserted ≤ fresh.length
  fresh_le : fresh.length ≤ articles.length
  skipped : tally.skipped = (articles.length - fresh.length) + (fresh.length - tally.inserted)
  total : tally.inserted + tally.skipped = articles.length

namespace Source

variable {source : Source} {articles : List NewArticle} {keys : List String}
  {trace : List Exchange} {tally : Tally}

/-- Recording the time of a crawl inserts no article. -/
theorem insertedRows_recorded (id : Int) (time : Instant) (count : Nat) (event : Event) :
    insertedRows [⟨.now, time⟩, ⟨.affected (Sources.crawledStatement id time), .ok count⟩,
      ⟨.log event, ()⟩] = [] := rfl

/-- Where what is fresh is saved the counts are right, whatever keys have been found. -/
theorem Saves.counts (h : source.Saves (.of articles keys) trace (.ok tally)) :
    tally.Counts articles (articles.filter fun a => a.url ∉ keys) (insertedRows trace) := by
  cases h with
  | @saved trace inserted hstores time count =>
    obtain ⟨hlength, hcount⟩ := hstores.count
    rw [insertedRows_append, insertedRows_recorded, List.append_nil]
    -- a count of replies is at most their number, and a filter leaves no more than there is
    have hinserted : inserted ≤ (articles.filter fun a => a.url ∉ keys).length :=
      calc inserted = (insertedRows trace).countP (0 < ·) := hcount
        _ ≤ (insertedRows trace).length := List.countP_le_length
        _ = (articles.filter fun a => a.url ∉ keys).length := hlength
    have hfresh : (articles.filter fun a => a.url ∉ keys).length ≤ articles.length :=
      List.length_filter_le ..
    refine ⟨hlength, hcount, hinserted, hfresh, rfl, ?_⟩
    have htotal : ∀ fresh, inserted ≤ fresh → fresh ≤ articles.length →
        inserted + ((articles.length - fresh) + (fresh - inserted)) = articles.length := by omega
    exact htotal _ hinserted hfresh

/-- A crawl that succeeds has read a feed and looked the URLs of its articles up. Whatever keys it
has been told and whatever the database replies, the counts are right. -/
theorem crawl_counts {σ : Type} (world : World σ) (s : σ) (source : Source) (store : Store)
    (config : SearchConfig) (reader : Feed.Reader) {tally : Tally}
    (hok : ((source.crawl store config reader).runIn world s).1 = .ok tally) :
    ∃ text channel now asked keys rest,
      (source.crawl store config reader).run.exchanges world s
        = ⟨.fetch source.feedUrl config.timeout, .ok text⟩ :: ⟨.now, now⟩ :: (asked ++ rest) ∧
      reader.channel? text = some channel ∧
      let articles := channel.articles source.id now reader
      store.LooksUp config.timeout (articles.map (·.url)) asked (.ok keys) ∧
        tally.Counts articles (articles.filter fun a => a.url ∉ keys) (insertedRows rest) := by
  have hends : (source.crawl store config reader).Ends
      ((source.crawl store config reader).run.exchanges world s) (.ok tally) :=
    hok ▸ Program.ends_run world _ s
  rcases course_of_ends hends with ⟨_, -, heq⟩ | ⟨first, rest, parts, htrace, hfinds, hsaves⟩
  · cases heq
  cases hfinds with
  | @found text channel now asked keys hread hlookUp =>
    exact ⟨text, channel, now, asked, keys, rest, htrace, hread, hlookUp, hsaves.counts⟩

set_option maxRecDepth 4000 in
/-- The store has been asked for three articles and knows one of them, and a stranger. For the
other two the database reports three rows and none. -/
theorem crawl_counts_conflict :
    let stage : Stage := {
      members := fun _ => { outcome := .ok ["z", "a"] }
      fetch := fun _ => .ok ("<rss><channel><item><link>a</link></item>" ++
        "<item><link>b</link></item><item><link>c</link></item></channel></rss>")
      now := .ofSecond 0 }
    let source : Source := ⟨1, "", "https://feed.example", .rss, true, none⟩
    let replies : List Reply := [.affected 3, .affected 0, .affected 1]
    let crawl := source.crawl .provided {} .standard
    ∃ articles fresh rows, (crawl.runIn stage.world replies).1 = .ok ⟨1, 2⟩ ∧
      (⟨1, 2⟩ : Tally).Counts articles fresh rows := by
  intro stage source replies crawl
  have hok : (crawl.runIn stage.world replies).1 = .ok ⟨1, 2⟩ := by cbv
  obtain ⟨_, _, _, _, _, _, -, -, -, hcounts⟩ :=
    crawl_counts stage.world replies source .provided {} .standard hok
  exact ⟨_, _, _, hok, hcounts⟩

end Source

end FeedArchive
