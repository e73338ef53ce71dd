import FeedArchive.Feed.Channel
import FeedArchive.Table

/-! # Crawling

The feed of a source is fetched, what the store has already is left out, the rest is stored in
one transaction, and then the time of the crawl is recorded. The first step that fails ends the
crawl. All active sources are crawled one after the other, and one that fails does not keep the
others from being crawled. -/

namespace FeedArchive

/-! ## Tallies -/

/-- How many articles a crawl has stored, and how many it has skipped because they were stored
before. -/
structure Tally where
  inserted : Nat := 0
  skipped : Nat := 0
  deriving DecidableEq, Repr

namespace Tally

/-- Both tallies together. -/
def merge (a b : Tally) : Tally := ⟨a.inserted + b.inserted, a.skipped + b.skipped⟩

/-- The tally of what has a name. -/
def textFor (name : String) (t : Tally) : String :=
  name ++ "取り込み完了: 新規" ++ t.inserted.decimalText ++ "件、既存スキップ" ++
    t.skipped.decimalText ++ "件"

/-- The tally of feeds in general. -/
def text (t : Tally) : String := t.textFor "フィード"

end Tally

/-! ## A source -/

/-- The articles in the feed of a source. -/
def Source.fetchArticles (source : Source) (timeout : Span)
    (reader : Feed.Reader := .standard) : Attempt Failure (List NewArticle) := do
  let text ← Attempt.request (Failure.fetch source.feedUrl)
    (Program.request (.fetch source.feedUrl timeout))
  match reader.channel? text with
  | none => throw (.unreadableFeed source.feedUrl)
  | some channel => do
    let now ← Program.request .now
    return channel.articles source.id now reader

/-- Articles divided into those that a store lacks and those that it has. -/
structure Partition where
  fresh : List NewArticle
  /-- The number of the others. -/
  skipped : Nat
  deriving DecidableEq

/-- Leaves out the articles whose URLs the store has. The store is asked about all of them at
once. -/
def Store.partitionNew (store : Store) (articles : List NewArticle) (timeout : Span) :
    Attempt SearchError Partition := do
  let stored ← store.lookUp (articles.map (·.url)) timeout
  let fresh := articles.filter fun a => (stored.lookup a.url).isNone
  return { fresh, skipped := articles.length - fresh.length }

/-- Crawls a source. Articles that another crawl stores between the look-up and the transaction
count as skipped. -/
def Source.crawl (source : Source) (store : Store) (config : SearchConfig)
    (reader : Feed.Reader := .standard) : Attempt Failure Tally := do
  let articles ← source.fetchArticles config.timeout reader
  let parts ← (store.partitionNew articles config.timeout).mapError (.lookUp source.name)
  let inserted ← Articles.createAll parts.fresh
  let _ ← Sources.markCrawled source.id (← Program.request .now)
  let tally : Tally := ⟨inserted, parts.skipped + (parts.fresh.length - inserted)⟩
  Program.log (.sourceCrawled source.id tally.inserted tally.skipped)
  return tally

/-! ## All active sources -/

/-- Crawls sources in order, those in RSS only; the tally of those that did not fail, added to the
tally so far. -/
def crawlEach (reader : Feed.Reader) (config : SearchConfig) (total : Tally) :
    List Source → Program Tally
  | [] => return total
  | source :: rest => do
    if source.sourceType = .rss then
      match (← (source.crawl .database config reader).run) with
      | .ok tally =>
        Program.print (tally.textFor source.name)
        crawlEach reader config (total.merge tally) rest
      | .error _ =>
        Program.log (.sourceFailed source.id)
        crawlEach reader config total rest
    else
      Program.log (.sourceLeftOut source.id source.sourceType)
      crawlEach reader config total rest

/-- Crawls all active sources. -/
def crawlActive (config : SearchConfig) (reader : Feed.Reader := .standard) :
    Attempt Failure Tally := do
  let sources ← Sources.listActive
  Program.log (.crawling sources.length)
  let total ← (crawlEach reader config {} sources : Program Tally)
  Program.log (.crawled total.inserted total.skipped)
  return total

end FeedArchive
