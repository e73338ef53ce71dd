import FeedArchive.Feed.Date
import FeedArchive.Feed.Demand
import FeedArchive.Record

/-! # Channels

A feed in RSS: a channel with items. Of the many elements that a feed may have, only those that
make up a `Channel` are kept; of the others, those that RSS or an extension defines have to be
readable. -/

namespace FeedArchive.Feed

open Markup

/-- An item of a channel. Texts are trimmed, and a missing text is the same as an empty one. -/
structure Item where
  title : Option String := none
  link : Option String := none
  description : Option String := none
  date : Option String := none
  deriving DecidableEq, Repr

/-- A channel. -/
structure Channel where
  title : String := ""
  items : List Item := []
  deriving DecidableEq, Repr

/-! ## Reading -/

/-- An item with another child. The last one of a name counts, but a link is not lost to an empty
one. -/
def Item.withChild (item : Item) : Node → Option Item
  | .element (some "title") _ content =>
    (trimmedText? content).map fun t => { item with title := t }
  | .element (some "link") _ content =>
    (trimmedText? content).map fun t => { item with link := t <|> item.link }
  | .element (some "description") _ content =>
    (trimmedText? content).map fun t => { item with description := t }
  | .element (some "pubDate") _ content =>
    (trimmedText? content).map fun t => { item with date := t }
  | .element (some name) attributes content =>
    passOver (demandOn itemDemands name) attributes content item
  | .element none _ _ => none
  | _ => some item

/-- The item of an element. -/
def Item.ofElement? (attributes : List NodeAttribute) (content : List Node) : Option Item :=
  if AttributeDemand.namespaces.isMet attributes then content.foldlM Item.withChild {} else none

/-- A channel with another child. The last title counts that is not empty. -/
def Channel.withChild (channel : Channel) : Node → Option Channel
  | .element (some "title") _ content =>
    (trimmedText? content).map fun t => { channel with title := t.getD channel.title }
  | .element (some "item") attributes content =>
    (Item.ofElement? attributes content).map fun i =>
      { channel with items := channel.items ++ [i] }
  | .element (some name) attributes content =>
    passOver (demandOn channelDemands name) attributes content channel
  | .element none _ _ => none
  | _ => some channel

/-- The channel of an element. -/
def Channel.ofElement? (attributes : List NodeAttribute) (content : List Node) : Option Channel :=
  if AttributeDemand.namespaces.isMet attributes then content.foldlM Channel.withChild {} else none

/-- What the outermost element of a feed has: a channel, and items beside it. -/
structure Root where
  channel : Option Channel := none
  items : List Item := []

/-- The outermost element with another child. The last channel counts. -/
def Root.withChild (root : Root) : Node → Option Root
  | .element (some "channel") attributes content =>
    (Channel.ofElement? attributes content).map fun c => { root with channel := some c }
  | .element (some "item") attributes content =>
    (Item.ofElement? attributes content).map fun i => { root with items := root.items ++ [i] }
  | .element (some name) attributes content =>
    passOver ((rootDemands.lookup name).getD {}) attributes content root
  | .element none _ _ => none
  | _ => some root

/-- The outermost element. -/
def Root.ofElement? (attributes : List NodeAttribute) (content : List Node) : Option Root :=
  if AttributeDemand.namespaces.isMet attributes then content.foldlM Root.withChild {} else none

/-- The channel, to which the items beside it are added. -/
def Root.channel? (root : Root) : Option Channel :=
  root.channel.map fun c => { c with items := c.items ++ root.items }

/-- The channel of a feed in RSS, if the text is one. -/
def Channel.read (text : String) : Option Channel :=
  match firstElement? {} (tokens text.toList) with
  | some (.element (some name) attributes content) =>
    if name = "rss" ∨ name = "rdf:RDF" then
      (Root.ofElement? attributes content).bind Root.channel?
    else none
  | _ => none

/-! ## The articles of a channel

One article for each link. How feeds and dates are read is left open (`Reader`). -/

/-- A way to read feeds. -/
structure Reader where
  /-- The channel in a text, if the text is a feed. -/
  channel? : String → Option Channel
  /-- The instant that the date of an item stands for, if it can be read at a time. -/
  date? : Instant → String → Option Instant

/-- Feeds in RSS, with dates that are read apart from the clock. -/
def Reader.standard : Reader where
  channel? := Channel.read
  date? _ text := Feed.date? text.toList

/-- The title of an item that has none. -/
def untitled : String := "タイトルなし"

/-- An item without a link is left out. An item whose date is missing or cannot be read was
published when it was fetched. -/
def Item.article? (item : Item) (sourceId : Int) (fetchedAt : Instant) (reader : Reader) :
    Option NewArticle :=
  let url := (item.link.getD "").trimBlank
  let title := (item.title.getD "").trimBlank
  if url.isEmpty then none
  else some {
    sourceId
    title := if title.isEmpty then untitled else title
    url
    summary := (item.description.getD "").trimBlank
    publishedAt := (item.date.bind (reader.date? fetchedAt)).getD fetchedAt }

/-- The articles of a channel, the first one for each URL. -/
def Channel.articles (channel : Channel) (sourceId : Int) (fetchedAt : Instant)
    (reader : Reader := .standard) : List NewArticle :=
  distinctBy NewArticle.url (channel.items.filterMap (·.article? sourceId fetchedAt reader))

end FeedArchive.Feed
