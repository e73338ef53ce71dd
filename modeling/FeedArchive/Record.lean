import FeedArchive.Time.Instant

/-! # Records

Articles and the sources they come from: as they are stored, as they are given to be stored, and
the order in which they are found. No two of either are stored under one URL, and `distinctBy` is
what keeps the first of several. -/

namespace FeedArchive

/-! ## Lists without repetitions -/

/-- The first member of a list for each key, in order. -/
def distinctBy {α β : Type} [BEq β] (key : α → β) : List α → List α
  | [] => []
  | a :: as => a :: (distinctBy key as).filter (key · != key a)

/-- The members of a list, each once, in the order of their first appearance. -/
def distinct {α : Type} [BEq α] (as : List α) : List α :=
  distinctBy id as

/-! ## Values that are not allowed -/

/-- A field was given a value that is not among the allowed ones. -/
structure InvalidValue where
  field : String
  value : String
  allowed : List String
  deriving DecidableEq, Repr

/-- What is wrong, for the user. -/
def InvalidValue.message (e : InvalidValue) : String :=
  "フィールド'" ++ e.field ++ "'の値'" ++ e.value ++ "'は不正です: [" ++
    ", ".intercalate e.allowed ++ "]のいずれかを指定してください"

/-! ## Kinds of sources -/

/-- The kind of a source; only feeds in RSS are crawled. -/
inductive SourceType where
  | rss
  | webflow
  | nextJs
  | remix
  deriving DecidableEq, Repr

namespace SourceType

/-- The name under which a kind is stored and shown. -/
def name : SourceType → String
  | .rss => "RSS"
  | .webflow => "Webflow"
  | .nextJs => "NextJS"
  | .remix => "Remix"

/-- All kinds. -/
def all : List SourceType := [.rss, .webflow, .nextJs, .remix]

/-- The kind with a name, upper and lower case told apart. -/
def ofName? (s : String) : Option SourceType :=
  all.find? (·.name == s)

/-- Reads a kind by its name. -/
def parse (s : String) : Except InvalidValue SourceType :=
  match ofName? s with
  | some t => .ok t
  | none => .error ⟨"source_type", s, all.map name⟩

end SourceType

/-! ## Sources -/

/-- A stored source. The URL of its feed is unique. -/
structure Source where
  id : Int
  name : String
  feedUrl : String
  sourceType : SourceType
  active : Bool
  lastCrawledAt : Option Instant
  deriving DecidableEq

/-- The names of the fields of a source in order, as they are in the database and in JSON. -/
def Source.fieldNames : List String :=
  ["id", "name", "feed_url", "source_type", "active", "last_crawled_at"]

/-- A source to be stored. -/
structure NewSource where
  name : String
  feedUrl : String
  sourceType : SourceType
  active : Bool
  deriving DecidableEq

/-- The names of the fields of a source to be stored in order. -/
def NewSource.fieldNames : List String := ["name", "feed_url", "source_type", "active"]

/-- What of a source is given when it is stored. -/
def Source.toNew (s : Source) : NewSource where
  name := s.name
  feedUrl := s.feedUrl
  sourceType := s.sourceType
  active := s.active

/-- The order of search results: by ascending identifier. -/
def Source.compare (a b : Source) : Ordering :=
  Ord.compare a.id b.id

/-! ## Articles -/

/-- A stored article. Its URL is unique. -/
structure Article where
  id : Int
  sourceId : Int
  title : String
  url : String
  summary : String
  publishedAt : Instant
  createdAt : Instant
  deriving DecidableEq

/-- The names of the fields of an article in order, as they are in the database and in JSON. -/
def Article.fieldNames : List String :=
  ["id", "source_id", "title", "url", "summary", "published_at", "created_at"]

/-- A stored article with the name of its source. -/
structure ArticleWithSource where
  article : Article
  sourceName : String
  deriving DecidableEq

/-- An article to be stored; its identifier and the time of storing are not known yet. -/
structure NewArticle where
  sourceId : Int
  title : String
  url : String
  summary : String
  publishedAt : Instant
  deriving DecidableEq

/-- The names of the fields of an article to be stored in order. -/
def NewArticle.fieldNames : List String :=
  ["source_id", "title", "url", "summary", "published_at"]

/-- What of an article is given when it is stored. -/
def Article.toNew (a : Article) : NewArticle where
  sourceId := a.sourceId
  title := a.title
  url := a.url
  summary := a.summary
  publishedAt := a.publishedAt

/-- The order of search results: the latest first, and of two at the same time the one with the
greater identifier first. -/
def Article.compare (a b : Article) : Ordering :=
  (Instant.compare b.publishedAt a.publishedAt).then (Ord.compare b.id a.id)

end FeedArchive
