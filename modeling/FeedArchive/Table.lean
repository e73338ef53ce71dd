import FeedArchive.Program.Failure
import FeedArchive.Search.Store

/-! # The tables

Statements on the tables `articles` and `sources`, and the store whose records are their rows. What
fails is reported as the failure of a task; the questions of a store are reported as failures of a
store. -/

namespace FeedArchive

open Database

/-! ## Articles -/

/-- The parameters for `NewArticle.fieldNames`. -/
def NewArticle.params (a : NewArticle) : List Param :=
  [.int a.sourceId, .text a.title, .text a.url, .text a.summary, .time a.publishedAt]

namespace Articles

/-! ### Statements -/

/-- The order of `Article.compare`. -/
def latestFirst : RowOrder := [("published_at", .descending), ("id", .descending)]

/-- Articles that satisfy conditions. -/
def selectCommand (conditions : List Condition) (order : RowOrder) : Command :=
  .select Article.fieldNames "articles" conditions order

/-- Articles joined with their sources. -/
def joinedCommand (conditions : List Condition) (order : RowOrder) : Command :=
  .select (Article.fieldNames.map ("a." ++ ·) ++ ["s.name AS source_name"])
    "articles a INNER JOIN sources s ON a.source_id = s.id" conditions order

def insertCommand (tail : InsertTail) : Command :=
  .insert "articles" NewArticle.fieldNames tail

def updateCommand : Command := .update "articles" NewArticle.fieldNames "id"

/-- The article with an identifier. -/
def byId (id : Int) : Statement :=
  ⟨selectCommand [.compare "id" .equal 1] [], [.int id]⟩

/-- A new article, unless there is one with its URL. -/
def insertUnlessPresent (a : NewArticle) : Statement :=
  ⟨insertCommand (.unlessPresent "url"), a.params⟩

/-- The articles that satisfy predicates, in the order of results. -/
def searchStatement (ps : List Predicate) : Statement :=
  let (conditions, params) := Condition.ofPredicates 1 ps
  ⟨selectCommand conditions latestFirst, params⟩

/-- The URLs that are stored, of those given. -/
def urlsStatement (urls : List String) : Statement :=
  ⟨.select ["url"] "articles" [.among "url" 1] [], [.texts urls]⟩

/-! ### Reading -/

def get (id : Int) : Attempt Failure (Option Article) :=
  (fetchFirst (byId id) Row.article).mapError (.storage .getArticle)

def getWithSource (id : Int) : Attempt Failure (Option ArticleWithSource) :=
  (fetchFirst ⟨joinedCommand [.compare "a.id" .equal 1] [], [.int id]⟩
    Row.articleWithSource).mapError (.storage .getArticleWithSource)

/-- All articles, the latest first. -/
def list : Attempt Failure (List Article) :=
  (fetchAll ⟨selectCommand [] latestFirst, []⟩ Row.article).mapError (.storage .listArticles)

/-- All articles with the names of their sources, the latest first. -/
def listWithSource : Attempt Failure (List ArticleWithSource) :=
  (fetchAll ⟨joinedCommand [] [("a.published_at", .descending), ("a.id", .descending)], []⟩
    Row.articleWithSource).mapError (.storage .listArticlesWithSource)

/-- An article is stored under the URL. -/
def hasUrl (url : String) : Attempt Failure Bool :=
  (fetchOne ⟨.present "articles" [.compare "url" .equal 1], [.text url]⟩
    (·.readFirst Cell.asBool)).mapError (.storage .findUrl)

/-- The URLs that are stored, of those given. -/
def storedUrls (urls : List String) : Attempt StoreError (List String) :=
  (fetchAll (urlsStatement urls) (·.readFirst Cell.asText)).mapError
    (.query "URL一括存在確認")

/-- The articles that satisfy predicates, in the order of results. -/
def search (ps : List Predicate) : Attempt StoreError (List Article) :=
  (fetchAll (searchStatement ps) Row.article).mapError (.query "記事の検索")

/-- The articles in which a text occurs. -/
def searchText (text : String) : Attempt StoreError (List Article) :=
  search [Entity.article.keywordPredicate ⟨text⟩]

/-- The articles in which all keywords occur. -/
def searchKeywords (keywords : List Keyword) : Attempt StoreError (List Article) :=
  search (Entity.article.compose keywords Entity.article.noFilters)

/-! ### Writing -/

/-- Stores an article; its identifier. -/
def create (a : NewArticle) : Attempt Failure Int :=
  (fetchOne ⟨insertCommand (.returning "id"), a.params⟩
    (·.readFirst Cell.asInt)).mapError (.storage (.createArticle a.url))

/-- Stores an article within a transaction; whether it was new. -/
def insert (a : NewArticle) : Attempt Failure Bool :=
  (fun rows => decide (0 < rows)) <$>
    (execute (insertUnlessPresent a)).mapError (.storage (.createArticle a.url))

/-- Stores articles in order; how many of them were new. -/
def insertAll : List NewArticle → Attempt Failure Nat
  | [] => return 0
  | a :: rest => do
    let isNew ← insert a
    let others ← insertAll rest
    return others + if isNew then 1 else 0

/-- Stores articles in one transaction, except those whose URL is present already; how many of
them were new. Nothing is sent if there are no articles. -/
def createAll (as : List NewArticle) : Attempt Failure Nat :=
  if as.isEmpty then return 0
  else transaction (.storage .beginTransaction) (.storage .commitTransaction) (insertAll as)

/-- Changes an article except for its identifier and the time of storing; whether it was there. -/
def update (a : Article) : Attempt Failure Bool :=
  (fun rows => decide (0 < rows)) <$>
    (execute ⟨updateCommand, a.toNew.params ++ [.int a.id]⟩).mapError (.storage .updateArticle)

/-- Removes an article; whether it was there. -/
def delete (id : Int) : Attempt Failure Bool :=
  (fun rows => decide (0 < rows)) <$>
    (execute ⟨.delete "articles" "id", [.int id]⟩).mapError (.storage .deleteArticle)

end Articles

/-! ## Sources -/

/-- The parameters for `NewSource.fieldNames`. -/
def NewSource.params (s : NewSource) : List Param :=
  [.text s.name, .text s.feedUrl, .text s.sourceType.name, .bool s.active]

namespace Sources

/-! ### Statements -/

/-- Sources that satisfy conditions. -/
def selectCommand (conditions : List Condition) (order : RowOrder) : Command :=
  .select Source.fieldNames "sources" conditions order

/-- The source with an identifier. -/
def byId (id : Int) : Statement :=
  ⟨selectCommand [.compare "id" .equal 1] [], [.int id]⟩

/-- The sources that satisfy predicates, in the order of results. -/
def searchStatement (ps : List Predicate) : Statement :=
  let (conditions, params) := Condition.ofPredicates 1 ps
  ⟨selectCommand conditions [("id", .ascending)], params⟩

/-- Sets the time at which a source was last crawled. -/
def crawledStatement (id : Int) (time : Instant) : Statement :=
  ⟨.update "sources" ["last_crawled_at"] "id", [.time time, .int id]⟩

/-! ### Reading -/

def get (id : Int) : Attempt Failure (Option Source) :=
  (fetchFirst (byId id) Row.source).mapError (.storage .getSource)

/-- All sources by ascending identifier. -/
def list : Attempt Failure (List Source) :=
  (fetchAll ⟨selectCommand [] [("id", .unwritten)], []⟩ Row.source).mapError
    (.storage .listSources)

/-- The active sources by ascending identifier. -/
def listActive : Attempt Failure (List Source) :=
  (fetchAll ⟨selectCommand [.isTrue "active"] [("id", .unwritten)], []⟩ Row.source).mapError
    (.storage .listActiveSources)

/-- The sources that satisfy predicates, in the order of results. -/
def search (ps : List Predicate) : Attempt StoreError (List Source) :=
  (fetchAll (searchStatement ps) Row.source).mapError (.query "配信元の検索")

/-! ### Writing -/

/-- Stores a source; its identifier. -/
def create (s : NewSource) : Attempt Failure Int :=
  (fetchOne ⟨.insert "sources" NewSource.fieldNames (.returning "id"), s.params⟩
    (·.readFirst Cell.asInt)).mapError (.storage (.createSource s.feedUrl))

/-- Changes a source except for its identifier and the time of crawling; whether it was there. -/
def update (s : Source) : Attempt Failure Bool :=
  (fun rows => decide (0 < rows)) <$>
    (execute ⟨.update "sources" NewSource.fieldNames "id", s.toNew.params ++ [.int s.id]⟩).mapError
      (.storage .updateSource)

/-- Removes a source; whether it was there. -/
def delete (id : Int) : Attempt Failure Bool :=
  (fun rows => decide (0 < rows)) <$>
    (execute ⟨.delete "sources" "id", [.int id]⟩).mapError (.storage .deleteSource)

/-- Sets the time at which a source was last crawled; whether the source was there. -/
def markCrawled (id : Int) (time : Instant) : Attempt Failure Bool :=
  (fun rows => decide (0 < rows)) <$>
    (execute (crawledStatement id time)).mapError (.storage .markCrawled)

end Sources

/-! ## The store in the database

Each question is one statement. -/

/-- The records of an entity that satisfy predicates, in the order of results. -/
def Entity.searchTable : (e : Entity) → List Predicate → Attempt StoreError (List e.Record)
  | .article => Articles.search
  | .source => Sources.search

/-- The store in the database. -/
def Store.database : Store where
  search e ps := (e.searchTable ps).timed
  members urls := (Articles.storedUrls urls).timed

end FeedArchive
