import FeedArchive.Search.Entity

/-! # Events of the log -/

namespace FeedArchive

/-- How much an event of the log matters. -/
inductive Level where
  | debug
  | info
  | warn
  deriving DecidableEq, Repr

def Level.name : Level → String
  | .debug => "DEBUG"
  | .info => "INFO"
  | .warn => "WARN"

/-- What is written to the log. -/
inductive Event where
  /-- The keywords of a search were refused. -/
  | keywordsRefused (entity : Entity) (cause : SearchError)
  /-- A search is handed to the store. -/
  | searching (keywords predicates : Nat)
  /-- A search has found records. -/
  | searched (entity : Entity) (hits : Nat)
  /-- Candidates have been looked up in the store. -/
  | lookedUp (candidates distinct existing : Nat)
  /-- The store did not answer in time. -/
  | storeTimedOut (operation : String) (timeout : Span)
  /-- A crawl of sources begins. -/
  | crawling (sources : Nat)
  /-- A source of another kind than RSS is left out of a crawl. -/
  | sourceLeftOut (id : Int) (kind : SourceType)
  /-- A source could not be crawled. -/
  | sourceFailed (id : Int)
  /-- A source has been crawled. -/
  | sourceCrawled (id : Int) (inserted skipped : Nat)
  /-- A crawl of sources has ended. -/
  | crawled (inserted skipped : Nat)
  deriving DecidableEq

namespace Event

def level : Event → Level
  | .keywordsRefused .. | .searching .. | .lookedUp .. | .sourceLeftOut .. => .debug
  | .searched .. | .crawling .. | .sourceCrawled .. | .crawled .. => .info
  | .storeTimedOut .. | .sourceFailed .. => .warn

def message : Event → String
  | .keywordsRefused .article _ => "記事検索のキーワードが不正"
  | .keywordsRefused .source _ => "配信元検索のキーワードが不正"
  | .searching .. => "部分一致検索を実行"
  | .searched .article _ => "記事検索完了"
  | .searched .source _ => "配信元検索完了"
  | .lookedUp .. => "URL一括存在確認"
  | .storeTimedOut .. => "ストレージ呼び出しがタイムアウト"
  | .crawling .. => "巡回開始"
  | .sourceLeftOut .. => "RSS以外の配信元は巡回しない"
  | .sourceFailed .. => "配信元の巡回に失敗"
  | .sourceCrawled .. => "配信元の巡回完了"
  | .crawled .. => "巡回完了"

/-- The value of a field of an event. -/
inductive Datum where
  | text (s : String)
  | int (n : Int)
  deriving DecidableEq, Repr

/-- The fields of an event with their names. -/
def fields : Event → List (String × Datum)
  | .keywordsRefused _ cause => [("error", .text cause.message)]
  | .searching keywords predicates =>
    [("keywords", .int keywords), ("predicates", .int predicates)]
  | .searched _ hits => [("hits", .int hits)]
  | .lookedUp candidates distinct existing =>
    [("candidates", .int candidates), ("unique", .int distinct), ("existing", .int existing)]
  | .storeTimedOut operation timeout =>
    [("operation", .text operation), ("timeout", .text timeout.text)]
  | .crawling sources => [("sources", .int sources)]
  | .sourceLeftOut id kind => [("source_id", .int id), ("kind", .text kind.name)]
  | .sourceFailed id => [("source_id", .int id)]
  | .sourceCrawled id inserted skipped =>
    [("source_id", .int id), ("inserted", .int inserted), ("skipped", .int skipped)]
  | .crawled inserted skipped => [("inserted", .int inserted), ("skipped", .int skipped)]

end Event

end FeedArchive
