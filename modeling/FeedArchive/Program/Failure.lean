import FeedArchive.Database.Migration

/-! # Failures of programs

What went wrong, as it is reported to whoever ran a program: a message that says what was being
done, and the cause. -/

namespace FeedArchive

/-- What the database was asked for. -/
inductive Task where
  | getArticle
  | getArticleWithSource
  | listArticles
  | listArticlesWithSource
  | createArticle (url : String)
  | beginTransaction
  | commitTransaction
  | updateArticle
  | deleteArticle
  | findUrl
  | getSource
  | listSources
  | listActiveSources
  | createSource (feedUrl : String)
  | updateSource
  | deleteSource
  | markCrawled
  deriving DecidableEq, Repr

/-- What is reported when a task fails. -/
def Task.failureText : Task → String
  | .getArticle => "記事の取得に失敗"
  | .getArticleWithSource => "ソース名付き記事の取得に失敗"
  | .listArticles => "記事一覧の取得に失敗"
  | .listArticlesWithSource => "ソース名付き記事一覧の取得に失敗"
  | .createArticle url => "記事の保存に失敗: " ++ url
  | .beginTransaction => "トランザクションの開始に失敗しました"
  | .commitTransaction => "トランザクションのコミットに失敗しました"
  | .updateArticle => "記事の更新に失敗"
  | .deleteArticle => "記事の削除に失敗"
  | .findUrl => "URL存在確認に失敗"
  | .getSource => "配信元の取得に失敗"
  | .listSources => "配信元一覧の取得に失敗"
  | .listActiveSources => "有効な配信元の取得に失敗"
  | .createSource feedUrl => "配信元の保存に失敗: " ++ feedUrl
  | .updateSource => "配信元の更新に失敗"
  | .deleteSource => "配信元の削除に失敗"
  | .markCrawled => "最終巡回日時の更新に失敗"

/-- A failure of a program. -/
inductive Failure where
  /-- The database failed at a task. -/
  | storage (task : Task) (cause : Database.Error)
  /-- A feed could not be fetched. -/
  | fetch (url : String) (cause : Feed.FetchError)
  /-- A text is no feed. -/
  | notAFeed
  /-- What was fetched is no feed. -/
  | unreadableFeed (url : String)
  /-- A text is no date. -/
  | unreadableDate (text : String)
  /-- The articles of a source could not be looked up. -/
  | lookUp (sourceName : String) (cause : SearchError)
  | config (cause : ConfigError)
  | setup (cause : SetupError)
  | search (cause : SearchError)
  deriving DecidableEq

namespace Failure

/-- What is reported first. -/
def message : Failure → String
  | .storage task _ => task.failureText
  | .fetch url _ => "フィードの取得に失敗: " ++ url
  | .notAFeed => "RSS XMLの解析に失敗"
  | .unreadableFeed url => "フィードの解析に失敗: " ++ url
  | .unreadableDate text => "不正な日付形式: " ++ text
  | .lookUp sourceName _ => "保存済みURLの確認に失敗: " ++ sourceName
  | .config _ => "検索設定の読み込みに失敗"
  | .setup _ => "データベースの初期化に失敗"
  | .search _ => "記事検索に失敗"

/-- What is reported as the cause, where there is one. -/
def cause : Failure → Option String
  | .storage _ e => some e.message
  | .fetch _ e => some e.message
  | .notAFeed => none
  | .unreadableFeed _ => some notAFeed.message
  | .unreadableDate _ => none
  | .lookUp _ e => some e.message
  | .config e => some e.message
  | .setup e => some e.message
  | .search e => some e.message

end Failure

end FeedArchive
