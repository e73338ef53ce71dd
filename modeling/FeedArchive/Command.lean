import FeedArchive.Crawl
import FeedArchive.Database.Migration
import FeedArchive.Json.Record
import FeedArchive.Search.Store

/-! # The command

Crawls all active sources, and then searches for the words of the command line, if there are
any. -/

namespace FeedArchive

/-- The query that the words of the command line make up. -/
def queryOf (words : List String) : String := " ".intercalate words

/-- Searches the articles in the database and prints them. -/
def searchAndPrint (config : SearchConfig) (query : String) : Attempt Failure Unit := do
  Program.print ("\n=== 記事検索: " ++ query ++ " ===")
  let service : SearchService := { store := .database, config }
  let articles ← (service.search .article query Entity.article.noFilters).mapError .search
  Program.print (Article.listToJson articles).prettyText

/-- The whole command. The configuration and the address of the database are looked up before
anything else is done. -/
def command (words : List String) (lookup : Lookup) : Attempt Failure Unit := do
  let config ← (Attempt.ofExcept (SearchConfig.read lookup)).mapError .config
  (setupDatabase lookup).mapError .setup
  Program.print "=== 巡回を開始 ==="
  let total ← crawlActive config .standard
  Program.print total.text
  if queryOf words = "" then return ()
  else searchAndPrint config (queryOf words)

end FeedArchive
