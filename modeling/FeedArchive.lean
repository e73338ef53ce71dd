import FeedArchive.Main
import FeedArchive.Program.Stage
import FeedArchive.Proofs.Search.Service
import FeedArchive.Proofs.Sql.Search
import FeedArchive.Proofs.Crawl.Concurrent
import FeedArchive.Proofs.Sql.Placeholder
import FeedArchive.Proofs.Crawl.Statements
import FeedArchive.Proofs.Crawl.Attempts
import FeedArchive.Proofs.Crawl.Total
import FeedArchive.Proofs.Pattern.Spelling
import FeedArchive.Proofs.Pattern.Reading
import FeedArchive.Proofs.Pattern.Passes
import FeedArchive.Proofs.Search.Existence
import FeedArchive.Proofs.Search.Session
import FeedArchive.Proofs.Search.Keyword
import FeedArchive.Proofs.Crawl.Isolation
import FeedArchive.Proofs.Table.Atomicity
import FeedArchive.Proofs.Crawl.Counts
import FeedArchive.Proofs.Search.CommandLine
import FeedArchive.Proofs.Feed.FirstItems
import FeedArchive.Proofs.Crawl.Partition
import FeedArchive.Proofs.Search.Narrowing
import FeedArchive.Proofs.Search.Membership
import FeedArchive.Proofs.Text.Integer
import FeedArchive.Proofs.Text.Scan
import FeedArchive.Proofs.Time.Calendar
import FeedArchive.Proofs.Time.Local
import FeedArchive.Proofs.Time.Timestamp
import FeedArchive.Proofs.Time.LooseDate
import FeedArchive.Proofs.Time.Writing
import FeedArchive.Proofs.Search.Parameter
import FeedArchive.Proofs.Search.Filter
import FeedArchive.Proofs.Config
import FeedArchive.Proofs.Pattern.Rounds
import FeedArchive.Proofs.Table.Listing
import FeedArchive.Proofs.Sql.Effect
import FeedArchive.Proofs.Table.Calls
import FeedArchive.Proofs.Json.Document
