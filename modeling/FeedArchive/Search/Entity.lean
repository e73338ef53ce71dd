import FeedArchive.Pattern.Like
import FeedArchive.Record
import FeedArchive.Search.Input

/-! # What is searched

Articles and sources are searched in the same way. `Entity` names the two, and gives for each the
type of its records, their fields, their order in results and their filters. `compose` builds the
predicates of a search. -/

namespace FeedArchive

/-- A kind of record that can be searched. -/
inductive Entity where
  | article
  | source
  deriving DecidableEq, Repr

namespace Entity

/-- The records of an entity. -/
abbrev Record : Entity → Type
  | .article => Article
  | .source => Source

/-- The filters of an entity. -/
abbrev Filters : Entity → Type
  | .article => ArticleFilters
  | .source => SourceFilters

/-- The fields in which keywords are looked for; one of them has to contain a keyword. -/
def keywordFields : Entity → List Field
  | .article => [.title, .summary]
  | .source => [.name, .feedUrl]

/-- The value of a field of a record, if it has the field. -/
def value : (e : Entity) → e.Record → Field → Option FieldValue
  | .article, a, .title => some (.text (Article.title a))
  | .article, a, .summary => some (.text (Article.summary a))
  | .article, a, .publishedAt => some (.time (Article.publishedAt a))
  | .article, a, .sourceId => some (.int (Article.sourceId a))
  | .source, s, .name => some (.text (Source.name s))
  | .source, s, .feedUrl => some (.text (Source.feedUrl s))
  | .source, s, .sourceType => some (.text (Source.sourceType s).name)
  | .source, s, .active => some (.bool (Source.active s))
  | _, _, _ => none

/-- The order of records in results. -/
def compare : (e : Entity) → e.Record → e.Record → Ordering
  | .article => Article.compare
  | .source => Source.compare

/-- The predicates of the filters that are set. -/
def predicates : (e : Entity) → e.Filters → List Predicate
  | .article => ArticleFilters.predicates
  | .source => SourceFilters.predicates

/-- No filter is set. -/
def noFilters : (e : Entity) → e.Filters
  | .article => ({} : ArticleFilters)
  | .source => ({} : SourceFilters)

/-- The predicate of a keyword. -/
def keywordPredicate (e : Entity) (k : Keyword) : Predicate :=
  .contains e.keywordFields k.text.likeEscape

/-- The predicates of a search, all of which a record has to satisfy: one for each keyword, and
then those of the filters. -/
def compose (e : Entity) (keywords : List Keyword) (filters : e.Filters) : List Predicate :=
  keywords.map e.keywordPredicate ++ e.predicates filters

/-- A record satisfies all of the predicates. -/
def satisfies (e : Entity) (ps : List Predicate) (r : e.Record) : Bool :=
  ps.all (·.holds (e.value r))

/-- The records that satisfy all of the predicates, in the order of results; records that tie keep
the order in which they are stored. -/
def select (e : Entity) (ps : List Predicate) (records : List e.Record) : List e.Record :=
  (records.filter (e.satisfies ps)).mergeSort fun a b => (e.compare a b).isLE

end Entity

end FeedArchive
