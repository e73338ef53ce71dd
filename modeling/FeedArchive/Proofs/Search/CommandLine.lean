import FeedArchive.Command
import FeedArchive.Proofs.Program.Exchange
import FeedArchive.Proofs.Search.Keyword
import FeedArchive.Proofs.Table.Plan

/-!
# The words of the command line

The words of the command line are joined to a query, which is then split at its white space. Where
one word of the command line ends and the next one begins makes no difference to what is searched
for (`blankWords_queryOf`). `Searches` lists the ways in which a search for keywords may go, and
`Completes` those of the whole command. `command_of_words` says that it goes in one of these ways,
and that it may go in the same way for all words of the command line that have the same pieces.
-/

namespace FeedArchive

open Database

/-! ## What is searched for -/

/-- What the words of the command line are split into, one word after the other. -/
def piecesOf (words : List String) : List String := words.flatMap String.blankWords

/-- The words of the query are the pieces of the words of the command line. -/
theorem blankWords_queryOf (words : List String) : (queryOf words).blankWords = piecesOf words := by
  have hspace : " ".toList = [' '] := rfl
  rw [String.blankWords, queryOf, String.toList_intercalate, hspace,
    Text.words_intercalate (by decide), List.flatMap_map, List.map_flatMap]
  rfl

/-! ## The parts of the command -/

/-- What passes when the heading of the search is printed. -/
def headingOf (words : List String) : Exchange :=
  ⟨.print ("\n=== 記事検索: " ++ queryOf words ++ " ==="), ()⟩

/-- What the command does before it comes to search for anything. -/
def prepare (lookup : Lookup) : Attempt Failure SearchConfig := do
  let config ← (Attempt.ofExcept (SearchConfig.read lookup)).mapError .config
  (setupDatabase lookup).mapError .setup
  Program.print "=== 巡回を開始 ==="
  let total ← crawlActive config .standard
  Program.print total.text
  return config

/-- What the command does when the heading is printed. -/
def findAndPrint (config : SearchConfig) (query : String) : Attempt Failure Unit := do
  let service : SearchService := { store := .database, config }
  let articles ← (service.search .article query Entity.article.noFilters).mapError .search
  Program.print (Article.listToJson articles).prettyText

/-- With a query the command ends with a search, after it has crawled. -/
theorem command_eq {words : List String} (hne : queryOf words ≠ "") (lookup : Lookup) :
    command words lookup
      = prepare lookup >>= fun config => searchAndPrint config (queryOf words) := by
  simp only [command, prepare, bind_assoc, pure_bind, if_neg hne]

/-- Queries that are read in the same way are searched for in the same way. -/
theorem findAndPrint_congr {config : SearchConfig} {query other : String}
    (h : config.limits.parse query = config.limits.parse other) :
    findAndPrint config query = findAndPrint config other := by
  simp only [findAndPrint, SearchService.search, SearchService.keywords, h]

/-! ## How a search may go -/

/-- The articles that are read from a reply of the database. -/
def readReply (reply : Except String (List Row)) : Except Error (List Article) :=
  (reply.mapError Error.reported).bind (·.mapM Row.article)

/-- What the command asks the database for when it searches for keywords. -/
def searchFor (keywords : List Keyword) : Statement :=
  Articles.searchStatement (Entity.article.compose keywords Entity.article.noFilters)

/-- The event that the database is about to be asked. -/
def searchingFor (keywords : List Keyword) : Event :=
  .searching keywords.length
    (Entity.article.compose keywords Entity.article.noFilters).length

/-- The ways in which a search may go whose query is split into these keywords, and what it comes
to. The limits are checked first, and only keywords within them are sent to the database, whose
reply is given up if it takes longer than the configuration allows. -/
inductive Searches (config : SearchConfig) (keywords : List Keyword) :
    List Exchange → Except SearchError (List Article) → Prop
  | refused {cause : SearchError} (hjudges : config.limits.Judges keywords (.error cause)) :
      Searches config keywords [⟨.log (.keywordsRefused .article cause), ()⟩] (.error cause)
  | late (hjudges : config.limits.Judges keywords (.ok keywords))
      (reply : Except String (List Row)) {latency : Span}
      (hlate : config.timeout.nanos < latency.nanos) :
      Searches config keywords
        [⟨.log (searchingFor keywords), ()⟩, ⟨.rows (searchFor keywords), reply⟩,
          ⟨.elapsed, latency⟩, ⟨.log (.storeTimedOut "部分一致検索" config.timeout), ()⟩]
        (.error (.storage (.timeout "部分一致検索" config.timeout)))
  | failed (hjudges : config.limits.Judges keywords (.ok keywords))
      {reply : Except String (List Row)} {latency : Span} {cause : Error}
      (hintime : latency.nanos ≤ config.timeout.nanos) (hreply : readReply reply = .error cause) :
      Searches config keywords
        [⟨.log (searchingFor keywords), ()⟩, ⟨.rows (searchFor keywords), reply⟩,
          ⟨.elapsed, latency⟩]
        (.error (.storage (.query "記事の検索" cause)))
  | found (hjudges : config.limits.Judges keywords (.ok keywords))
      {reply : Except String (List Row)} {latency : Span} {articles : List Article}
      (hintime : latency.nanos ≤ config.timeout.nanos) (hreply : readReply reply = .ok articles) :
      Searches config keywords
        [⟨.log (searchingFor keywords), ()⟩, ⟨.rows (searchFor keywords), reply⟩,
          ⟨.elapsed, latency⟩, ⟨.log (.searched .article articles.length), ()⟩]
        (.ok articles)

variable {config : SearchConfig} {keywords : List Keyword} {trace : List Exchange}

/-- The database is sent one statement. If it takes longer than is allowed its reply is given up,
which is written to the log; else the reply is read. -/
theorem ends_find {timeout : Span} {y : Except SearchError (List Article)}
    (h : (Store.database.find .article keywords Entity.article.noFilters timeout).Ends trace y) :
    ∃ reply latency rest, trace = ⟨.log (searchingFor keywords), ()⟩ ::
        ⟨.rows (searchFor keywords), reply⟩ :: ⟨.elapsed, latency⟩ :: rest ∧
      (timeout.nanos < latency.nanos ∧
          rest = [⟨.log (.storeTimedOut "部分一致検索" timeout), ()⟩] ∧
          y = .error (.storage (.timeout "部分一致検索" timeout)) ∨
        latency.nanos ≤ timeout.nanos ∧ rest = [] ∧
          y = ((readReply reply).mapError (.query "記事の検索")).mapError .storage) := by
  obtain ⟨_, _, _, rfl, hlog, hasked⟩ := Attempt.Ends.of_lift_bind h
  obtain rfl := hlog.of_request
  obtain ⟨_, hanswer, rfl⟩ := hasked.of_mapError
  obtain ⟨first, ⟨latency, _⟩, htimed, hanswered⟩ := ends_withDeadline hanswer
  obtain ⟨_, rfl, hsearch⟩ := ends_timed htimed
  obtain ⟨_, hfetch, rfl⟩ := Attempt.Ends.of_mapError hsearch
  obtain ⟨reply, rfl, rfl⟩ := ends_fetchAll hfetch
  rcases hanswered with ⟨hlate, rfl, rfl⟩ | ⟨hintime, rfl, rfl⟩
  · exact ⟨reply, latency, _, rfl, Or.inl ⟨hlate, rfl, rfl⟩⟩
  · exact ⟨reply, latency, [], rfl, Or.inr ⟨hintime, rfl, rfl⟩⟩

/-- A query is refused, which is written to the log, or it is passed without a word. -/
theorem ends_keywords {store : Store} {e : Entity} {query : String}
    {y : Except SearchError (List Keyword)}
    (h : ((SearchService.mk store config).keywords e query).Ends trace y) :
    (∃ cause, config.limits.parse query = .error cause ∧
        trace = [⟨.log (.keywordsRefused e cause), ()⟩] ∧ y = .error cause) ∨
      ∃ ks, config.limits.parse query = .ok ks ∧ trace = [] ∧ y = .ok ks := by
  cases hparse : config.limits.parse query with
  | error cause =>
    simp only [SearchService.keywords, hparse] at h
    obtain ⟨_, _, _, rfl, hlog, hend⟩ := Attempt.Ends.of_lift_bind h
    obtain rfl := hlog.of_request
    obtain ⟨rfl, rfl⟩ := hend.of_throw
    exact Or.inl ⟨cause, rfl, rfl, rfl⟩
  | ok ks =>
    simp only [SearchService.keywords, hparse] at h
    obtain ⟨rfl, rfl⟩ := h.of_pure
    exact Or.inr ⟨ks, rfl, rfl, rfl⟩

/-- A search of the database goes in one of these ways. -/
theorem searches_of_ends {query : String} (hkeywords : query.blankWords.map Keyword.mk = keywords)
    {x : Except SearchError (List Article)}
    (h : ((SearchService.mk .database config).search .article query
      Entity.article.noFilters).Ends trace x) : Searches config keywords trace x := by
  have hjudges : ∀ {z}, config.limits.parse query = z → config.limits.Judges keywords z :=
    fun hz => hkeywords ▸ KeywordLimits.parse_eq_iff.mp hz
  -- either the query is refused, or its keywords are searched for
  rcases Attempt.Ends.of_bind h with ⟨_, hread, rfl⟩ | ⟨_, _, _, rfl, hread, hrest⟩
  · obtain ⟨cause, hparse, rfl, heq⟩ | ⟨_, -, -, heq⟩ := ends_keywords hread
    · obtain rfl := Except.error.inj heq
      exact .refused (hjudges hparse)
    · cases heq
  obtain ⟨_, -, -, heq⟩ | ⟨ks, hparse, rfl, heq⟩ := ends_keywords hread
  · cases heq
  obtain rfl := Except.ok.inj heq
  obtain rfl := (hjudges hparse).eq_of_ok
  rcases Attempt.Ends.of_bind hrest with ⟨_, hfind, rfl⟩ | ⟨_, _, _, rfl, hfind, hlogged⟩
  · obtain ⟨reply, latency, _, rfl, ⟨hlate, rfl, heq⟩ | ⟨hintime, rfl, heq⟩⟩ := ends_find hfind
    -- a reply that is late is not read, whatever it is
    · obtain rfl := Except.error.inj heq
      exact .late (hjudges hparse) reply hlate
    cases hreply : readReply reply with
    | error cause =>
      rw [hreply] at heq
      obtain rfl := Except.error.inj heq
      exact .failed (hjudges hparse) hintime hreply
    | ok articles =>
      rw [hreply] at heq
      cases heq
  · obtain ⟨reply, latency, _, rfl, ⟨-, -, heq⟩ | ⟨hintime, rfl, heq⟩⟩ := ends_find hfind
    · cases heq
    obtain ⟨_, _, _, rfl, hlog, hend⟩ := Attempt.Ends.of_lift_bind hlogged
    obtain rfl := hlog.of_request
    obtain ⟨rfl, rfl⟩ := hend.of_pure
    cases hreply : readReply reply with
    | error cause =>
      rw [hreply] at heq
      cases heq
    | ok articles =>
      rw [hreply] at heq
      obtain rfl := Except.ok.inj heq
      exact .found (hjudges hparse) hintime hreply

/-! ## The whole command -/

/-- The ways in which the command may go if it searches for the pieces of its words. It prints what
it finds, and reports what fails. -/
inductive Completes (words : List String) (lookup : Lookup) :
    List Exchange → Except Failure Unit → Prop
  | unprepared {trace : List Exchange} {failure : Failure}
      (hprepare : (prepare lookup).Ends trace (.error failure)) :
      Completes words lookup trace (.error failure)
  | unfound {first rest : List Exchange} {config : SearchConfig} {cause : SearchError}
      (hprepare : (prepare lookup).Ends first (.ok config))
      (hsearch : Searches config ((piecesOf words).map Keyword.mk) rest (.error cause)) :
      Completes words lookup (first ++ headingOf words :: rest) (.error (.search cause))
  | printed {first rest : List Exchange} {config : SearchConfig} {articles : List Article}
      (hprepare : (prepare lookup).Ends first (.ok config))
      (hsearch : Searches config ((piecesOf words).map Keyword.mk) rest (.ok articles)) :
      Completes words lookup
        (first ++ headingOf words ::
          (rest ++ [⟨.print (Article.listToJson articles).prettyText, ()⟩]))
        (.ok ())

variable {words : List String} {lookup : Lookup} {y : Except Failure Unit}

/-- The command is not prepared, or it prints the heading and goes on to search. -/
theorem ends_command_iff (hne : queryOf words ≠ "") :
    (command words lookup).Ends trace y ↔
      (∃ failure, (prepare lookup).Ends trace (.error failure) ∧ y = .error failure) ∨
        ∃ first rest config, trace = first ++ headingOf words :: rest ∧
          (prepare lookup).Ends first (.ok config) ∧
          (findAndPrint config (queryOf words)).Ends rest y := by
  rw [command_eq hne]
  constructor
  · intro h
    rcases Attempt.Ends.of_bind h with hfails | ⟨first, _, config, rfl, hprepare, hrest⟩
    · exact Or.inl hfails
    · obtain ⟨_, rest, _, rfl, hprint, hfind⟩ := Attempt.Ends.of_lift_bind hrest
      obtain rfl := hprint.of_request
      exact Or.inr ⟨first, rest, config, rfl, hprepare, hfind⟩
  · rintro (⟨failure, hfails, rfl⟩ | ⟨first, rest, config, rfl, hprepare, hfind⟩)
    · exact hfails.bind_error _
    · exact hprepare.bind_ok (.ask hfind)

/-- The command goes in one of these ways. -/
theorem completes_of_ends (hne : queryOf words ≠ "") (h : (command words lookup).Ends trace y) :
    Completes words lookup trace y := by
  have hkeywords : (queryOf words).blankWords.map Keyword.mk = (piecesOf words).map Keyword.mk := by
    rw [blankWords_queryOf]
  rcases (ends_command_iff hne).mp h with ⟨failure, hfails, rfl⟩ |
    ⟨first, rest, config, rfl, hprepare, hfind⟩
  · exact .unprepared hfails
  rcases Attempt.Ends.of_bind hfind with ⟨_, hsearch, rfl⟩ | ⟨_, _, _, rfl, hsearch, hprint⟩
  · obtain ⟨cause | _, hends, heq⟩ := hsearch.of_mapError
    · obtain rfl := Except.error.inj heq
      exact .unfound hprepare (searches_of_ends hkeywords hends)
    · cases heq
  · obtain ⟨_ | articles, hends, heq⟩ := hsearch.of_mapError
    · cases heq
    · obtain rfl := Except.ok.inj heq
      obtain ⟨_, hprinted, rfl⟩ := hprint.of_lift
      obtain rfl := hprinted.of_request
      exact .printed hprepare (searches_of_ends hkeywords hends)

set_option maxRecDepth 4000 in
/-- A reply that takes six seconds is given up after five. -/
example :
    let lookup : Lookup := fun name => if name = databaseVariable then some "db" else none
    let stage : Stage := {
      migrations := [⟨createTables.version, true, true⟩]
      now := .ofSecond 0
      elapsed := .ofSeconds 6 }
    ((command ["a"] lookup).runIn stage.world [.rows [], .rows []]).1
      = .error (.search (.storage (.timeout "部分一致検索" (.ofSeconds 5)))) := by
  rfl

/-- Nothing is sent to the database when the heading is printed. -/
theorem sentIn_headingOf (words : List String) (first rest : List Exchange) :
    sentIn (first ++ headingOf words :: rest) = sentIn first ++ sentIn rest := by
  rw [sentIn_append]
  rfl

/-- The query of a command line is split into the pieces of its words, and whatever its limits are
it is these that are judged. The command searches for them, if it comes to search for anything. It
does not matter which words of the command line they are from: whatever passes between the command
and the world may pass in the same way for other words that have the same pieces, up to the heading,
so that the same is sent to the database and the same comes of it. -/
theorem command_of_words (words : List String) (lookup : Lookup) (hne : queryOf words ≠ "") :
    (∀ (limits : KeywordLimits) z, limits.parse (queryOf words) = z ↔
        limits.Judges ((piecesOf words).map Keyword.mk) z) ∧
      ∀ trace y, (command words lookup).Ends trace y →
        Completes words lookup trace y ∧
        ∀ others, queryOf others ≠ "" → piecesOf others = piecesOf words →
          ∃ trace', (command others lookup).Ends trace' y ∧ sentIn trace' = sentIn trace ∧
            (trace' = trace ∨ ∃ first rest, trace = first ++ headingOf words :: rest ∧
              trace' = first ++ headingOf others :: rest) := by
  refine ⟨fun limits z => ?_, fun trace y h => ⟨completes_of_ends hne h, ?_⟩⟩
  · rw [KeywordLimits.parse_eq_iff, blankWords_queryOf]
  · intro others hothers hpieces
    have hparse : ∀ limits : KeywordLimits,
        limits.parse (queryOf words) = limits.parse (queryOf others) := fun limits =>
      limits.parse_congr (by rw [blankWords_queryOf, blankWords_queryOf, hpieces])
    rcases (ends_command_iff hne).mp h with hfails | ⟨first, rest, config, rfl, hprepare, hfind⟩
    · exact ⟨trace, (ends_command_iff hothers).mpr (Or.inl hfails), rfl, Or.inl rfl⟩
    -- behind the heading only the keywords count, and these are the same
    · rw [findAndPrint_congr (hparse config.limits)] at hfind
      refine ⟨first ++ headingOf others :: rest, (ends_command_iff hothers).mpr
        (Or.inr ⟨first, rest, config, rfl, hprepare, hfind⟩), ?_, Or.inr ⟨first, rest, rfl, rfl⟩⟩
      rw [sentIn_headingOf, sentIn_headingOf]

set_option maxRecDepth 4000 in
/-- Three pieces from two words of the command line, or from three of which one is empty. -/
theorem command_of_words_three :
    let lookup : Lookup := fun name => if name = databaseVariable then some "db" else none
    let stage : Stage := { migrations := [⟨createTables.version, true, true⟩], now := .ofSecond 0 }
    let replies : List Reply := [.rows [], .rows []]
    let trace := (command ["a\tb", "c"] lookup).run.exchanges stage.world replies
    (.statement (searchFor [⟨"a"⟩, ⟨"b"⟩, ⟨"c"⟩]), true) ∈ sentIn trace ∧
      ∃ trace', (command ["a", "", "b c "] lookup).Ends trace' (.ok ()) ∧
        sentIn trace' = sentIn trace := by
  intro lookup stage replies trace
  have hresult : ((command ["a\tb", "c"] lookup).runIn stage.world replies).1 = .ok () := rfl
  have hsent : (sentIn trace)[1]? = some (.statement (searchFor [⟨"a"⟩, ⟨"b"⟩, ⟨"c"⟩]), true) := rfl
  have hends : (command ["a\tb", "c"] lookup).Ends trace (.ok ()) :=
    hresult ▸ Program.ends_run stage.world _ replies
  have hwords := command_of_words ["a\tb", "c"] lookup (by decide)
  obtain ⟨trace', hothers, hsame, -⟩ :=
    (hwords.2 trace _ hends).2 ["a", "", "b c "] (by decide) (by rfl)
  exact ⟨List.mem_of_getElem? hsent, trace', hothers, hsame⟩

end FeedArchive
