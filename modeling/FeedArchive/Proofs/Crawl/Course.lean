import FeedArchive.Crawl
import FeedArchive.Proofs.Feed.FirstItems
import FeedArchive.Proofs.Search.Existence
import FeedArchive.Proofs.Table.Storing

/-!
# The course of a crawl

How a crawl may go, whatever it is answered. First it finds out which articles of the feed are
fresh (`Source.Finds`), then it saves them and records the time (`Source.Saves`). Each of the two
lists the ways in which it may go, and `Source.course_of_ends` says that there are no others.
-/

namespace FeedArchive

open Database

/-! ## Looking up -/

/-- The ways in which looking candidates up may go: what passes between the program and the world,
and the keys that are found or the failure that is reported. -/
inductive Store.LooksUp (store : Store) (timeout : Span) :
    List String → List Exchange → Except SearchError (List String) → Prop
  | nothing : LooksUp store timeout [] [] (.ok [])
  | late {candidates : List String} {asked : List Exchange} {answer : Timed (List String)}
      (hne : candidates ≠ []) (hasked : (store.members (distinct candidates)).Ends asked answer)
      (hlate : timeout.nanos < answer.latency.nanos) :
      LooksUp store timeout candidates
        (asked ++ [⟨.log (.storeTimedOut "URL一括存在確認" timeout), ()⟩])
        (.error (.storage (.timeout "URL一括存在確認" timeout)))
  | failed {candidates : List String} {asked : List Exchange} {answer : Timed (List String)}
      {e : StoreError} (hne : candidates ≠ [])
      (hasked : (store.members (distinct candidates)).Ends asked answer)
      (hintime : answer.latency.nanos ≤ timeout.nanos) (houtcome : answer.outcome = .error e) :
      LooksUp store timeout candidates asked (.error (.storage e))
  | found {candidates : List String} {asked : List Exchange} {answer : Timed (List String)}
      {keys : List String} (hne : candidates ≠ [])
      (hasked : (store.members (distinct candidates)).Ends asked answer)
      (hintime : answer.latency.nanos ≤ timeout.nanos) (houtcome : answer.outcome = .ok keys) :
      LooksUp store timeout candidates
        (asked ++ [⟨.log (.lookedUp candidates.length (distinct candidates).length
          (existing (distinct candidates) keys).length), ()⟩])
        (.ok keys)

/-- Looking candidates up goes in one of these ways. -/
theorem Store.looksUp_of_ends {store : Store} {timeout : Span} {candidates : List String}
    {trace : List Exchange} {y : Except SearchError ExistenceMap}
    (h : (store.lookUp candidates timeout).Ends trace y) :
    ∃ x, store.LooksUp timeout candidates trace x ∧
      y = x.map (existing (distinct candidates)) := by
  rw [lookUp] at h
  by_cases hempty : candidates.isEmpty = true
  · rw [if_pos hempty] at h
    obtain rfl : candidates = [] := List.isEmpty_iff.mp hempty
    obtain ⟨rfl, rfl⟩ := Attempt.Ends.of_pure h
    exact ⟨.ok [], .nothing, rfl⟩
  · rw [if_neg hempty] at h
    have hne : candidates ≠ [] := fun heq => hempty (List.isEmpty_iff.mpr heq)
    -- without keys the answer was late or a failure, with keys it came in time
    rcases Attempt.Ends.of_bind h with ⟨e, hasked, rfl⟩ | ⟨first, rest, keys, rfl, hasked, hrest⟩
    · obtain ⟨x, hx, heq⟩ := hasked.of_mapError
      obtain ⟨asked, answer, hmembers, ⟨hlate, rfl, rfl⟩ | ⟨hintime, rfl, rfl⟩⟩ :=
        ends_withDeadline hx
      · obtain rfl := Except.error.inj heq
        exact ⟨_, .late hne hmembers hlate, rfl⟩
      · rcases houtcome : answer.outcome with e' | keys
        · rw [houtcome] at heq
          obtain rfl := Except.error.inj heq
          exact ⟨_, .failed hne hmembers hintime houtcome, rfl⟩
        · rw [houtcome] at heq
          cases heq
    · obtain ⟨x, hx, heq⟩ := hasked.of_mapError
      obtain ⟨log, last, ⟨⟩, rfl, hlog, hend⟩ := Attempt.Ends.of_lift_bind hrest
      obtain rfl := hlog.of_request
      obtain ⟨rfl, rfl⟩ := hend.of_pure
      obtain ⟨asked, answer, hmembers, ⟨-, -, rfl⟩ | ⟨hintime, rfl, rfl⟩⟩ := ends_withDeadline hx
      · cases heq
      · rcases houtcome : answer.outcome with e' | keys'
        · rw [houtcome] at heq
          cases heq
        · rw [houtcome] at heq
          obtain rfl := Except.ok.inj heq
          exact ⟨_, .found hne hmembers hintime houtcome, rfl⟩

/-- Where asking the store has nothing to do with a kind of exchange, neither has looking up, as
the log has not. -/
theorem Store.LooksUp.filterMap_eq_nil {α : Type} {f : Exchange → Option α} {store : Store}
    {timeout : Span} {candidates : List String} {trace : List Exchange}
    {x : Except SearchError (List String)} (h : store.LooksUp timeout candidates trace x)
    (hmembers : ∀ {asked : List Exchange} {answer : Timed (List String)},
      (store.members (distinct candidates)).Ends asked answer → asked.filterMap f = [])
    (hlog : ∀ event, f ⟨.log event, ()⟩ = none) : trace.filterMap f = [] := by
  cases h with
  | nothing => rfl
  | late _ hasked _ =>
    rw [List.filterMap_append, hmembers hasked, List.filterMap_cons_none (hlog _)]
    rfl
  | failed _ hasked _ _ => exact hmembers hasked
  | found _ hasked _ _ =>
    rw [List.filterMap_append, hmembers hasked, List.filterMap_cons_none (hlog _)]
    rfl

/-- Articles divided by the keys that a store has been found to have. -/
def Partition.of (articles : List NewArticle) (keys : List String) : Partition :=
  let fresh := articles.filter fun a => a.url ∉ keys
  { fresh, skipped := articles.length - fresh.length }

/-- Articles are divided by what is found when their URLs are looked up. -/
theorem Store.partition_of_ends {store : Store} {timeout : Span} {articles : List NewArticle}
    {trace : List Exchange} {y : Except SearchError Partition}
    (h : (store.partitionNew articles timeout).Ends trace y) :
    ∃ x, store.LooksUp timeout (articles.map (·.url)) trace x ∧
      y = x.map (Partition.of articles) := by
  rcases Attempt.Ends.of_bind h with ⟨e, hlookUp, rfl⟩ | ⟨first, rest, map, rfl, hlookUp, hend⟩
  · obtain ⟨e' | keys, hx, heq⟩ := looksUp_of_ends hlookUp
    · obtain rfl := Except.error.inj heq
      exact ⟨_, hx, rfl⟩
    · cases heq
  · obtain ⟨e' | keys, hx, heq⟩ := looksUp_of_ends hlookUp
    · cases heq
    · obtain rfl := Except.ok.inj heq
      obtain ⟨rfl, rfl⟩ := hend.of_pure
      refine ⟨.ok keys, by rwa [List.append_nil], ?_⟩
      show Except.ok (Partition.mk _ _) = _
      rw [filter_isNone_lookup_existing NewArticle.url]
      rfl

namespace Source

/-! ## Finding out what is fresh -/

/-- The ways in which finding out may go which articles of a feed are fresh. -/
inductive Finds (source : Source) (reader : Feed.Reader) (store : Store) (timeout : Span) :
    List Exchange → Except Failure Partition → Prop
  | unfetched (e : Feed.FetchError) :
      Finds source reader store timeout [⟨.fetch source.feedUrl timeout, .error e⟩]
        (.error (.fetch source.feedUrl e))
  | unreadable {text : String} (hread : reader.channel? text = none) :
      Finds source reader store timeout [⟨.fetch source.feedUrl timeout, .ok text⟩]
        (.error (.unreadableFeed source.feedUrl))
  | unknown {text : String} {channel : Feed.Channel} {now : Instant} {trace : List Exchange}
      {e : SearchError} (hread : reader.channel? text = some channel)
      (hlookUp : store.LooksUp timeout ((channel.articles source.id now reader).map (·.url)) trace
        (.error e)) :
      Finds source reader store timeout
        (⟨.fetch source.feedUrl timeout, .ok text⟩ :: ⟨.now, now⟩ :: trace)
        (.error (.lookUp source.name e))
  | found {text : String} {channel : Feed.Channel} {now : Instant} {trace : List Exchange}
      {keys : List String} (hread : reader.channel? text = some channel)
      (hlookUp : store.LooksUp timeout ((channel.articles source.id now reader).map (·.url)) trace
        (.ok keys)) :
      Finds source reader store timeout
        (⟨.fetch source.feedUrl timeout, .ok text⟩ :: ⟨.now, now⟩ :: trace)
        (.ok (.of (channel.articles source.id now reader) keys))

variable {source : Source} {reader : Feed.Reader} {store : Store} {trace : List Exchange}

/-- The articles of a feed are fetched, unless they are not. -/
theorem fetched_of_ends (store : Store) {timeout : Span} {y : Except Failure (List NewArticle)}
    (h : (source.fetchArticles timeout reader).Ends trace y) :
    (∃ failure, y = .error failure ∧ source.Finds reader store timeout trace (.error failure)) ∨
      ∃ text channel now, reader.channel? text = some channel ∧
        trace = [⟨.fetch source.feedUrl timeout, .ok text⟩, ⟨.now, now⟩] ∧
        y = .ok (channel.articles source.id now reader) := by
  rcases Attempt.Ends.of_bind h with ⟨e, hfetch, rfl⟩ | ⟨first, rest, text, rfl, hfetch, hrest⟩
  · obtain ⟨answer, hanswer, heq⟩ := hfetch.of_mapError
    obtain rfl := Program.Ends.of_request hanswer
    rcases answer with e' | text
    · obtain rfl := Except.error.inj heq
      exact Or.inl ⟨_, rfl, .unfetched e'⟩
    · cases heq
  · obtain ⟨answer, hanswer, heq⟩ := hfetch.of_mapError
    obtain rfl := Program.Ends.of_request hanswer
    rcases answer with e' | text'
    · cases heq
    obtain rfl := Except.ok.inj heq
    rcases hread : reader.channel? text with _ | channel
    · simp only [hread] at hrest
      obtain ⟨rfl, rfl⟩ := hrest.of_throw
      exact Or.inl ⟨_, rfl, .unreadable hread⟩
    · simp only [hread] at hrest
      obtain ⟨clock, last, now, rfl, hnow, hend⟩ := Attempt.Ends.of_lift_bind hrest
      obtain rfl := hnow.of_request
      obtain ⟨rfl, rfl⟩ := hend.of_pure
      exact Or.inr ⟨text, channel, now, hread, rfl, rfl⟩

/-! ## Saving -/

/-- The ways in which saving what is fresh may go. -/
inductive Saves (source : Source) (parts : Partition) : List Exchange → Except Failure Tally → Prop
  | unstored {trace : List Exchange} {failure : Failure}
      (hstores : Articles.Stores parts.fresh trace (.error failure)) :
      Saves source parts trace (.error failure)
  | unmarked {trace : List Exchange} {inserted : Nat}
      (hstores : Articles.Stores parts.fresh trace (.ok inserted)) (time : Instant)
      (message : String) :
      Saves source parts
        (trace ++ [⟨.now, time⟩, ⟨.affected (Sources.crawledStatement source.id time),
          .error message⟩])
        (.error (.storage .markCrawled (.reported message)))
  | saved {trace : List Exchange} {inserted : Nat}
      (hstores : Articles.Stores parts.fresh trace (.ok inserted)) (time : Instant) (count : Nat) :
      Saves source parts
        (trace ++ [⟨.now, time⟩, ⟨.affected (Sources.crawledStatement source.id time), .ok count⟩,
          ⟨.log (.sourceCrawled source.id inserted
            (parts.skipped + (parts.fresh.length - inserted))), ()⟩])
        (.ok ⟨inserted, parts.skipped + (parts.fresh.length - inserted)⟩)

/-- What a crawl goes on to do when it has found out what is fresh. -/
def save (source : Source) (parts : Partition) : Attempt Failure Tally := do
  let inserted ← Articles.createAll parts.fresh
  let _ ← Sources.markCrawled source.id (← Program.request .now)
  let tally : Tally := ⟨inserted, parts.skipped + (parts.fresh.length - inserted)⟩
  Program.log (.sourceCrawled source.id tally.inserted tally.skipped)
  return tally

/-- Saving goes in one of these ways. -/
theorem saves_of_ends {parts : Partition} {y : Except Failure Tally}
    (h : (source.save parts).Ends trace y) : source.Saves parts trace y := by
  rcases Attempt.Ends.of_bind h with ⟨e, hcreate, rfl⟩ | ⟨first, _, inserted, rfl, hcreate, hrest⟩
  · exact .unstored (Articles.stores_of_ends hcreate)
  have hstores := Articles.stores_of_ends hcreate
  obtain ⟨_, rest, time, rfl, hnow, hmarked⟩ := Attempt.Ends.of_lift_bind hrest
  obtain rfl := hnow.of_request
  rcases Attempt.Ends.of_bind hmarked with ⟨e, hmark, rfl⟩ | ⟨_, last, _, rfl, hmark, hlogged⟩
  · obtain ⟨message, rfl, heq⟩ | ⟨_, -, heq⟩ := ends_changes hmark
    · obtain rfl := Except.error.inj heq
      exact .unmarked hstores time message
    · cases heq
  · obtain ⟨_, -, heq⟩ | ⟨count, rfl, -⟩ := ends_changes hmark
    · cases heq
    obtain ⟨_, _, ⟨⟩, rfl, hlog, hend⟩ := Attempt.Ends.of_lift_bind hlogged
    obtain rfl := hlog.of_request
    obtain ⟨rfl, rfl⟩ := hend.of_pure
    exact .saved hstores time count

/-- A crawl fails to find out what is fresh, or it saves it. -/
theorem course_of_ends {config : SearchConfig} {y : Except Failure Tally}
    (h : (source.crawl store config reader).Ends trace y) :
    (∃ failure, source.Finds reader store config.timeout trace (.error failure) ∧
        y = .error failure) ∨
      ∃ first rest parts, trace = first ++ rest ∧
        source.Finds reader store config.timeout first (.ok parts) ∧ source.Saves parts rest y := by
  -- the fetch and the look-up together are what `Finds` speaks of
  rcases Attempt.Ends.of_bind h with ⟨e, hfetch, rfl⟩ | ⟨fetch, _, articles, rfl, hfetch, hrest⟩
  · rcases fetched_of_ends store hfetch with ⟨failure, heq, hfinds⟩ |
      ⟨_, _, _, -, -, heq⟩
    · obtain rfl := Except.error.inj heq
      exact Or.inl ⟨_, hfinds, rfl⟩
    · cases heq
  rcases fetched_of_ends store hfetch with ⟨_, heq, -⟩ |
    ⟨text, channel, now, hread, rfl, heq⟩
  · cases heq
  obtain rfl := Except.ok.inj heq
  rcases Attempt.Ends.of_bind hrest with ⟨e, hparts, rfl⟩ | ⟨look, rest, parts, rfl, hparts, hsave⟩
  · obtain ⟨_, hx, heq⟩ := hparts.of_mapError
    obtain ⟨e' | keys, hlookUp, rfl⟩ := Store.partition_of_ends hx
    · obtain rfl := Except.error.inj heq
      exact Or.inl ⟨_, .unknown hread hlookUp, rfl⟩
    · cases heq
  · obtain ⟨_, hx, heq⟩ := hparts.of_mapError
    obtain ⟨e' | keys, hlookUp, rfl⟩ := Store.partition_of_ends hx
    · cases heq
    obtain rfl := Except.ok.inj heq
    exact Or.inr ⟨_, rest, _, (List.append_assoc _ look rest).symm, .found hread hlookUp,
      saves_of_ends hsave⟩

end Source

end FeedArchive
