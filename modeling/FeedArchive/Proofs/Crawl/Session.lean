import FeedArchive.Proofs.Crawl.Course
import FeedArchive.Proofs.Table.Session
import FeedArchive.Table

/-!
# A crawl as a session

What a crawl does at a shared table, whatever other sessions do in between: with a result it has
added as many rows as it reports, all URLs of its feed are in the table, and its counts add up
(`Source.holds_crawl`).
-/

namespace FeedArchive

open Database SharedTable

variable {ι : Type} [DecidableEq ι] {feed : ι → String → String} {own : NewArticle → Prop} {i : ι}
  {n : Nat} {stored : Set String} {s : Counted ι}

/-- The URLs of articles that are to be stored. -/
def newUrls (as : List NewArticle) : Set String :=
  {u | u ∈ as.map (·.url)}

theorem newUrls_nil : newUrls [] = ∅ :=
  Set.eq_empty_of_forall_notMem fun _ => List.not_mem_nil

theorem newUrls_cons (a : NewArticle) (as : List NewArticle) :
    newUrls (a :: as) = insert a.url (newUrls as) :=
  Set.ext fun _ => List.mem_cons

/-! ## Storing -/

namespace Articles

/-- Articles are added in one transaction, as long as no insertion fails. -/
theorem holds_insertAll {as : List NewArticle} (has : ∀ a ∈ as, own a) {rows : List Article}
    (hown : ∀ row ∈ rows, own row.toNew) (h : Knows i n (some rows) stored s) :
    (insertAll as).Holds (terms feed own i)
      (fun count t => ∃ rows', Knows i n (some rows') (stored ∪ newUrls as) t ∧
        rows'.length = rows.length + count ∧ count ≤ as.length ∧ ∀ row ∈ rows', own row.toNew)
      (fun t => ∃ pending stored, Knows i n pending stored t) s := by
  induction as generalizing rows stored s with
  | nil =>
    rw [newUrls_nil, Set.union_empty]
    exact Attempt.holds_pure ⟨rows, h, rfl, Nat.le_refl _, hown⟩
  | cons a as ih =>
    refine ((holds_insert (has a List.mem_cons_self) hown h).mono_error fun t ht =>
      ⟨_, _, ht⟩).bind ?_
    rintro isNew t ⟨rows', hknows, hlength, hown'⟩
    refine (ih (fun b hb => has b (List.mem_cons_of_mem a hb)) hown' hknows).bind ?_
    rintro count u ⟨rows'', hknows', hlength', hcount, hown''⟩
    have hsame : stored ∪ newUrls (a :: as) = Insert.insert a.url stored ∪ newUrls as := by
      rw [newUrls_cons, Set.union_insert, Set.insert_union]
    refine Attempt.holds_pure ⟨rows'', hsame ▸ hknows', ?_, ?_, hown''⟩
    · rw [hlength', hlength]
      omega
    · rw [List.length_cons]
      split <;> omega

/-- Articles are stored all together or not at all. -/
theorem holds_createAll {as : List NewArticle} (has : ∀ a ∈ as, own a)
    (h : Knows i n none stored s) :
    (createAll as).Holds (terms feed own i)
      (fun count t => Knows i (n + count) none (stored ∪ newUrls as) t ∧ count ≤ as.length)
      (Knows i n none ∅) s := by
  rw [createAll]
  by_cases hempty : as.isEmpty = true
  · rw [if_pos hempty]
    obtain rfl : as = [] := List.isEmpty_iff.mp hempty
    rw [newUrls_nil, Set.union_empty]
    exact Attempt.holds_pure ⟨h, Nat.le_refl _⟩
  · rw [if_neg hempty]
    refine holds_transaction
      ((holds_begin h).mono_error fun t ht => ht.mono (Set.empty_subset _))
      (fun t ht => holds_insertAll has (List.forall_mem_nil _) ht) ?_ ?_
    · rintro count t ⟨rows, hknows, hlength, hcount, hown⟩
      refine (holds_commit hown hknows).mono (fun _ u hu => ?_) fun u hu => ⟨_, _, hu⟩
      rw [List.length_nil, Nat.zero_add] at hlength
      exact ⟨hlength ▸ hu, hcount⟩
    · rintro t ⟨pending, stored', ht⟩
      exact holds_rollback ht

end Articles

/-! ## Looking up -/

/-- A store in front of the table: the one in the database, or one that the world provides. -/
def Store.OfTable (store : Store) : Prop :=
  store = .database ∨ store = .provided

/-- Rows of one text each are read as the texts. -/
theorem mapM_readFirst_asText (texts : List String) :
    (texts.map fun u => [("url", Cell.text u)]).mapM (fun row : Row => row.readFirst Cell.asText)
      = .ok texts := by
  induction texts with
  | nil => rfl
  | cons u texts ih =>
    rw [List.map_cons, List.mapM_cons, ih]
    rfl

/-- The URLs that a store in front of the table has are in the table. -/
theorem Store.holds_members {store : Store} (hstore : store.OfTable) (keys : List String)
    (h : Knows i n none stored s) :
    (store.members keys).Holds (terms feed own i) (fun x t => Knows i n none stored t ∧
      ∀ found, x.outcome = .ok found → Knows i n none (stored ∪ {u | u ∈ found}) t) s := by
  have hhas : ∀ {t : Counted ι} {found : List String}, Knows i n none stored t →
      t.table.Has i keys found → Knows i n none (stored ∪ {u | u ∈ found}) t := by
    intro t found ht hfound
    refine ⟨ht.added, ht.pending, ?_⟩
    rintro u (hu | hu)
    · exact ht.stored u hu
    · exact ((hfound u).mp hu).2
  rcases hstore with rfl | rfl
  · have hfetch : (Articles.storedUrls keys).Holds (terms feed own i)
        (fun found t => Knows i n none stored t ∧ Knows i n none (stored ∪ {u | u ∈ found}) t)
        (Knows i n none stored) s := by
      have hquiet : Quiet feed i (.rows (Articles.urlsStatement keys)) := quiet_rows nofun
      refine (holds_fetchAll ((holds_quiet hquiet h).mono ?_)).mapError
      rintro (message | rows) t ⟨ht, hserves⟩
      · exact ht
      · obtain ⟨found, rfl, hfound⟩ := hserves.2 keys rows rfl rfl
        show Meets _ _ ((found.map fun u => [("url", Cell.text u)]).mapM
          fun row : Row => row.readFirst Cell.asText) t
        rw [mapM_readFirst_asText]
        exact ⟨ht, hhas ht hfound⟩
    refine Program.Holds.bind hfetch ?_
    rintro (e | found) t ht
    · refine Program.Holds.bind (holds_unchanged quiet_elapsed ht) fun _ u hu => ?_
      exact ⟨hu, fun found hfound => by cases hfound⟩
    · refine Program.Holds.bind (holds_unchanged quiet_elapsed ht.2) fun _ u hu => ?_
      exact ⟨hu.mono Set.subset_union_left, fun found' hfound => by cases hfound; exact hu⟩
  · refine (holds_quiet (quiet_members keys) h).mono fun x t ht => ?_
    exact ⟨ht.1, fun found hfound => hhas ht.1 (ht.2.2 found hfound)⟩

/-- A candidate that is found to exist is in the table. -/
theorem Store.holds_lookUp {store : Store} (hstore : store.OfTable) (candidates : List String)
    (timeout : Span) (h : Knows i n none stored s) :
    (store.lookUp candidates timeout).Holds (terms feed own i)
      (fun result t => Knows i n none (stored ∪ {u | (result.lookup u).isSome}) t)
      (Knows i n none stored) s := by
  rw [lookUp]
  by_cases hempty : candidates.isEmpty = true
  · rw [if_pos hempty]
    refine Attempt.holds_pure (h.mono ?_)
    rintro u (hu | hu)
    · exact hu
    · cases hu
  · rw [if_neg hempty]
    have hanswer : ((withDeadline "URL一括存在確認" timeout (store.members (distinct candidates))
        ).mapError SearchError.storage).Holds (terms feed own i)
          (fun found t => Knows i n none (stored ∪ {u | u ∈ found}) t)
          (Knows i n none stored) s := by
      refine (holds_withDeadline ((Store.holds_members hstore _ h).mono fun x t ht => ?_)).mapError
      refine ⟨?_, holds_unchanged (quiet_log _) ht.1⟩
      cases hx : x.outcome with
      | error e => exact ht.1
      | ok found => exact ht.2 found hx
    refine hanswer.bind fun found t ht => ?_
    refine (Attempt.holds_lift (holds_unchanged (quiet_log _) ht)).bind fun _ u hu =>
      Attempt.holds_pure (hu.mono ?_)
    rintro v (hv | hv)
    · exact Or.inl hv
    · exact Or.inr ((Marks.existing _ _).isSome_lookup.mp hv).2

/-- What is not left over as new is in the table. -/
theorem Store.holds_partitionNew {store : Store} (hstore : store.OfTable)
    (articles : List NewArticle) (timeout : Span) (h : Knows i n none stored s) :
    (store.partitionNew articles timeout).Holds (terms feed own i)
      (fun parts t => parts.fresh.Sublist articles ∧
        parts.skipped = articles.length - parts.fresh.length ∧
        ∃ others, Knows i n none others t ∧ newUrls articles ⊆ others ∪ newUrls parts.fresh)
      (Knows i n none stored) s := by
  refine (Store.holds_lookUp hstore _ timeout h).bind fun result t ht => ?_
  refine Attempt.holds_pure ⟨List.filter_sublist, rfl, _, ht, ?_⟩
  rintro u hu
  obtain ⟨a, ha, rfl⟩ := List.mem_map.mp hu
  -- an article is left out only if its URL has been found
  by_cases hfound : (result.lookup a.url).isSome = true
  · exact Or.inl (Or.inr hfound)
  · refine Or.inr (List.mem_map_of_mem (List.mem_filter.mpr ⟨ha, ?_⟩))
    rw [Option.isNone_iff_eq_none, ← Option.not_isSome_iff_eq_none]
    exact hfound

/-! ## Crawling -/

/-- Setting the time of a crawl does not concern the articles. -/
theorem Sources.quiet_crawledStatement (id : Int) (time : Instant) :
    Quiet feed i (.affected (crawledStatement id time)) := by
  have hother : (crawledStatement id time).command.changed? ≠ some "articles" := by
    show some "sources" ≠ some "articles"
    decide
  exact quiet_affected rfl hother

/-- Recording the time of a crawl changes nothing that a session knows of the articles. -/
theorem Sources.holds_markCrawled (id : Int) (time : Instant) (h : Knows i n none stored s) :
    (markCrawled id time).Holds (terms feed own i) (fun _ => Knows i n none stored)
      (Knows i n none stored) s := by
  have hexecute : (execute (crawledStatement id time)).Holds (terms feed own i)
      (fun _ => Knows i n none stored) (Knows i n none stored) s := by
    refine Attempt.holds_request ((holds_unchanged (quiet_crawledStatement id time) h).mono ?_)
    rintro (e | count) t ht
    · exact ht
    · exact ht
  exact hexecute.mapError.map fun _ _ ht => ht

namespace Source

/-- The articles that a source has at a URL, fetched at any time. -/
def Offers (source : Source) (reader : Feed.Reader) (text : String) (a : NewArticle) : Prop :=
  ∃ channel now, reader.channel? text = some channel ∧ a ∈ channel.articles source.id now reader

/-- The articles of a feed. -/
theorem holds_fetchArticles (source : Source) (reader : Feed.Reader) (timeout : Span)
    (h : Knows i n none stored s) :
    (source.fetchArticles timeout reader).Holds (terms feed own i)
      (fun articles t => Knows i n none stored t ∧ ∃ channel now,
        reader.channel? (feed i source.feedUrl) = some channel ∧
          articles = channel.articles source.id now reader)
      (Knows i n none stored) s := by
  have hfetch : (Attempt.request (Failure.fetch source.feedUrl)
      (Program.request (.fetch source.feedUrl timeout))).Holds (terms feed own i)
        (fun text t => Knows i n none stored t ∧ text = feed i source.feedUrl)
        (Knows i n none stored) s := by
    refine Attempt.holds_request ((holds_quiet (quiet_fetch _ _) h).mono ?_)
    rintro (e | text) t ⟨ht, hserves⟩
    · exact ht
    · exact ⟨ht, hserves.2 text rfl⟩
  rw [fetchArticles]
  refine hfetch.bind ?_
  rintro text t ⟨ht, rfl⟩
  cases hread : reader.channel? (feed i source.feedUrl) with
  | none => exact Attempt.holds_throw ht
  | some channel =>
    refine (Attempt.holds_lift (holds_unchanged quiet_now ht)).bind fun now u hu => ?_
    exact Attempt.holds_pure ⟨hu, channel, now, rfl, rfl⟩

/-- A crawl that succeeds has added as many rows as it reports, all URLs of its feed are in the
table, and each of its articles counts once. -/
theorem holds_crawl (source : Source) (reader : Feed.Reader) {store : Store}
    (hstore : store.OfTable) (config : SearchConfig) (h : Knows i n none ∅ s) :
    (source.crawl store config reader).Holds
      (terms feed (source.Offers reader (feed i source.feedUrl)) i)
      (fun tally t => ∃ channel, reader.channel? (feed i source.feedUrl) = some channel ∧
        Knows i (n + tally.inserted) none {u | u ∈ channel.links} t ∧
        tally.inserted + tally.skipped = channel.links.length)
      (fun t => ∃ added, Knows i added none ∅ t) s := by
  rw [crawl]
  have herror : ∀ t : Counted ι, Knows i n none ∅ t → ∃ added, Knows i added none ∅ t :=
    fun t ht => ⟨n, ht⟩
  refine ((holds_fetchArticles source reader config.timeout h).mono_error herror).bind ?_
  rintro articles t ⟨ht, channel, now, hread, rfl⟩
  refine ((Store.holds_partitionNew hstore _ config.timeout ht).mapError.mono_error herror).bind ?_
  rintro parts u ⟨hfresh, hskipped, others, hu, hcovered⟩
  have hoffers : ∀ a ∈ parts.fresh, source.Offers reader (feed i source.feedUrl) a :=
    fun a ha => ⟨channel, now, hread, hfresh.subset ha⟩
  refine ((Articles.holds_createAll hoffers hu).mono_error herror).bind ?_
  rintro inserted v ⟨hv, hinserted⟩
  -- what follows leaves the table as it is, but may fail with the rows added
  have hafter : ∀ t, Knows i (n + inserted) none (others ∪ newUrls parts.fresh) t →
      ∃ added, Knows i added none ∅ t := fun t ht => ⟨_, ht.mono (Set.empty_subset _)⟩
  refine (Attempt.holds_lift (holds_unchanged quiet_now hv)).bind fun time w hw => ?_
  refine ((Sources.holds_markCrawled source.id time hw).mono_error hafter).bind fun _ x hx => ?_
  refine (Attempt.holds_lift (holds_unchanged (quiet_log _) hx)).bind fun _ y hy => ?_
  refine Attempt.holds_pure ⟨channel, hread, hy.mono ?_, ?_⟩
  · intro u hu
    refine hcovered ?_
    rw [newUrls, Feed.Channel.map_url_articles]
    exact hu
  · have hlength : channel.links.length = (channel.articles source.id now reader).length := by
      rw [← Feed.Channel.map_url_articles channel source.id now reader, List.length_map]
    have hle := hfresh.length_le
    show inserted + (parts.skipped + (parts.fresh.length - inserted)) = _
    omega

end Source

end FeedArchive
