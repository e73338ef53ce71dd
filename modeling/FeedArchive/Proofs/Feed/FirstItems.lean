import FeedArchive.Feed.Channel
import FeedArchive.Proofs.Lists
import FeedArchive.Proofs.Text.Trimming
import Mathlib.Data.List.Forall2

/-!
# First items

Which items of a channel become articles. `FirstWith` says it of the items alone, without a word
about the links collected so far: an item is kept if it has a link that no item before it has.
`Item.Gives` says what the article of an item has from it. The articles of a channel are those that
the first items give, in the order of the channel, and each link has exactly one of them
(`Channel.articles_onePerLink`).

Nothing hangs on how dates are read: it holds for every reader.
-/

namespace FeedArchive.Feed

open Text (isBlank Trims)

/-! ## The links of a channel

The URLs of the articles of a channel. They depend neither on the source nor on the time of fetching
nor on how dates are read. -/

/-- The URL of an item, if it has a link. -/
def Item.url? (item : Item) : Option String :=
  let url := (item.link.getD "").trimBlank
  if url.isEmpty then none else some url

/-- The URLs of the articles of a channel. -/
def Channel.links (channel : Channel) : List String :=
  distinct (channel.items.filterMap Item.url?)

/-- No URL is in two articles of a channel. -/
theorem Channel.nodup_links (channel : Channel) : channel.links.Nodup :=
  nodup_distinct _

/-- An item gives an article with its URL, if it has one. -/
theorem Item.map_url_article? (item : Item) (sourceId : Int) (fetchedAt : Instant)
    (reader : Reader) : (item.article? sourceId fetchedAt reader).map (·.url) = item.url? := by
  rw [article?, url?]
  by_cases h : (item.link.getD "").trimBlank.isEmpty = true
  · simp only [h, if_true, Option.map_none]
  · simp only [h]
    rfl

/-- Each article of a channel has one of its links, and the other way round, in order. -/
theorem Channel.map_url_articles (channel : Channel) (sourceId : Int) (fetchedAt : Instant)
    (reader : Reader) :
    (channel.articles sourceId fetchedAt reader).map (·.url) = channel.links := by
  rw [articles, map_distinctBy, links, List.map_filterMap]
  simp only [Item.map_url_article?]

/-! ## Items and articles -/

/-- The item has a link that is not blank, which is this URL with white space around it. -/
def Item.HasLink (item : Item) (url : String) : Prop :=
  url ≠ "" ∧ ∃ link ∈ item.link, Trims link.toList url.toList

/-- An item gives an article if it has all its parts from the item, or what stands in for what the
item lacks. -/
structure Item.Gives (readDate : String → Option Instant) (sourceId : Int) (fetchedAt : Instant)
    (item : Item) (a : NewArticle) : Prop where
  url : item.HasLink a.url
  title : (∃ title ∈ item.title, Trims title.toList a.title.toList ∧ a.title ≠ "") ∨
    (∀ title ∈ item.title, ∀ c ∈ title.toList, isBlank c = true) ∧ a.title = untitled
  summary : (∃ text ∈ item.description, Trims text.toList a.summary.toList) ∨
    item.description = none ∧ a.summary = ""
  publishedAt : (∃ date ∈ item.date, readDate date = some a.publishedAt) ∨
    (∀ date ∈ item.date, readDate date = none) ∧ a.publishedAt = fetchedAt
  sourceId : a.sourceId = sourceId

/-- The item stands at this position, and is the first one with this link. -/
structure FirstWith (items : List Item) (url : String) (i : Nat) (item : Item) : Prop where
  here : items[i]? = some item
  hasLink : item.HasLink url
  first : ∀ earlier ∈ items.take i, ¬ earlier.HasLink url

/-- The articles are those that the first items with a link give, in the order of the items. -/
def InOrder (gives : Item → NewArticle → Prop) (items : List Item) (articles : List NewArticle) :
    Prop :=
  ∃ positions : List Nat, positions.Pairwise (· < ·) ∧
    (∀ i, i ∈ positions ↔ ∃ url item, FirstWith items url i item) ∧
    List.Forall₂ (fun i a => ∃ item, FirstWith items a.url i item ∧ gives item a) positions articles

/-- There is one article for each link of the items. -/
structure OnePerLink (gives : Item → NewArticle → Prop) (items : List Item)
    (articles : List NewArticle) : Prop where
  inOrder : InOrder gives items articles
  nodup : (articles.map (·.url)).Nodup
  /-- URLs are neither empty nor bounded by white space. -/
  tight : ∀ a ∈ articles, a.url ≠ "" ∧ Trims a.url.toList a.url.toList
  titled : ∀ a ∈ articles, ∃ c ∈ a.title.toList, isBlank c = false
  /-- No link is lost, and its article is that of the first item with it. -/
  complete : ∀ item ∈ items, ∀ url, item.HasLink url → ∃ a ∈ articles, a.url = url ∧
    ∃ i first, FirstWith items url i first ∧ gives first a

variable {reader : Reader} {sourceId : Int} {fetchedAt : Instant} {item : Item}
  {items : List Item} {a : NewArticle} {url : String}

/-! ## Items with links -/

/-- A text that is missing is the same as an empty one. -/
theorem trimBlank_getD_iff {text : Option String} {inner : String} :
    (text.getD "").trimBlank = inner ↔
      (∃ t ∈ text, Trims t.toList inner.toList) ∨ text = none ∧ inner = "" := by
  cases text with
  | none =>
    have hempty : "".trimBlank = "" := rfl
    simp [hempty, eq_comm]
  | some t => simp [Text.trims_trimBlank_iff]

/-- The URL of an item is its link, trimmed and not empty. -/
theorem Item.url?_eq_some_iff : item.url? = some url ↔ item.HasLink url := by
  have hlink : item.HasLink url ↔ url ≠ "" ∧ (item.link.getD "").trimBlank = url := by
    rw [HasLink, trimBlank_getD_iff]
    apply and_congr_right
    intro hne
    simp [hne]
  rw [hlink, url?]
  by_cases hempty : (item.link.getD "").trimBlank = ""
  · simp only [hempty, String.isEmpty_iff, if_true]
    constructor
    · intro h
      cases h
    · rintro ⟨hne, rfl⟩
      exact absurd rfl hne
  · simp only [String.isEmpty_iff, hempty, if_false, Option.some.injEq]
    constructor
    · rintro rfl
      exact ⟨hempty, rfl⟩
    · exact And.right

/-- An item has one link at most. -/
theorem Item.HasLink.unique {url' : String} (h : item.HasLink url) (h' : item.HasLink url') :
    url = url' := by
  rw [← url?_eq_some_iff] at h h'
  exact Option.some.inj (h.symm.trans h')

/-! ## What an item gives -/

/-- The title of an item, or what stands in for it. -/
theorem Item.title_or_untitled {trimmed given : String}
    (htrimmed : (item.title.getD "").trimBlank = trimmed)
    (hgiven : given = if trimmed.isEmpty then untitled else trimmed) :
    (∃ title ∈ item.title, Trims title.toList given.toList ∧ given ≠ "") ∨
      (∀ title ∈ item.title, ∀ c ∈ title.toList, isBlank c = true) ∧ given = untitled := by
  rw [trimBlank_getD_iff] at htrimmed
  by_cases hblank : trimmed = ""
  · subst hblank
    refine Or.inr ⟨fun title htitle => ?_, hgiven⟩
    rcases htrimmed with ⟨t, ht, htrims⟩ | ⟨hnone, -⟩
    · obtain rfl := Option.mem_unique ht htitle
      exact Text.trims_nil_iff.mp htrims
    · rw [hnone] at htitle
      cases htitle
  · obtain rfl : given = trimmed := by simpa [hblank] using hgiven
    rcases htrimmed with ⟨t, ht, htrims⟩ | ⟨-, hempty⟩
    · exact Or.inl ⟨t, ht, htrims, hblank⟩
    · exact absurd hempty hblank

/-- The parts of an article that do not hang on dates. -/
theorem Item.parts_of_article? (h : item.article? sourceId fetchedAt reader = some a) :
    (a.title = if (item.title.getD "").trimBlank.isEmpty then untitled
        else (item.title.getD "").trimBlank) ∧
      (item.description.getD "").trimBlank = a.summary ∧ a.sourceId = sourceId := by
  simp only [article?] at h
  split at h
  · cases h
  · cases h
    refine ⟨?_, rfl, rfl⟩
    with_reducible rfl

/-- The date of an article is that of its item, or else the time of fetching. -/
theorem Item.publishedAt_of_article? (h : item.article? sourceId fetchedAt reader = some a) :
    a.publishedAt = (item.date.bind (reader.date? fetchedAt)).getD fetchedAt := by
  simp only [article?] at h
  split at h
  · cases h
  · cases h
    rfl

/-- What is made of an item has all its parts from it. -/
theorem Item.gives_of_article? (h : item.article? sourceId fetchedAt reader = some a) :
    item.Gives (reader.date? fetchedAt) sourceId fetchedAt a := by
  have hurl : item.url? = some a.url := by
    rw [← item.map_url_article? sourceId fetchedAt reader, h]
    rfl
  obtain ⟨htitle, hsummary, hsource⟩ := parts_of_article? h
  have hpublished := publishedAt_of_article? h
  refine ⟨url?_eq_some_iff.mp hurl, title_or_untitled rfl htitle, trimBlank_getD_iff.mp hsummary,
    ?_, hsource⟩
  cases hdate : item.date with
  | none => exact Or.inr ⟨by simp, by simpa [hdate] using hpublished⟩
  | some date =>
    cases hread : reader.date? fetchedAt date with
    | none => exact Or.inr ⟨by simp [hread], by simpa [hdate, hread] using hpublished⟩
    | some time =>
      refine Or.inl ⟨date, rfl, ?_⟩
      rw [hpublished, hdate, Option.bind_some, hread, Option.getD_some]

/-- The title of an article is never blank. -/
theorem Item.Gives.exists_not_blank {readDate : String → Option Instant}
    (h : item.Gives readDate sourceId fetchedAt a) :
    ∃ c ∈ a.title.toList, isBlank c = false := by
  rcases h.title with ⟨title, -, htrims, hne⟩ | ⟨-, huntitled⟩
  · cases hchars : a.title.toList with
    | nil => exact absurd (String.toList_eq_nil_iff.mp hchars) hne
    | cons c cs => exact ⟨c, List.mem_cons_self, htrims.head c (by rw [hchars]; rfl)⟩
  · rw [huntitled]
    exact ⟨'タ', by simp [untitled], rfl⟩

/-! ## One item more -/

/-- The first item with a URL is one of the items. -/
theorem FirstWith.lt {i : Nat} (h : FirstWith items url i item) : i < items.length :=
  (List.getElem?_eq_some_iff.mp h.here).1

/-- An item that comes last changes nothing for those before it, and is the first one with its link
if none of them has the link. -/
theorem firstWith_concat {i : Nat} {last : Item} :
    FirstWith (items ++ [last]) url i item ↔ FirstWith items url i item ∨
      i = items.length ∧ item = last ∧ last.HasLink url ∧
        ∀ earlier ∈ items, ¬ earlier.HasLink url := by
  by_cases hlt : i < items.length
  · have hhere : (items ++ [last])[i]? = items[i]? := List.getElem?_append_left hlt
    have htake : (items ++ [last]).take i = items.take i :=
      List.take_append_of_le_length (Nat.le_of_lt hlt)
    constructor
    · rintro ⟨here, hasLink, first⟩
      exact Or.inl ⟨hhere ▸ here, hasLink, htake ▸ first⟩
    · rintro (⟨here, hasLink, first⟩ | ⟨rfl, -⟩)
      · exact ⟨hhere ▸ here, hasLink, htake ▸ first⟩
      · exact absurd hlt (Nat.lt_irrefl _)
  · constructor
    · intro h
      have hlast : i = items.length := by
        have := h.lt
        simp only [List.length_append, List.length_singleton] at this
        omega
      subst hlast
      obtain ⟨here, hasLink, first⟩ := h
      rw [List.getElem?_concat_length, Option.some.injEq] at here
      subst here
      rw [List.take_left] at first
      exact Or.inr ⟨rfl, rfl, hasLink, first⟩
    · rintro (h | ⟨rfl, rfl, hasLink, first⟩)
      · exact absurd h.lt hlt
      · exact ⟨List.getElem?_concat_length, hasLink, by rwa [List.take_left]⟩

namespace InOrder

variable {gives : Item → NewArticle → Prop} {articles : List NewArticle} {last : Item}

/-- Nothing is given by an item without a link, or with the link of an item before it. -/
theorem skip (h : InOrder gives items articles)
    (hold : ∀ url, last.HasLink url → ∃ earlier ∈ items, earlier.HasLink url) :
    InOrder gives (items ++ [last]) articles := by
  obtain ⟨positions, hsorted, hmem, hgives⟩ := h
  refine ⟨positions, hsorted, fun i => ?_, hgives.imp ?_⟩
  · rw [hmem]
    constructor
    · rintro ⟨url, item, h⟩
      exact ⟨url, item, firstWith_concat.mpr (Or.inl h)⟩
    · rintro ⟨url, item, h⟩
      rcases firstWith_concat.mp h with h | ⟨-, -, hlink, hnew⟩
      · exact ⟨url, item, h⟩
      · obtain ⟨earlier, hearlier, hsame⟩ := hold url hlink
        exact absurd hsame (hnew earlier hearlier)
  · rintro i a ⟨item, h, hitem⟩
    exact ⟨item, firstWith_concat.mpr (Or.inl h), hitem⟩

/-- An item with a link that is new gives the next article. -/
theorem keep (h : InOrder gives items articles) (hlink : last.HasLink a.url)
    (hnew : ∀ earlier ∈ items, ¬ earlier.HasLink a.url) (hlast : gives last a) :
    InOrder gives (items ++ [last]) (articles ++ [a]) := by
  obtain ⟨positions, hsorted, hmem, hgives⟩ := h
  have hfirst : FirstWith (items ++ [last]) a.url items.length last :=
    firstWith_concat.mpr (Or.inr ⟨rfl, rfl, hlink, hnew⟩)
  refine ⟨positions ++ [items.length], ?_, fun i => ?_, ?_⟩
  · refine List.pairwise_append.mpr ⟨hsorted, List.pairwise_singleton _ _, ?_⟩
    intro i hi j hj
    obtain ⟨url, item, h⟩ := (hmem i).mp hi
    rw [List.mem_singleton.mp hj]
    exact h.lt
  · rw [List.mem_append, hmem, List.mem_singleton]
    constructor
    · rintro (⟨url, item, h⟩ | rfl)
      · exact ⟨url, item, firstWith_concat.mpr (Or.inl h)⟩
      · exact ⟨a.url, last, hfirst⟩
    · rintro ⟨url, item, h⟩
      rcases firstWith_concat.mp h with h | ⟨heq, -⟩
      · exact Or.inl ⟨url, item, h⟩
      · exact Or.inr heq
  · apply List.rel_append
    · apply hgives.imp
      rintro i a ⟨item, h, hitem⟩
      exact ⟨item, firstWith_concat.mpr (Or.inl h), hitem⟩
    · exact .cons ⟨last, hfirst, hlast⟩ .nil

/-- Each article is given by the first item with its URL. -/
theorem exists_firstWith (h : InOrder gives items articles) (ha : a ∈ articles) :
    ∃ i item, FirstWith items a.url i item ∧ gives item a := by
  obtain ⟨positions, -, -, hgives⟩ := h
  induction hgives with
  | nil => cases ha
  | cons hfirst _ ih =>
    rcases List.mem_cons.mp ha with rfl | ha
    · exact ⟨_, hfirst⟩
    · exact ih ha

end InOrder

/-! ## All items -/

/-- The URLs of the articles so far are the links of the items so far. -/
theorem mem_urls_article? : url ∈ (items.filterMap
    (·.article? sourceId fetchedAt reader)).map (·.url) ↔ ∃ item ∈ items, item.HasLink url := by
  rw [List.map_filterMap]
  simp only [Item.map_url_article?, List.mem_filterMap, Item.url?_eq_some_iff]

/-- The articles of items are what the first ones with a link give. -/
theorem inOrder_distinctBy (reader : Reader) (sourceId : Int) (fetchedAt : Instant)
    (items : List Item) :
    InOrder (Item.Gives (reader.date? fetchedAt) sourceId fetchedAt) items
      (distinctBy NewArticle.url (items.filterMap (·.article? sourceId fetchedAt reader))) := by
  -- items are added at the end, so that what stands before an item never changes
  induction items using List.reverseRecOn with
  | nil =>
    refine ⟨[], .nil, fun i => ⟨by simp, ?_⟩, .nil⟩
    rintro ⟨url, item, h⟩
    exact absurd h.lt (Nat.not_lt_zero i)
  | append_singleton items last ih =>
    rw [List.filterMap_append]
    cases hlast : last.article? sourceId fetchedAt reader with
    | none =>
      simp only [List.filterMap_cons, hlast, List.filterMap_nil, List.append_nil]
      refine ih.skip fun url hlink => ?_
      rw [← Item.url?_eq_some_iff, ← last.map_url_article? sourceId fetchedAt reader,
        hlast] at hlink
      cases hlink
    | some a =>
      have hgives := Item.gives_of_article? hlast
      simp only [List.filterMap_cons, hlast, List.filterMap_nil, distinctBy_concat]
      by_cases hold : a.url ∈ (items.filterMap
          (·.article? sourceId fetchedAt reader)).map (·.url)
      · rw [if_pos hold]
        refine ih.skip fun url hlink => ?_
        rw [hlink.unique hgives.url]
        exact mem_urls_article?.mp hold
      · rw [if_neg hold]
        refine ih.keep hgives.url (fun earlier hearlier hlink => hold ?_) hgives
        exact mem_urls_article?.mpr ⟨earlier, hearlier, hlink⟩

/-- A channel has one article for each link of its items, that of the first item with the link, in
the order of the items, however dates are read. -/
theorem Channel.articles_onePerLink (channel : Channel) (sourceId : Int) (fetchedAt : Instant)
    (reader : Reader) :
    OnePerLink (Item.Gives (reader.date? fetchedAt) sourceId fetchedAt) channel.items
      (channel.articles sourceId fetchedAt reader) := by
  have hinOrder := inOrder_distinctBy reader sourceId fetchedAt channel.items
  have hurls := channel.map_url_articles sourceId fetchedAt reader
  refine ⟨hinOrder, hurls ▸ channel.nodup_links, fun a ha => ?_, fun a ha => ?_, ?_⟩
  · obtain ⟨i, item, hfirst, -⟩ := hinOrder.exists_firstWith ha
    obtain ⟨hne, link, -, htrims⟩ := hfirst.hasLink
    exact ⟨hne, htrims.head, htrims.last, [], [], by simp⟩
  · obtain ⟨i, item, -, hgives⟩ := hinOrder.exists_firstWith ha
    exact hgives.exists_not_blank
  · intro item hitem url hlink
    have hurl : url ∈ (channel.articles sourceId fetchedAt reader).map (·.url) := by
      rw [hurls, links, mem_distinct, List.mem_filterMap]
      exact ⟨item, hitem, Item.url?_eq_some_iff.mpr hlink⟩
    obtain ⟨a, ha, rfl⟩ := List.mem_map.mp hurl
    exact ⟨a, ha, rfl, hinOrder.exists_firstWith ha⟩

end FeedArchive.Feed
