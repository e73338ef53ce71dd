import FeedArchive.Proofs.Pattern.Containment
import FeedArchive.Proofs.Text.Words
import FeedArchive.Search.Entity

/-!
# What a query asks for

`Entity.Sought` says which records a query with filters asks for, in terms of the words of the
query and the fields of a record. The predicates composed for the keywords of the query and the
filters say the same (`satisfies_compose_iff`): nothing in them shows that they go through escaped
patterns and a matcher.
-/

namespace FeedArchive

open Pattern (Occurs)
open Text (IsWord)

/-- Every word of the query occurs in the title or the summary, and every filter that is set
admits the article. -/
structure Article.Sought (query : String) (filters : ArticleFilters) (a : Article) : Prop where
  words : ∀ w, IsWord query.toList w → Occurs w a.title.toList ∨ Occurs w a.summary.toList
  sourceId : ∀ n ∈ filters.sourceId, a.sourceId = n
  publishedFrom : ∀ i ∈ filters.publishedFrom, i.le a.publishedAt = true
  publishedTo : ∀ i ∈ filters.publishedTo, a.publishedAt.le i = true

/-- Every word of the query occurs in the name or the URL of the feed, and every filter that is set
admits the source. -/
structure Source.Sought (query : String) (filters : SourceFilters) (s : Source) : Prop where
  words : ∀ w, IsWord query.toList w → Occurs w s.name.toList ∨ Occurs w s.feedUrl.toList
  sourceType : ∀ t ∈ filters.sourceType, s.sourceType = t
  active : ∀ b ∈ filters.active, s.active = b

/-- The records that a query with filters asks for. -/
def Entity.Sought : (e : Entity) → String → e.Filters → e.Record → Prop
  | .article => Article.Sought
  | .source => Source.Sought

/-! ## Keywords -/

/-- The keywords that are accepted are the words of the query. -/
theorem KeywordLimits.text_of_parse {limits : KeywordLimits} {query : String}
    {keywords : List Keyword} (h : limits.parse query = .ok keywords) :
    keywords.map (·.text.toList) = Text.words query.toList := by
  have hks : keywords = query.blankWords.map Keyword.mk := by
    simp only [KeywordLimits.parse] at h
    split at h
    · cases h
    · split at h
      · cases h
      · split at h
        · cases h
        · cases h
          rfl
  rw [hks, String.blankWords, List.map_map, List.map_map]
  refine (List.map_congr_left fun w _ => ?_).trans (List.map_id _)
  simp

/-- What is wrong with a query is a fault of the input. -/
theorem KeywordLimits.isValidation_of_parse {limits : KeywordLimits} {query : String}
    {cause : SearchError} (h : limits.parse query = .error cause) :
    cause.isValidation = true := by
  simp only [KeywordLimits.parse] at h
  split at h
  · cases h
    rfl
  · split at h
    · cases h
      rfl
    · split at h
      · cases h
        rfl
      · cases h

namespace Entity

/-- The texts of a record in which keywords are looked for. -/
def keywordTexts : (e : Entity) → e.Record → String × String
  | .article, a => (Article.title a, Article.summary a)
  | .source, s => (Source.name s, Source.feedUrl s)

/-- The predicate of a keyword holds if it occurs in one of the texts. -/
theorem keywordPredicate_holds_iff (e : Entity) (k : Keyword) (r : e.Record) :
    (e.keywordPredicate k).holds (e.value r) = true ↔
      Occurs k.text.toList (e.keywordTexts r).1.toList ∨
        Occurs k.text.toList (e.keywordTexts r).2.toList := by
  have hmatch : ∀ s : String,
      (Pattern.Like.compile k.text.likeEscape.toList).matches s.toList = true
        ↔ Occurs k.text.toList s.toList := fun s => by
    rw [Pattern.toList_likeEscape, Pattern.Like.matches_compile_escape]
  cases e <;>
    simp only [keywordPredicate, Predicate.holds, keywordFields, List.any_cons, List.any_nil,
      Bool.or_false, Bool.or_eq_true, value, hmatch, keywordTexts]

/-- The predicates of the keywords hold if every word of the query occurs. -/
theorem all_keywordPredicate_iff {limits : KeywordLimits} {query : String}
    {keywords : List Keyword} (h : limits.parse query = .ok keywords) (e : Entity)
    (r : e.Record) :
    (∀ p ∈ keywords.map e.keywordPredicate, p.holds (e.value r) = true) ↔
      ∀ w, IsWord query.toList w →
        Occurs w (e.keywordTexts r).1.toList ∨ Occurs w (e.keywordTexts r).2.toList := by
  simp only [List.forall_mem_map, keywordPredicate_holds_iff, ← Text.mem_words_iff,
    ← KeywordLimits.text_of_parse h]

/-! ## Filters -/

/-- An article passes the filters that are set if it has the source and lies between the bounds. -/
theorem all_articlePredicates_iff (f : ArticleFilters) (a : Article) :
    (∀ p ∈ f.predicates, p.holds (Entity.article.value a) = true) ↔
      (∀ n ∈ f.sourceId, a.sourceId = n) ∧ (∀ i ∈ f.publishedFrom, i.le a.publishedAt = true) ∧
        ∀ i ∈ f.publishedTo, a.publishedAt.le i = true := by
  obtain ⟨sourceId, earliest, latest⟩ := f
  simp only [ArticleFilters.predicates, List.mem_append, or_imp, forall_and, and_assoc]
  refine and_congr ?_ (and_congr ?_ ?_)
  · cases sourceId with
    | none => simp
    | some n => simpa [Predicate.holds, value, FilterValue.equals] using eq_comm
  · cases earliest with
    | none => simp
    | some i => simp [Predicate.holds, value]
  · cases latest with
    | none => simp
    | some i => simp [Predicate.holds, value]

/-- A source passes the filters that are set if it is of the kind and active or not as they say. -/
theorem all_sourcePredicates_iff (f : SourceFilters) (s : Source) :
    (∀ p ∈ f.predicates, p.holds (Entity.source.value s) = true) ↔
      (∀ t ∈ f.sourceType, s.sourceType = t) ∧ ∀ b ∈ f.active, s.active = b := by
  have hname : ∀ t u : SourceType, t.name = u.name ↔ t = u := by
    intro t u
    cases t <;> cases u <;> decide
  obtain ⟨sourceType, active⟩ := f
  simp only [SourceFilters.predicates, List.mem_append, or_imp, forall_and]
  refine and_congr ?_ ?_
  · cases sourceType with
    | none => simp
    | some t => simpa [Predicate.holds, value, FilterValue.equals, hname] using eq_comm
  · cases active with
    | none => simp
    | some b => simpa [Predicate.holds, value, FilterValue.equals] using eq_comm

/-- A record satisfies what is composed for a query if it is sought. -/
theorem satisfies_compose_iff {limits : KeywordLimits} {query : String}
    {keywords : List Keyword} (h : limits.parse query = .ok keywords) (e : Entity)
    (filters : e.Filters) (r : e.Record) :
    e.satisfies (e.compose keywords filters) r = true ↔ e.Sought query filters r := by
  rw [satisfies, List.all_eq_true, compose]
  simp only [List.mem_append, or_imp, forall_and]
  rw [all_keywordPredicate_iff h]
  cases e with
  | article =>
    rw [predicates, all_articlePredicates_iff]
    constructor
    · rintro ⟨hwords, hid, hfrom, hto⟩
      exact ⟨hwords, hid, hfrom, hto⟩
    · rintro ⟨hwords, hid, hfrom, hto⟩
      exact ⟨hwords, hid, hfrom, hto⟩
  | source =>
    rw [predicates, all_sourcePredicates_iff]
    constructor
    · rintro ⟨hwords, htype, hactive⟩
      exact ⟨hwords, htype, hactive⟩
    · rintro ⟨hwords, htype, hactive⟩
      exact ⟨hwords, htype, hactive⟩

end Entity

end FeedArchive
