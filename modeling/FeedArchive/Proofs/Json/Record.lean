import FeedArchive.Json.Record
import FeedArchive.Proofs.Json.Reading
import FeedArchive.Proofs.Time.LooseTimestamp

/-!
# Records and their objects

The object that is written for a record is plain, so that it is read back from its text, and the
record is decoded from it, as long as the integers of the record have 64 bits and the years of its
timestamps four digits (`InRange`).
-/

namespace FeedArchive

open Json

/-! ## Records in range -/

/-- The year of an instant has four digits in its text. -/
def Instant.HasPlainYear (i : Instant) : Prop :=
  0 ≤ i.date.year ∧ i.date.year ≤ 9999

/-- All integers of an article have 64 bits, and all years four digits. -/
structure Article.InRange (a : Article) : Prop where
  id : Decimal.inInt64 a.id = true
  sourceId : Decimal.inInt64 a.sourceId = true
  publishedAt : a.publishedAt.HasPlainYear
  createdAt : a.createdAt.HasPlainYear

/-- See `Article.InRange`. -/
structure NewArticle.InRange (a : NewArticle) : Prop where
  sourceId : Decimal.inInt64 a.sourceId = true
  publishedAt : a.publishedAt.HasPlainYear

/-- See `Article.InRange`. -/
structure Source.InRange (s : Source) : Prop where
  id : Decimal.inInt64 s.id = true
  lastCrawledAt : ∀ i ∈ s.lastCrawledAt, i.HasPlainYear

/-! ## Values of fields -/

namespace Json

attribute [simp] Value.IsPlain.null Value.IsPlain.bool Value.IsPlain.int Value.IsPlain.text

/-- A time is written as a text. -/
@[simp] theorem Value.isPlain_ofTime (i : Instant) : (Value.ofTime i).IsPlain := .text _

/-- A kind of source is written as a text. -/
@[simp] theorem Value.isPlain_ofSourceType (t : SourceType) : (Value.ofSourceType t).IsPlain :=
  .text _

/-- An integer of 64 bits is read as itself. -/
theorem Value.int?_int {n : Int} (h : Decimal.inInt64 n = true) : (Value.int n).int? = some n :=
  if_pos h

/-- The text of an instant whose year has four digits is read as the instant. -/
theorem Value.time?_ofTime {i : Instant} (h : i.HasPlainYear) :
    (Value.ofTime i).time? = some i := by
  rw [Value.ofTime, Value.time?, Value.text?, Option.bind_some, Instant.text, String.toList_ofList,
    Layout.readInstant_chars h]

/-- A time that may be missing is read back, and `null` as none. -/
theorem Value.orNull?_ofTime {i : Option Instant} (h : ∀ j ∈ i, j.HasPlainYear) :
    ((i.map Value.ofTime).getD .null).orNull? Value.time? = some i := by
  cases i with
  | none => rfl
  | some i =>
    rw [Option.map_some, Option.getD_some, Value.orNull?, Value.time?_ofTime (h i rfl),
      Option.map_some]
    intro hnull
    cases hnull

/-- The name of a kind is read as the kind. -/
theorem Value.sourceType?_ofSourceType (t : SourceType) :
    (Value.ofSourceType t).sourceType? = some t := by
  cases t <;> rfl

end Json

/-! ## Records and their objects -/

/-- An article is written in texts and integers. -/
theorem Article.isPlain_toJson (a : Article) : a.toJson.IsPlain :=
  .object (by simp [Article.members])

/-- The members of an article are read as the article, with others behind them. -/
theorem Article.ofFields?_members {a : Article} (h : a.InRange) (more : Fields) :
    Article.ofFields? (a.members ++ more) = some a := by
  simp [Article.ofFields?, Fields.get?, Article.members, List.lookup_cons, Value.text?,
    Value.int?_int h.id, Value.int?_int h.sourceId, Value.time?_ofTime h.publishedAt,
    Value.time?_ofTime h.createdAt]

/-- What is written for an article in range is read as the article. -/
theorem Article.ofJson?_toJson {a : Article} (h : a.InRange) :
    Article.ofJson? a.toJson = some a := by
  have hfields := Article.ofFields?_members h []
  rwa [List.append_nil] at hfields

/-- What is written for articles in range is read as the articles, in order. -/
theorem Article.listOfJson?_listToJson {articles : List Article} (h : ∀ a ∈ articles, a.InRange) :
    Article.listOfJson? (Article.listToJson articles) = some articles := by
  rw [Article.listToJson, Article.listOfJson?]
  induction articles with
  | nil => rfl
  | cons a articles ih =>
    obtain ⟨ha, harticles⟩ := List.forall_mem_cons.mp h
    rw [List.map_cons, List.mapM_cons, Article.ofJson?_toJson ha, ih harticles]
    rfl

/-- An article with the name of its source is written in texts and integers. -/
theorem ArticleWithSource.isPlain_toJson (a : ArticleWithSource) : a.toJson.IsPlain :=
  .object (by simp [Article.members])

/-- Integers of 64 bits lie within the range of numbers that are set aside. -/
theorem natAbs_lt_rangeLimit {n : Int} (h : Decimal.inInt64 n = true) : n.natAbs < rangeLimit := by
  have hlimit : 2 ^ 63 < rangeLimit := by decide +kernel
  rw [Decimal.inInt64, Bool.and_eq_true, decide_eq_true_eq, decide_eq_true_eq, Decimal.minInt64,
    Decimal.maxInt64] at h
  omega

/-- What is written for an article with its source can be set aside. -/
theorem ArticleWithSource.isWhole_toJson {a : ArticleWithSource} (h : a.article.InRange) :
    a.toJson.isWhole 127 = true := by
  simp [ArticleWithSource.toJson, Article.members, Value.isWhole, membersAreWhole, Value.ofTime,
    natAbs_lt_rangeLimit h.id, natAbs_lt_rangeLimit h.sourceId]

/-- What is written for an article in range with the name of its source is read as both. -/
theorem ArticleWithSource.ofJson?_toJson {a : ArticleWithSource} (h : a.article.InRange) :
    ArticleWithSource.ofJson? a.toJson = some a := by
  have hmembers : a.toJson.members? ("source_name" :: Article.fieldNames)
      = some (a.article.members ++ [("source_name", .text a.sourceName)]) := rfl
  have hname : Fields.get? (a.article.members ++ [("source_name", .text a.sourceName)])
      "source_name" Value.text? = some a.sourceName := rfl
  simp [ArticleWithSource.ofJson?, isWhole_toJson h, hmembers, hname, Article.ofFields?_members h]

/-- An article to be stored is written in texts and integers. -/
theorem NewArticle.isPlain_toJson (a : NewArticle) : a.toJson.IsPlain :=
  .object (by simp)

/-- What is written for an article to be stored is read as it, if it is in range. -/
theorem NewArticle.ofJson?_toJson {a : NewArticle} (h : a.InRange) :
    NewArticle.ofJson? a.toJson = some a := by
  simp [NewArticle.ofJson?, NewArticle.toJson, Value.fields?, Value.members?, Fields.areDistinct,
    NewArticle.fieldNames, Fields.get?, List.lookup_cons, Value.text?, Value.int?_int h.sourceId,
    Value.time?_ofTime h.publishedAt]

/-- A source is written in texts, integers, truth values and `null`. -/
theorem Source.isPlain_toJson (s : Source) : s.toJson.IsPlain := by
  refine .object ?_
  cases s.lastCrawledAt <;> simp

/-- What is written for a source in range is read as the source. -/
theorem Source.ofJson?_toJson {s : Source} (h : s.InRange) : Source.ofJson? s.toJson = some s := by
  simp [Source.ofJson?, Source.toJson, Value.fields?, Value.members?, Fields.areDistinct,
    Source.fieldNames, Fields.get?, Fields.getOrNull?, List.lookup_cons, Value.text?, Value.bool?,
    Value.int?_int h.id, Value.sourceType?_ofSourceType, Value.orNull?_ofTime h.lastCrawledAt]

/-- A source to be stored is written in texts and truth values. -/
theorem NewSource.isPlain_toJson (s : NewSource) : s.toJson.IsPlain :=
  .object (by simp)

/-- What is written for a source to be stored is read as it. -/
theorem NewSource.ofJson?_toJson (s : NewSource) : NewSource.ofJson? s.toJson = some s := by
  simp [NewSource.ofJson?, NewSource.toJson, Value.fields?, Value.members?, Fields.areDistinct,
    NewSource.fieldNames, Fields.get?, List.lookup_cons, Value.text?, Value.bool?,
    Value.sourceType?_ofSourceType]

end FeedArchive
