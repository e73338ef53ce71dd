import FeedArchive.Proofs.Search.Parameter
import FeedArchive.Search.Input

/-!
# Reading filters

`ArticleFilters.Judges` says what comes of three texts that are read as filters on articles: filters
if each text stands for something, and otherwise the failure of the first text that does not.
Reading them comes to just this (`read_eq_iff`), and filters that are written as texts are read
again as they were (`read_written`).
-/

namespace FeedArchive.ArticleFilters

open Parameter

/-- What comes of three texts as filters. The first text that stands for nothing is reported. -/
inductive Judges (sourceId earliest latest : String) :
    Except SearchError ArticleFilters → Prop
  | accepted {n : Option Int} {i j : Option Instant} (hid : NamesId sourceId n)
      (hearliest : NamesDate earliest i) (hlatest : NamesDate latest j) :
      Judges sourceId earliest latest (.ok ⟨n, i, j⟩)
  | sourceId (hid : ∀ n, ¬NamesId sourceId n) :
      Judges sourceId earliest latest
        (.error (.invalidFilterValue ⟨"source_id", sourceId, ["正の整数"]⟩))
  | earliest {n : Option Int} (hid : NamesId sourceId n) (hearliest : ∀ i, ¬NamesDate earliest i) :
      Judges sourceId earliest latest (.error (.invalidDate earliest))
  | latest {n : Option Int} {i : Option Instant} (hid : NamesId sourceId n)
      (hearliest : NamesDate earliest i) (hlatest : ∀ j, ¬NamesDate latest j) :
      Judges sourceId earliest latest (.error (.invalidDate latest))

variable {sourceId earliest latest : String} {y : Except SearchError ArticleFilters}

/-! ## Reading -/

/-- What is judged of three texts is how they are read. -/
theorem Judges.read_eq (h : Judges sourceId earliest latest y) :
    read sourceId earliest latest = y := by
  cases h with
  | accepted hid hearliest hlatest =>
    simp only [read, id_eq_ok hid, date_eq_ok hearliest, date_eq_ok hlatest]
    rfl
  | sourceId hid =>
    simp only [read, id_eq_error hid]
    rfl
  | earliest hid hearliest =>
    simp only [read, id_eq_ok hid, date_eq_error hearliest]
    rfl
  | latest hid hearliest hlatest =>
    simp only [read, id_eq_ok hid, date_eq_ok hearliest, date_eq_error hlatest]
    rfl

/-- The texts are looked at one after the other, until one stands for nothing. -/
theorem exists_judges (sourceId earliest latest : String) :
    ∃ y, Judges sourceId earliest latest y := by
  by_cases hid : ∃ n, NamesId sourceId n
  · obtain ⟨n, hid⟩ := hid
    by_cases hearliest : ∃ i, NamesDate earliest i
    · obtain ⟨i, hearliest⟩ := hearliest
      by_cases hlatest : ∃ j, NamesDate latest j
      · obtain ⟨j, hlatest⟩ := hlatest
        exact ⟨_, .accepted hid hearliest hlatest⟩
      · exact ⟨_, .latest hid hearliest (not_exists.mp hlatest)⟩
    · exact ⟨_, .earliest hid (not_exists.mp hearliest)⟩
  · exact ⟨_, .sourceId (not_exists.mp hid)⟩

/-- Reading texts judges them. -/
theorem read_eq_iff : read sourceId earliest latest = y ↔ Judges sourceId earliest latest y := by
  refine ⟨?_, Judges.read_eq⟩
  rintro rfl
  obtain ⟨y, h⟩ := exists_judges sourceId earliest latest
  rw [h.read_eq]
  exact h

/-- Texts are refused if one of them stands for nothing. -/
theorem exists_error_iff : (∃ e, read sourceId earliest latest = .error e) ↔
    (∀ n, ¬NamesId sourceId n) ∨ (∀ i, ¬NamesDate earliest i) ∨ ∀ j, ¬NamesDate latest j := by
  constructor
  · rintro ⟨e, h⟩
    cases read_eq_iff.mp h with
    | sourceId hid => exact Or.inl hid
    | earliest _ hearliest => exact Or.inr (Or.inl hearliest)
    | latest _ _ hlatest => exact Or.inr (Or.inr hlatest)
  · intro hnot
    cases hread : read sourceId earliest latest with
    | error e => exact ⟨e, rfl⟩
    | ok f =>
      cases read_eq_iff.mp hread with
      | accepted hid hearliest hlatest =>
        rcases hnot with hnot | hnot | hnot
        · exact absurd hid (hnot _)
        · exact absurd hearliest (hnot _)
        · exact absurd hlatest (hnot _)

/-! ## Writing -/

/-- The text of an identifier, empty for none. -/
def idText (id : Option Int) : String :=
  id.elim "" Int.decimalText

/-- The text of a bound as a timestamp in UTC, empty for none. -/
def boundText (zulu : Bool) (bound : Option Instant) : String :=
  bound.elim "" fun i => i.textAt zulu 0

/-- The bound is one that timestamps are written for. -/
def IsWritable (bound : Option Instant) : Prop :=
  ∀ i ∈ bound, 0 ≤ i.date.year ∧ i.date.year ≤ 9999

/-- What is written for an identifier names it. -/
theorem namesId_idText {id : Option Int} (h : ∀ n ∈ id, 1 ≤ n ∧ n < 2 ^ 63) :
    NamesId (idText id) id := by
  cases id with
  | none => exact .unset rfl
  | some n =>
    have hwhole : Decimal.Whole (idText (some n)).toList n := by
      rw [idText, Option.elim_some, Int.decimalText, String.toList_ofList]
      exact Decimal.whole_signed n
    obtain ⟨hpos, hlt⟩ := h n rfl
    exact .id hwhole hpos hlt

/-- What is written for a bound names it. -/
theorem namesDate_boundText (zulu : Bool) {bound : Option Instant} (h : IsWritable bound) :
    NamesDate (boundText zulu bound) bound := by
  cases bound with
  | none => exact .unset rfl
  | some i =>
    refine namesDate_textAt i zulu (by decide) ?_
    rw [Instant.localDate_zero]
    exact h i rfl

/-- Filters that are written as texts are read as they were, and their predicates are one for each
filter that is set. Reading texts judges them, so that they are refused if one of them stands for
nothing, and then the first of these is reported as it stands. -/
theorem read_written :
    (∀ (f : ArticleFilters) (zulu : Bool), (∀ n ∈ f.sourceId, 1 ≤ n ∧ n < 2 ^ 63) →
      IsWritable f.publishedFrom → IsWritable f.publishedTo →
      read (idText f.sourceId) (boundText zulu f.publishedFrom) (boundText zulu f.publishedTo)
        = .ok f) ∧
    (∀ f : ArticleFilters, f.predicates =
      [f.sourceId.map fun n => .equals .sourceId (.int n),
        f.publishedFrom.map (.onOrAfter .publishedAt),
        f.publishedTo.map (.onOrBefore .publishedAt)].reduceOption) ∧
    ∀ sourceId earliest latest : String,
      (∀ y, read sourceId earliest latest = y ↔ Judges sourceId earliest latest y) ∧
      ((∃ e, read sourceId earliest latest = .error e) ↔
        (∀ n, ¬NamesId sourceId n) ∨ (∀ i, ¬NamesDate earliest i) ∨ ∀ j, ¬NamesDate latest j) := by
  refine ⟨fun f zulu hid hfrom hto => ?_, fun f => ?_,
    fun sourceId earliest latest => ⟨fun y => read_eq_iff, exists_error_iff⟩⟩
  · exact (Judges.accepted (namesId_idText hid) (namesDate_boundText zulu hfrom)
      (namesDate_boundText zulu hto)).read_eq
  · obtain ⟨_ | n, _ | i, _ | j⟩ := f <;> rfl

/-- The greatest identifier and the last nanosecond of a year are read as they are written. -/
theorem read_written_greatest :
    read "9223372036854775807" "2023-12-31T23:59:59.999999999Z" "" =
      .ok ⟨some 9223372036854775807, some ⟨1704067199, 999999999, by decide⟩, none⟩ := by
  have hid : idText (some 9223372036854775807) = "9223372036854775807" := by
    decide +kernel
  have hbound : boundText true (some ⟨1704067199, 999999999, by decide⟩)
      = "2023-12-31T23:59:59.999999999Z" := by rfl
  have hread := read_written.1
    ⟨some 9223372036854775807, some ⟨1704067199, 999999999, by decide⟩, none⟩ true
    (by rintro _ ⟨⟩; decide) (by rintro _ ⟨⟩; decide) (by rintro _ ⟨⟩)
  rwa [hid, hbound] at hread

end FeedArchive.ArticleFilters
