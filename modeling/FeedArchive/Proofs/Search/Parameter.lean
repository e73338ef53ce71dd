import FeedArchive.Proofs.Time.LooseDate
import FeedArchive.Proofs.Time.Writing
import FeedArchive.Search.Input

/-!
# What parameters mean

`Parameter.NamesDate` and `Parameter.NamesId` are the grammars of dates and of identifiers, with
what the texts stand for. Reading a parameter finds this, and refuses all other texts as they stand
(`date_eq_iff`, `id_eq_iff`). A date is not a timestamp, as it has no colon, so that it does not
matter in which order the two are tried. Dates are read more loosely than they are documented
(`date_reads`), and what is written for an instant at any offset is read as it (`date_written`).
-/

namespace FeedArchive.Parameter

/-- The instant that a text stands for as a date, none for the empty text. -/
inductive NamesDate (text : String) : Option Instant → Prop
  | unset (h : text = "") : NamesDate text none
  | date {s : DateSpelling} {d : Date} (htext : s.text = text.toList) (h : s.Names d) :
      NamesDate text (some d.midnight)
  | timestamp {i : Instant} (h : Rfc3339.Writes text.toList i) : NamesDate text (some i)

/-- The identifier that a text stands for, none for the empty text. -/
inductive NamesId (text : String) : Option Int → Prop
  | unset (h : text = "") : NamesId text none
  | id {n : Int} (h : Decimal.Whole text.toList n) (hpos : 1 ≤ n) (hlt : n < 2 ^ 63) :
      NamesId text (some n)

/-- The forms of dates that are documented: the empty text, `YYYY-MM-DD` and timestamps. -/
def IsDocumented (text : String) : Prop :=
  text = "" ∨
    (∃ d : Date, (0 ≤ d.year ∧ d.year ≤ 9999) ∧ text.toList = Instant.dateText d) ∨
    ∃ i, Rfc3339.Writes text.toList i

/-- The spellings of dates other than `YYYY-MM-DD`. -/
def IsLoose (text : String) : Prop :=
  ∃ (s : DateSpelling) (d : Date), s.text = text.toList ∧ s.Names d ∧ ¬s.IsPlain

variable {text : String}

/-! ## Dates are no timestamps -/

/-- There is a colon in the time of a timestamp. -/
theorem colon_mem_of_writes {cs : List Char} {i : Instant} (h : Rfc3339.Writes cs i) :
    ':' ∈ cs := by
  cases h with
  | mk => simp [Instant.Clock.chars]

/-- No colon is in a numeral. -/
theorem colon_notMem_of_whole {ys : List Char} {y : Int} (h : Decimal.Whole ys y) : ':' ∉ ys :=
  fun hmem => absurd (h.mem _ hmem) (by decide)

/-- There is none in a date. -/
theorem colon_notMem_text {s : DateSpelling} {d : Date} (h : s.Names d) : ':' ∉ s.text := by
  have hgap : ∀ gap ∈ [s.beforeYear, s.beforeMonth, s.beforeDay], ':' ∉ gap :=
    fun gap hgap hmem => absurd (h.blank gap hgap _ hmem) (by decide)
  have hmonth := colon_notMem_of_whole (.natural (.digits h.month.digits))
  have hday := colon_notMem_of_whole (.natural (.digits h.day.digits))
  simp only [List.mem_cons, List.not_mem_nil, or_false, forall_eq_or_imp, forall_eq] at hgap
  simp [DateSpelling.text, hgap, colon_notMem_of_whole h.year, hmonth, hday]

/-! ## Reading -/

/-- A text is read as an instant if it names the instant. -/
theorem instantOf?_eq_some_iff {i : Instant} :
    instantOf? text = some i ↔ NamesDate text (some i) := by
  rw [instantOf?]
  cases hdate : Layout.isoDate.readDate text.toList with
  | some d =>
    obtain ⟨s, htext, hs⟩ := DateSpelling.readDate_isoDate_eq_some_iff.mp hdate
    simp only [Option.some.injEq]
    constructor
    · rintro rfl
      exact .date htext hs
    · intro h
      cases h with
      | date htext' hs' =>
        -- a text names one date only
        have hread := DateSpelling.readDate_isoDate_eq_some_iff.mpr ⟨_, htext', hs'⟩
        rw [hdate] at hread
        rw [Option.some.inj hread, Date.midnight]
      | timestamp hwrites =>
        rw [← htext] at hwrites
        exact absurd (colon_mem_of_writes hwrites) (colon_notMem_text hs)
  | none =>
    simp only
    rw [Rfc3339.read_eq_some_iff]
    constructor
    · exact .timestamp
    · intro h
      cases h with
      | date htext hs =>
        have hread := DateSpelling.readDate_isoDate_eq_some_iff.mpr ⟨_, htext, hs⟩
        rw [hdate] at hread
        cases hread
      | timestamp hwrites => exact hwrites

/-- The empty text names no instant. -/
theorem ne_empty_of_namesDate {i : Instant} (h : NamesDate text (some i)) : text ≠ "" := by
  rintro rfl
  cases h with
  | date htext _ =>
    have hmark := congrArg ('-' ∈ ·) htext
    simp [DateSpelling.text] at hmark
  | timestamp hwrites => exact absurd (colon_mem_of_writes hwrites) (by simp)

/-- The empty text names no identifier. -/
theorem ne_empty_of_namesId {n : Int} (h : NamesId text (some n)) : text ≠ "" := by
  rintro rfl
  cases h with
  | id hwhole => exact hwhole.ne_nil rfl

/-- Reading a parameter that may be unset, by what the texts stand for. -/
theorem optional_eq_iff {α : Type} {names : Option α → Prop} {found : Option α}
    {failure : SearchError} {x : Except SearchError (Option α)} (hunset : names none ↔ text = "")
    (hset : ∀ a, names (some a) ↔ text ≠ "" ∧ found = some a) :
    (if text.isEmpty then .ok none else found.elim (.error failure) (.ok ∘ some)) = x ↔
      (∃ y, names y ∧ x = .ok y) ∨ (∀ y, ¬names y) ∧ x = .error failure := by
  -- what a text stands for is none or a value, and so the text is empty, found or neither
  rw [Option.exists, Option.forall, hunset, eq_comm (b := x)]
  simp only [hset]
  by_cases hne : text = ""
  · simp [hne]
  · cases found with
    | some a => simp [hne]
    | none => simp [hne]

/-- Reading a date finds what the text stands for, and refuses the text if it stands for nothing. -/
theorem date_eq_iff {x : Except SearchError (Option Instant)} :
    date text = x ↔
      (∃ y, NamesDate text y ∧ x = .ok y) ∨
        (∀ y, ¬NamesDate text y) ∧ x = .error (.invalidDate text) := by
  have helim : date text = if text.isEmpty then .ok none else
      (instantOf? text).elim (.error (.invalidDate text)) (.ok ∘ some) := by
    rw [date]
    cases instantOf? text <;> rfl
  rw [helim]
  refine optional_eq_iff ⟨fun h => ?_, NamesDate.unset⟩ fun i => ?_
  · cases h with
    | unset h => exact h
  · rw [instantOf?_eq_some_iff]
    exact ⟨fun h => ⟨ne_empty_of_namesDate h, h⟩, fun h => h.2⟩

/-- Reading an identifier finds what the text stands for, and refuses the text if it stands for
nothing. -/
theorem id_eq_iff {field : String} {x : Except SearchError (Option Int)} :
    Parameter.id text field = x ↔
      (∃ y, NamesId text y ∧ x = .ok y) ∨ (∀ y, ¬NamesId text y) ∧
        x = .error (.invalidFilterValue ⟨field, text, ["正の整数"]⟩) := by
  have helim : Parameter.id text field = if text.isEmpty then .ok none else
      ((Decimal.readInt64 text.toList).filter (0 < ·)).elim
        (.error (.invalidFilterValue ⟨field, text, ["正の整数"]⟩)) (.ok ∘ some) := by
    rw [Parameter.id]
    cases (Decimal.readInt64 text.toList).filter (0 < ·) <;> rfl
  rw [helim]
  refine optional_eq_iff ⟨fun h => ?_, NamesId.unset⟩ fun n => ?_
  · cases h with
    | unset h => exact h
  · rw [Option.filter_eq_some_iff, Decimal.readInt64_eq_some_iff, decide_eq_true_eq]
    constructor
    · intro h
      refine ⟨ne_empty_of_namesId h, ?_⟩
      cases h with
      | id hwhole hpos hlt => exact ⟨⟨hwhole, by omega, hlt⟩, by omega⟩
    · rintro ⟨-, ⟨hwhole, -, hlt⟩, hpos⟩
      exact .id hwhole hpos hlt

/-- A text that names a date is read as it. -/
theorem date_eq_ok {y : Option Instant} (h : NamesDate text y) : date text = .ok y :=
  date_eq_iff.mpr (Or.inl ⟨y, h, rfl⟩)

/-- A text that names no date is refused, as it stands. -/
theorem date_eq_error (h : ∀ y, ¬NamesDate text y) : date text = .error (.invalidDate text) :=
  date_eq_iff.mpr (Or.inr ⟨h, rfl⟩)

/-- A text that names an identifier is read as it. -/
theorem id_eq_ok {y : Option Int} (h : NamesId text y) (field : String) :
    Parameter.id text field = .ok y :=
  id_eq_iff.mpr (Or.inl ⟨y, h, rfl⟩)

/-- A text that names no identifier is refused, as it stands and under its field. -/
theorem id_eq_error (h : ∀ y, ¬NamesId text y) (field : String) :
    Parameter.id text field = .error (.invalidFilterValue ⟨field, text, ["正の整数"]⟩) :=
  id_eq_iff.mpr (Or.inr ⟨h, rfl⟩)

/-! ## What is documented -/

/-- What is documented is a date, and a date is documented unless its spelling is a loose one. -/
theorem exists_namesDate_iff : (∃ y, NamesDate text y) ↔ IsDocumented text ∨ IsLoose text := by
  constructor
  · rintro ⟨y, h⟩
    cases h with
    | unset h => exact Or.inl (Or.inl h)
    | @date s d htext h =>
      by_cases hplain : s.IsPlain
      · rw [DateSpelling.isPlain_iff h, htext] at hplain
        exact Or.inl (Or.inr (Or.inl hplain))
      · exact Or.inr ⟨s, d, htext, h, hplain⟩
    | timestamp h => exact Or.inl (Or.inr (Or.inr ⟨_, h⟩))
  · rintro ((h | ⟨d, hyear, hd⟩ | ⟨i, h⟩) | ⟨s, d, htext, h, -⟩)
    · exact ⟨none, .unset h⟩
    · exact ⟨_, .date ((DateSpelling.text_plain hyear).trans hd.symm)
        (DateSpelling.names_plain hyear)⟩
    · exact ⟨_, .timestamp h⟩
    · exact ⟨_, .date htext h⟩

/-- No documented form is a loose one. -/
theorem IsLoose.not_isDocumented (hloose : IsLoose text) : ¬IsDocumented text := by
  obtain ⟨s, d, htext, h, hplain⟩ := hloose
  rintro (hempty | hdate | ⟨i, hwrites⟩)
  · exact ne_empty_of_namesDate (.date htext h) hempty
  · rw [← htext] at hdate
    exact hplain ((DateSpelling.isPlain_iff h).mpr hdate)
  · rw [← htext] at hwrites
    exact colon_notMem_text h (colon_mem_of_writes hwrites)

/-- Reading a date finds what the text stands for, and refuses the text as it stands if it stands
for nothing. The texts that are read are those that are documented and, besides them, the loose
spellings of dates. -/
theorem date_reads (text : String) :
    (∀ x, date text = x ↔
      (∃ y, NamesDate text y ∧ x = .ok y) ∨
        (∀ y, ¬NamesDate text y) ∧ x = .error (.invalidDate text)) ∧
    ((∃ y, date text = .ok y) ↔ IsDocumented text ∨ IsLoose text) ∧
    ¬(IsDocumented text ∧ IsLoose text) := by
  refine ⟨fun x => date_eq_iff, ?_, fun h => h.2.not_isDocumented h.1⟩
  rw [← exists_namesDate_iff]
  refine exists_congr fun y => ?_
  rw [date_eq_iff]
  simp

/-- `2024-1-1` is read as the first of January, but is not a documented form. -/
theorem date_loose :
    date "2024-1-1" = .ok (some (Date.midnight ⟨2024, 1, 1, by decide, by decide⟩)) ∧
      ¬IsDocumented "2024-1-1" := by
  have hone : Decimal.IsShort ['1'] 1 := ⟨⟨by simp, by simp⟩, by decide, rfl⟩
  have hnames : (⟨[], ['2', '0', '2', '4'], [], ['1'], [], ['1']⟩ : DateSpelling).Names
      ⟨2024, 1, 1, by decide, by decide⟩ :=
    { blank := by simp
      year := .natural (.digits ⟨by simp, by simp⟩)
      length_year := fun _ => by decide
      year_mem := by decide
      month := hone
      day := hone }
  have htext : DateSpelling.text ⟨[], ['2', '0', '2', '4'], [], ['1'], [], ['1']⟩
      = "2024-1-1".toList := rfl
  refine ⟨date_eq_ok (.date htext hnames), ?_⟩
  -- the month has one digit only
  exact IsLoose.not_isDocumented ⟨_, _, htext, hnames, fun h => absurd h.month (by decide)⟩

/-! ## What is written for an instant -/

/-- The text of an instant at any offset names the instant, as long as the year there has four
digits. -/
theorem namesDate_textAt (i : Instant) (zulu : Bool) {offset : Int}
    (hoffset : -1440 < offset ∧ offset < 1440)
    (hyear : 0 ≤ (i.localDate offset).year ∧ (i.localDate offset).year ≤ 9999) :
    NamesDate (i.textAt zulu offset) (some i) := by
  have hwrites := Rfc3339.writes_charsAt i zulu hoffset hyear
  rw [← String.toList_ofList (l := i.charsAt zulu offset)] at hwrites
  exact .timestamp hwrites

/-- The text of an instant at an offset from UTC is read as the instant. The text of a date is read
as its midnight in UTC, just as the timestamp of this midnight is, and midnights are in the order of
their dates. -/
theorem date_written :
    (∀ (i : Instant) (zulu : Bool) (offset : Int), -1440 < offset ∧ offset < 1440 →
      0 ≤ (i.localDate offset).year ∧ (i.localDate offset).year ≤ 9999 →
      date (i.textAt zulu offset) = .ok (some i)) ∧
    (∀ d : Date, 0 ≤ d.year ∧ d.year ≤ 9999 →
      date d.text = .ok (some d.midnight) ∧
        date (d.text ++ "T00:00:00Z") = .ok (some d.midnight)) ∧
    ∀ d e : Date, compare d.midnight e.midnight = .lt ↔ d.Before e := by
  refine ⟨fun i zulu offset hoffset hyear => ?_, fun d hyear => ⟨?_, ?_⟩,
    fun d e => Date.compare_midnight_eq_lt_iff⟩
  · exact date_eq_ok (namesDate_textAt i zulu hoffset hyear)
  · refine date_eq_ok (.date ?_ (DateSpelling.names_plain hyear))
    rw [Date.text, String.toList_ofList, DateSpelling.text_plain hyear]
  · refine date_eq_ok (.timestamp ?_)
    rw [String.toList_append, Date.text, String.toList_ofList]
    exact Rfc3339.writes_midnight hyear

/-- Half past midnight of a new year nine hours ahead of UTC is still in the old year in UTC, and a
leap day follows on the day before it. -/
theorem date_written_newYear :
    date "2024-01-01T00:30:00.500+09:00" = .ok (some ⟨1704036600, 500000000, by decide⟩) ∧
    date "2024-02-29" = date "2024-02-29T00:00:00Z" ∧
    compare (Date.midnight ⟨2024, 2, 28, by decide, by decide⟩)
      (Date.midnight ⟨2024, 2, 29, by decide, by decide⟩) = .lt := by
  have htext : (⟨1704036600, 500000000, by decide⟩ : Instant).textAt false 540
      = "2024-01-01T00:30:00.500+09:00" := by rfl
  have hdate : (⟨2024, 2, 29, by decide, by decide⟩ : Date).text = "2024-02-29" := by rfl
  have hinstant := date_written.1 ⟨1704036600, 500000000, by decide⟩ false 540 (by decide)
    (by decide)
  have hleapDay := date_written.2.1 ⟨2024, 2, 29, by decide, by decide⟩ (by decide)
  rw [htext] at hinstant
  rw [hdate] at hleapDay
  refine ⟨hinstant, hleapDay.1.trans hleapDay.2.symm, ?_⟩
  exact (date_written.2.2 _ _).mpr (by unfold Date.Before; decide)

end FeedArchive.Parameter
