import FeedArchive.Proofs.Time.Timestamp
import FeedArchive.Time.Layout

/-!
# Spellings of dates

`Layout.isoDate` reads dates more loosely than `YYYY-MM-DD`. `DateSpelling` takes a text apart into
three numbers and the white space in front of them, and `DateSpelling.Names` says which of these
texts name a date. The layout reads exactly these (`readDate_isoDate_eq_some_iff`). A text is taken
apart in one way only (`DateSpelling.text_inj`), so that it is `YYYY-MM-DD` exactly if its spelling
has none of the freedoms that the layout leaves (`DateSpelling.isPlain_iff`).
-/

namespace FeedArchive

open Scan
open Decimal (IsDigits Whole)

/-- A text taken apart as a date: its year, month and day, each with what stands in front of it. -/
@[ext]
structure DateSpelling where
  beforeYear : List Char
  year : List Char
  beforeMonth : List Char
  month : List Char
  beforeDay : List Char
  day : List Char

/-- One or two digits with the value `n`. -/
structure Decimal.IsShort (ds : List Char) (n : Nat) : Prop where
  digits : IsDigits ds
  length_le : ds.length ≤ 2
  value_eq : Decimal.value ds = n

namespace DateSpelling

/-- The text that is taken apart. -/
def text (s : DateSpelling) : List Char :=
  s.beforeYear ++ (s.year ++ '-' :: (s.beforeMonth ++ (s.month ++ '-' :: (s.beforeDay ++ s.day))))

/-- The text names a date: there is white space in front of the numbers, if anything, a year with
more than four digits has a sign, and instants are known for the year. -/
structure Names (s : DateSpelling) (d : Date) : Prop where
  blank : ∀ gap ∈ [s.beforeYear, s.beforeMonth, s.beforeDay], ∀ c ∈ gap, Text.isBlank c = true
  year : Whole s.year d.year
  length_year : IsDigits s.year → s.year.length ≤ 4
  year_mem : Instant.minYear ≤ d.year ∧ d.year ≤ Instant.maxYear
  month : Decimal.IsShort s.month d.month
  day : Decimal.IsShort s.day d.day

/-- The form `YYYY-MM-DD`: no white space, no sign, and four, two and two digits. -/
structure IsPlain (s : DateSpelling) : Prop where
  beforeYear : s.beforeYear = []
  beforeMonth : s.beforeMonth = []
  beforeDay : s.beforeDay = []
  year : IsDigits s.year ∧ s.year.length = 4
  month : s.month.length = 2
  day : s.day.length = 2

end DateSpelling

namespace Layout

variable {cs rest : List Char}

/-! ## Reading -/

/-- A run of at least one digit consists of digits. -/
theorem isDigits_of_run {most : Option Nat} {ds : List Char} (h : Run 1 most ds rest) :
    IsDigits ds :=
  ⟨List.ne_nil_of_length_pos h.least_le, h.digit⟩

/-- Digits are a run if they are not too many and no digit follows. -/
theorem run_of_isDigits {most : Option Nat} {ds : List Char} (h : IsDigits ds)
    (hmost : ∀ k ∈ most, ds.length ≤ k) (hrest : ∀ c ∈ rest.head?, c.isDigit = false) :
    Run 1 most ds rest :=
  ⟨h.digit, List.length_pos_iff.mpr h.ne_nil, hmost, Or.inr hrest⟩

/-- A number is read from the longest run of digits that is allowed. -/
theorem run_number_eq_some_iff {most : Option Nat} {n : Nat} :
    (Scan.number 1 most).run cs = some (n, rest) ↔
      ∃ ds, cs = ds ++ rest ∧ Run 1 most ds rest ∧ Decimal.value ds = n := by
  simp only [Scan.number, run_map_eq_some_iff, run_digits_eq_some_iff, and_assoc]

/-- What is taken as a month or a day has one or two digits and is within its bounds. -/
theorem short_of_run {least greatest n : Nat}
    (h : (within least greatest).run cs = some (n, rest)) :
    ∃ ds, cs = ds ++ rest ∧ Decimal.IsShort ds n := by
  simp only [within, run_bind_eq_some_iff, run_number_eq_some_iff] at h
  obtain ⟨n', _, ⟨ds, rfl, hrun, rfl⟩, h⟩ := h
  split at h
  · obtain ⟨rfl, rfl⟩ := run_pure_eq_some_iff.mp h
    exact ⟨ds, rfl, isDigits_of_run hrun, hrun.le_most 2 rfl, rfl⟩
  · cases h

/-- What is taken as a year is an integer, and has a sign if it is longer than four digits. -/
theorem whole_of_run {y : Int} (h : yearNumber.run cs = some (y, rest)) :
    ∃ ys, cs = ys ++ rest ∧ Whole ys y ∧ (IsDigits ys → ys.length ≤ 4) := by
  rw [yearNumber, run_rest_bind] at h
  split at h
  all_goals
    simp only [run_bind_eq_some_iff, run_char_eq_some_iff, run_number_eq_some_iff,
      run_pure_eq_some_iff] at h
  · obtain ⟨_, _, hcs, _, _, ⟨ds, rfl, hrun, rfl⟩, rfl, rfl⟩ := h
    exact ⟨'-' :: ds, hcs, .minus (isDigits_of_run hrun), fun h => absurd rfl h.not_sign.2⟩
  · obtain ⟨_, _, hcs, _, _, ⟨ds, rfl, hrun, rfl⟩, rfl, rfl⟩ := h
    exact ⟨'+' :: ds, hcs, .natural (.plus (isDigits_of_run hrun)),
      fun h => absurd rfl h.not_sign.1⟩
  · obtain ⟨_, _, ⟨ds, rfl, hrun, rfl⟩, rfl, rfl⟩ := h
    exact ⟨ds, rfl, .natural (.digits (isDigits_of_run hrun)), fun _ => hrun.le_most 4 rfl⟩

/-- A month or a day within the bounds is taken as a whole, unless a digit follows it. -/
theorem run_within {ds : List Char} {least greatest n : Nat} (h : Decimal.IsShort ds n)
    (hwithin : least ≤ n ∧ n ≤ greatest) (hrest : ∀ c ∈ rest.head?, c.isDigit = false) :
    (within least greatest).run (ds ++ rest) = some (n, rest) := by
  simp only [within, run_bind_eq_some_iff, run_number_eq_some_iff]
  have hmost : ∀ k ∈ some 2, ds.length ≤ k := by
    intro k hk
    obtain rfl := Option.some.inj hk
    exact h.length_le
  refine ⟨n, rest, ⟨ds, rfl, run_of_isDigits h.digits hmost hrest, h.value_eq⟩, ?_⟩
  rw [if_pos (by simpa using hwithin)]
  exact run_pure_eq_some_iff.mpr ⟨rfl, rfl⟩

/-- A year is taken as a whole, unless a digit follows it. -/
theorem run_yearNumber {ys : List Char} {y : Int} (h : Whole ys y)
    (hlength : IsDigits ys → ys.length ≤ 4) (hrest : ∀ c ∈ rest.head?, c.isDigit = false) :
    yearNumber.run (ys ++ rest) = some (y, rest) := by
  rw [yearNumber, run_rest_bind]
  cases h with
  | @minus ds hds =>
    simp only [List.cons_append, run_bind_eq_some_iff, run_char_eq_some_iff,
      run_number_eq_some_iff, run_pure_eq_some_iff]
    exact ⟨(), _, rfl, _, rest, ⟨ds, rfl, run_of_isDigits hds (by simp) hrest, rfl⟩, rfl, rfl⟩
  | natural h =>
    cases h with
    | @plus ds hds =>
      simp only [List.cons_append, run_bind_eq_some_iff, run_char_eq_some_iff,
        run_number_eq_some_iff, run_pure_eq_some_iff]
      exact ⟨(), _, rfl, _, rest, ⟨ds, rfl, run_of_isDigits hds (by simp) hrest, rfl⟩, rfl, rfl⟩
    | digits hds =>
      have hmost : ∀ k ∈ some 4, ys.length ≤ k := by
        intro k hk
        obtain rfl := Option.some.inj hk
        exact hlength hds
      obtain ⟨c, ds, rfl⟩ := List.exists_cons_of_ne_nil hds.ne_nil
      split
      · rename_i heq
        exact absurd (List.cons.inj heq).1 hds.not_sign.2
      · rename_i heq
        exact absurd (List.cons.inj heq).1 hds.not_sign.1
      · simp only [run_bind_eq_some_iff, run_number_eq_some_iff, run_pure_eq_some_iff]
        exact ⟨_, rest, ⟨c :: ds, rfl, run_of_isDigits hds hmost hrest, rfl⟩, rfl, rfl⟩

/-! ## Items -/

variable {r r' : Reading} {items : List Item}

/-- Without items nothing is read. -/
theorem run_steps_nil_iff : (r.steps []).run cs = some (r', rest) ↔ r = r' ∧ cs = rest :=
  run_pure_eq_some_iff

/-- White space in front of a number is passed over. -/
theorem run_steps_number_iff {part : Part} :
    (r.steps (.number part :: items)).run cs = some (r', rest) ↔ ∃ gap left,
      (cs = gap ++ left ∧ (∀ c ∈ gap, Text.isBlank c = true) ∧
        ∀ c ∈ left.head?, Text.isBlank c = false) ∧
      ∃ taken behind, (r.take part).run left = some (taken, behind) ∧
        (taken.steps items).run behind = some (r', rest) := by
  simp only [Reading.steps, Reading.step, run_bind_eq_some_iff, run_blanks_eq_some_iff]
  constructor
  · rintro ⟨taken, behind, ⟨_, left, ⟨gap, hgap⟩, htake⟩, hsteps⟩
    exact ⟨gap, left, hgap, taken, behind, htake, hsteps⟩
  · rintro ⟨gap, left, hgap, taken, behind, htake, hsteps⟩
    exact ⟨taken, behind, ⟨(), left, ⟨gap, hgap⟩, htake⟩, hsteps⟩

/-- A mark of the layout has to stand there. -/
theorem run_steps_literal_iff {c : Char} :
    (r.steps (.literal c :: items)).run cs = some (r', rest) ↔
      ∃ left, cs = c :: left ∧ (r.steps items).run left = some (r', rest) := by
  simp only [Reading.steps, Reading.step, run_bind_eq_some_iff, run_char_eq_some_iff,
    run_pure_eq_some_iff]
  constructor
  · rintro ⟨_, _, ⟨_, left, rfl, rfl, rfl⟩, hsteps⟩
    exact ⟨left, rfl, hsteps⟩
  · rintro ⟨left, rfl, hsteps⟩
    exact ⟨r, left, ⟨(), left, rfl, rfl, rfl⟩, hsteps⟩

/-- A year, a month and a day make up a date if there is such a date. -/
theorem date?_eq_some_iff {y : Int} {m n : Nat} {d : Date} :
    ({ year := some y, month := some m, day := some n } : Reading).date? = some d ↔
      (d.year = y ∧ d.month = m ∧ d.day = n) ∧ Instant.minYear ≤ y ∧ y ≤ Instant.maxYear := by
  simp only [Reading.date?, Option.bind_eq_bind, Option.bind_some, Option.bind_eq_some_iff,
    Option.ite_none_right_eq_some, Date.ofNumbers?_eq_some_iff, Option.some.injEq]
  constructor
  · rintro ⟨_, hnumbers, hyear, rfl⟩
    exact ⟨hnumbers, hyear⟩
  · rintro ⟨hnumbers, hyear⟩
    exact ⟨d, hnumbers, hyear, rfl⟩

end Layout

/-! ## White space and numbers -/

/-- White space in front of an integer ends where the integer begins. -/
theorem Decimal.Whole.head {ys : List Char} {y : Int} (h : Whole ys y) (rest : List Char) :
    ∀ c ∈ (ys ++ rest).head?, Text.isBlank c = false := by
  intro c hc
  rw [List.head?_append_of_ne_nil _ h.ne_nil] at hc
  exact h.not_blank c (List.mem_of_mem_head? hc)

theorem Decimal.IsShort.head {ds : List Char} {n : Nat} (h : IsShort ds n) (rest : List Char) :
    ∀ c ∈ (ds ++ rest).head?, Text.isBlank c = false :=
  (Whole.natural (.digits h.digits)).head rest

/-- A dash is no digit. -/
theorem head?_mark (left : List Char) : ∀ c ∈ ('-' :: left).head?, c.isDigit = false := by
  intro c hc
  obtain rfl := Option.some.inj hc
  decide

/-! ## Dates -/

namespace DateSpelling

variable {s t : DateSpelling} {d e : Date}

/-- What is read as a date is the spelling of one. -/
theorem exists_names_of_readDate {cs : List Char} (h : Layout.isoDate.readDate cs = some d) :
    ∃ s : DateSpelling, s.text = cs ∧ s.Names d := by
  simp only [Layout.readDate, Layout.read, Layout.isoDate, Option.bind_eq_some_iff,
    whole_eq_some_iff, Layout.run_steps_number_iff, Layout.run_steps_literal_iff,
    Layout.run_steps_nil_iff, Layout.Reading.take, run_bind_pure_eq_some_iff] at h
  obtain ⟨_, ⟨beforeYear, _, ⟨rfl, hgap, -⟩, _, _, ⟨y, hy, rfl⟩, _, rfl, beforeMonth, _,
    ⟨rfl, hgap', -⟩, _, _, ⟨m, hm, rfl⟩, _, rfl, beforeDay, _, ⟨rfl, hgap'', -⟩, _, _, ⟨n, hn, rfl⟩,
    rfl, rfl⟩, hdate⟩ := h
  -- the layout has taken the parts one after the other, and the numbers make up a date
  obtain ⟨year, rfl, hyear, hlength⟩ := Layout.whole_of_run hy
  obtain ⟨month, rfl, hmonth⟩ := Layout.short_of_run hm
  obtain ⟨day, rfl, hday⟩ := Layout.short_of_run hn
  obtain ⟨⟨rfl, rfl, rfl⟩, hmem⟩ := Layout.date?_eq_some_iff.mp hdate
  refine ⟨⟨beforeYear, year, beforeMonth, month, beforeDay, day⟩, ?_, ?_, hyear, hlength, hmem,
    hmonth, hday⟩
  · rw [text, List.append_nil]
  · simp only [List.mem_cons, List.not_mem_nil, or_false]
    rintro gap (rfl | rfl | rfl)
    · exact hgap
    · exact hgap'
    · exact hgap''

/-- The spelling of a date is read as it. -/
theorem Names.readDate (h : s.Names d) : Layout.isoDate.readDate s.text = some d := by
  simp only [Layout.readDate, Layout.read, Layout.isoDate, Option.bind_eq_some_iff,
    whole_eq_some_iff, Layout.run_steps_number_iff, Layout.run_steps_literal_iff,
    Layout.run_steps_nil_iff, Layout.Reading.take, run_bind_pure_eq_some_iff]
  have hday : 1 ≤ d.day ∧ d.day ≤ 31 :=
    ⟨d.day_mem.1, Nat.le_trans d.day_mem.2 (daysInMonth_le d.year d.month)⟩
  refine ⟨_, ⟨s.beforeYear, _, ⟨rfl, h.blank _ (by simp), h.year.head _⟩, _, _,
    ⟨_, Layout.run_yearNumber h.year h.length_year (head?_mark _), rfl⟩, _, rfl,
    s.beforeMonth, _, ⟨rfl, h.blank _ (by simp), h.month.head _⟩, _, _,
    ⟨_, Layout.run_within h.month d.month_mem (head?_mark _), rfl⟩, _, rfl,
    s.beforeDay, s.day ++ [], ⟨by rw [List.append_nil], h.blank _ (by simp), h.day.head _⟩, _, _,
    ⟨_, Layout.run_within h.day hday (by simp), rfl⟩, rfl, rfl⟩, ?_⟩
  exact Layout.date?_eq_some_iff.mpr ⟨⟨rfl, rfl, rfl⟩, h.year_mem⟩

/-- A text is read as a date if it is a spelling that names the date. -/
theorem readDate_isoDate_eq_some_iff {cs : List Char} :
    Layout.isoDate.readDate cs = some d ↔ ∃ s : DateSpelling, s.text = cs ∧ s.Names d := by
  constructor
  · exact exists_names_of_readDate
  · rintro ⟨s, rfl, h⟩
    exact h.readDate

/-! ## One spelling only -/

/-- An integer is a character and digits behind it. -/
theorem exists_digits_of_whole {ys : List Char} {y : Int} (h : Whole ys y) :
    ∃ c ds, ys = c :: ds ∧ ∀ c ∈ ds, c.isDigit = true := by
  cases h with
  | minus hds => exact ⟨_, _, rfl, hds.digit⟩
  | natural h =>
    cases h with
    | plus hds => exact ⟨_, _, rfl, hds.digit⟩
    | digits hds =>
      obtain ⟨c, ds, rfl⟩ := List.exists_cons_of_ne_nil hds.ne_nil
      exact ⟨c, ds, rfl, fun c hc => hds.digit c (List.mem_cons_of_mem _ hc)⟩

/-- An integer in front of a mark ends where the digits do. -/
theorem whole_append_inj {ys zs left left' : List Char} {y z : Int} (hy : Whole ys y)
    (hz : Whole zs z) (h : ys ++ '-' :: left = zs ++ '-' :: left') : ys = zs ∧ left = left' := by
  obtain ⟨c, ds, rfl, hds⟩ := exists_digits_of_whole hy
  obtain ⟨c', ds', rfl, hds'⟩ := exists_digits_of_whole hz
  obtain ⟨rfl, htail⟩ := List.cons.inj h
  obtain ⟨rfl, hmark⟩ :=
    Text.append_inj_of_run htail hds (head?_mark left) hds' (head?_mark left')
  exact ⟨rfl, (List.cons.inj hmark).2⟩

/-- A text names a date in one way only. -/
theorem text_inj (hs : s.Names d) (ht : t.Names e) (h : s.text = t.text) : s = t := by
  -- from the left, each part ends in both texts where the next one begins
  obtain ⟨hbeforeYear, h⟩ := Text.append_inj_of_run h (hs.blank s.beforeYear (by simp))
    (hs.year.head _) (ht.blank t.beforeYear (by simp)) (ht.year.head _)
  obtain ⟨hyear, h⟩ := whole_append_inj hs.year ht.year h
  obtain ⟨hbeforeMonth, h⟩ := Text.append_inj_of_run h (hs.blank s.beforeMonth (by simp))
    (hs.month.head _) (ht.blank t.beforeMonth (by simp)) (ht.month.head _)
  obtain ⟨hmonth, h⟩ := whole_append_inj (.natural (.digits hs.month.digits))
    (.natural (.digits ht.month.digits)) h
  obtain ⟨hbeforeDay, hday⟩ := Text.append_inj_of_run h (hs.blank s.beforeDay (by simp))
    (by simpa using hs.day.head []) (ht.blank t.beforeDay (by simp))
    (by simpa using ht.day.head [])
  ext1 <;> assumption

/-! ## The plain spelling -/

/-- `YYYY-MM-DD`. -/
def plain (d : Date) : DateSpelling where
  beforeYear := []
  year := Decimal.fixed 4 d.year.toNat
  beforeMonth := []
  month := Decimal.fixed 2 d.month
  beforeDay := []
  day := Decimal.fixed 2 d.day

/-- The spelling with four and two digits and no blanks is plain. -/
theorem isPlain_plain (d : Date) : (plain d).IsPlain :=
  ⟨rfl, rfl, rfl, ⟨Decimal.isDigits_fixed _ _ (by decide), Decimal.length_fixed _ _⟩,
    Decimal.length_fixed _ _, Decimal.length_fixed _ _⟩

/-- The plain spelling is what is written for the date. -/
theorem text_plain (hyear : 0 ≤ d.year ∧ d.year ≤ 9999) : (plain d).text = Instant.dateText d := by
  rw [Instant.dateText_eq hyear]
  rfl

/-- Two digits are few enough for a month or a day. -/
theorem short_fixed {n : Nat} (hn : n < 100) : Decimal.IsShort (Decimal.fixed 2 n) n :=
  ⟨Decimal.isDigits_fixed 2 n (by decide), Nat.le_of_eq (Decimal.length_fixed 2 n),
    (Decimal.value_fixed 2 n).trans (Nat.mod_eq_of_lt hn)⟩

/-- The plain spelling names the date. -/
theorem names_plain (hyear : 0 ≤ d.year ∧ d.year ≤ 9999) : (plain d).Names d where
  blank := by simp [plain]
  year := by
    have h := Whole.natural (.digits (Decimal.isDigits_fixed 4 d.year.toNat (by decide)))
    rwa [Decimal.value_fixed, Nat.mod_eq_of_lt (by omega), Int.toNat_of_nonneg hyear.1] at h
  length_year _ := Nat.le_of_eq (Decimal.length_fixed 4 _)
  year_mem := by
    unfold Instant.minYear Instant.maxYear
    omega
  month := short_fixed d.numbers_lt.1
  day := short_fixed d.numbers_lt.2

/-- A plain spelling is that of a year with four digits. -/
theorem IsPlain.eq_plain (hplain : s.IsPlain) (h : s.Names d) :
    (0 ≤ d.year ∧ d.year ≤ 9999) ∧ s = plain d := by
  have hfixed : ∀ {ds : List Char} {width n : Nat}, IsDigits ds → ds.length = width →
      Decimal.value ds = n → ds = Decimal.fixed width n := by
    rintro ds _ _ hds rfl rfl
    exact (Decimal.fixed_value hds.digit).symm
  have hyear := h.year.eq_value hplain.year.1
  have hlt := Decimal.value_lt hplain.year.1.digit
  rw [hplain.year.2] at hlt
  refine ⟨by omega, ?_⟩
  ext1
  · exact hplain.beforeYear
  · exact hfixed hplain.year.1 hplain.year.2 (by omega)
  · exact hplain.beforeMonth
  · exact hfixed h.month.digits hplain.month h.month.value_eq
  · exact hplain.beforeDay
  · exact hfixed h.day.digits hplain.day h.day.value_eq

/-- The spelling of a date is plain exactly if its text is `YYYY-MM-DD`. -/
theorem isPlain_iff (h : s.Names d) :
    s.IsPlain ↔ ∃ e : Date, (0 ≤ e.year ∧ e.year ≤ 9999) ∧ s.text = Instant.dateText e := by
  constructor
  · intro hplain
    obtain ⟨hyear, rfl⟩ := hplain.eq_plain h
    exact ⟨d, hyear, text_plain hyear⟩
  · rintro ⟨e, hyear, htext⟩
    rw [text_inj h (names_plain hyear) (htext.trans (text_plain hyear).symm)]
    exact isPlain_plain e

end DateSpelling

end FeedArchive
