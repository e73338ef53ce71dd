import FeedArchive.Time.Calendar

/-!
# The calendar in order

The numbers of dates are in the order of the calendar (`Date.dayNumber_lt_iff`), and those of a year
lie between the first days of it and of the next year (`Date.dayNumber_mem_year`).
-/

namespace FeedArchive

/-- Later years have no fewer days before them. -/
theorem daysBeforeYear_le {y z : Int} (h : y ≤ z) : daysBeforeYear y ≤ daysBeforeYear z := by
  unfold daysBeforeYear
  omega

/-- Later months have no fewer days before them. -/
theorem daysBeforeMonth_le (year : Int) {m n : Nat} (h : m ≤ n) :
    daysBeforeMonth year m ≤ daysBeforeMonth year n := by
  induction h with
  | refl => exact Nat.le_refl _
  | @step n _ ih =>
    cases n with
    | zero => exact ih
    | succ n =>
      rw [daysBeforeMonth_succ year (by omega)]
      omega

theorem daysInMonth_le (year : Int) (month : Nat) : daysInMonth year month ≤ 31 := by
  unfold daysInMonth
  split
  · split <;> decide
  all_goals decide

namespace Date

variable {d e : Date}

/-- Earlier in the calendar. -/
def Before (d e : Date) : Prop :=
  d.year < e.year ∨
    (d.year = e.year ∧ (d.month < e.month ∨ (d.month = e.month ∧ d.day < e.day)))

/-- Of two different dates one is before the other. -/
theorem before_or_eq_or_before (d e : Date) : d.Before e ∨ d = e ∨ e.Before d := by
  have hext : d = e ↔ d.year = e.year ∧ d.month = e.month ∧ d.day = e.day := by
    cases d
    cases e
    simp
  rw [hext]
  unfold Before
  omega

/-- The days of a year up to and with a date are at most those before the next month. -/
theorem day_le_daysBeforeMonth (d : Date) :
    daysBeforeMonth d.year d.month + d.day ≤ daysBeforeMonth d.year (d.month + 1) := by
  rw [daysBeforeMonth_succ d.year d.month_mem.1]
  have := d.day_mem.2
  omega

/-- The number of a date lies between those of the first days of its year and of the next year. -/
theorem dayNumber_mem_year (d : Date) :
    daysBeforeYear d.year ≤ d.dayNumber + epochDay ∧
      d.dayNumber + epochDay < daysBeforeYear (d.year + 1) := by
  have hday := d.day_mem.1
  have hmonth := d.day_le_daysBeforeMonth
  have hyear : daysBeforeMonth d.year (d.month + 1) ≤ daysBeforeMonth d.year 13 :=
    daysBeforeMonth_le d.year (by have := d.month_mem.2; omega)
  rw [daysBeforeMonth_thirteen] at hyear
  rw [daysBeforeYear_succ, dayNumber]
  split at hyear
  · rw [if_pos ‹_›]
    omega
  · rw [if_neg ‹_›]
    omega

/-- A date that is earlier in the calendar has the smaller number. -/
theorem Before.dayNumber_lt (h : d.Before e) : d.dayNumber < e.dayNumber := by
  rcases h with hyear | ⟨hyear, hmonth | ⟨hmonth, hday⟩⟩
  · -- the first day of the year behind the earlier date lies between the two
    have hd := d.dayNumber_mem_year.2
    have he := e.dayNumber_mem_year.1
    have := daysBeforeYear_le (y := d.year + 1) (z := e.year) hyear
    omega
  · have hd := d.day_le_daysBeforeMonth
    have he := daysBeforeMonth_le d.year (m := d.month + 1) (n := e.month) hmonth
    have := e.day_mem.1
    unfold dayNumber
    rw [← hyear]
    omega
  · unfold dayNumber
    rw [hyear, hmonth]
    omega

/-- The days are numbered in the order of the dates. -/
theorem dayNumber_lt_iff : d.dayNumber < e.dayNumber ↔ d.Before e := by
  constructor
  · intro h
    rcases before_or_eq_or_before d e with hb | rfl | hb
    · exact hb
    · exact absurd h (Int.lt_irrefl _)
    · exact absurd hb.dayNumber_lt (by omega)
  · exact Before.dayNumber_lt

/-- Months and days have at most two digits. -/
theorem numbers_lt (d : Date) : d.month < 100 ∧ d.day < 100 := by
  have hmonth := d.month_mem.2
  have hday := Nat.le_trans d.day_mem.2 (daysInMonth_le d.year d.month)
  omega

/-- The date with some numbers has these numbers, and only a date of the calendar has. -/
theorem ofNumbers?_eq_some_iff {y : Int} {m d : Nat} {date : Date} :
    ofNumbers? y m d = some date ↔ date.year = y ∧ date.month = m ∧ date.day = d := by
  rw [ofNumbers?]
  constructor
  · intro h
    split at h
    · cases h
      exact ⟨rfl, rfl, rfl⟩
    · cases h
  · rintro ⟨rfl, rfl, rfl⟩
    rw [dif_pos ⟨date.month_mem, date.day_mem⟩]

end Date

end FeedArchive
