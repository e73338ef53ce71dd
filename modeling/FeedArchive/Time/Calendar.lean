/-! # The calendar

Dates of the Gregorian calendar, extended to all years, and their numbering by days.
`Date.dayNumber` counts the days since 1970-01-01, and `Date.ofDayNumber` finds the date with a
given number. -/

namespace FeedArchive

/-- A leap year is a multiple of 4 that is no multiple of 100, or a multiple of 400. -/
def isLeapYear (year : Int) : Bool :=
  year % 4 == 0 && (year % 100 != 0 || year % 400 == 0)

/-- The number of days of a month. -/
def daysInMonth (year : Int) : (month : Nat) → Nat
  | 2 => if isLeapYear year then 29 else 28
  | 4 | 6 | 9 | 11 => 30
  | _ => 31

/-- The days of a year that lie before a month; from the thirteenth on, all of them. -/
def daysBeforeMonth (year : Int) : (month : Nat) → Nat
  | 0 => 0
  | 1 => 0
  | month + 2 => daysBeforeMonth year (month + 1) + daysInMonth year (month + 1)

/-- The days from 0001-01-01 to the first day of a year. -/
def daysBeforeYear (year : Int) : Int :=
  365 * (year - 1) + (year - 1) / 4 - (year - 1) / 100 + (year - 1) / 400

/-- The days from 0001-01-01 to 1970-01-01. -/
def epochDay : Int := 719162

/-- A day of the calendar. -/
structure Date where
  year : Int
  month : Nat
  day : Nat
  month_mem : 1 ≤ month ∧ month ≤ 12
  day_mem : 1 ≤ day ∧ day ≤ daysInMonth year month
  deriving DecidableEq

namespace Date

/-- The date with these numbers, if the calendar has it. -/
def ofNumbers? (year : Int) (month day : Nat) : Option Date :=
  if h : (1 ≤ month ∧ month ≤ 12) ∧ (1 ≤ day ∧ day ≤ daysInMonth year month) then
    some ⟨year, month, day, h.1, h.2⟩
  else none

/-- The days since 1970-01-01, negative before it. -/
def dayNumber (d : Date) : Int :=
  daysBeforeYear d.year + daysBeforeMonth d.year d.month + d.day - 1 - epochDay

end Date

/-! ## From numbers back to dates -/

/-- The year in which the day lies that comes `n` days after 0001-01-01. -/
def yearOfDay (n : Int) : Int :=
  let guess := n * 400 / 146097 + 1
  if n < daysBeforeYear guess then guess - 1
  else if daysBeforeYear (guess + 1) ≤ n then guess + 1
  else guess

/-- The last month from `month` down that does not start after day `n` of the year, counted
from 0. -/
def monthOfDay (year : Int) (n : Nat) : (month : Nat) → Nat
  | 0 => 1
  | 1 => 1
  | month + 2 =>
    if daysBeforeMonth year (month + 2) ≤ n then month + 2 else monthOfDay year n (month + 1)

/-- A year has 366 days if it is a leap year, and 365 if not. -/
theorem daysBeforeYear_succ (year : Int) :
    daysBeforeYear (year + 1) = daysBeforeYear year + if isLeapYear year then 366 else 365 := by
  unfold daysBeforeYear isLeapYear
  split <;> rename_i h <;> simp at h <;> omega

/-- The year of a day starts on or before it, and the next one after it. -/
theorem yearOfDay_spec (n : Int) :
    daysBeforeYear (yearOfDay n) ≤ n ∧ n < daysBeforeYear (yearOfDay n + 1) := by
  unfold yearOfDay
  simp only
  split
  · unfold daysBeforeYear at *; omega
  · split
    · unfold daysBeforeYear at *; omega
    · unfold daysBeforeYear at *; omega

/-- The months of a year have as many days as the year. -/
theorem daysBeforeMonth_thirteen (year : Int) :
    daysBeforeMonth year 13 = if isLeapYear year then 366 else 365 := by
  simp only [daysBeforeMonth, daysInMonth]
  split <;> rfl

/-- The month is one of those that are looked through. -/
theorem monthOfDay_mem (year : Int) (n m : Nat) :
    1 ≤ monthOfDay year n (m + 1) ∧ monthOfDay year n (m + 1) ≤ m + 1 := by
  induction m with
  | zero => simp [monthOfDay]
  | succ m ih =>
    rw [monthOfDay]
    split <;> omega

/-- The month found starts on or before the day and ends after it. -/
theorem monthOfDay_spec (year : Int) (n m : Nat) (h : n < daysBeforeMonth year (m + 2)) :
    daysBeforeMonth year (monthOfDay year n (m + 1)) ≤ n ∧
      n < daysBeforeMonth year (monthOfDay year n (m + 1) + 1) := by
  induction m with
  | zero => simpa [monthOfDay, daysBeforeMonth] using h
  | succ m ih =>
    rw [monthOfDay]
    split
    · exact ⟨by assumption, h⟩
    · exact ih (by omega)

/-- A month has its days. -/
theorem daysBeforeMonth_succ (year : Int) {month : Nat} (h : 1 ≤ month) :
    daysBeforeMonth year (month + 1) = daysBeforeMonth year month + daysInMonth year month := by
  cases month with
  | zero => omega
  | succ month => rfl

/-- The day of the year, counted from 0, of the day that comes `n` days after 0001-01-01. -/
def dayOfYear (n : Int) : Nat :=
  (n - daysBeforeYear (yearOfDay n)).toNat

/-- The day of a year is within the year. -/
theorem dayOfYear_lt (n : Int) : dayOfYear n < daysBeforeMonth (yearOfDay n) 13 := by
  have h := yearOfDay_spec n
  rw [daysBeforeYear_succ] at h
  rw [daysBeforeMonth_thirteen, dayOfYear]
  split at h <;> simp_all <;> omega

/-- The date that comes `n` days after 1970-01-01. -/
def Date.ofDayNumber (n : Int) : Date :=
  let year := yearOfDay (n + epochDay)
  let ofYear := dayOfYear (n + epochDay)
  let month := monthOfDay year ofYear 12
  { year, month
    day := ofYear - daysBeforeMonth year month + 1
    month_mem := monthOfDay_mem _ _ 11
    day_mem := by
      have h := monthOfDay_spec year ofYear 11 (dayOfYear_lt (n + epochDay))
      rw [daysBeforeMonth_succ _ (monthOfDay_mem _ _ 11).1] at h
      simp only [Nat.reduceAdd] at h
      show 1 ≤ ofYear - daysBeforeMonth year (monthOfDay year ofYear 12) + 1 ∧
        ofYear - daysBeforeMonth year (monthOfDay year ofYear 12) + 1 ≤
          daysInMonth year (monthOfDay year ofYear 12)
      omega }

/-- Every number of days names a date, and the date has that number. -/
theorem Date.dayNumber_ofDayNumber (n : Int) : (Date.ofDayNumber n).dayNumber = n := by
  have hy := yearOfDay_spec (n + epochDay)
  have hm := monthOfDay_spec (yearOfDay (n + epochDay)) _ 11 (dayOfYear_lt (n + epochDay))
  simp only [Nat.reduceAdd] at hm
  simp only [Date.ofDayNumber, Date.dayNumber]
  have hd : (dayOfYear (n + epochDay) : Int) =
      n + epochDay - daysBeforeYear (yearOfDay (n + epochDay)) := by
    rw [dayOfYear]; omega
  omega

/-- The day of the week, counted from 0 for Monday. -/
def Date.weekday (d : Date) : Nat :=
  ((d.dayNumber + 3) % 7).toNat

end FeedArchive
