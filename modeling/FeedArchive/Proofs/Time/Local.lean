import FeedArchive.Proofs.Time.Calendar
import FeedArchive.Time.Instant

/-!
# Local time

The date and the reading of the clock at an instant, where clocks are ahead of UTC or behind it.
From these and the offset the instant is found again (`ofLocal_local`), across the ends of days,
months and years and within leap seconds.
-/

namespace FeedArchive.Instant

/-- The seconds from midnight of 1970-01-01 to the instant, as a clock counts them that is `offset`
minutes ahead of UTC. -/
def localSecond (i : Instant) (offset : Int) : Int :=
  i.second + offset * 60

/-- The date at an offset from UTC. -/
def localDate (i : Instant) (offset : Int) : Date :=
  Date.ofDayNumber (i.localSecond offset / 86400)

/-- The seconds since midnight at an offset from UTC. -/
def localSecondOfDay (i : Instant) (offset : Int) : Nat :=
  (i.localSecond offset % 86400).toNat

/-- A day has 86400 seconds at any offset. -/
theorem localSecondOfDay_lt (i : Instant) (offset : Int) : i.localSecondOfDay offset < 86400 := by
  unfold localSecondOfDay
  omega

/-- The reading of a clock at an offset from UTC; within a leap second it shows 60. -/
def localClock (i : Instant) (offset : Int) : Clock where
  hour := i.localSecondOfDay offset / 3600
  minute := i.localSecondOfDay offset / 60 % 60
  second := i.localSecondOfDay offset % 60 + if 1000000000 ≤ i.nano then 1 else 0
  nano := i.nano % 1000000000
  hour_lt := by
    have := i.localSecondOfDay_lt offset
    omega
  minute_lt := Nat.mod_lt _ (by decide)
  second_le := by split <;> omega
  nano_lt := Nat.mod_lt _ (by decide)

/-- A leap second comes at the end of a minute. -/
theorem localSecondOfDay_of_leap {i : Instant} (h : 1000000000 ≤ i.nano) (offset : Int) :
    i.localSecondOfDay offset % 60 = 59 := by
  rcases i.nano_mem with hnano | ⟨-, hsecond⟩
  · omega
  · unfold localSecondOfDay localSecond
    omega

/-- The clock shows 60 within leap seconds only. -/
theorem second_localClock (i : Instant) (offset : Int) :
    (i.localClock offset).second = 60 ↔ 1000000000 ≤ i.nano := by
  have hclock : (i.localClock offset).second =
      i.localSecondOfDay offset % 60 + if 1000000000 ≤ i.nano then 1 else 0 := rfl
  rw [hclock]
  split
  · have := localSecondOfDay_of_leap ‹_› offset
    omega
  · omega

/-- The clock at an offset shows the second of the day there. -/
theorem secondOfDay_localClock (i : Instant) (offset : Int) :
    (i.localClock offset).secondOfDay = i.localSecondOfDay offset := by
  by_cases h : 1000000000 ≤ i.nano
  · have := localSecondOfDay_of_leap h offset
    simp only [Clock.secondOfDay, localClock, if_pos h]
    omega
  · simp only [Clock.secondOfDay, localClock, if_neg h]
    omega

/-- An instant is found again from its date, its clock and their offset from UTC. -/
theorem ofLocal_local (i : Instant) (offset : Int) :
    ofLocal (i.localDate offset) (i.localClock offset) offset = i := by
  have hsecond : (i.localDate offset).dayNumber * 86400 + (i.localClock offset).secondOfDay
      - offset * 60 = i.second := by
    rw [localDate, Date.dayNumber_ofDayNumber, secondOfDay_localClock]
    unfold localSecondOfDay localSecond
    omega
  have hnano : (if (i.localClock offset).second = 60 then (i.localClock offset).nano + 1000000000
      else (i.localClock offset).nano) = i.nano := by
    have hmem := i.nano_mem
    have hclock : (i.localClock offset).nano = i.nano % 1000000000 := rfl
    simp only [second_localClock, hclock]
    split <;> omega
  cases i
  simp only [ofLocal, hsecond, hnano]

/-! ## Which local times have an instant -/

/-- The instant lies at most a day away from its local date. -/
theorem second_ofLocal (d : Date) (c : Clock) {offset : Int} (hlow : -1440 < offset)
    (hhigh : offset < 1440) :
    d.dayNumber - 1 ≤ (ofLocal d c offset).second / 86400 ∧
      (ofLocal d c offset).second / 86400 ≤ d.dayNumber + 1 := by
  have hh := c.hour_lt
  have hm := c.minute_lt
  simp only [ofLocal, Clock.secondOfDay]
  omega

/-- A date with a year of four digits has an instant for each reading of a clock that is less than
a day away from UTC. -/
theorem ofLocal?_eq_some_iff {d : Date} (hyear : 0 ≤ d.year ∧ d.year ≤ 9999) {c : Clock}
    {offset : Int} {i : Instant} :
    ofLocal? d c offset = some i ↔ (-1440 < offset ∧ offset < 1440) ∧ ofLocal d c offset = i := by
  simp only [ofLocal?, Option.ite_none_right_eq_some, Option.some.injEq, Bool.and_eq_true,
    decide_eq_true_eq]
  constructor
  · rintro ⟨⟨⟨hoffset, -⟩, -⟩, hi⟩
    exact ⟨hoffset, hi⟩
  · rintro ⟨hoffset, hi⟩
    have hday := second_ofLocal d c hoffset.1 hoffset.2
    have hd := d.dayNumber_mem_year
    have hlocal := (ofLocal d c offset).date.dayNumber_mem_year
    rw [date, Date.dayNumber_ofDayNumber] at hlocal
    refine ⟨⟨⟨hoffset, ?_⟩, ?_⟩, hi⟩
    · unfold minYear maxYear
      omega
    · -- a day more or less does not lead out of the years that have instants
      unfold daysBeforeYear at hd hlocal
      unfold minYear maxYear date
      omega

/-- Numbers make up a clock if they are those that it shows. -/
theorem Clock.ofNumbers?_eq_some_iff {h m s n : Nat} {clock : Clock} :
    Clock.ofNumbers? h m s n = some clock ↔
      clock.hour = h ∧ clock.minute = m ∧ clock.second = s ∧ clock.nano = n := by
  rw [Clock.ofNumbers?]
  constructor
  · intro h
    split at h
    · cases h
      exact ⟨rfl, rfl, rfl, rfl⟩
    · cases h
  · rintro ⟨rfl, rfl, rfl, rfl⟩
    rw [dif_pos ⟨clock.hour_lt, clock.minute_lt, clock.second_le, clock.nano_lt⟩]

/-- A date with a year of four digits is written as `YYYY-MM-DD`. -/
theorem dateText_eq {d : Date} (hyear : 0 ≤ d.year ∧ d.year ≤ 9999) :
    dateText d = Decimal.fixed 4 d.year.toNat ++ '-' ::
      (Decimal.fixed 2 d.month ++ '-' :: Decimal.fixed 2 d.day) := by
  rw [dateText, yearText, if_pos hyear, List.append_assoc, List.cons_append]

end FeedArchive.Instant
