import FeedArchive.Text.Decimal
import FeedArchive.Time.Calendar

/-! # Instants and spans of time

Points of time in UTC with nanoseconds, ordered in time, and their text in RFC 3339; and lengths of
time in nanoseconds, with a text in the largest unit of which there is at least one.

A leap second is kept: it belongs to the last second of its minute, and its nanoseconds run on
from 1,000,000,000. -/

namespace FeedArchive

/-! ## Spans of time -/

/-- A length of time. -/
structure Span where
  nanos : Nat
  deriving DecidableEq

namespace Span

def ofSeconds (n : Nat) : Span := ⟨n * 1000000000⟩

def ofMillis (n : Nat) : Span := ⟨n * 1000000⟩

/-- The whole seconds. -/
def seconds (s : Span) : Nat := s.nanos / 1000000000

/-- The nanoseconds beyond the whole seconds. -/
def subsecond (s : Span) : Nat := s.nanos % 1000000000

/-- A number of nanoseconds as a multiple of a unit of `10 ^ places` of them, without zeros at the
end of the fraction. -/
def inUnit (places n : Nat) : List Char :=
  let fraction := Decimal.fixed places (n % Nat.pow 10 places)
  let kept := (fraction.reverse.dropWhile (· == '0')).reverse
  Decimal.numeral (n / Nat.pow 10 places) ++ if kept.isEmpty then [] else '.' :: kept

/-- The text with its unit, such as `1.5s`, `20ms`, `1µs` or `0ns`. -/
def text (s : Span) : String :=
  let n := s.nanos
  if 1000000000 ≤ n then String.ofList (inUnit 9 n) ++ "s"
  else if 1000000 ≤ n then String.ofList (inUnit 6 n) ++ "ms"
  else if 1000 ≤ n then String.ofList (inUnit 3 n) ++ "µs"
  else String.ofList (inUnit 0 n) ++ "ns"

end Span

/-! ## Points of time -/

/-- A point of time: whole seconds since 1970-01-01T00:00:00Z and the nanoseconds after them. -/
structure Instant where
  second : Int
  nano : Nat
  nano_mem : nano < 1000000000 ∨ (nano < 2000000000 ∧ second % 60 = 59)
  deriving DecidableEq

namespace Instant

/-- Earlier, at the same time, or later. -/
def compare (a b : Instant) : Ordering :=
  (Ord.compare a.second b.second).then (Ord.compare a.nano b.nano)

instance : Ord Instant := ⟨compare⟩

/-- Not later than. -/
def le (a b : Instant) : Bool :=
  a.second < b.second || (a.second == b.second && a.nano ≤ b.nano)

/-- The instant of a number of whole seconds since 1970-01-01T00:00:00Z. -/
def ofSecond (second : Int) : Instant :=
  ⟨second, 0, Or.inl (by decide)⟩

/-- The instant of a number of nanoseconds since 1970-01-01T00:00:00Z. -/
def ofNanos (n : Int) : Instant :=
  ⟨n / 1000000000, (n % 1000000000).toNat, Or.inl (by omega)⟩

/-! ## From the calendar and the clock -/

/-- A reading of a clock; the second 60 is a leap second. -/
structure Clock where
  hour : Nat
  minute : Nat
  second : Nat
  nano : Nat
  hour_lt : hour < 24
  minute_lt : minute < 60
  second_le : second ≤ 60
  nano_lt : nano < 1000000000
  deriving DecidableEq

/-- The reading with these numbers, if a clock shows it. -/
def Clock.ofNumbers? (hour minute second nano : Nat) : Option Clock :=
  if h : hour < 24 ∧ minute < 60 ∧ second ≤ 60 ∧ nano < 1000000000 then
    some ⟨hour, minute, second, nano, h.1, h.2.1, h.2.2.1, h.2.2.2⟩
  else none

/-- Midnight. -/
def Clock.midnight : Clock :=
  ⟨0, 0, 0, 0, by decide, by decide, by decide, by decide⟩

/-- The whole seconds since midnight; a leap second counts as the one before it. -/
def Clock.secondOfDay (c : Clock) : Int :=
  (c.hour * 3600 + c.minute * 60 + min c.second 59 : Nat)

/-- The instant at which a clock that is `offset` minutes ahead of UTC shows this date and
time. -/
def ofLocal (d : Date) (c : Clock) (offset : Int) : Instant where
  second := d.dayNumber * 86400 + c.secondOfDay - offset * 60
  nano := if c.second = 60 then c.nano + 1000000000 else c.nano
  nano_mem := by
    have := c.nano_lt
    simp only [Clock.secondOfDay]
    split
    · right; omega
    · left; omega

/-- The first year that has instants here. -/
def minYear : Int := -262143

/-- The last year that has instants here. -/
def maxYear : Int := 262142

/-- The date in UTC. -/
def date (i : Instant) : Date :=
  Date.ofDayNumber (i.second / 86400)

/-- The seconds since midnight in UTC. -/
def secondOfDay (i : Instant) : Nat :=
  (i.second % 86400).toNat

/-- See `ofLocal`; there is none where the offset is a day or more, or the year is out of
range. -/
def ofLocal? (d : Date) (c : Clock) (offset : Int) : Option Instant :=
  let i := ofLocal d c offset
  let inYears := fun (d : Date) => decide (minYear ≤ d.year ∧ d.year ≤ maxYear)
  if -1440 < offset && offset < 1440 && inYears d && inYears i.date then some i else none

/-! ## Text -/

/-- The year with four digits, from 10000 and below 0 with its sign. -/
def yearText (year : Int) : List Char :=
  if 0 ≤ year ∧ year ≤ 9999 then Decimal.fixed 4 year.toNat
  else (if year < 0 then '-' else '+') :: Decimal.padded 4 year.natAbs

/-- A fraction of a second with its point, in 0, 3, 6 or 9 digits, the fewest that are exact. -/
def fractionText (nano : Nat) : List Char :=
  if nano = 0 then []
  else if nano % 1000000 = 0 then '.' :: Decimal.fixed 3 (nano / 1000000)
  else if nano % 1000 = 0 then '.' :: Decimal.fixed 6 (nano / 1000)
  else '.' :: Decimal.fixed 9 nano

/-- The year, month and day. -/
def dateText (d : Date) : List Char :=
  yearText d.year ++ '-' :: Decimal.fixed 2 d.month ++ '-' :: Decimal.fixed 2 d.day

/-- The instant in UTC as RFC 3339 writes it. -/
def chars (i : Instant) : List Char :=
  let ofDay := i.secondOfDay
  let isLeap := 1000000000 ≤ i.nano
  dateText i.date ++ 'T' :: Decimal.fixed 2 (ofDay / 3600) ++
    ':' :: Decimal.fixed 2 (ofDay / 60 % 60) ++
    ':' :: Decimal.fixed 2 (ofDay % 60 + if isLeap then 1 else 0) ++
    fractionText (i.nano % 1000000000) ++ ['Z']

/-- The text of an instant, see `Instant.chars`. -/
def text (i : Instant) : String :=
  String.ofList i.chars

end Instant

end FeedArchive
