import FeedArchive.Proofs.Time.Timestamp

/-!
# Writing timestamps

`Instant.charsAt` writes an instant as RFC 3339 does, with the date and the clock at an offset from
UTC. What is written is in the grammar of timestamps and stands for the instant (`writes_charsAt`);
at no offset it is `Instant.chars` (`chars_eq_charsAt`).
-/

namespace FeedArchive

/-- An offset as a sign, hours, a colon and minutes; with `zulu` set, `Z` for none. -/
def Offset.chars (zulu : Bool) (offset : Int) : List Char :=
  if zulu ∧ offset = 0 then ['Z']
  else (if offset < 0 then '-' else '+') ::
    (Decimal.fixed 2 (offset.natAbs / 60) ++ ':' :: Decimal.fixed 2 (offset.natAbs % 60))

namespace Instant

/-- An instant as RFC 3339 writes it at an offset from UTC. -/
def charsAt (i : Instant) (zulu : Bool) (offset : Int) : List Char :=
  dateText (i.localDate offset) ++ 'T' :: ((i.localClock offset).chars ++
    (fractionText (i.localClock offset).nano ++ Offset.chars zulu offset))

/-- The text of an instant at an offset from UTC, see `Instant.charsAt`. -/
def textAt (i : Instant) (zulu : Bool) (offset : Int) : String :=
  String.ofList (i.charsAt zulu offset)

/-- At no offset the local second is that of UTC. -/
theorem localSecond_zero (i : Instant) : i.localSecond 0 = i.second := by
  unfold localSecond
  omega

/-- At no offset the local date is that of UTC. -/
theorem localDate_zero (i : Instant) : i.localDate 0 = i.date := by
  rw [localDate, localSecond_zero, date]

/-- In UTC this is the text of the instant. -/
theorem chars_eq_charsAt (i : Instant) : i.chars = i.charsAt true 0 := by
  have hday : i.localSecondOfDay 0 = i.secondOfDay := by
    rw [localSecondOfDay, localSecond_zero, secondOfDay]
  simp only [chars, charsAt, localDate_zero, Clock.chars, localClock, hday, Offset.chars,
    List.append_assoc, List.cons_append]
  rfl

end Instant

namespace Rfc3339

/-- A point and digits of a fixed width are a fraction of a second. -/
theorem fraction_fixed (width n : Nat) (hwidth : 0 < width) (hn : n < 10 ^ width) :
    Fraction ('.' :: Decimal.fixed width n) (n * 10 ^ 9 / 10 ^ width) := by
  have h := Fraction.digits (Decimal.isDigits_fixed width n hwidth)
  rwa [Decimal.value_fixed, Decimal.length_fixed, Nat.mod_eq_of_lt hn] at h

/-- What is written for the nanoseconds of a second is a fraction with just these nanoseconds. -/
theorem fraction_fractionText {nano : Nat} (h : nano < 1000000000) :
    Fraction (Instant.fractionText nano) nano := by
  unfold Instant.fractionText
  split
  · subst nano
    exact .missing
  split
  · have hmillis := fraction_fixed 3 (nano / 1000000) (by decide) (by omega)
    rwa [show nano / 1000000 * 10 ^ 9 / 10 ^ 3 = nano by omega] at hmillis
  split
  · have hmicros := fraction_fixed 6 (nano / 1000) (by decide) (by omega)
    rwa [show nano / 1000 * 10 ^ 9 / 10 ^ 6 = nano by omega] at hmicros
  · have hnanos := fraction_fixed 9 nano (by decide) (by omega)
    rwa [show nano * 10 ^ 9 / 10 ^ 9 = nano by omega] at hnanos

/-- What is written for an offset is a zone with just this offset. -/
theorem zone_chars (zulu : Bool) {offset : Int} (h : -1440 < offset ∧ offset < 1440) :
    Zone (Offset.chars zulu offset) offset := by
  unfold Offset.chars
  split
  · rename_i hzulu
    rw [hzulu.2]
    exact .utc (Or.inl rfl)
  have hhours : offset.natAbs / 60 < 24 := by omega
  have hminutes : offset.natAbs % 60 < 60 := by omega
  split
  · have hbehind := Zone.behind (c := '-') (Or.inl rfl) hhours hminutes
    rwa [show -((offset.natAbs / 60 * 60 + offset.natAbs % 60 : Nat) : Int) = offset by omega]
      at hbehind
  · have hahead := Zone.ahead hhours hminutes
    rwa [show ((offset.natAbs / 60 * 60 + offset.natAbs % 60 : Nat) : Int) = offset by omega]
      at hahead

/-- What is written for an instant is a timestamp that stands for it. -/
theorem writes_charsAt (i : Instant) (zulu : Bool) {offset : Int}
    (hoffset : -1440 < offset ∧ offset < 1440)
    (hyear : 0 ≤ (i.localDate offset).year ∧ (i.localDate offset).year ≤ 9999) :
    Writes (i.charsAt zulu offset) i := by
  have hmark : 'T' ∈ ['T', 't', ' '] := by simp
  have hfraction := fraction_fractionText (i.localClock offset).nano_lt
  have h := Writes.mk hyear hmark hfraction (zone_chars zulu hoffset)
  rwa [Instant.ofLocal_local] at h

end Rfc3339

/-! ## Midnights -/

/-- The text of a date, as `YYYY-MM-DD` if its year has four digits. -/
def Date.text (d : Date) : String :=
  String.ofList (Instant.dateText d)

/-- The first instant of a date in UTC. -/
def Date.midnight (d : Date) : Instant :=
  Instant.ofLocal d .midnight 0

namespace Date

variable {d e : Date}

/-- The second of a midnight is that of its day. -/
theorem second_midnight (d : Date) : d.midnight.second = d.dayNumber * 86400 := by
  simp only [midnight, Instant.ofLocal, Instant.Clock.secondOfDay, Instant.Clock.midnight]
  omega

theorem nano_midnight (d : Date) : d.midnight.nano = 0 := rfl

/-- Midnights are in the order of their dates. -/
theorem compare_midnight_eq_lt_iff : compare d.midnight e.midnight = .lt ↔ d.Before e := by
  have hcompare : compare d.midnight e.midnight
      = (compare d.midnight.second e.midnight.second).then
        (compare d.midnight.nano e.midnight.nano) := rfl
  rw [hcompare, nano_midnight, nano_midnight, Nat.compare_eq_eq.mpr rfl, Ordering.then_eq,
    Int.compare_eq_lt, second_midnight, second_midnight, ← dayNumber_lt_iff]
  omega

end Date

/-- The timestamp of a midnight in UTC. -/
theorem Rfc3339.writes_midnight {d : Date} (hyear : 0 ≤ d.year ∧ d.year ≤ 9999) :
    Rfc3339.Writes (Instant.dateText d ++ "T00:00:00Z".toList) d.midnight :=
  have hmark : 'T' ∈ ['T', 't', ' '] := by simp
  .mk (c := .midnight) hyear hmark .missing (.utc (Or.inl rfl))

end FeedArchive
