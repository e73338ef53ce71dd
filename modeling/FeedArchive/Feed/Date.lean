import FeedArchive.Text.Shape
import FeedArchive.Time.Rfc2822
import FeedArchive.Time.Rfc3339

/-! # Dates in feeds

Feeds should write dates as mail headers do, but many write them otherwise. `Feed.date?` tries a
list of formats in order: a count of seconds, milliseconds or nanoseconds, the dates of mail
headers, and then families of dates that are told apart by their beginnings. Where a text names
no zone it is in UTC.

Forms without a time of day, without a date or without a year are left out: `2021-02-21`,
`2021-Feb-21`, `2020-07-20+08:00`, `May 25, 2021`, `7 oct 1970`, `3/31/2014`, `2014/3/31`,
`3.31.2014`, `2014年04月08日`, `6:15pm`, `01:06:06 PST`, `May 27 02:45:27`. What such a text lacks
would have to be taken from the clock when it is read. `date?` does not read it, so that an item
with such a date counts as published when it was fetched. -/

namespace FeedArchive.Feed

open Shape

/-- A layout together with the shape of the texts that are read by it. -/
structure DateFormat where
  shape : Shape
  layouts : List Layout

/-- The first layout that reads the text, if the text has the shape. -/
def DateFormat.read (format : DateFormat) (cs : List Char) : Option Instant :=
  if format.shape.fits cs then format.layouts.findSome? (·.readInstant cs) else none

/-! ## Common parts -/

/-- Seconds with their colon, perhaps missing. -/
def maybeSeconds : Part := .maybe [.word [":"], .run Char.isDigit 2 (some 2)]

/-- A fraction with its point, perhaps missing. -/
def maybeFraction : Part := .maybe [.word ["."], .run Char.isDigit 1 (some 9)]

/-- The half of the day, perhaps missing. -/
def maybeMeridiem : Part := .maybe [.word ["am", "pm", "AM", "PM"]]

/-- A character of a numeric offset, or of what looks like one: from `+` to `:` in ASCII. -/
def isOffsetChar (c : Char) : Bool := '+' ≤ c && c ≤ ':'

/-- A character of a zone. -/
def isZoneChar (c : Char) : Bool := isOffsetChar c || c.isAlpha

/-- A zone of three to six characters. -/
def zone (blanksBefore : Nat) : Shape := [blanks blanksBefore, .one (.run isZoneChar 3 (some 6))]

/-- Hours and minutes. -/
def hourMinute : Layout := [.blanks, .number .hour, .literal ':', .number .minute]

/-- Hours, minutes and seconds. -/
def hourSecond : Layout := hourMinute ++ [.literal ':', .number .second]

/-- Hours, minutes and seconds with a fraction. -/
def hourFraction : Layout := hourSecond ++ [.fraction]

/-- Hours and minutes by a dial of twelve. -/
def dialMinute : Layout :=
  [.blanks, .number .dialHour, .literal ':', .number .minute, .blanks, .meridiem]

/-- Hours, minutes and seconds by a dial of twelve. -/
def dialSecond : Layout :=
  [.blanks, .number .dialHour, .literal ':', .number .minute, .literal ':', .number .second,
    .blanks, .meridiem]

/-- The ways to go on after a date, in the order in which they are tried. -/
def timesOfDay : List Layout := [hourSecond, hourMinute, hourFraction, dialSecond, dialMinute]

/-- The ways to go on after a date where no fraction is expected. -/
def plainTimesOfDay : List Layout := [hourSecond, hourMinute, dialSecond, dialMinute]

/-! ## Zones at the end of a date -/

/-- The offsets in zones that have a colon. -/
def colonSpelling : Offset.Spelling :=
  { divider := .loose, zulu := false, hoursAlone := false, minusSign := false }

/-- The offsets in zones that have no colon. -/
def digitsSpelling : Offset.Spelling :=
  { divider := .nothing, zulu := false, hoursAlone := false, minusSign := false }

/-- The offset in minutes that a zone stands for. Names that are not known stand for UTC. -/
def zoneOffset? (zone : List Char) : Option Int :=
  let numeric := fun spelling => (Offset.numeric spelling zone).map Prod.fst
  if zone.contains ':' then numeric colonSpelling
  else match zone.takeWhile Char.isAlpha with
    | [] => numeric digitsSpelling
    | name => some ((Offset.namedHours name).getD 0 * 60)

/-- A format that ends in a zone, which is read apart from the date and time before it. -/
structure ZonedFormat where
  front : Shape
  zone : Shape
  /-- What is done to the text before the layouts read it. -/
  prepare : List Char → List Char
  layouts : List Layout

/-- Reads the date and time by a clock in the zone at the end of the text. -/
def ZonedFormat.read (format : ZonedFormat) (cs : List Char) : Option Instant := do
  let zone ← Shape.endAfter format.front format.zone cs
  let offset ← zoneOffset? (Text.trim zone)
  let reading ← format.layouts.findSome? fun layout => do
    let reading ← layout.read (format.prepare cs)
    let _ ← reading.date?
    let _ ← reading.clock?
    pure reading
  Instant.ofLocal? (← reading.date?) (← reading.clock?) offset

/-- Leaves out every occurrence of a non-empty text. -/
def without (text : List Char) (cs : List Char) : List Char :=
  match cs with
  | [] => []
  | c :: cs =>
    if !text.isEmpty && text.isPrefixOf (c :: cs) then without text (cs.drop (text.length - 1))
    else c :: without text cs
termination_by cs.length
decreasing_by all_goals simp only [List.length_drop, List.length_cons]; omega

/-- Puts a space for a mark that is followed by a space. -/
def markToSpace (mark : Char) : List Char → List Char
  | c :: ' ' :: cs =>
    if c = mark then ' ' :: markToSpace mark cs else c :: markToSpace mark (' ' :: cs)
  | c :: cs => c :: markToSpace mark cs
  | [] => []

/-! ## Counts since 1970 -/

/-- Ten digits count seconds, thirteen milliseconds and nineteen nanoseconds. -/
def sinceEpoch? (cs : List Char) : Option Instant := do
  let n ← Decimal.digitsOnly? cs
  match cs.length with
  | 10 => some (Instant.ofSecond n)
  | 13 => some (Instant.ofNanos (n * 1000000))
  | 19 => if Decimal.inInt64 n then some (Instant.ofNanos n) else none
  | _ => none

/-! ## Year first -/

/-- The shape of a date as `YYYY-MM-DD` with hours and minutes. -/
def yearFirst : Shape :=
  [digits 4 4, fixed "-", digits 2 2, fixed "-", digits 2 2, blanks 1, digits 2 2, fixed ":",
    digits 2 2, maybeSeconds, maybeFraction]

/-- An offset right after the time, as databases write it. -/
def offsetDate : DateFormat where
  shape := yearFirst ++ [.one (.run isOffsetChar 3 (some 6))]
  layouts := [hourSecond, hourFraction, hourMinute].map (Layout.isoDate ++ · ++ [.offset])

/-- No zone. -/
def plainDate : DateFormat where
  shape := yearFirst ++ [blanks 0, maybeMeridiem]
  layouts := timesOfDay.map (Layout.isoDate ++ ·)

/-- A zone at the end. -/
def zonedDate : ZonedFormat where
  front := yearFirst
  zone := zone 0
  prepare := id
  layouts := [hourSecond, hourMinute, hourFraction].map (Layout.isoDate ++ · ++ [.blanks, .anyZone])

/-- Dates that begin with the year and a hyphen. -/
def hyphenDate? (cs : List Char) : Option Instant :=
  Rfc3339.read cs <|> offsetDate.read cs <|> plainDate.read cs <|> zonedDate.read cs

/-! ## Name of the month first -/

/-- Month, day and year, as in `May 8, 2009`. -/
def monthDayYear : Layout := [.monthName, .blanks, .number .day, .blanks, .number .year]

/-- No zone. -/
def monthDate : DateFormat where
  shape := [letters 3 9, maybeFixed ".", blanks 1, digits 1 2, fixed ",", blanks 1, digits 2 4,
    maybeFixed ",", blanks 1, digits 1 2, fixed ":", digits 2 2, maybeSeconds, blanks 0,
    maybeMeridiem]
  layouts := plainTimesOfDay.map (monthDayYear ++ ·)

/-- A zone at the end. The hour has two digits here. -/
def zonedMonthDate : ZonedFormat where
  front := [letters 3 9, blanks 1, digits 1 2, maybeFixed ",", blanks 1, digits 4 4, blanks 0,
    maybeFixed ",", maybeFixed "at", blanks 1, digits 2 2, fixed ":", digits 2 2, maybeSeconds,
    blanks 0, maybeMeridiem]
  zone := zone 1
  prepare := fun cs => without "at".toList (without ",".toList cs)
  layouts := plainTimesOfDay.map (monthDayYear ++ · ++ [.blanks, .anyZone])

/-- Reads a date with the name of the month in front; commas and points before a space are left
out. -/
def monthDate? (cs : List Char) : Option Instant :=
  (if monthDate.shape.fits cs then
    monthDate.layouts.findSome? (·.readInstant (markToSpace '.' (markToSpace ',' cs)))
  else none) <|> zonedMonthDate.read cs

/-! ## Day first -/

/-- Day, name of the month and year. -/
def dayDate : DateFormat where
  shape := [digits 1 2, blanks 1, letters 3 9, blanks 1, digits 2 4, maybeFixed ",", blanks 1,
    digits 1 2, fixed ":", digits 2 2, maybeSeconds, maybeFraction]
  layouts := timesOfDay.map
    ([.number .day, .blanks, .monthName, .blanks, .number .year] ++ ·)

/-- Reads a date with the day in front; a comma before a space is left out. -/
def dayDate? (cs : List Char) : Option Instant :=
  if dayDate.shape.fits cs then
    dayDate.layouts.findSome? (·.readInstant (markToSpace ',' cs))
  else none

/-! ## Numbers with slashes, and others -/

/-- Month, day and year, the year with two digits if that can be read so. -/
def slashDate : DateFormat where
  shape := [digits 1 2, fixed "/", digits 1 2, fixed "/", digits 2 4, blanks 1, digits 1 2,
    fixed ":", digits 2 2, maybeSeconds, maybeFraction, blanks 0, maybeMeridiem]
  layouts := [Layout.Part.yearOfCentury, Layout.Part.year].flatMap fun part => timesOfDay.map
    ([.number .month, .literal '/', .number .day, .literal '/', .number part] ++ ·)

/-- Year, month and day. -/
def yearSlashDate : DateFormat where
  shape := [digits 4 4, fixed "/", digits 1 2, fixed "/", digits 1 2, blanks 1, digits 1 2,
    fixed ":", digits 2 2, maybeSeconds, maybeFraction, blanks 0, maybeMeridiem]
  layouts := timesOfDay.map
    ([.number .year, .literal '/', .number .month, .literal '/', .number .day] ++ ·)

/-- The times in the logs of databases, as `171113 14:14:20`. -/
def logShape : Shape :=
  [digits 6 6, blanks 1, digits 2 2, fixed ":", digits 2 2, fixed ":", digits 2 2]

/-- See `logShape`. -/
def logDate? (cs : List Char) : Option Instant :=
  if logShape.occursIn cs then
    Layout.readInstant ([.number .yearOfCentury, .number .month, .number .day] ++ hourSecond) cs
  else none

/-- Dates and times with the units in Chinese. -/
def chineseDate : DateFormat where
  shape := [digits 4 4, fixed "年", digits 2 2, fixed "月", digits 2 2, fixed "日", digits 2 2,
    fixed "时", digits 2 2, fixed "分", digits 2 2, fixed "秒"]
  layouts := [[.number .year, .literal '年', .number .month, .literal '月', .number .day,
    .literal '日', .number .hour, .literal '时', .number .minute, .literal '分', .number .second,
    .literal '秒']]

/-- The instant that the date of a feed stands for. -/
def date? (cs : List Char) : Option Instant :=
  sinceEpoch? cs <|> Rfc2822.read cs <|> hyphenDate? cs <|> monthDate? cs <|> dayDate? cs <|>
    slashDate.read cs <|> yearSlashDate.read cs <|> logDate? cs <|> chineseDate.read cs

end FeedArchive.Feed
