import FeedArchive.Time.Instant
import FeedArchive.Time.Offset

/-! # Layouts of dates and times

A layout is a list of items, each of which takes one part of a date, a time or a zone off the
front of a text. What the items have taken is a `Reading`, from which a date or an instant
follows if nothing is missing and the calendar and the clock have it. -/

namespace FeedArchive

namespace Layout

/-- What a layout has read so far. -/
structure Reading where
  year : Option Int := none
  month : Option Nat := none
  day : Option Nat := none
  hour : Option Nat := none
  /-- The hour on a dial of twelve. -/
  dialHour : Option Nat := none
  afternoon : Option Bool := none
  minute : Option Nat := none
  second : Option Nat := none
  nano : Option Nat := none
  /-- The offset from UTC in minutes. -/
  offset : Option Int := none

/-- The parts that are written as numbers. -/
inductive Part where
  | year
  | yearOfCentury
  | month
  | day
  | hour
  | dialHour
  | minute
  | second
  deriving DecidableEq

/-- One item of a layout. -/
inductive Item where
  /-- A number, with any white space in front of it. -/
  | number (part : Part)
  /-- One given character. -/
  | literal (c : Char)
  /-- Any white space, perhaps none. -/
  | blanks
  /-- The name of a month, in full or its first three letters. -/
  | monthName
  /-- A fraction of a second with its point, perhaps missing. -/
  | fraction
  /-- `am` or `pm`. -/
  | meridiem
  /-- One of `T`, `t` and a space. -/
  | dateTimeMark
  /-- The name of a zone, which says nothing here: all up to the next white space. -/
  | anyZone
  /-- A numeric offset, perhaps without minutes. -/
  | offset
  /-- `UTC` or a numeric offset with minutes. -/
  | zone

/-- The names of the months. -/
def monthNames : List String :=
  ["January", "February", "March", "April", "May", "June", "July", "August", "September",
    "October", "November", "December"]

/-- The month whose name has these first three letters, in whatever case. -/
def monthOfLetters? (letters : List Char) : Option Nat :=
  let letters := letters.map Char.toLower
  (monthNames.findIdx? fun name => (name.toList.take 3).map Char.toLower == letters).map (· + 1)

/-- The first three letters of the name of a month, as the number of the month. -/
def shortMonth : Scan Nat := fun cs =>
  (monthOfLetters? (cs.take 3)).map fun month => (month, cs.drop 3)

/-- The name of a month, in full if it is there in full, else its first three letters. -/
def monthName : Scan Nat := do
  let m ← shortMonth
  let _ ← Scan.optional (Scan.word (String.ofList (((monthNames.getD (m - 1) "").toList).drop 3)))
  pure m

/-- The number of a year: up to four digits, or any number of them after a sign. -/
def yearNumber : Scan Int := do
  match (← Scan.rest) with
  | '-' :: _ => do Scan.char '-'; let n ← Scan.number 1 none; pure (-(n : Int))
  | '+' :: _ => do Scan.char '+'; let n ← Scan.number 1 none; pure n
  | _ => do let n ← Scan.number 1 (some 4); pure n

/-- A number of one or two digits from `least` to `greatest`. -/
def within (least greatest : Nat) : Scan Nat := do
  let n ← Scan.number 1 (some 2)
  if least ≤ n && n ≤ greatest then pure n else failure

/-- Takes one part that is written as a number. -/
def Reading.take (r : Reading) : Part → Scan Reading
  | .year => do return { r with year := some (← yearNumber) }
  | .yearOfCentury => do
    let n ← within 0 99
    return { r with year := some (if n < 70 then 2000 + n else 1900 + n) }
  | .month => do return { r with month := some (← within 1 12) }
  | .day => do return { r with day := some (← within 1 31) }
  | .hour => do return { r with hour := some (← within 0 23) }
  | .dialHour => do return { r with dialHour := some (← within 1 12) }
  | .minute => do return { r with minute := some (← within 0 59) }
  | .second => do return { r with second := some (← within 0 60) }

/-- Offsets with any run of colons and white space inside, and `Z`. -/
def offsetSpelling (hoursAlone : Bool) : Offset.Spelling :=
  { divider := .loose, zulu := true, hoursAlone, minusSign := true }

/-- Takes what one item stands for. -/
def Reading.step (r : Reading) : Item → Scan Reading
  | .number part => do Scan.blanks; r.take part
  | .literal c => do Scan.char c; return r
  | .blanks => do Scan.blanks; return r
  | .monthName => do return { r with month := some (← monthName) }
  | .fraction => do
    match (← Scan.rest) with
    | '.' :: _ => do Scan.char '.'; return { r with nano := some (← Scan.nanosAfterPoint) }
    | _ => return r
  | .meridiem => do
    let c ← Scan.oneOf fun c => c.toLower == 'a' || c.toLower == 'p'
    let _ ← Scan.oneOf fun c => c.toLower == 'm'
    return { r with afternoon := some (c.toLower == 'p') }
  | .dateTimeMark => do
    let _ ← Scan.oneOf fun c => c == 'T' || c == 't' || c == ' '
    return r
  | .anyZone => do let _ ← Scan.longest fun c => !Text.isBlank c; return r
  | .offset => do
    Scan.blanks
    return { r with offset := some (← Offset.scan (offsetSpelling true)) }
  | .zone => do
    match (← Scan.optional (Scan.word "UTC")) with
    | some () => return { r with offset := some 0 }
    | none => return { r with offset := some (← Offset.scan (offsetSpelling false)) }

/-- Takes what the items stand for, one after the other. -/
def Reading.steps (r : Reading) : List Item → Scan Reading
  | [] => pure r
  | item :: items => do (← r.step item).steps items

/-! ## What a reading says -/

/-- The date, if the calendar has it. -/
def Reading.date? (r : Reading) : Option Date := do
  let y ← r.year
  let d ← Date.ofNumbers? y (← r.month) (← r.day)
  if Instant.minYear ≤ y ∧ y ≤ Instant.maxYear then some d else none

/-- The hour of the day, from the dial of twelve if there is no other. -/
def Reading.hour? (r : Reading) : Option Nat :=
  match r.hour, r.dialHour, r.afternoon with
  | some h, none, none => some h
  | none, some h, some afternoon => some (h % 12 + if afternoon then 12 else 0)
  | _, _, _ => none

/-- The reading of the clock; the seconds may be missing, but not in front of a fraction. -/
def Reading.clock? (r : Reading) : Option Instant.Clock := do
  let h ← r.hour?
  let m ← r.minute
  match r.second, r.nano with
  | none, some _ => none
  | s, n => Instant.Clock.ofNumbers? h m (s.getD 0) (n.getD 0)

/-- The instant, by a clock that is `offset` minutes ahead of UTC unless the text says
otherwise. -/
def Reading.instant? (r : Reading) (offset : Int) : Option Instant := do
  Instant.ofLocal? (← r.date?) (← r.clock?) (r.offset.getD offset)

end Layout

/-- A list of items that a text is read by. -/
abbrev Layout := List Layout.Item

namespace Layout

/-- Reads a text that the layout uses up. -/
def read (layout : Layout) (cs : List Char) : Option Reading :=
  Scan.whole (Reading.steps {} layout) cs

/-- The date in a text that the layout uses up. -/
def readDate (layout : Layout) (cs : List Char) : Option Date :=
  (layout.read cs).bind Reading.date?

/-- The instant in a text that the layout uses up, in UTC unless the text says otherwise. -/
def readInstant (layout : Layout) (cs : List Char) : Option Instant :=
  (layout.read cs).bind (Reading.instant? · 0)

/-- A date as `YYYY-MM-DD`, read loosely: white space in front of a number, short months and
days, and years with a sign are allowed. -/
def isoDate : Layout :=
  [.number .year, .literal '-', .number .month, .literal '-', .number .day]

/-- A timestamp like that of RFC 3339, read loosely: white space between the parts is allowed,
numbers may be short, and `UTC` is a zone. -/
def looseTimestamp : Layout :=
  [.number .year, .blanks, .literal '-', .number .month, .blanks, .literal '-', .number .day,
    .dateTimeMark, .number .hour, .blanks, .literal ':', .number .minute, .blanks, .literal ':',
    .number .second, .fraction, .blanks, .zone, .blanks]

end Layout

end FeedArchive
