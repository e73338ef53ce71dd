import FeedArchive.Time.Layout

/-! # Dates of RFC 2822

The dates of mail headers, such as `Sun, 10 Aug 2025 12:00:00 +0000`. -/

namespace FeedArchive.Rfc2822

/-- The names of the days of the week, from Monday, in their first three letters. -/
def weekdayNames : List String :=
  ["Mon", "Tue", "Wed", "Thu", "Fri", "Sat", "Sun"]

/-- A day of the week in three letters of whatever case, counted from 0 for Monday. -/
def weekday : Scan Nat := fun cs =>
  match weekdayNames.findIdx? fun name => (Scan.word name cs).isSome with
  | some k => some (k, cs.drop 3)
  | none => none

/-- The day of the week and its comma, if a day of the week is there. -/
def leadingWeekday : Scan (Option Nat) := do
  match (← Scan.optional weekday) with
  | some w => do Scan.char ','; pure (some w)
  | none => pure none

/-- The year meant by the digits of a year: with two of them the years 2000 to 2049 and 1950 to
1999, with three of them the years from 1900 on. -/
def fullYear (digits : List Char) : Nat :=
  let n := Decimal.value digits
  match digits.length with
  | 2 => if n < 50 then 2000 + n else 1900 + n
  | 3 => 1900 + n
  | _ => n

/-- The seconds with their colon, if a colon is there. -/
def seconds : Scan Nat := fun cs =>
  match Text.trimStart cs with
  | ':' :: cs => Scan.fixedNumber 2 cs
  | _ => some (0, cs)

/-- A numeric offset of a sign and four digits. -/
def offsetSpelling : Offset.Spelling :=
  { divider := .nothing, zulu := false, hoursAlone := false, minusSign := false }

/-- A letter that stands for a zone of the military; its meaning is lost, so it counts as UTC. -/
def isMilitary (c : Char) : Bool :=
  c.isAlpha && c.toLower != 'j'

/-- The zone: a numeric offset, a name, or one letter. -/
def zone : Scan Int := do
  match (← Scan.longest Char.isAlpha) with
  | [] => Offset.numeric offsetSpelling
  | [c] => if isMilitary c then pure 0 else failure
  | name => match Offset.namedHours name with
    | some h => pure (h * 60)
    | none => failure

/-- What follows the end of a comment that is open `depth` times, if it ends. -/
def afterComment : (depth : Nat) → List Char → Option (List Char)
  | _, [] => none
  | 0, cs => some cs
  | depth, '\\' :: _ :: cs => afterComment depth cs
  | _, ['\\'] => none
  | depth, '(' :: cs => afterComment (depth + 1) cs
  | 1, ')' :: cs => some cs
  | depth + 2, ')' :: cs => afterComment (depth + 1) cs
  | depth, _ :: cs => afterComment depth cs

/-- A comment in brackets with the white space in front of it. -/
def comment : Scan Unit := fun cs =>
  match Text.trimStart cs with
  | '(' :: cs => (afterComment 1 cs).map ((), ·)
  | _ => none

/-- Takes comments, at most `n` of them. -/
def comments : (n : Nat) → Scan Unit
  | 0 => pure ()
  | n + 1 => do
    match (← Scan.optional comment) with
    | some () => comments n
    | none => pure ()

/-- The parts of a date up to its zone and comments. -/
def parts : Scan (Option Nat × Layout.Reading) := do
  Scan.blanks
  let weekday ← leadingWeekday
  Scan.blanks
  let day ← Scan.number 1 (some 2)
  Scan.someBlanks
  let month ← Layout.shortMonth
  Scan.someBlanks
  let year ← Scan.digits 2 none
  Scan.someBlanks
  let hour ← Scan.fixedNumber 2
  Scan.blanks
  Scan.char ':'
  Scan.blanks
  let minute ← Scan.fixedNumber 2
  let second ← seconds
  Scan.someBlanks
  let offset ← zone
  let left ← Scan.rest
  comments left.length
  pure (weekday,
    { year := some (fullYear year), month := some month, day := some day, hour := some hour,
      minute := some minute, second := some second, offset := some offset })

/-- Reads a date that fills the text; a day of the week has to be that of the date. -/
def read (cs : List Char) : Option Instant := do
  let (weekday, reading) ← Scan.whole parts cs
  let date ← reading.date?
  match weekday with
  | some w => if w = date.weekday then reading.instant? 0 else none
  | none => reading.instant? 0

end FeedArchive.Rfc2822
