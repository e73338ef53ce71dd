import FeedArchive.Time.Instant
import FeedArchive.Time.Offset

/-! # Timestamps of RFC 3339

The strict reading of a timestamp such as `2024-12-25T15:30:00.5+09:00`. -/

namespace FeedArchive.Rfc3339

/-- The offset of a timestamp: `Z`, or a sign, hours, a colon and minutes. -/
def offsetSpelling : Offset.Spelling :=
  { divider := .colon, zulu := true, hoursAlone := false, minusSign := true }

/-- The character between date and time. -/
def isMark (c : Char) : Bool :=
  c == 'T' || c == 't' || c == ' '

/-- A date as `YYYY-MM-DD`. -/
def date : Scan (Nat × Nat × Nat) := do
  let y ← Scan.fixedNumber 4
  Scan.char '-'
  let m ← Scan.fixedNumber 2
  Scan.char '-'
  let d ← Scan.fixedNumber 2
  pure (y, m, d)

/-- A time as `HH:MM:SS` with an optional fraction. -/
def time : Scan (Nat × Nat × Nat × Nat) := do
  let h ← Scan.fixedNumber 2
  Scan.char ':'
  let m ← Scan.fixedNumber 2
  Scan.char ':'
  let s ← Scan.fixedNumber 2
  let nanos ← Scan.nanos
  pure (h, m, s, nanos)

/-- A whole timestamp. -/
def timestamp : Scan Instant := do
  let (y, mo, d) ← date
  let _ ← Scan.oneOf isMark
  let (h, mi, s, nanos) ← time
  let offset ← Offset.scan offsetSpelling
  let some day := Date.ofNumbers? y mo d | failure
  let some clock := Instant.Clock.ofNumbers? h mi s nanos | failure
  let some i := Instant.ofLocal? day clock offset | failure
  pure i

/-- Reads a timestamp that fills the text. -/
def read (cs : List Char) : Option Instant :=
  Scan.whole timestamp cs

end FeedArchive.Rfc3339
