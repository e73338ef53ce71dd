import FeedArchive.Text.Scan

/-! # Offsets from UTC

Numeric offsets such as `+09:00`, in the spellings that the formats of timestamps allow, and the
zone names of mail headers. Offsets are in minutes, ahead of UTC where positive. -/

namespace FeedArchive.Offset

/-- What stands between the hours and the minutes of an offset. -/
inductive Divider where
  /-- Nothing. -/
  | nothing
  /-- One colon. -/
  | colon
  /-- Any run of colons and white space. -/
  | loose
  deriving DecidableEq

/-- The spellings of numeric offsets that a format allows. -/
structure Spelling where
  divider : Divider
  /-- The letter `Z` stands for UTC. -/
  zulu : Bool
  /-- The minutes may be missing at the end of the text. -/
  hoursAlone : Bool
  /-- The minus sign U+2212 is a sign as well. -/
  minusSign : Bool

/-- The sign of an offset: whether it is negative. -/
def sign (spelling : Spelling) : Scan Bool := do
  let c ← Scan.oneOf fun c => c == '+' || c == '-' || (spelling.minusSign && c == '\u2212')
  pure (c != '+')

/-- Takes what stands between hours and minutes. -/
def divide : Divider → Scan Unit
  | .nothing => pure ()
  | .colon => Scan.char ':'
  | .loose => discard (Scan.longest fun c => c == ':' || Text.isBlank c)

/-- The minutes of an offset, two digits up to 59. -/
def minutes (spelling : Spelling) : Scan Nat := do
  match (← Scan.rest) with
  | [] => if spelling.hoursAlone then pure 0 else failure
  | _ => do
    let m ← Scan.fixedNumber 2
    if m < 60 then pure m else failure

/-- A numeric offset in minutes. -/
def numeric (spelling : Spelling) : Scan Int := do
  let negative ← sign spelling
  let h ← Scan.fixedNumber 2
  divide spelling.divider
  let m ← minutes spelling
  let n : Int := (h * 60 + m : Nat)
  pure (if negative then -n else n)

/-- A numeric offset or, where the spelling has it, `Z`. -/
def scan (spelling : Spelling) : Scan Int := do
  match (← Scan.rest) with
  | c :: _ =>
    if spelling.zulu && (c == 'Z' || c == 'z') then do Scan.char c; pure 0 else numeric spelling
  | [] => failure

/-- The offset in hours of a zone name of North America or a name of UTC. -/
def namedHours (name : List Char) : Option Int :=
  match String.ofList (name.map Char.toLower) with
  | "gmt" | "ut" => some 0
  | "edt" => some (-4)
  | "est" | "cdt" => some (-5)
  | "cst" | "mdt" => some (-6)
  | "mst" | "pdt" => some (-7)
  | "pst" => some (-8)
  | _ => none

end FeedArchive.Offset
