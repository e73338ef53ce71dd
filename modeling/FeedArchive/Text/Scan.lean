import FeedArchive.Text.Blank
import FeedArchive.Text.Decimal

/-! # Scanning

A scanner takes a value off the front of a text, or refuses it. Scanners are composed in order;
`Scan.whole` asks that nothing is left over. -/

namespace FeedArchive

/-- Takes a value off the front of a text and leaves the rest. -/
abbrev Scan := StateT (List Char) Option

namespace Scan

/-- The value scanned from a text that is used up by it. -/
def whole {α : Type} (scan : Scan α) (cs : List Char) : Option α :=
  match scan.run cs with
  | some (a, []) => some a
  | _ => none

/-- The rest of the text. -/
def rest : Scan (List Char) := get

/-- Takes one given character. -/
def char (c : Char) : Scan Unit
  | d :: cs => if d = c then some ((), cs) else none
  | [] => none

/-- Takes one character of a class. -/
def oneOf (isMember : Char → Bool) : Scan Char
  | c :: cs => if isMember c then some (c, cs) else none
  | [] => none

/-- Takes the given characters in order. -/
def text : List Char → Scan Unit
  | [] => pure ()
  | c :: cs => do char c; text cs

/-- Takes the longest run of a class, perhaps empty. -/
def longest (isMember : Char → Bool) : Scan (List Char) := fun cs =>
  some (cs.takeWhile isMember, cs.dropWhile isMember)

/-- Skips white space, if there is any. -/
def blanks : Scan Unit := fun cs =>
  some ((), Text.trimStart cs)

/-- Skips white space, of which there has to be some. -/
def someBlanks : Scan Unit
  | c :: cs => if Text.isBlank c then some ((), Text.trimStart cs) else none
  | [] => none

/-- The run of digits at the front, cut off after `most` of them where a limit is given. -/
def leadingDigits (most : Option Nat) (cs : List Char) : List Char :=
  match most with
  | some most => (cs.take most).takeWhile Char.isDigit
  | none => cs.takeWhile Char.isDigit

/-- Takes as many digits as there are, at most `most`, of which there have to be `least`. -/
def digits (least : Nat) (most : Option Nat) : Scan (List Char) := fun cs =>
  let ds := leadingDigits most cs
  if least ≤ ds.length then some (ds, cs.drop ds.length) else none

/-- The number written by a run of digits, see `Scan.digits`. -/
def number (least : Nat) (most : Option Nat) : Scan Nat :=
  Decimal.value <$> digits least most

/-- The number written by exactly `width` digits. -/
def fixedNumber (width : Nat) : Scan Nat :=
  number width (some width)

/-- Takes `scan` if it is there. -/
def optional {α : Type} (scan : Scan α) : Scan (Option α) := fun cs =>
  match scan.run cs with
  | some (a, rest) => some (some a, rest)
  | none => some (none, cs)

/-- A decimal fraction after its point, in units of the ninth place; further digits are dropped. -/
def nanosAfterPoint : Scan Nat := do
  let ds ← digits 1 none
  pure (Decimal.value ((ds ++ List.replicate 9 '0').take 9))

/-- A decimal fraction with its point, or nothing where no point follows. -/
def nanos : Scan Nat := do
  match (← rest) with
  | '.' :: _ => do char '.'; nanosAfterPoint
  | _ => pure 0

/-- Takes a word of ASCII letters in whatever case. -/
def word (w : String) : Scan Unit := fun cs =>
  let n := w.length
  if (cs.take n).map Char.toLower = w.toList.map Char.toLower then some ((), cs.drop n) else none

end Scan

end FeedArchive
