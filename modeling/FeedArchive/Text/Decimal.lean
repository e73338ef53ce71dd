/-! # Numerals

Decimal numerals: their value, their text, and reading them within the ranges of 64-bit integers.
Hexadecimal numerals, and their digits. All digits are those of ASCII. -/

namespace FeedArchive.Decimal

/-- The value of an ASCII digit. -/
def digitValue (c : Char) : Nat :=
  c.toNat - '0'.toNat

/-- The ASCII digit of a value below ten. -/
def digit (n : Nat) : Char :=
  Char.ofNat ('0'.toNat + n % 10)

/-- The value of a run of digits. -/
def value (digits : List Char) : Nat :=
  digits.foldl (fun n c => 10 * n + digitValue c) 0

/-- The last `width` digits of a number, zeros in front where it has fewer. -/
def fixed : (width : Nat) → (n : Nat) → List Char
  | 0, _ => []
  | width + 1, n => fixed width (n / 10) ++ [digit n]

/-- The numeral of a number, without leading zeros. -/
def numeral (n : Nat) : List Char :=
  if n < 10 then [digit n] else numeral (n / 10) ++ [digit n]
termination_by n
decreasing_by omega

/-- The numeral with zeros in front up to at least `width` digits. -/
def padded (width n : Nat) : List Char :=
  List.replicate (width - (numeral n).length) '0' ++ numeral n

/-- The numeral of an integer, with `-` in front of a negative one. -/
def signed : Int → List Char
  | .ofNat n => numeral n
  | .negSucc n => '-' :: numeral (n + 1)

/-- One or more digits and nothing else. -/
def digitsOnly? (cs : List Char) : Option Nat :=
  if cs.isEmpty || !cs.all Char.isDigit then none else some (value cs)

/-- The least integer of 64 bits. -/
def minInt64 : Int := -9223372036854775808

/-- The greatest integer of 64 bits. -/
def maxInt64 : Int := 9223372036854775807

/-- The greatest unsigned integer of 64 bits. -/
def maxNat64 : Nat := 18446744073709551615

/-- Within the range of signed integers of 64 bits. -/
def inInt64 (n : Int) : Bool :=
  minInt64 ≤ n && n ≤ maxInt64

/-- Reads a signed integer of 64 bits: an optional sign, then digits. -/
def readInt64 (cs : List Char) : Option Int :=
  let n? : Option Int := match cs with
    | '-' :: ds => (digitsOnly? ds).map fun n => -(n : Int)
    | '+' :: ds => (digitsOnly? ds).map Int.ofNat
    | ds => (digitsOnly? ds).map Int.ofNat
  n?.filter inInt64

/-- Reads an unsigned integer of 64 bits: an optional `+`, then digits. -/
def readNat64 (cs : List Char) : Option Nat :=
  let n? := match cs with
    | '+' :: ds => digitsOnly? ds
    | ds => digitsOnly? ds
  n?.filter (· ≤ maxNat64)

end FeedArchive.Decimal

/-- The decimal text of a number. -/
def Nat.decimalText (n : Nat) : String :=
  String.ofList (FeedArchive.Decimal.numeral n)

/-- The decimal text of an integer. -/
def Int.decimalText (n : Int) : String :=
  String.ofList (FeedArchive.Decimal.signed n)

/-! ## Hexadecimal numerals -/

namespace FeedArchive.Hexadecimal

/-- The value of a digit in upper or lower case. -/
def digitValue? (c : Char) : Option Nat :=
  if c.isDigit then some (c.toNat - '0'.toNat)
  else if 'a' ≤ c ∧ c ≤ 'f' then some (c.toNat - 'a'.toNat + 10)
  else if 'A' ≤ c ∧ c ≤ 'F' then some (c.toNat - 'A'.toNat + 10)
  else none

/-- The value of a run of digits, of which there has to be one. -/
def value? (ds : List Char) : Option Nat :=
  if ds.isEmpty then none
  else ds.foldlM (fun n d => (digitValue? d).map (16 * n + ·)) 0

/-- The digit of a value below sixteen, in lower case. -/
def digit (n : Nat) : Char :=
  Char.ofNat (if n < 10 then '0'.toNat + n else 'a'.toNat + (n - 10))

end FeedArchive.Hexadecimal
