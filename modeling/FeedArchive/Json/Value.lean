import FeedArchive.Text.Decimal

/-! # JSON values and their texts

`print` writes a value in a style, of which there are two: `compact`, without any white space, and
`pretty`, with a line for each member. -/

namespace FeedArchive.Json

/-- A value of JSON. -/
inductive Value where
  | null
  | bool (b : Bool)
  /-- A number written as an integer. -/
  | int (n : Int)
  /-- Any other number, as it is written. -/
  | decimal (literal : List Char)
  | text (s : String)
  /-- A text in which half of a surrogate pair is escaped, and which therefore has no
  characters, or an object with such a key. -/
  | halfText
  | list (items : List Value)
  /-- The members in order, of which several may have the same key. -/
  | object (members : List (String × Value))
  deriving Inhabited

/-! ## Texts -/

/-- A character within quotes. -/
def escapeChar (c : Char) : List Char :=
  if c = '"' then ['\\', '"']
  else if c = '\\' then ['\\', '\\']
  else if c = '\n' then ['\\', 'n']
  else if c = '\r' then ['\\', 'r']
  else if c = '\t' then ['\\', 't']
  else if c = '\x08' then ['\\', 'b']
  else if c = '\x0c' then ['\\', 'f']
  else if c < ' ' then
    ['\\', 'u', '0', '0', Hexadecimal.digit (c.toNat / 16), Hexadecimal.digit (c.toNat % 16)]
  else [c]

/-- A text in quotes. -/
def quote (s : String) : List Char :=
  '"' :: s.toList.flatMap escapeChar ++ ['"']

/-- Where white space stands in the text of a value. -/
structure Style where
  /-- What comes before a member at a depth, and before the end of its list or object. -/
  lineBreak : Nat → List Char
  afterColon : List Char

/-- No white space. -/
def compact : Style where
  lineBreak _ := []
  afterColon := []

/-- Each member on a line of its own, indented by two spaces for each level. -/
def pretty : Style where
  lineBreak depth := '\n' :: List.replicate (2 * depth) ' '
  afterColon := [' ']

namespace Value

/-- The text of a value at a depth. -/
def print (style : Style) (depth : Nat) : Value → List Char
  | .null => "null".toList
  | .bool true => "true".toList
  | .bool false => "false".toList
  | .int n => Decimal.signed n
  | .decimal literal => literal
  | .text s => quote s
  | .halfText => quote "\uFFFD"
  | .list [] => ['[', ']']
  | .list (v :: vs) =>
    '[' :: style.lineBreak (depth + 1) ++ print style (depth + 1) v ++ items vs ++
      style.lineBreak depth ++ [']']
  | .object [] => ['\x7b', '\x7d']
  | .object ((k, v) :: ms) =>
    '\x7b' :: style.lineBreak (depth + 1) ++ quote k ++ ':' :: style.afterColon ++
      print style (depth + 1) v ++ members ms ++ style.lineBreak depth ++ ['\x7d']
where
  /-- The items after the first one of a list at the depth. -/
  items : List Value → List Char
    | [] => []
    | v :: vs => ',' :: style.lineBreak (depth + 1) ++ print style (depth + 1) v ++ items vs
  /-- The members after the first one of an object at the depth. -/
  members : List (String × Value) → List Char
    | [] => []
    | (k, v) :: ms =>
      ',' :: style.lineBreak (depth + 1) ++ quote k ++ ':' :: style.afterColon ++
        print style (depth + 1) v ++ members ms

/-- The text without white space. -/
def compactText (v : Value) : String := String.ofList (v.print compact 0)

/-- The text with a line for each member. -/
def prettyText (v : Value) : String := String.ofList (v.print pretty 0)

end Value

/-! ## The range of numbers

Numbers that are set aside before they are read have to lie within the range of binary numbers of 64
bits. A number with a point or an exponent is worked out as the product of its first digits and a
power of ten, each of them rounded; `isInRange` decides whether the product is out of range. -/

/-- The least number that is rounded up beyond all binary numbers of 64 bits. -/
def rangeLimit : Nat := Nat.pow 2 1024 - Nat.pow 2 970

/-- The nearest number with 53 binary digits before its zeros, the even one of two. -/
def rounded (n : Nat) : Nat :=
  let unit := Nat.pow 2 (n.log2 - 52)
  let below := n / unit
  let left := 2 * (n % unit)
  if unit < left ∨ (left = unit ∧ below % 2 = 1) then (below + 1) * unit else below * unit

/-- The number of the first digits, as many as 64 bits hold, and how many digits come after
them. -/
def firstDigits (n : Nat) : List Char → Nat × Nat
  | [] => (n, 0)
  | d :: ds =>
    let longer := 10 * n + Decimal.digitValue d
    if longer ≤ Decimal.maxNat64 then firstDigits longer ds else (n, ds.length + 1)

/-- The exponent that is written after its letter, with or without a sign. -/
def exponentOf : List Char → Int
  | '-' :: ds => -(Decimal.value ds : Int)
  | '+' :: ds => Decimal.value ds
  | ds => Decimal.value ds

/-- A number as it is written lies within the range. -/
def isInRange (literal : List Char) : Bool :=
  let mantissa := literal.takeWhile fun c => c != 'e' && c != 'E'
  let fraction := (mantissa.dropWhile (· != '.')).drop 1
  let (n, others) := firstDigits 0 (mantissa.filter Char.isDigit)
  let exponent := exponentOf (literal.drop (mantissa.length + 1)) - fraction.length + others
  n = 0 || exponent < 0 ||
    (exponent ≤ 308 && rounded n * rounded (Nat.pow 10 exponent.toNat) < rangeLimit)

end FeedArchive.Json
