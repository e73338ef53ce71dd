import FeedArchive.Text.Scan
import FeedArchive.Text.Decimal

/-! # Tokens of JSON -/

namespace FeedArchive.Json

/-- A token of a text in JSON. -/
inductive Token where
  | beginList
  | endList
  | beginObject
  | endObject
  | comma
  | colon
  | null
  | bool (b : Bool)
  /-- A number written as an integer, zero without a sign. -/
  | int (n : Int)
  /-- Any other number, as it is written. -/
  | decimal (literal : List Char)
  /-- A text, unless it holds half of a surrogate pair. -/
  | text (s : Option String)
  deriving DecidableEq, Repr

/-! ## Texts -/

/-- What a part of a text in quotes stands for. -/
inductive TextPart where
  | char (c : Char)
  /-- The first half of a surrogate pair. -/
  | highHalf (n : Nat)
  /-- The second half of a surrogate pair. -/
  | lowHalf (n : Nat)

/-- The part with a number of 16 bits. -/
def TextPart.ofUnit (n : Nat) : TextPart :=
  if 0xD800 ≤ n ∧ n < 0xDC00 then .highHalf n
  else if 0xDC00 ≤ n ∧ n < 0xE000 then .lowHalf n
  else .char (Char.ofNat n)

/-- The character after a backslash other than `u`. -/
def unescapeChar? (c : Char) : Option Char :=
  if c = '"' ∨ c = '\\' ∨ c = '/' then some c
  else if c = 'b' then some '\x08'
  else if c = 'f' then some '\x0c'
  else if c = 'n' then some '\n'
  else if c = 'r' then some '\r'
  else if c = 't' then some '\t'
  else none

/-- The parts of a text up to the quote that ends it, and what comes after that. -/
def textParts? : List Char → Option (List TextPart × List Char)
  | [] => none
  | '"' :: rest => some ([], rest)
  | '\\' :: 'u' :: a :: b :: c :: d :: rest => do
    let n ← Hexadecimal.value? [a, b, c, d]
    let (parts, after) ← textParts? rest
    return (.ofUnit n :: parts, after)
  | '\\' :: c :: rest => do
    let c ← unescapeChar? c
    let (parts, after) ← textParts? rest
    return (.char c :: parts, after)
  | c :: rest => do
    guard (' ' ≤ c)
    let (parts, after) ← textParts? rest
    return (.char c :: parts, after)

/-- The characters of the parts of a text; halves of surrogate pairs have to come in pairs. -/
def joinParts? : List TextPart → Option (List Char)
  | [] => some []
  | .char c :: parts => (joinParts? parts).map (c :: ·)
  | .highHalf m :: .lowHalf n :: parts =>
    (joinParts? parts).map
      (Char.ofNat (0x10000 + (m - 0xD800) * 0x400 + (n - 0xDC00)) :: ·)
  | _ => none

/-- A text after its opening quote. -/
def scanText : Scan Token := fun cs => do
  let (parts, after) ← textParts? cs
  return (.text ((joinParts? parts).map String.ofList), after)

/-! ## Numbers -/

/-- The digits of an integer, without leading zeros. -/
def scanIntDigits : Scan (List Char) := do
  match (← Scan.rest) with
  | '0' :: _ => do
    Scan.char '0'
    return ['0']
  | _ => Scan.digits 1 none

/-- The point and the digits after it, if there is a point. -/
def scanFraction : Scan (List Char) := do
  match (← Scan.rest) with
  | '.' :: _ => do
    Scan.char '.'
    return '.' :: (← Scan.digits 1 none)
  | _ => return []

/-- The exponent with its letter, if there is one. -/
def scanExponent : Scan (List Char) := do
  match (← Scan.optional (Scan.oneOf fun c => c == 'e' || c == 'E')) with
  | none => return []
  | some letter => do
    let sign ← Scan.optional (Scan.oneOf fun c => c == '+' || c == '-')
    return letter :: sign.toList ++ (← Scan.digits 1 none)

/-- A number. -/
def scanNumber : Scan Token := do
  let sign ← Scan.optional (Scan.char '-')
  let digits ← scanIntDigits
  let fraction ← scanFraction
  let exponent ← scanExponent
  let signed := if sign.isSome then '-' :: digits else digits
  if fraction.isEmpty && exponent.isEmpty && signed != ['-', '0'] then
    let n : Int := Decimal.value digits
    return .int (if sign.isSome then -n else n)
  else
    return .decimal (signed ++ fraction ++ exponent)

/-! ## The whole text -/

/-- A word that is a token. -/
def scanWord (word : String) (token : Token) : Scan Token := do
  Scan.text word.toList
  return token

/-- One token. -/
def scanToken : Scan Token
  | '[' :: cs => some (.beginList, cs)
  | ']' :: cs => some (.endList, cs)
  | '\x7b' :: cs => some (.beginObject, cs)
  | '\x7d' :: cs => some (.endObject, cs)
  | ',' :: cs => some (.comma, cs)
  | ':' :: cs => some (.colon, cs)
  | '"' :: cs => scanText.run cs
  | cs => ((scanWord "null" .null).run cs) <|> ((scanWord "true" (.bool true)).run cs) <|>
      ((scanWord "false" (.bool false)).run cs) <|> (scanNumber.run cs)

/-- White space between tokens. -/
def isSpace (c : Char) : Bool :=
  c == ' ' || c == '\t' || c == '\r' || c == '\n'

/-- The tokens of a text. -/
def tokens? : List Char → Option (List Token)
  | [] => some []
  | c :: cs =>
    if isSpace c then tokens? cs
    else match scanToken.run (c :: cs) with
      | some (token, rest) =>
        if rest.length ≤ cs.length then (tokens? rest).map (token :: ·) else none
      | none => none
termination_by cs => cs.length

end FeedArchive.Json
