import FeedArchive.Encoding.Table.Big5
import FeedArchive.Encoding.Table.Gb18030
import FeedArchive.Encoding.Table.Jis0208
import FeedArchive.Encoding.Table.Jis0212
import FeedArchive.Encoding.Table.Korean

/-! # Encodings

How bytes stand for characters. `Encoding.decode?` reads bytes and gives nothing where they stand
for no text; `Encoding.reread?` reads a text anew whose bytes in UTF-8 are taken for those of
another encoding. Bytes are numbers below 256.

Of GB 18030 the characters of four bytes are left out: there a digit stands between two bytes of
0x80 and more that do not belong together in UTF-8. -/

namespace FeedArchive

/-- An encoding of texts. -/
inductive Encoding where
  | utf8
  /-- Two bytes for each unit of UTF-16, the one of greater weight first if `bigEndian`. -/
  | utf16 (bigEndian : Bool)
  /-- One byte for each character; from 0x80 on those given. -/
  | oneByte (upper : List Char)
  | shiftJis
  | eucJp
  | iso2022Jp
  | gb18030
  | big5
  | korean
  /-- One byte for each character; from 0x80 on those from U+F780. -/
  | userDefined
  /-- An encoding that is not read at all. -/
  | refused
  deriving DecidableEq

namespace Encoding

/-- Within bounds. -/
def within (low high b : Nat) : Bool := low ≤ b && b ≤ high

/-- The character at a place in a table. -/
def charAt? (table : Array Char) (place : Nat) : Option Char :=
  table[place]?.filter (· ≠ '\uFFFD')

/-- The place of two bytes in a table with rows of `width`, where the bytes that may come second
have a gap after 0x7E of `gap`. -/
def placeOf (width gap firstLow lead trail : Nat) : Nat :=
  (lead - firstLow) * width + (trail - if trail < 0x7F then 0x40 else 0x40 + gap)

/-! ## Encodings of one or two bytes -/

/-- Reads bytes of which some stand for a character each, and any other one together with the byte
after it. -/
def readPairs? (single : Nat → Option Char) (double : Nat → Nat → Option (List Char)) :
    List Nat → Option (List Char)
  | [] => some []
  | [b] => (single b).map ([·])
  | b :: t :: bytes =>
    match single b with
    | some c => (readPairs? single double (t :: bytes)).map (c :: ·)
    | none => do return (← double b t) ++ (← readPairs? single double bytes)

/-- The character of a byte of ASCII. -/
def ascii? (b : Nat) : Option Char := if b < 0x80 then some (Char.ofNat b) else none

/-- The character of a byte where those from 0x80 on are given. -/
def oneByte? (upper : List Char) (b : Nat) : Option Char :=
  if b < 0x80 then some (Char.ofNat b) else upper[b - 0x80]?.filter (· ≠ '\uFFFD')

/-- A half-width kana, counted from 0xA1. -/
def halfWidth? (b : Nat) : Option Char :=
  if within 0xA1 0xDF b then some (Char.ofNat (0xFF61 - 0xA1 + b)) else none

/-- The character of one byte in Shift JIS. -/
def shiftJisSingle? (b : Nat) : Option Char :=
  if b ≤ 0x80 then some (Char.ofNat b) else halfWidth? b

/-- The character of two bytes in Shift JIS, some of which are for private use. -/
def shiftJisDouble? (lead trail : Nat) : Option Char :=
  if (within 0x81 0x9F lead || within 0xE0 0xFC lead) &&
      (within 0x40 0x7E trail || within 0x80 0xFC trail) then
    let place := placeOf 188 1 (if lead < 0xA0 then 0x81 else 0xC1) lead trail
    if place < 8836 then charAt? Table.jis0208 place
    else if place < 10716 then some (Char.ofNat (0xE000 - 8836 + place))
    else charAt? Table.jis0208Extension (place - 10716)
  else none

/-- The character of one byte in GB 18030. -/
def gb18030Single? (b : Nat) : Option Char :=
  if b = 0x80 then some '€' else ascii? b

/-- The character of two bytes in GB 18030. -/
def gb18030Double? (lead trail : Nat) : Option Char :=
  if within 0x81 0xFE lead && (within 0x40 0x7E trail || within 0x80 0xFE trail) then
    charAt? Table.gb18030 (placeOf 190 1 0x81 lead trail)
  else none

/-- The characters of two bytes in Big5, of which four pairs stand for a letter with a mark. -/
def big5Double? (lead trail : Nat) : Option (List Char) :=
  if within 0x81 0xFE lead && (within 0x40 0x7E trail || within 0xA1 0xFE trail) then
    match placeOf 157 34 0x81 lead trail with
    | 1133 => some ['Ê', '\u0304']
    | 1135 => some ['Ê', '\u030C']
    | 1164 => some ['ê', '\u0304']
    | 1166 => some ['ê', '\u030C']
    | place => if place < 942 then none else (charAt? Table.big5 (place - 942)).map ([·])
  else none

/-- The character of two bytes in the Korean encoding. -/
def koreanDouble? (lead trail : Nat) : Option Char :=
  if within 0x81 0xFE lead && within 0x41 0xFE trail then
    charAt? Table.korean ((lead - 0x81) * 190 + (trail - 0x41))
  else none

/-! ## Japanese encodings of two and three bytes -/

/-- The character of two bytes from 0xA1 on in a table with rows of 94. -/
def jisDouble? (table : Array Char) (lead trail : Nat) : Option Char :=
  if within 0xA1 0xFE lead && within 0xA1 0xFE trail then
    charAt? table ((lead - 0xA1) * 94 + (trail - 0xA1))
  else none

/-- Reads bytes in EUC-JP. -/
def readEucJp? : List Nat → Option (List Char)
  | [] => some []
  | 0x8E :: b :: bytes => do return (← halfWidth? b) :: (← readEucJp? bytes)
  | 0x8F :: a :: b :: bytes => do return (← jisDouble? Table.jis0212 a b) :: (← readEucJp? bytes)
  | [b] => (ascii? b).map ([·])
  | a :: b :: bytes =>
    match ascii? a with
    | some c => (readEucJp? (b :: bytes)).map (c :: ·)
    | none => do return (← jisDouble? Table.jis0208 a b) :: (← readEucJp? bytes)

/-- The sets of characters that ISO-2022-JP switches between. -/
inductive JisSet where
  | ascii
  | roman
  | kana
  | kanji
  deriving DecidableEq

/-- The set that two bytes after an escape switch to. -/
def JisSet.ofBytes? : Nat → Nat → Option JisSet
  | 0x28, 0x42 => some .ascii
  | 0x28, 0x4A => some .roman
  | 0x28, 0x49 => some .kana
  | 0x24, 0x40 => some .kanji
  | 0x24, 0x42 => some .kanji
  | _, _ => none

/-- The character of one byte in a set. -/
def JisSet.single? (set : JisSet) (b : Nat) : Option Char :=
  match set with
  | .ascii => if b = 0x0E ∨ b = 0x0F then none else ascii? b
  | .roman =>
    if b = 0x0E ∨ b = 0x0F then none
    else if b = 0x5C then some '¥'
    else if b = 0x7E then some '‾'
    else ascii? b
  | .kana => if within 0x21 0x5F b then halfWidth? (b + 0x80) else none
  | .kanji => none

/-- Reads bytes in ISO-2022-JP in a set. One switch may not follow right after another one. -/
def readIso2022Jp? (set : JisSet) (switched : Bool) : List Nat → Option (List Char)
  | [] => some []
  | 0x1B :: a :: b :: bytes => do
    guard !switched
    readIso2022Jp? (← JisSet.ofBytes? a b) true bytes
  | [b] => if b = 0x1B then none else (set.single? b).map ([·])
  | a :: b :: bytes =>
    if a = 0x1B then none
    else if set = .kanji then do
      let c ← jisDouble? Table.jis0208 (a + 0x80) (b + 0x80)
      return c :: (← readIso2022Jp? set false bytes)
    else do return (← set.single? a) :: (← readIso2022Jp? set false (b :: bytes))

/-! ## UTF-16 -/

/-- Reads units of UTF-16. -/
def readUnits? : List Nat → Option (List Char)
  | [] => some []
  | [u] => if within 0xD800 0xDFFF u then none else some [Char.ofNat u]
  | u :: v :: units =>
    if within 0xD800 0xDBFF u && within 0xDC00 0xDFFF v then
      (readUnits? units).map
        (Char.ofNat (0x10000 + (u - 0xD800) * 0x400 + (v - 0xDC00)) :: ·)
    else if within 0xD800 0xDFFF u then none
    else (readUnits? (v :: units)).map (Char.ofNat u :: ·)

/-- The units of two bytes each. -/
def units? (bigEndian : Bool) : List Nat → Option (List Nat)
  | [] => some []
  | [_] => none
  | a :: b :: bytes =>
    (units? bigEndian bytes).map ((if bigEndian then a * 0x100 + b else b * 0x100 + a) :: ·)

/-! ## All encodings -/

/-- The text that bytes stand for. -/
def decode? (bytes : List Nat) : Encoding → Option (List Char)
  | .utf8 =>
    (String.fromUTF8? ⟨(bytes.map Nat.toUInt8).toArray⟩).map String.toList
  | .utf16 bigEndian => (units? bigEndian bytes).bind readUnits?
  | .oneByte upper => bytes.mapM (oneByte? upper)
  | .shiftJis => readPairs? shiftJisSingle? (fun a b => (shiftJisDouble? a b).map ([·])) bytes
  | .eucJp => readEucJp? bytes
  | .iso2022Jp => readIso2022Jp? .ascii false bytes
  | .gb18030 => readPairs? gb18030Single? (fun a b => (gb18030Double? a b).map ([·])) bytes
  | .big5 => readPairs? ascii? big5Double? bytes
  | .korean => readPairs? ascii? (fun a b => (koreanDouble? a b).map ([·])) bytes
  | .userDefined =>
    some (bytes.map fun b => Char.ofNat (if b < 0x80 then b else 0xF780 - 0x80 + b))
  | .refused => if bytes.isEmpty then some [] else none

/-- The bytes of a text in UTF-8. -/
def utf8Bytes (text : List Char) : List Nat :=
  text.flatMap fun c => (String.utf8EncodeChar c).map UInt8.toNat

/-- The text that the bytes of a text in UTF-8 stand for in another encoding. -/
def reread? (e : Encoding) (text : List Char) : Option (List Char) :=
  if e = .utf8 then some text else e.decode? (utf8Bytes text)

end Encoding

end FeedArchive
