/-! # White space

The characters of the Unicode property White_Space, trimming by them, and the words of a text:
its maximal runs free of white space. -/

namespace FeedArchive.Text

/-- White space in the sense of the Unicode property White_Space. -/
def isBlank (c : Char) : Bool :=
  let n := c.toNat
  (0x09 ≤ n && n ≤ 0x0D) || n == 0x20 || n == 0x85 || n == 0xA0 || n == 0x1680 ||
    (0x2000 ≤ n && n ≤ 0x200A) || n == 0x2028 || n == 0x2029 || n == 0x202F || n == 0x205F ||
    n == 0x3000

/-- Leaves out the white space at the start. -/
def trimStart (cs : List Char) : List Char :=
  cs.dropWhile isBlank

/-- Leaves out the white space at the end. -/
def trimEnd (cs : List Char) : List Char :=
  (cs.reverse.dropWhile isBlank).reverse

/-- Leaves out the white space at both ends. -/
def trim (cs : List Char) : List Char :=
  trimEnd (trimStart cs)

/-- A word in front of others, unless it is empty. -/
def pushWord (word : List Char) (others : List (List Char)) : List (List Char) :=
  if word.isEmpty then others else word :: others

/-- The run free of white space at the start, perhaps empty, and the words after it. -/
def leadingWord : List Char → List Char × List (List Char)
  | [] => ([], [])
  | c :: cs =>
    let (word, others) := leadingWord cs
    if isBlank c then ([], pushWord word others) else (c :: word, others)

/-- The maximal runs free of white space, in order. -/
def words (cs : List Char) : List (List Char) :=
  pushWord (leadingWord cs).1 (leadingWord cs).2

/-- Each run of white space becomes one space, and none is left at the ends. -/
def squeeze (cs : List Char) : List Char :=
  [' '].intercalate (words cs)

end FeedArchive.Text

/-- A text without the white space at its ends. -/
def String.trimBlank (s : String) : String :=
  String.ofList (FeedArchive.Text.trim s.toList)

/-- The words of a text. -/
def String.blankWords (s : String) : List String :=
  (FeedArchive.Text.words s.toList).map String.ofList
