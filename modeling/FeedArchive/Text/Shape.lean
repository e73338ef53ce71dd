import FeedArchive.Text.Blank

/-! # Shapes of texts

A shape is a sequence of runs of characters and fixed words, some of which may be missing.
`Shape.rests` lists what may be left of a text after the shape, longer runs first, so that the
first entry that fits what follows is the one a reader from left to right settles on. -/

namespace FeedArchive

/-- Part of a shape. -/
inductive Shape.Piece where
  /-- A run of a class with at least `least` characters and, where given, at most `most`. -/
  | run (isMember : Char → Bool) (least : Nat) (most : Option Nat)
  /-- One of some words. -/
  | word (choices : List String)

/-- One part of a shape after another. -/
inductive Shape.Part where
  | one (piece : Shape.Piece)
  /-- Pieces that may be missing, all together. -/
  | maybe (pieces : List Shape.Piece)

/-- A sequence of parts. -/
abbrev Shape := List Shape.Part

namespace Shape

/-- What may be left of a text after a piece. -/
def Piece.rests : Piece → List Char → List (List Char)
  | .run isMember least most, cs =>
    let longest := (cs.takeWhile isMember).length
    let greatest := match most with
      | some most => min longest most
      | none => longest
    ((List.range (greatest + 1)).filter (least ≤ ·)).reverse.map cs.drop
  | .word choices, cs =>
    choices.filterMap fun w =>
      if w.toList.isPrefixOf cs then some (cs.drop w.length) else none

/-- What may be left of a text after some pieces. -/
def restsAfter : List Piece → List Char → List (List Char)
  | [], cs => [cs]
  | p :: ps, cs => (p.rests cs).flatMap (restsAfter ps)

/-- What may be left of a text after a part. -/
def Part.rests : Part → List Char → List (List Char)
  | .one piece, cs => piece.rests cs
  | .maybe pieces, cs => restsAfter pieces cs ++ [cs]

/-- What may be left of a text after the shape. -/
def rests : Shape → List Char → List (List Char)
  | [], cs => [cs]
  | p :: ps, cs => (p.rests cs).flatMap (rests ps)

/-- The shape is that of a whole text. -/
def fits (shape : Shape) (cs : List Char) : Bool :=
  (shape.rests cs).any List.isEmpty

/-- The shape is that of a part of a text. -/
def occursIn (shape : Shape) : List Char → Bool
  | [] => !(shape.rests []).isEmpty
  | c :: cs => !(shape.rests (c :: cs)).isEmpty || occursIn shape cs

/-- The end of a text that has this shape, where the beginning has the shape `front`. -/
def endAfter (front shape : Shape) (cs : List Char) : Option (List Char) :=
  (front.rests cs).find? shape.fits

/-! ## Pieces in common use -/

/-- Digits, from `least` to `most` of them. -/
def digits (least most : Nat) : Part := .one (.run Char.isDigit least (some most))

/-- Letters of the Latin alphabet, from `least` to `most` of them. -/
def letters (least most : Nat) : Part := .one (.run Char.isAlpha least (some most))

/-- White space, at least `least` characters of it. -/
def blanks (least : Nat) : Part := .one (.run Text.isBlank least none)

/-- A fixed text. -/
def fixed (text : String) : Part := .one (.word [text])

/-- A fixed text that may be missing. -/
def maybeFixed (text : String) : Part := .maybe [.word [text]]

end Shape

end FeedArchive
