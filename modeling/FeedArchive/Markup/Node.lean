import FeedArchive.Encoding.Label
import FeedArchive.Markup.Token
import FeedArchive.Text.Blank
import FeedArchive.Text.Decimal

/-! # Elements of markup

The tree of elements that the tokens of a text stand for, and the texts of elements and attributes.
What is written in a tree is kept as an `Option`: it is `none` where it cannot be read, which
matters only to those who look at it. -/

namespace FeedArchive.Markup

/-! ## References -/

/-- The character with a number other than zero. -/
def charOfNumber? (n : Nat) : Option Char :=
  if n ≠ 0 ∧ n.isValidChar then some (Char.ofNat n) else none

/-- The character of a reference by number, whose name follows a `#`. -/
def numbered? : List Char → Option Char
  | 'x' :: ds => (Hexadecimal.value? ds).bind charOfNumber?
  | ds => (Decimal.digitsOnly? ds).bind charOfNumber?

/-- The character of a reference by name. -/
def named? : List Char → Option Char
  | ['l', 't'] => some '<'
  | ['g', 't'] => some '>'
  | ['a', 'm', 'p'] => some '&'
  | ['q', 'u', 'o', 't'] => some '"'
  | ['a', 'p', 'o', 's'] => some '\''
  | _ => none

/-- The character that a reference stands for. -/
def character? : List Char → Option Char
  | '#' :: number => numbered? number
  | name => named? name

/-- What a reference in the text of an element stands for. A name that is not known stands for the
reference as it is written; a number that is none of a character stands for nothing. -/
def resolve? (name : List Char) : Option (List Char) :=
  match character? name with
  | some c => some [c]
  | none => if name.head? = some '#' then none else some ('&' :: name ++ [';'])

/-- The value of an attribute with its references resolved, all of which have to stand for a
character. -/
def unescape? : List Char → Option (List Char)
  | [] => some []
  | c :: cs =>
    if c = '&' then
      match h : cs.dropWhile (fun c => c != ';' && c != '&') with
      | ';' :: after => do
        have : (cs.dropWhile fun c => c != ';' && c != '&').length = after.length + 1 := by
          rw [h]; rfl
        have := (List.dropWhile_sublist (l := cs) fun c => c != ';' && c != '&').length_le
        let named ← character? (cs.takeWhile fun c => c != ';' && c != '&')
        return named :: (← unescape? after)
      | _ => none
    else (unescape? cs).map (c :: ·)
termination_by cs => cs.length

/-! ## Nodes -/

/-- An attribute of an element. -/
structure NodeAttribute where
  name : Option String
  value : Option String
  deriving DecidableEq, Repr

/-- A part of the content of an element. -/
inductive Node where
  | text (chars : Option (List Char))
  | reference (name : Option (List Char))
  | element (name : Option String) (attributes : List NodeAttribute) (content : List Node)

/-! ## From tokens -/

/-- What has been declared about what is written next. -/
structure Declared where
  encoding : Option Encoding := none

namespace Declared

/-- The first declaration of a known encoding counts. -/
def addLabel (d : Declared) (label : List Char) : Declared :=
  ⟨d.encoding <|> Encoding.ofLabel? label⟩

/-- What is written in the encoding. -/
def read? (d : Declared) (chars : List Char) : Option (List Char) :=
  match d.encoding with
  | some e => e.reread? chars
  | none => some chars

/-- A name that is written in the encoding. -/
def name? (d : Declared) (chars : List Char) : Option String :=
  (d.read? chars).map String.ofList

/-- An attribute that is written in the encoding. -/
def readAttribute (d : Declared) (a : Attribute) : NodeAttribute where
  name := d.name? a.name
  value := ((d.read? a.value).bind unescape?).map String.ofList

end Declared

/-- An element whose end has not come yet, with its content so far, the last part first. -/
structure OpenElement where
  /-- The name as it is written. -/
  tag : List Char
  name : Option String
  attributes : List NodeAttribute
  reversed : List Node := []

/-- The element that a tag opens. -/
def OpenElement.ofTag (d : Declared) (tag : List Char) (attributes : List Attribute) :
    OpenElement where
  tag := tag
  name := d.name? tag
  attributes := attributes.map d.readAttribute

/-- Goes on with another part of the content. -/
def OpenElement.add (e : OpenElement) (n : Node) : OpenElement :=
  { e with reversed := n :: e.reversed }

/-- The element with the content so far. -/
def OpenElement.close (e : OpenElement) : Node := .element e.name e.attributes e.reversed.reverse

/-- Reads the outermost element to its end. The open elements are given from the innermost one
outwards. Each closing tag has to name the innermost element; only the outermost element may be
left without one at the end of the text. -/
def readElement (d : Declared) (innermost : OpenElement) (around : List OpenElement) :
    List Token → Option Node
  | [] => if around.isEmpty then some innermost.close else none
  | .broken :: _ => none
  | .encoding label :: rest => readElement (d.addLabel label) innermost around rest
  | .text chars :: rest => readElement d (innermost.add (.text (d.read? chars))) around rest
  | .reference name :: rest =>
    readElement d (innermost.add (.reference (d.read? name))) around rest
  | .empty tag attributes :: rest =>
    readElement d (innermost.add (OpenElement.ofTag d tag attributes).close) around rest
  | .opening tag attributes :: rest =>
    readElement d (OpenElement.ofTag d tag attributes) (innermost :: around) rest
  | .closing tag :: rest =>
    if tag ≠ innermost.tag then none
    else match around with
      | [] => some innermost.close
      | outer :: around => readElement d (outer.add innermost.close) around rest

/-- The first element, before which only text may stand; what follows it is not looked at. -/
def firstElement? (d : Declared) : List Token → Option Node
  | .opening tag attributes :: rest => readElement d (OpenElement.ofTag d tag attributes) [] rest
  | .empty tag attributes :: _ => some (OpenElement.ofTag d tag attributes).close
  | .encoding label :: rest => firstElement? (d.addLabel label) rest
  | .text _ :: rest => firstElement? d rest
  | .reference _ :: rest => firstElement? d rest
  | _ => none

/-! ## Text -/

/-- The text that stands directly in some content, unless part of it cannot be read. -/
def directText? : List Node → Option (List Char)
  | [] => some []
  | .text chars :: rest => do return (← chars) ++ (← directText? rest)
  | .reference name :: rest => do return (← resolve? (← name)) ++ (← directText? rest)
  | .element _ _ _ :: rest => directText? rest

/-- The text that stands directly in some content, trimmed; none inside means that it is empty.
See `directText?`. -/
def trimmedText? (content : List Node) : Option (Option String) :=
  (directText? content).map fun chars =>
    (some (String.ofList chars).trimBlank).filter (!·.isEmpty)

/-- Everything in a node can be read, however deep inside. -/
def Node.isReadable : Node → Bool
  | .text chars => chars.isSome
  | .reference name => (name.bind resolve?).isSome
  | .element name attributes content =>
    name.isSome && attributes.all (fun a => a.name.isSome && a.value.isSome) &&
      areReadable content
where
  /-- See `Node.isReadable`. -/
  areReadable : List Node → Bool
    | [] => true
    | n :: ns => n.isReadable && areReadable ns

end FeedArchive.Markup
