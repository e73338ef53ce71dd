import FeedArchive.Markup.Node

/-! # Elements that are not kept

A feed has many elements besides those that are kept. What RSS or an extension defines has to be
readable all the same, as far as the definition goes; `demandOn` says how far that is. -/

namespace FeedArchive.Feed

open Markup

/-! ## Attributes -/

/-- Which attributes of an element have to be readable. -/
inductive AttributeDemand where
  | nothing
  /-- The names, up to the first one that is this name. -/
  | namesTo (name : String)
  /-- The names, up to the first one that is this name, and the value under it. -/
  | first (name : String)
  /-- All with these names. -/
  | named (names : List String)
  /-- All that declare the name of a namespace. -/
  | namespaces
  | everything
  deriving DecidableEq, Repr

/-- All names are readable, and the values under names of a class. -/
def valuesAreReadable (isRead : String → Bool) (attributes : List NodeAttribute) : Bool :=
  attributes.all fun a => match a.name with
    | some name => !isRead name || a.value.isSome
    | none => false

/-- The names are readable up to the first attribute with a name, and what is asked of that one
holds. -/
def firstSatisfies (holds : NodeAttribute → Bool) (name : String) : List NodeAttribute → Bool
  | [] => true
  | a :: others => match a.name with
    | some other => if other = name then holds a else firstSatisfies holds name others
    | none => false

/-- A demand is met by the attributes of an element. -/
def AttributeDemand.isMet (demand : AttributeDemand) (attributes : List NodeAttribute) : Bool :=
  match demand with
  | .nothing => true
  | .namesTo name => firstSatisfies (fun _ => true) name attributes
  | .first name => firstSatisfies (·.value.isSome) name attributes
  | .named names => valuesAreReadable names.contains attributes
  | .namespaces => valuesAreReadable (fun name => "xmlns:".toList.isPrefixOf name.toList) attributes
  | .everything => valuesAreReadable (fun _ => true) attributes

/-! ## Content -/

/-- What of the content of an element has to be readable. -/
inductive ContentDemand where
  | nothing
  /-- The text that stands directly in it. -/
  | text
  /-- The names of its children, and the texts of those with these names. -/
  | childTexts (names : List String)
  | everything
  deriving DecidableEq, Repr

/-- The children of some content have readable names, and those with these names readable texts. -/
def childTextsAreReadable (names : List String) (content : List Node) : Bool :=
  content.all fun
    | .element (some name) _ inner => !names.contains name || (directText? inner).isSome
    | .element none _ _ => false
    | _ => true

/-- A demand is met by the content of an element. -/
def ContentDemand.isMet (demand : ContentDemand) (content : List Node) : Bool :=
  match demand with
  | .nothing => true
  | .text => (directText? content).isSome
  | .childTexts names => childTextsAreReadable names content
  | .everything => content.all (·.isReadable)

/-! ## Elements -/

/-- What of an element has to be readable. -/
structure Demand where
  attributes : AttributeDemand := .nothing
  content : ContentDemand := .nothing
  deriving DecidableEq, Repr

/-- A demand is met by an element. -/
def Demand.isMet (demand : Demand) (attributes : List NodeAttribute) (content : List Node) : Bool :=
  demand.attributes.isMet attributes && demand.content.isMet content

/-- The text of an element. -/
def Demand.text : Demand := { content := .text }

/-- The elements of an image. -/
def Demand.image : Demand :=
  { content := .childTexts ["title", "url", "link", "width", "height", "description"] }

/-- The elements of a text input. -/
def Demand.input : Demand := { content := .childTexts ["title", "description", "name", "link"] }

/-- A category under the address of its scheme. -/
def Demand.category : Demand := { attributes := .first "domain", content := .text }

/-- The name belongs to an extension: it has a colon, with a prefix other than those of RSS
itself. -/
def isExtension (name : String) : Bool :=
  let prefixed := name.toList.takeWhile (· != ':')
  prefixed.length < name.length && String.ofList prefixed ∉ ["", "rss", "rdf"]

/-- The demand on an element by its name, where `known` has those of RSS. -/
def demandOn (known : List (String × Demand)) (name : String) : Demand :=
  match known.lookup name with
  | some demand => demand
  | none => if isExtension name then ⟨.everything, .everything⟩ else {}

/-- The other elements of an item. -/
def itemDemands : List (String × Demand) :=
  ["author", "comments", "content:encoded"].map (·, .text) ++
  [("guid", { attributes := .namesTo "isPermaLink", content := .text }),
    ("category", .category), ("source", { attributes := .first "url", content := .text }),
    ("enclosure", { attributes := .named ["url", "length", "type"] })]

/-- The other elements of a channel. -/
def channelDemands : List (String × Demand) :=
  ["link", "description", "language", "copyright", "managingEditor", "webMaster", "pubDate",
    "lastBuildDate", "generator", "docs", "rating", "ttl"].map (·, .text) ++
  [("category", .category), ("image", .image), ("textInput", .input),
    ("cloud", { attributes := .named ["domain", "port", "path", "registerProcedure", "protocol"] }),
    ("skipHours", { content := .childTexts ["hour"] }),
    ("skipDays", { content := .childTexts ["day"] })]

/-- The other elements beside a channel. -/
def rootDemands : List (String × Demand) := [("image", .image), ("textinput", .input)]

/-- An element that is not kept: the value stays as it is, if the demand on the element is met. -/
def passOver {α : Type} (demand : Demand) (attributes : List NodeAttribute) (content : List Node)
    (a : α) : Option α :=
  if demand.isMet attributes content then some a else none

end FeedArchive.Feed
