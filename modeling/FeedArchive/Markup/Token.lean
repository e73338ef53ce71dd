import FeedArchive.Markup.Attribute

/-! # Tokens of markup

A text in XML as a list of tags, runs of text and references. Comments, processing instructions
and document type declarations leave no token, except a declaration of the encoding. The list ends
with `broken` where the text stops being markup, so that what comes before can be read all the
same. Names and texts are as they are written. -/

namespace FeedArchive.Markup

/-- A piece of a text in XML. -/
inductive Token where
  | opening (name : List Char) (attributes : List Attribute)
  | closing (name : List Char)
  /-- An element without content, in one tag. -/
  | empty (name : List Char) (attributes : List Attribute)
  | text (chars : List Char)
  /-- The name between `&` and `;`. -/
  | reference (name : List Char)
  /-- What follows is in the encoding with this label. -/
  | encoding (label : List Char)
  /-- What follows is no markup. -/
  | broken
  deriving DecidableEq, Repr

/-! ## Parts of the text -/

/-- What comes before the first occurrence of a text, and what comes after it. -/
def splitAtFirst? (stop : List Char) : List Char → Option (List Char × List Char)
  | [] => if stop.isEmpty then some ([], []) else none
  | c :: cs =>
    if stop.isPrefixOf (c :: cs) then some ([], (c :: cs).drop stop.length)
    else (splitAtFirst? stop cs).map fun (before, after) => (c :: before, after)

/-- The quote that is open after a character. -/
def quoteAfter (quote : Option Char) (c : Char) : Option Char :=
  match quote with
  | some q => if c = q then none else some q
  | none => if c = '"' ∨ c = '\'' then some c else none

/-- The content of a tag up to its `>`, which does not stand in quotes, and what comes after it.
`quote` is the quote that has been opened. -/
def tagContent? (quote : Option Char) : List Char → Option (List Char × List Char)
  | [] => none
  | c :: cs =>
    if c = '>' ∧ quote = none then some ([], cs)
    else (tagContent? (quoteAfter quote c) cs).map fun (content, after) => (c :: content, after)

/-- Where a document type declaration stands. -/
inductive Doctype where
  /-- In front of the brackets, perhaps within a quote that has been opened. -/
  | before (quote : Option Char)
  /-- Between the brackets. -/
  | inside
  /-- In a declaration between the brackets that may hold literals, perhaps within a quote that has
  been opened. -/
  | withLiterals (quote : Option Char)
  /-- In another declaration between the brackets. -/
  | withoutLiterals
  /-- In a comment between the brackets. -/
  | comment
  /-- In a processing instruction between the brackets. -/
  | instruction
  /-- Behind the brackets. -/
  | after
  deriving DecidableEq

/-- The place in a declaration that goes on like this after its `<`. Declarations of attributes,
entities and notations may hold literals; elsewhere a quote is a character like any other. -/
def Doctype.ofDeclaration (cs : List Char) : Doctype :=
  if ["!ATTLIST", "!ENTITY", "!NOTATION"].any (·.toList.isPrefixOf cs) then .withLiterals none
  else .withoutLiterals

/-- What comes after the `>` of a document type declaration. -/
def afterDoctype? : Doctype → List Char → Option (List Char)
  | _, [] => none
  | .before none, '>' :: cs => some cs
  | .before none, '[' :: cs => afterDoctype? .inside cs
  | .before quote, c :: cs => afterDoctype? (.before (quoteAfter quote c)) cs
  | .inside, '<' :: '!' :: '-' :: '-' :: cs => afterDoctype? .comment cs
  | .inside, '<' :: '?' :: cs => afterDoctype? .instruction cs
  | .inside, '<' :: cs => afterDoctype? (.ofDeclaration cs) cs
  | .inside, ']' :: cs => afterDoctype? .after cs
  | .inside, _ :: cs => afterDoctype? .inside cs
  | .withLiterals none, '>' :: cs => afterDoctype? .inside cs
  | .withLiterals quote, c :: cs => afterDoctype? (.withLiterals (quoteAfter quote c)) cs
  | .withoutLiterals, '>' :: cs => afterDoctype? .inside cs
  | .withoutLiterals, _ :: cs => afterDoctype? .withoutLiterals cs
  | .comment, '-' :: '-' :: '>' :: cs => afterDoctype? .inside cs
  | .comment, _ :: cs => afterDoctype? .comment cs
  | .instruction, '?' :: '>' :: cs => afterDoctype? .inside cs
  | .instruction, _ :: cs => afterDoctype? .instruction cs
  | .after, '>' :: cs => some cs
  | .after, _ :: cs => afterDoctype? .after cs

/-- What is left behind the stop is not longer than what there was. -/
theorem length_after_splitAtFirst {stop cs before after : List Char}
    (h : splitAtFirst? stop cs = some (before, after)) : after.length ≤ cs.length := by
  induction cs generalizing before with
  | nil =>
    simp only [splitAtFirst?] at h
    split at h <;> simp_all
  | cons c cs ih =>
    simp only [splitAtFirst?] at h
    split at h
    · obtain ⟨-, rfl⟩ := Prod.mk.inj (Option.some.inj h)
      simp
    · obtain ⟨⟨_, _⟩, hs, he⟩ := Option.map_eq_some_iff.1 h
      obtain ⟨-, rfl⟩ := Prod.mk.inj he
      exact Nat.le_succ_of_le (ih hs)

/-- What is left behind a tag is not longer than what there was. -/
theorem length_after_tagContent {quote : Option Char} {cs content after : List Char}
    (h : tagContent? quote cs = some (content, after)) : after.length ≤ cs.length := by
  induction cs generalizing quote content with
  | nil => simp [tagContent?] at h
  | cons c cs ih =>
    unfold tagContent? at h
    split at h
    · obtain ⟨-, rfl⟩ := Prod.mk.inj (Option.some.inj h)
      exact Nat.le_succ _
    · obtain ⟨⟨_, _⟩, hs, he⟩ := Option.map_eq_some_iff.1 h
      obtain ⟨-, rfl⟩ := Prod.mk.inj he
      exact Nat.le_succ_of_le (ih hs)

/-- What is left behind a document type is not longer than what there was. -/
theorem length_after_doctype {place : Doctype} {cs after : List Char}
    (h : afterDoctype? place cs = some after) : after.length ≤ cs.length := by
  fun_induction afterDoctype? place cs <;> simp_all <;> omega

/-! ## What begins with `<` -/

/-- The name at the beginning of the content of a tag. -/
def tagName (content : List Char) : List Char := content.takeWhile (!isSpace ·)

/-- The attributes in the content of a tag. -/
def tagAttributes (content : List Char) : List Attribute :=
  Attribute.all (content.dropWhile (!isSpace ·))

/-- The opening tag with this content, or an element without content where it ends in `/`. -/
def openingTag (content : List Char) : Token :=
  if content.getLast? = some '/' then
    .empty (tagName content.dropLast) (tagAttributes content.dropLast)
  else .opening (tagName content) (tagAttributes content)

/-- The closing tag with this content. White space may stand after the name, but does not stand for
the empty one. -/
def closingTag (content : List Char) : Token :=
  match (content.reverse.dropWhile isSpace).reverse with
  | [] => .closing content
  | name => .closing name

/-- What a processing instruction with this content leaves: the encoding, if it is the declaration
of the document and names one. -/
def instruction (content : List Char) : List Token :=
  if tagName content = "xml".toList then
    ((Attribute.value? "encoding" (content.drop 3)).map Token.encoding).toList
  else []

/-- A document type declaration after `<!`: the keyword, in upper or lower case, and a name have to
come first. -/
def doctype? (cs : List Char) : Option (List Char) :=
  if (cs.take 7).map Char.toUpper = "DOCTYPE".toList ∧
      ((cs.drop 7).dropWhile isSpace).head? ≠ some '>' then
    afterDoctype? (.before none) (cs.drop 7)
  else none

/-- The token that begins with `<!`, if it is one that leaves a token, and what comes after it. The
keyword of a section of text is in upper case. -/
def exclaimed? : List Char → Option (List Token × List Char)
  | '-' :: '-' :: cs => (splitAtFirst? ['-', '-', '>'] cs).map fun (_, after) => ([], after)
  | cs =>
    if "[CDATA[".toList.isPrefixOf cs then
      (splitAtFirst? [']', ']', '>'] (cs.drop 7)).map fun (chars, after) => ([.text chars], after)
    else (doctype? cs).map fun after => ([], after)

/-- The token that begins with `<`, if it is one that leaves a token, and what comes after it. -/
def markup? : List Char → Option (List Token × List Char)
  | [] => none
  | '!' :: cs => exclaimed? cs
  | '?' :: '>' :: _ => none
  | '?' :: cs => (splitAtFirst? ['?', '>'] cs).map fun (content, after) =>
      (instruction content, after)
  | '/' :: cs => (tagContent? none cs).map fun (content, after) => ([closingTag content], after)
  | cs => (tagContent? none cs).map fun (content, after) => ([openingTag content], after)

/-- What is left behind an exclamation mark and what it opens is not longer than what there was. -/
theorem length_after_exclaimed {cs after : List Char} {tokens : List Token}
    (h : exclaimed? cs = some (tokens, after)) : after.length ≤ cs.length := by
  unfold exclaimed? at h
  split at h
  · obtain ⟨⟨_, _⟩, hs, he⟩ := Option.map_eq_some_iff.1 h
    obtain ⟨-, rfl⟩ := Prod.mk.inj he
    have := length_after_splitAtFirst hs
    simp only [List.length_cons]
    omega
  · split at h
    · obtain ⟨⟨_, _⟩, hs, he⟩ := Option.map_eq_some_iff.1 h
      obtain ⟨-, rfl⟩ := Prod.mk.inj he
      have := length_after_splitAtFirst hs
      simp only [List.length_drop] at this
      omega
    · obtain ⟨_, hs, he⟩ := Option.map_eq_some_iff.1 h
      obtain ⟨-, rfl⟩ := Prod.mk.inj he
      unfold doctype? at hs
      split at hs
      · have := length_after_doctype hs
        simp only [List.length_drop] at this
        omega
      · simp at hs

/-- What is left behind markup is not longer than what there was. -/
theorem length_after_markup {cs after : List Char} {tokens : List Token}
    (h : markup? cs = some (tokens, after)) : after.length ≤ cs.length := by
  unfold markup? at h
  split at h
  · simp at h
  · exact Nat.le_succ_of_le (length_after_exclaimed h)
  · simp at h
  all_goals
    obtain ⟨⟨_, _⟩, hs, he⟩ := Option.map_eq_some_iff.1 h
    obtain ⟨-, rfl⟩ := Prod.mk.inj he
  · exact Nat.le_succ_of_le (length_after_splitAtFirst hs)
  · exact Nat.le_succ_of_le (length_after_tagContent hs)
  · exact length_after_tagContent hs

/-! ## The whole text -/

/-- A character that neither begins markup nor a reference. -/
def isPlain (c : Char) : Bool := c != '<' && c != '&'

/-- A character that may stand in a reference. -/
def isInReference (c : Char) : Bool := c != ';' && c != '&' && c != '<'

/-- The tokens of a text. -/
def tokens : List Char → List Token
  | [] => []
  | c :: cs =>
    if c = '<' then
      match h : markup? cs with
      | some (first, after) =>
        have := length_after_markup h
        first ++ tokens after
      | none => [.broken]
    else if c = '&' then
      match h : cs.dropWhile isInReference with
      | ';' :: after =>
        have : (cs.dropWhile isInReference).length = after.length + 1 := by rw [h]; rfl
        have := (List.dropWhile_sublist (l := cs) isInReference).length_le
        .reference (cs.takeWhile isInReference) :: tokens after
      | _ => [.broken]
    else
      have := (List.dropWhile_sublist (l := cs) isPlain).length_le
      .text (c :: cs.takeWhile isPlain) :: tokens (cs.dropWhile isPlain)
termination_by cs => cs.length

end FeedArchive.Markup
