import FeedArchive.Proofs.Json.Rearranged
import FeedArchive.Proofs.Json.Record

/-!
# Documents

The text of a record, in either layout, is decoded to the record, and decoding hangs neither on the
order of the members of an object nor on members under names that are not known
(`Document.decode_written`). Articles with their source are an exception: their values are set aside
before they are read, so that a value under a name that is not known may be too deep
(`Document.decode_nested_lists`).
-/

namespace FeedArchive

open Json

/-- The types of records, and of lists of them, that come as documents. -/
inductive Document where
  | article
  | articles
  | articleWithSource
  | newArticle
  | source
  | newSource

namespace Document

/-- What a document holds. -/
abbrev Content : Document → Type
  | .article => Article
  | .articles => List Article
  | .articleWithSource => ArticleWithSource
  | .newArticle => NewArticle
  | .source => Source
  | .newSource => NewSource

def toJson : (d : Document) → d.Content → Value
  | .article => Article.toJson
  | .articles => Article.listToJson
  | .articleWithSource => ArticleWithSource.toJson
  | .newArticle => NewArticle.toJson
  | .source => Source.toJson
  | .newSource => NewSource.toJson

def ofJson? : (d : Document) → Value → Option d.Content
  | .article => Article.ofJson?
  | .articles => Article.listOfJson?
  | .articleWithSource => ArticleWithSource.ofJson?
  | .newArticle => NewArticle.ofJson?
  | .source => Source.ofJson?
  | .newSource => NewSource.ofJson?

/-- What a text stands for. -/
def decode (d : Document) (text : String) : Option d.Content :=
  (Value.read text).bind d.ofJson?

/-- See `Article.InRange`. -/
def InRange : (d : Document) → d.Content → Prop
  | .article => Article.InRange
  | .articles => fun articles => ∀ a ∈ articles, a.InRange
  | .articleWithSource => fun a => a.article.InRange
  | .newArticle => NewArticle.InRange
  | .source => Source.InRange
  | .newSource => fun _ => True

/-- The value of a document with the members of its objects in another order, others among them
under names that are not known. For an article with its source, the values of these can be set
aside. -/
def Rearranged : Document → Value → Value → Prop
  | .article => Json.Rearranged Article.fieldNames fun _ => True
  | .articles => fun v v' => ∃ items items', v = .list items ∧ v' = .list items' ∧
      List.Forall₂ (Json.Rearranged Article.fieldNames fun _ => True) items items'
  | .articleWithSource =>
    Json.Rearranged ("source_name" :: Article.fieldNames) fun v => v.isWhole 126 = true
  | .newArticle => Json.Rearranged NewArticle.fieldNames fun _ => True
  | .source => Json.Rearranged Source.fieldNames fun _ => True
  | .newSource => Json.Rearranged NewSource.fieldNames fun _ => True

variable {d : Document} {v v' : Value} {text : String}

/-- What is written for a record has no number but integers and no text with half a character. -/
theorem isPlain_toJson (d : Document) (x : d.Content) : (d.toJson x).IsPlain := by
  cases d with
  | article => exact Article.isPlain_toJson x
  | articles =>
    exact .list (List.forall_mem_map.mpr fun a _ => Article.isPlain_toJson a)
  | articleWithSource => exact ArticleWithSource.isPlain_toJson x
  | newArticle => exact NewArticle.isPlain_toJson x
  | source => exact Source.isPlain_toJson x
  | newSource => exact NewSource.isPlain_toJson x

/-- What is written for a record in range is read as the record. -/
theorem ofJson?_toJson {x : d.Content} (h : d.InRange x) : d.ofJson? (d.toJson x) = some x := by
  cases d with
  | article => exact Article.ofJson?_toJson h
  | articles => exact Article.listOfJson?_listToJson h
  | articleWithSource => exact ArticleWithSource.ofJson?_toJson h
  | newArticle => exact NewArticle.ofJson?_toJson h
  | source => exact Source.ofJson?_toJson h
  | newSource => exact NewSource.ofJson?_toJson x

/-- Rearranged members and members beside those of the record do not change what is read. -/
theorem ofJson?_eq_of_rearranged (h : d.Rearranged v v') : d.ofJson? v' = d.ofJson? v := by
  cases d with
  | article => exact Article.ofJson?_eq h
  | articles =>
    obtain ⟨items, items', rfl, rfl, hitems⟩ := h
    exact Article.listOfJson?_eq hitems
  | articleWithSource => exact ArticleWithSource.ofJson?_eq h
  | newArticle => exact NewArticle.ofJson?_eq h
  | source => exact Source.ofJson?_eq h
  | newSource => exact NewSource.ofJson?_eq h

/-- A text that is read as a value is decoded as what the value stands for. -/
theorem decode_eq (h : Value.read text = some v) : d.decode text = d.ofJson? v := by
  rw [decode, h, Option.bind_some]

/-- Both texts of what a document holds are those of its value, and are decoded to it. Texts of
values whose objects have the same members in another order, and others under names that are not
known, are decoded to the same. -/
theorem decode_written (d : Document) :
    (∀ x, Value.read (d.toJson x).compactText = some (d.toJson x) ∧
      Value.read (d.toJson x).prettyText = some (d.toJson x)) ∧
    (∀ x, d.InRange x → d.decode (d.toJson x).compactText = some x ∧
      d.decode (d.toJson x).prettyText = some x) ∧
    ∀ text text' v v', Value.read text = some v → Value.read text' = some v' →
      d.Rearranged v v' → d.decode text' = d.decode text := by
  have hread : ∀ x, Value.read (d.toJson x).compactText = some (d.toJson x) ∧
      Value.read (d.toJson x).prettyText = some (d.toJson x) := fun x =>
    ⟨Value.read_compactText (d.isPlain_toJson x), Value.read_prettyText (d.isPlain_toJson x)⟩
  refine ⟨hread, fun x hx => ?_, fun text text' v v' hv hv' h => ?_⟩
  · obtain ⟨hcompact, hpretty⟩ := hread x
    rw [decode_eq hcompact, decode_eq hpretty]
    exact ⟨ofJson?_toJson hx, ofJson?_toJson hx⟩
  · rw [decode_eq hv, decode_eq hv', ofJson?_eq_of_rearranged h]

/-! ## Articles with their source -/

/-- Lists within one another. -/
def nestedLists : Nat → Value
  | 0 => .null
  | depth + 1 => .list [nestedLists depth]

/-- Lists within lists are written with brackets only. -/
theorem isPlain_nestedLists (n : Nat) : (nestedLists n).IsPlain := by
  induction n with
  | zero => exact .null
  | succ n ih => exact .list (List.forall_mem_singleton.mpr ih)

/-- Lists within lists can be set aside as long as there are not more of them than the depth
allows. -/
theorem isWhole_nestedLists (n depth : Nat) :
    (nestedLists n).isWhole depth = decide (n ≤ depth) := by
  induction n generalizing depth with
  | zero => simp [nestedLists, Value.isWhole]
  | succ n ih => cases depth <;> simp [nestedLists, Value.isWhole, areWhole, ih]

/-- An article with its source, as it is reported. -/
def reported : ArticleWithSource where
  article := {
    id := 1
    sourceId := -9223372036854775808
    title := "\"Go\"\n"
    url := "https://example.com/1"
    summary := "C:\\go \u0007 \u2028"
    publishedAt := ⟨1704067199, 1999999999, by decide⟩
    createdAt := .ofSecond 1704067200 }
  sourceName := "Go Blog"

/-- The members of its object. -/
def reportedMembers : Fields :=
  reported.article.members ++ [("source_name", .text reported.sourceName)]

/-- The record has a year of four digits and identifiers of 64 bits. -/
theorem inRange_reported : articleWithSource.InRange reported where
  id := by decide
  sourceId := by decide
  publishedAt := ⟨by decide, by decide⟩
  createdAt := ⟨by decide, by decide⟩

/-- The object with some lists among its members, in any order. -/
theorem isPlain_reported {name : String} {n : Nat} {members : Fields}
    (h : members.Perm (reportedMembers ++ [(name, nestedLists n)])) :
    (Value.object members).IsPlain := by
  have hreported : (Value.object reportedMembers).IsPlain :=
    isPlain_toJson articleWithSource reported
  cases hreported with
  | object hmembers =>
    refine .object fun m hm => ?_
    rcases List.mem_append.mp (h.mem_iff.mp hm) with hm | hm
    · exact hmembers m hm
    · rw [List.mem_singleton.mp hm]
      exact isPlain_nestedLists n

/-- A member under a name that is not known, in front of the others in reverse, leaves the article
as it is, with as many lists as may stand within one another. -/
theorem decode_written_reported :
    articleWithSource.decode (articleWithSource.toJson reported).prettyText = some reported ∧
    articleWithSource.decode
        (Value.object (("note", nestedLists 126) :: reportedMembers.reverse)).prettyText
      = some reported := by
  have hperm : (("note", nestedLists 126) :: reportedMembers.reverse).Perm
      (reportedMembers ++ [("note", nestedLists 126)]) :=
    ((List.reverse_perm reportedMembers).cons _).trans (List.perm_append_singleton _ _).symm
  have hrearranged : articleWithSource.Rearranged (articleWithSource.toJson reported)
      (.object (("note", nestedLists 126) :: reportedMembers.reverse)) := by
    refine .object hperm (List.forall_mem_singleton.mpr ⟨by decide, ?_⟩)
    exact (isWhole_nestedLists 126 126).trans (by decide)
  obtain ⟨hread, hback, hsame⟩ := decode_written .articleWithSource
  obtain ⟨hcompact, hpretty⟩ := hback reported inRange_reported
  refine ⟨hpretty, (hsame _ _ _ _ (hread reported).1 ?_ hrearranged).trans hcompact⟩
  exact Value.read_prettyText (isPlain_reported hperm)

/-- With more lists within one another, the same text stands for nothing. -/
theorem decode_nested_lists :
    Value.read (Value.object reportedMembers).compactText = some (.object reportedMembers) ∧
    Value.read (Value.object (reportedMembers ++ [("note", nestedLists 200)])).compactText
      = some (.object (reportedMembers ++ [("note", nestedLists 200)])) ∧
    "note" ∉ "source_name" :: Article.fieldNames ∧
    articleWithSource.decode (Value.object reportedMembers).compactText = some reported ∧
    articleWithSource.decode
        (Value.object (reportedMembers ++ [("note", nestedLists 200)])).compactText
      = none := by
  have hread : Value.read (Value.object reportedMembers).compactText
      = some (.object reportedMembers) :=
    Value.read_compactText (isPlain_toJson articleWithSource reported)
  have hdeep := Value.read_compactText
    (isPlain_reported (.refl (reportedMembers ++ [("note", nestedLists 200)])))
  refine ⟨hread, hdeep, by decide, ?_, ?_⟩
  · rw [decode_eq hread]
    exact ofJson?_toJson inRange_reported
  · rw [decode_eq hdeep]
    have hnote : ("note", nestedLists 200) ∈ reportedMembers ++ [("note", nestedLists 200)] :=
      List.mem_append_right _ List.mem_cons_self
    exact ArticleWithSource.ofJson?_eq_none hnote (isWhole_nestedLists 200 126)

end Document

end FeedArchive
