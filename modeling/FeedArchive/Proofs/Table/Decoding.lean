import FeedArchive.Proofs.Lists
import FeedArchive.Proofs.Table.Row

/-!
# Reading records from rows

`Shape` lists the columns that a record is read from with what they have to hold, and
`Shape.Faults` says which column of a row is reported if the record cannot be read: the first one
at fault in the order of the shape. A `Form` joins a shape with the rows of records and the reader:
the reader finds a record exactly if its cells stand in their columns, and fails exactly as the
shape says.
-/

namespace FeedArchive.Database

/-- What a column has to hold. -/
inductive Kind where
  | text
  | int
  | bool
  | time
  /-- A time, or nothing. -/
  | optionalTime
  /-- The name of a kind of source. -/
  | sourceType
  deriving DecidableEq

namespace Kind

/-- The type of the cells of a kind. -/
def typeName : Kind → String
  | .text | .sourceType => "TEXT"
  | .int => "INT8"
  | .bool => "BOOL"
  | .time | .optionalTime => "TIMESTAMPTZ"

/-- A cell of a kind. -/
inductive Allows : Kind → Cell → Prop
  | text (s : String) : Allows .text (.text s)
  | int (n : Int) : Allows .int (.int n)
  | bool (b : Bool) : Allows .bool (.bool b)
  | time (i : Instant) : Allows .time (.time i)
  | someTime (i : Instant) : Allows .optionalTime (.time i)
  | noTime : Allows .optionalTime .null
  | sourceType (t : SourceType) : Allows .sourceType (.text t.name)

/-- Why a cell is not of a kind. -/
inductive Refuses : Kind → Cell → CellError → Prop
  | null {k : Kind} (hk : k ≠ .optionalTime) : Refuses k .null .unexpectedNull
  | otherType {k : Kind} {c : Cell} (hnull : c ≠ .null) (htype : c.typeName ≠ k.typeName) :
      Refuses k c (.otherType k.typeName c.typeName)
  | unknownName {s : String} (hs : ∀ t : SourceType, t.name ≠ s) :
      Refuses .sourceType (.text s)
        (.invalid ⟨"source_type", s, ["RSS", "Webflow", "NextJS", "Remix"]⟩)

variable {k : Kind} {c : Cell} {e e' : CellError}

/-- A cell of a kind is not refused. -/
theorem Allows.not_refuses (h : k.Allows c) : ¬k.Refuses c e := by
  intro hrefuses
  cases h with
  | sourceType t =>
    cases hrefuses with
    | otherType _ htype => exact htype rfl
    | unknownName hs => exact hs t rfl
  | noTime =>
    cases hrefuses with
    | null hk => exact hk rfl
    | otherType hnull => exact hnull rfl
  | text | int | bool | time | someTime =>
    cases hrefuses with
    | otherType _ htype => exact htype rfl

/-- There is one reason only. -/
theorem Refuses.unique (h : k.Refuses c e) (h' : k.Refuses c e') : e = e' := by
  cases h with
  | null =>
    cases h' with
    | null => rfl
    | otherType hnull => exact absurd rfl hnull
  | otherType hnull htype =>
    cases h' with
    | null => exact absurd rfl hnull
    | otherType => rfl
    | unknownName => exact absurd rfl htype
  | unknownName =>
    cases h' with
    | otherType _ htype => exact absurd rfl htype
    | unknownName => rfl

/-- A reader of cells of a kind, with the cell that holds a value. -/
structure ReadBy {α : Type} (k : Kind) (as : Cell → Except CellError α) (cell : α → Cell) :
    Prop where
  allows : ∀ a, k.Allows (cell a)
  as_cell : ∀ a, as (cell a) = .ok a
  of_other : ∀ c, (∃ a, c = cell a) ∨ ∃ e, as c = .error e ∧ k.Refuses c e

namespace ReadBy

variable {α : Type} {as : Cell → Except CellError α} {cell : α → Cell}

/-- A cell is read as a value only if it is the cell of the value. -/
theorem as_eq_ok_iff (h : k.ReadBy as cell) {a : α} : as c = .ok a ↔ c = cell a := by
  constructor
  · intro hc
    rcases h.of_other c with ⟨a', rfl⟩ | ⟨e, he, -⟩
    · rw [Except.ok.inj ((h.as_cell a').symm.trans hc)]
    · cases he.symm.trans hc
  · rintro rfl
    exact h.as_cell a

/-- A cell is refused for exactly the reasons that its kind gives. -/
theorem as_eq_error_iff (h : k.ReadBy as cell) : as c = .error e ↔ k.Refuses c e := by
  rcases h.of_other c with ⟨a, rfl⟩ | ⟨e', he', hrefuses⟩
  · rw [h.as_cell]
    exact iff_of_false nofun (h.allows a).not_refuses
  · rw [he', Except.error.injEq]
    exact ⟨fun heq => heq ▸ hrefuses, hrefuses.unique⟩

end ReadBy

/-- Texts are read from cells of texts. -/
theorem readBy_text : Kind.text.ReadBy Cell.asText .text where
  allows := .text
  as_cell _ := rfl
  of_other c := by
    cases c with
    | text s => exact Or.inl ⟨s, rfl⟩
    | null => exact Or.inr ⟨_, rfl, .null nofun⟩
    | int | bool | time =>
      exact Or.inr ⟨_, rfl, .otherType nofun (by simp [Cell.typeName, typeName])⟩

/-- Integers are read from cells of integers. -/
theorem readBy_int : Kind.int.ReadBy Cell.asInt .int where
  allows := .int
  as_cell _ := rfl
  of_other c := by
    cases c with
    | int n => exact Or.inl ⟨n, rfl⟩
    | null => exact Or.inr ⟨_, rfl, .null nofun⟩
    | text | bool | time =>
      exact Or.inr ⟨_, rfl, .otherType nofun (by simp [Cell.typeName, typeName])⟩

/-- Truth values are read from cells of truth values. -/
theorem readBy_bool : Kind.bool.ReadBy Cell.asBool .bool where
  allows := .bool
  as_cell _ := rfl
  of_other c := by
    cases c with
    | bool b => exact Or.inl ⟨b, rfl⟩
    | null => exact Or.inr ⟨_, rfl, .null nofun⟩
    | text | int | time =>
      exact Or.inr ⟨_, rfl, .otherType nofun (by simp [Cell.typeName, typeName])⟩

/-- Times are read from cells of times. -/
theorem readBy_time : Kind.time.ReadBy Cell.asTime .time where
  allows := .time
  as_cell _ := rfl
  of_other c := by
    cases c with
    | time i => exact Or.inl ⟨i, rfl⟩
    | null => exact Or.inr ⟨_, rfl, .null nofun⟩
    | text | int | bool =>
      exact Or.inr ⟨_, rfl, .otherType nofun (by simp [Cell.typeName, typeName])⟩

/-- Times that may be missing are read from cells of times and from empty ones. -/
theorem readBy_optionalTime : Kind.optionalTime.ReadBy Cell.asTime? Cell.ofTime? where
  allows a := by
    cases a with
    | none => exact .noTime
    | some i => exact .someTime i
  as_cell a := by cases a <;> rfl
  of_other c := by
    cases c with
    | null => exact Or.inl ⟨none, rfl⟩
    | time i => exact Or.inl ⟨some i, rfl⟩
    | text | int | bool =>
      exact Or.inr ⟨_, rfl, .otherType nofun (by simp [Cell.typeName, typeName])⟩

/-- Kinds of sources are read from cells with their names. -/
theorem readBy_sourceType :
    Kind.sourceType.ReadBy Cell.asSourceType (fun t => .text t.name) where
  allows := .sourceType
  as_cell t := by cases t <;> rfl
  of_other c := by
    cases c with
    | text s =>
      by_cases hs : ∃ t : SourceType, t.name = s
      · obtain ⟨t, rfl⟩ := hs
        exact Or.inl ⟨t, rfl⟩
      · have hs' : ∀ t : SourceType, t.name ≠ s := fun t ht => hs ⟨t, ht⟩
        have hname : SourceType.ofName? s = none := by
          simpa [SourceType.ofName?] using fun t _ => hs' t
        have hparse : SourceType.parse s
            = .error ⟨"source_type", s, ["RSS", "Webflow", "NextJS", "Remix"]⟩ := by
          rw [SourceType.parse, hname]
          rfl
        refine Or.inr ⟨_, ?_, .unknownName hs'⟩
        simp only [Cell.asSourceType, Cell.asText, bind, Except.bind, hparse]
    | null => exact Or.inr ⟨_, rfl, .null nofun⟩
    | int | bool | time =>
      exact Or.inr ⟨_, rfl, .otherType nofun (by simp [Cell.typeName, typeName])⟩

end Kind

/-! ## Shapes -/

/-- The columns that a record is read from, in the order in which they are read. -/
abbrev Shape := List (String × Kind)

/-- The failure of reading a row: its first column at fault, and what is wrong there. -/
inductive Shape.Faults (r : Row) : Shape → Error → Prop
  | missing {name : String} {k : Kind} {rest : Shape} (h : r.lookup name = none) :
      Faults r ((name, k) :: rest) (.missingColumn name)
  | refused {name : String} {k : Kind} {rest : Shape} {c : Cell} {e : CellError}
      (h : r.lookup name = some c) (hc : k.Refuses c e) :
      Faults r ((name, k) :: rest) (.badCell (.named name) e)
  | later {name : String} {k : Kind} {rest : Shape} {c : Cell} {e : Error}
      (h : r.lookup name = some c) (hc : k.Allows c) (hrest : Faults r rest e) :
      Faults r ((name, k) :: rest) e

/-- Every column of a shape is in the row and of its kind. -/
def Shape.Fits (shape : Shape) (r : Row) : Prop :=
  ∀ x ∈ shape, ∃ c, r.lookup x.1 = some c ∧ x.2.Allows c

namespace Shape

variable {shape rest : Shape} {r : Row} {e e' : Error}

/-- Nothing is at fault in a row whose columns are of their kinds. -/
theorem Fits.not_faults (h : shape.Fits r) : ¬shape.Faults r e := by
  intro hfaults
  induction hfaults with
  | missing hc =>
    obtain ⟨c, hc', -⟩ := h _ (.head _)
    exact nomatch hc.symm.trans hc'
  | refused hc hrefuses =>
    obtain ⟨c, hc', hallows⟩ := h _ (.head _)
    cases hc.symm.trans hc'
    exact hallows.not_refuses hrefuses
  | later _ _ _ ih => exact ih fun x hx => h x (.tail _ hx)

/-- Columns that are read after others are reported only if these are not at fault. -/
theorem faults_append :
    Faults r (shape ++ rest) e ↔ shape.Faults r e ∨ shape.Fits r ∧ rest.Faults r e := by
  induction shape with
  | nil => simp [Fits, show ¬Faults r [] e from nofun]
  | cons x shape ih =>
    constructor
    · intro h
      cases h with
      | missing hc => exact Or.inl (.missing hc)
      | refused hc hrefuses => exact Or.inl (.refused hc hrefuses)
      | later hc hallows hrest =>
        rcases ih.mp hrest with hfaults | ⟨hfits, hfaults⟩
        · exact Or.inl (.later hc hallows hfaults)
        · exact Or.inr ⟨List.forall_mem_cons.mpr ⟨⟨_, hc, hallows⟩, hfits⟩, hfaults⟩
    · rintro (h | ⟨hfits, hfaults⟩)
      · cases h with
        | missing hc => exact .missing hc
        | refused hc hrefuses => exact .refused hc hrefuses
        | later hc hallows hrest => exact .later hc hallows (ih.mpr (Or.inl hrest))
      · obtain ⟨⟨c, hc, hallows⟩, hfits⟩ := List.forall_mem_cons.mp hfits
        exact .later hc hallows (ih.mpr (Or.inr ⟨hfits, hfaults⟩))

end Shape

namespace Row

variable {α β : Type} {k : Kind} {as : Cell → Except CellError α} {cell : α → Cell}
  {r : Row} {name : String} {f : α → Except Error β} {rest : Shape} {e : Error}

/-- A column is read, and what follows succeeds, if its cell holds a value for which it does. -/
theorem read_bind_eq_ok_iff (h : k.ReadBy as cell) {b : β} :
    (r.read name as >>= f) = .ok b ↔ ∃ a, r.lookup name = some (cell a) ∧ f a = .ok b := by
  cases hc : r.lookup name with
  | none => simp [read, hc, bind, Except.bind]
  | some c =>
    rcases h.of_other c with ⟨a, rfl⟩ | ⟨e, he, hrefuses⟩
    · have hcell : ∀ a', cell a = cell a' ↔ a = a' := fun a' =>
        h.as_eq_ok_iff.symm.trans (by rw [h.as_cell, Except.ok.injEq])
      simp [read, hc, h.as_cell, bind, Except.bind, hcell]
    · have hcell : ∀ a', c ≠ cell a' := fun a' h' =>
        nomatch he.symm.trans (h.as_eq_ok_iff.mpr h')
      simp [read, hc, he, bind, Except.bind, hcell]

/-- A column is read first, and what follows it is at fault only if the column is not. -/
theorem read_bind_eq_error_iff (h : k.ReadBy as cell)
    (hf : ∀ a, f a = .error e ↔ Shape.Faults r rest e) :
    (r.read name as >>= f) = .error e ↔ Shape.Faults r ((name, k) :: rest) e := by
  constructor
  · cases hc : r.lookup name with
    | none =>
      intro herror
      simp only [read, hc, bind, Except.bind, Except.error.injEq] at herror
      exact herror ▸ .missing hc
    | some c =>
      intro herror
      rcases h.of_other c with ⟨a, rfl⟩ | ⟨e', he', hrefuses⟩
      · simp only [read, hc, h.as_cell, bind, Except.bind] at herror
        exact .later hc (h.allows a) ((hf a).mp herror)
      · simp only [read, hc, he', bind, Except.bind, Except.error.injEq] at herror
        exact herror ▸ .refused hc hrefuses
  · intro hfaults
    cases hfaults with
    | missing hc => simp [read, hc, bind, Except.bind]
    | refused hc hrefuses =>
      simp [read, hc, h.as_eq_error_iff.mpr hrefuses, bind, Except.bind]
    | later hc hallows hrest =>
      rename_i c
      rcases h.of_other c with ⟨a, rfl⟩ | ⟨e', -, hrefuses⟩
      · simpa [read, hc, h.as_cell, bind, Except.bind] using (hf a).mpr hrest
      · exact absurd hrefuses hallows.not_refuses

end Row

/-! ## Records -/

/-- How the records of a type stand in rows, and how they are read from them. -/
structure Form (α : Type) where
  shape : Shape
  row : α → Row
  read : Row → Except Error α
  /-- A record has the columns of the shape, and its cells are of their kinds. -/
  row_fits : ∀ a, List.Forall₂ (fun x y => x.1 = y.1 ∧ y.2.Allows x.2) (row a) shape
  /-- A record is read exactly if its cells stand in their columns. -/
  read_eq_ok_iff : ∀ {r a}, read r = .ok a ↔ ∀ x ∈ row a, r.lookup x.1 = some x.2
  /-- Reading fails exactly at the first column at fault. -/
  read_eq_error_iff : ∀ {r e}, read r = .error e ↔ shape.Faults r e

namespace Form

variable {α : Type} {F : Form α} {r r' : Row} {a : α}

/-- The row of a record has the columns of its shape, in order. -/
theorem row_names (a : α) : (F.row a).map (·.1) = F.shape.map (·.1) := by
  have h := F.row_fits a
  generalize F.row a = cells at h ⊢
  generalize F.shape = shape at h ⊢
  induction h with
  | nil => rfl
  | cons hx _ ih => rw [List.map_cons, List.map_cons, hx.1, ih]

/-- A row that is read has columns of the right kinds. -/
theorem fits_of_read (h : F.read r = .ok a) : F.shape.Fits r := by
  have hcells := F.read_eq_ok_iff.mp h
  have hfits := F.row_fits a
  generalize F.row a = cells at hcells hfits
  generalize F.shape = shape at hfits ⊢
  induction hfits with
  | nil => exact nofun
  | @cons x y cells shape hx _ ih =>
    obtain ⟨hc, hcells⟩ := List.forall_mem_cons.mp hcells
    exact List.forall_mem_cons.mpr ⟨⟨x.2, hx.1 ▸ hc, hx.2⟩, ih hcells⟩

/-- A row can be read exactly if each column is there and of its kind. -/
theorem fits_iff : F.shape.Fits r ↔ ∃ a, F.read r = .ok a := by
  refine ⟨fun h => ?_, fun ⟨a, ha⟩ => fits_of_read ha⟩
  cases hread : F.read r with
  | ok a => exact ⟨a, rfl⟩
  | error e => exact absurd (F.read_eq_error_iff.mp hread) h.not_faults

/-- Articles, in the columns of their fields. -/
def article : Form Article where
  shape := [("id", .int), ("source_id", .int), ("title", .text), ("url", .text),
    ("summary", .text), ("published_at", .time), ("created_at", .time)]
  row := Article.row
  read := Row.article
  row_fits a := by
    simp [Article.row, Kind.Allows.int, Kind.Allows.text, Kind.Allows.time]
  read_eq_ok_iff {r a} := by
    simp only [Row.article, Row.read_bind_eq_ok_iff Kind.readBy_int,
      Row.read_bind_eq_ok_iff Kind.readBy_text, Row.read_bind_eq_ok_iff Kind.readBy_time]
    constructor
    · rintro ⟨id, hid, sourceId, hsourceId, title, htitle, url, hurl, summary, hsummary,
        publishedAt, hpublishedAt, createdAt, hcreatedAt, ⟨⟩⟩
      simp [Article.row, *]
    · intro h
      simp only [Article.row, List.forall_mem_cons] at h
      obtain ⟨hid, hsourceId, htitle, hurl, hsummary, hpublishedAt, hcreatedAt, -⟩ := h
      exact ⟨_, hid, _, hsourceId, _, htitle, _, hurl, _, hsummary, _, hpublishedAt, _,
        hcreatedAt, rfl⟩
  read_eq_error_iff {r e} := by
    refine Row.read_bind_eq_error_iff Kind.readBy_int fun id => ?_
    refine Row.read_bind_eq_error_iff Kind.readBy_int fun sourceId => ?_
    refine Row.read_bind_eq_error_iff Kind.readBy_text fun title => ?_
    refine Row.read_bind_eq_error_iff Kind.readBy_text fun url => ?_
    refine Row.read_bind_eq_error_iff Kind.readBy_text fun summary => ?_
    refine Row.read_bind_eq_error_iff Kind.readBy_time fun publishedAt => ?_
    refine Row.read_bind_eq_error_iff Kind.readBy_time fun createdAt => ?_
    exact iff_of_false nofun nofun

/-- Articles, and the names of their sources in a further column. -/
def articleWithSource : Form ArticleWithSource where
  shape := article.shape ++ [("source_name", .text)]
  row a := a.article.row ++ [("source_name", .text a.sourceName)]
  read := Row.articleWithSource
  row_fits a := List.rel_append (article.row_fits a.article)
    (.cons ⟨rfl, .text a.sourceName⟩ .nil)
  read_eq_ok_iff {r a} := by
    have hsplit : (∀ x ∈ a.article.row ++ [("source_name", Cell.text a.sourceName)],
          r.lookup x.1 = some x.2)
        ↔ r.article = .ok a.article ∧ r.lookup "source_name" = some (.text a.sourceName) := by
      rw [List.forall_mem_append, List.forall_mem_singleton]
      exact and_congr_left' article.read_eq_ok_iff.symm
    rw [hsplit]
    cases hread : r.article with
    | error e =>
      rw [Row.articleWithSource, hread]
      exact iff_of_false nofun nofun
    | ok b =>
      rw [Row.articleWithSource, hread]
      refine (Row.read_bind_eq_ok_iff Kind.readBy_text).trans ?_
      obtain ⟨article, sourceName⟩ := a
      constructor
      · rintro ⟨name, hname, ⟨⟩⟩
        exact ⟨rfl, hname⟩
      · rintro ⟨⟨⟩, hname⟩
        exact ⟨_, hname, rfl⟩
  read_eq_error_iff {r e} := by
    rw [Shape.faults_append, fits_iff, ← article.read_eq_error_iff]
    show _ ↔ r.article = .error e ∨ (∃ a, r.article = .ok a) ∧ _
    cases hread : r.article with
    | error e' =>
      have hfails : r.articleWithSource = .error e' := by
        rw [Row.articleWithSource, hread]
        rfl
      simp [hfails]
    | ok b =>
      have hrest : r.articleWithSource
          = r.read "source_name" Cell.asText >>= fun name => pure ⟨b, name⟩ := by
        rw [Row.articleWithSource, hread]
        rfl
      have hnone : ∀ name : String,
          (pure ⟨b, name⟩ : Except Error ArticleWithSource) = .error e ↔ Shape.Faults r [] e :=
        fun name => iff_of_false nofun nofun
      rw [hrest, Row.read_bind_eq_error_iff Kind.readBy_text hnone]
      simp

/-- Sources, in the columns of their fields. -/
def source : Form Source where
  shape := [("id", .int), ("name", .text), ("feed_url", .text), ("source_type", .sourceType),
    ("active", .bool), ("last_crawled_at", .optionalTime)]
  row := Source.row
  read := Row.source
  row_fits a := by
    simp [Source.row, Kind.Allows.int, Kind.Allows.text, Kind.Allows.bool,
      Kind.readBy_optionalTime.allows, Kind.readBy_sourceType.allows]
  read_eq_ok_iff {r a} := by
    simp only [Row.source, Row.read_bind_eq_ok_iff Kind.readBy_int,
      Row.read_bind_eq_ok_iff Kind.readBy_text, Row.read_bind_eq_ok_iff Kind.readBy_bool,
      Row.read_bind_eq_ok_iff Kind.readBy_optionalTime,
      Row.read_bind_eq_ok_iff Kind.readBy_sourceType]
    constructor
    · rintro ⟨id, hid, name, hname, feedUrl, hfeedUrl, sourceType, hsourceType, active, hactive,
        lastCrawledAt, hlastCrawledAt, ⟨⟩⟩
      simp [Source.row, *]
    · intro h
      simp only [Source.row, List.forall_mem_cons] at h
      obtain ⟨hid, hname, hfeedUrl, hsourceType, hactive, hlastCrawledAt, -⟩ := h
      exact ⟨_, hid, _, hname, _, hfeedUrl, _, hsourceType, _, hactive, _, hlastCrawledAt, rfl⟩
  read_eq_error_iff {r e} := by
    refine Row.read_bind_eq_error_iff Kind.readBy_int fun id => ?_
    refine Row.read_bind_eq_error_iff Kind.readBy_text fun name => ?_
    refine Row.read_bind_eq_error_iff Kind.readBy_text fun feedUrl => ?_
    refine Row.read_bind_eq_error_iff Kind.readBy_sourceType fun sourceType => ?_
    refine Row.read_bind_eq_error_iff Kind.readBy_bool fun active => ?_
    refine Row.read_bind_eq_error_iff Kind.readBy_optionalTime fun lastCrawledAt => ?_
    exact iff_of_false nofun nofun

end Form

/-! ## Other columns and another order -/

/-- A row with the columns of another one in some order, and further ones that a shape does not
name. -/
def Shape.Rearranges (shape : Shape) (r r' : Row) : Prop :=
  ∃ more : Row, r'.Perm (r ++ more) ∧ ∀ x ∈ shape,
    x.1 ∉ more.map (·.1) ∧ (r.map (·.1)).count x.1 ≤ 1

namespace Shape

variable {shape : Shape} {r r' : Row} {e : Error}

/-- A rearranged row has the same cells in the columns of its shape. -/
theorem Rearranges.lookup_eq (h : shape.Rearranges r r') {x : String × Kind} (hx : x ∈ shape) :
    r'.lookup x.1 = r.lookup x.1 := by
  obtain ⟨more, hperm, hnames⟩ := h
  exact lookup_eq_of_perm hperm (hnames x hx).1 (hnames x hx).2

/-- The first column at fault hangs on the columns of the shape only. -/
theorem Faults.rearranged (h : shape.Faults r e)
    (hlookup : ∀ x ∈ shape, r'.lookup x.1 = r.lookup x.1) : shape.Faults r' e := by
  induction h with
  | missing hc => exact .missing ((hlookup _ (.head _)).trans hc)
  | refused hc hrefuses => exact .refused ((hlookup _ (.head _)).trans hc) hrefuses
  | later hc hallows _ ih =>
    exact .later ((hlookup _ (.head _)).trans hc) hallows (ih fun x hx => hlookup x (.tail _ hx))

end Shape

/-- The order of the columns of a row and columns without meaning do not matter. -/
theorem Form.read_rearranged {α : Type} (F : Form α) {r r' : Row} (h : F.shape.Rearranges r r') :
    F.read r' = F.read r := by
  cases hread : F.read r with
  | ok a =>
    rw [F.read_eq_ok_iff] at hread ⊢
    intro x hx
    have hname : x.1 ∈ F.shape.map (·.1) := F.row_names a ▸ List.mem_map_of_mem hx
    obtain ⟨y, hy, hyx⟩ := List.mem_map.mp hname
    rw [← hyx, h.lookup_eq hy, hyx, hread x hx]
  | error e =>
    rw [F.read_eq_error_iff] at hread ⊢
    exact hread.rearranged fun x hx => h.lookup_eq hx

end FeedArchive.Database
