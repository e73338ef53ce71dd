import FeedArchive.Json.Record
import FeedArchive.Proofs.Lists

/-!
# Objects with their members in another order

Decoding a record hangs neither on the order of the members of its object nor on members without the
name of a field (`Rearranged`). Each record is decoded by looking its fields up by their names; what
is found there is the same, or there are no fields in either object.
-/

namespace FeedArchive

open Json

/-! ## Members in another order -/

namespace Json

variable {names : List String} {allowed : Value → Prop} {v v' : Value}
  {fields fields' more : Fields}

/-- An object with its members in another order, others among them that have no name of a field and
values that are allowed. -/
inductive Rearranged (names : List String) (allowed : Value → Prop) : Value → Value → Prop
  | same (v : Value) : Rearranged names allowed v v
  | object {members members' more : Fields} (h : members'.Perm (members ++ more))
      (hmore : ∀ m ∈ more, m.1 ∉ names ∧ allowed m.2) :
      Rearranged names allowed (.object members) (.object members')

namespace Fields

/-- The same values are found under the names. -/
def Agree (names : List String) (fields fields' : Fields) : Prop :=
  ∀ name ∈ names, fields'.lookup name = fields.lookup name

/-- Members that agree on a name are read alike under it. -/
theorem Agree.get? {α : Type} (h : Agree names fields fields') (name : String)
    (hname : name ∈ names) (read : Value → Option α) :
    fields'.get? name read = fields.get? name read := by
  rw [Fields.get?, Fields.get?, h name hname]

/-- Members that agree on a name are read alike under it where the name may be missing. -/
theorem Agree.getOrNull? {α : Type} (h : Agree names fields fields') (name : String)
    (hname : name ∈ names) (read : Value → Option α) :
    fields'.getOrNull? name read = fields.getOrNull? name read := by
  rw [Fields.getOrNull?, Fields.getOrNull?, h name hname]

/-- Members under other names have no part in how often a name comes. -/
theorem countP_of_perm {name : String} (h : fields'.Perm (fields ++ more))
    (hmore : ∀ m ∈ more, m.1 ≠ name) :
    fields'.countP (·.1 == name) = fields.countP (·.1 == name) := by
  have hnone : more.countP (·.1 == name) = 0 :=
    List.countP_eq_zero.mpr fun m hm => by simpa using hmore m hm
  rw [h.countP_eq, List.countP_append, hnone, Nat.add_zero]

/-- Order and other names play no part in whether the names come at most once. -/
theorem areDistinct_of_perm (h : fields'.Perm (fields ++ more)) (hmore : ∀ m ∈ more, m.1 ∉ names) :
    areDistinct names fields' = areDistinct names fields := by
  rw [areDistinct, areDistinct, Bool.eq_iff_iff, List.all_eq_true, List.all_eq_true]
  refine forall₂_congr fun name hname => ?_
  have hne : ∀ m ∈ more, m.1 ≠ name := by
    rintro m hm rfl
    exact hmore m hm hname
  rw [countP_of_perm h hne]

/-- Members that come at most once are the same in any order and beside members with other names. -/
theorem agree_of_perm (h : fields'.Perm (fields ++ more)) (hmore : ∀ m ∈ more, m.1 ∉ names)
    (hdistinct : areDistinct names fields = true) : Agree names fields fields' := by
  intro name hname
  refine lookup_eq_of_perm h ?_ ?_
  · intro hmem
    obtain ⟨m, hm, rfl⟩ := List.mem_map.mp hmem
    exact hmore m hm hname
  · rw [areDistinct, List.all_eq_true] at hdistinct
    have honce := hdistinct name hname
    rw [decide_eq_true_eq] at honce
    rwa [List.count, List.countP_map]

end Fields

/-- Reading fields by their names gives the same for both values. -/
def SameFields (names : List String) (found found' : Option Fields) : Prop :=
  found = none ∧ found' = none ∨
    ∃ fields fields', found = some fields ∧ found' = some fields' ∧
      Fields.Agree names fields fields'

/-- What is found is the same as itself. -/
theorem SameFields.refl (names : List String) (found : Option Fields) :
    SameFields names found found := by
  cases found with
  | none => exact Or.inl ⟨rfl, rfl⟩
  | some fields => exact Or.inr ⟨fields, fields, rfl, rfl, fun _ _ => rfl⟩

/-- What is read from the fields by their names is the same then. -/
theorem SameFields.bind_eq {α : Type} {found found' : Option Fields} {f : Fields → Option α}
    (h : SameFields names found found')
    (hf : ∀ {fields fields' : Fields}, Fields.Agree names fields fields' → f fields' = f fields) :
    found'.bind f = found.bind f := by
  rcases h with ⟨rfl, rfl⟩ | ⟨fields, fields', rfl, rfl, hagree⟩
  · rfl
  · exact hf hagree

/-- The members of a rearranged object are the same, or are refused all the same. -/
theorem Rearranged.members? (h : Rearranged names allowed v v') :
    SameFields names (v.members? names) (v'.members? names) := by
  cases h with
  | same => exact .refl names _
  | @object members members' more h hmore =>
    have hnames := fun m hm => (hmore m hm).1
    rw [Value.members?, Value.members?, Fields.areDistinct_of_perm h hnames]
    -- a name that comes twice is refused in either object, so that else each comes once at most
    by_cases hdistinct : Fields.areDistinct names members = true
    · rw [if_pos hdistinct, if_pos hdistinct]
      exact Or.inr ⟨_, _, rfl, rfl, Fields.agree_of_perm h hnames hdistinct⟩
    · rw [if_neg hdistinct, if_neg hdistinct]
      exact .refl names none

/-- The fields of a rearranged object are the same, or are refused all the same. -/
theorem Rearranged.fields? (h : Rearranged names allowed v v') :
    SameFields names (v.fields? names) (v'.fields? names) := by
  cases h with
  | same => exact .refl names _
  | object h hmore => exact (Rearranged.object h hmore).members?

/-! ## Values that are set aside -/

/-- Members can be set aside if each of them can. -/
theorem membersAreWhole_eq_all (depth : Nat) (members : Fields) :
    membersAreWhole depth members = members.all fun m => m.2.isWhole depth := by
  induction members with
  | nil => rfl
  | cons m members ih => rw [membersAreWhole, List.all_cons, ih]

/-- Whether a value can be set aside does not depend on the order of its members, nor on others
that can be set aside. -/
theorem Rearranged.isWhole_eq {depth : Nat}
    (h : Rearranged names (fun v => v.isWhole depth = true) v v') :
    v'.isWhole (depth + 1) = v.isWhole (depth + 1) := by
  cases h with
  | same => rfl
  | @object members members' more h hmore =>
    have hwhole : (more.all fun m => m.2.isWhole depth) = true :=
      List.all_eq_true.mpr fun m hm => (hmore m hm).2
    have hall : (members'.all fun m => m.2.isWhole depth)
        = members.all fun m => m.2.isWhole depth := by
      rw [h.all_eq, List.all_append, hwhole, Bool.and_true]
    simp only [Value.isWhole, Nat.add_sub_cancel, membersAreWhole_eq_all, hall]

end Json

/-! ## Records from rearranged objects -/

section

variable {names : List String} {allowed : Value → Prop} {v v' : Value} {fields fields' : Fields}

/-- An article is read from its own fields only. -/
theorem Article.ofFields?_eq (hnames : ∀ name ∈ Article.fieldNames, name ∈ names)
    (h : Fields.Agree names fields fields') :
    Article.ofFields? fields' = Article.ofFields? fields := by
  simp only [Article.ofFields?, h.get? "id" (hnames _ (by decide)),
    h.get? "source_id" (hnames _ (by decide)), h.get? "title" (hnames _ (by decide)),
    h.get? "url" (hnames _ (by decide)), h.get? "summary" (hnames _ (by decide)),
    h.get? "published_at" (hnames _ (by decide)), h.get? "created_at" (hnames _ (by decide))]

/-- A rearranged article is read alike. -/
theorem Article.ofJson?_eq (h : Rearranged Article.fieldNames allowed v v') :
    Article.ofJson? v' = Article.ofJson? v :=
  h.fields?.bind_eq (Article.ofFields?_eq fun _ hname => hname)

/-- Articles in a list, each of them rearranged, are read alike. -/
theorem Article.listOfJson?_eq {items items' : List Value}
    (h : List.Forall₂ (Rearranged Article.fieldNames allowed) items items') :
    Article.listOfJson? (.list items') = Article.listOfJson? (.list items) := by
  rw [Article.listOfJson?, Article.listOfJson?]
  induction h with
  | nil => rfl
  | cons hv _ ih => rw [List.mapM_cons, List.mapM_cons, Article.ofJson?_eq hv, ih]

/-- A rearranged article with the name of its source is read alike, as long as the other members can
be set aside. -/
theorem ArticleWithSource.ofJson?_eq
    (h : Rearranged ("source_name" :: Article.fieldNames) (fun v => v.isWhole 126 = true) v v') :
    ArticleWithSource.ofJson? v' = ArticleWithSource.ofJson? v := by
  rw [ArticleWithSource.ofJson?, ArticleWithSource.ofJson?, h.isWhole_eq]
  refine congrArg _ (funext fun _ => h.members?.bind_eq fun hagree => ?_)
  simp only [Article.ofFields?_eq (fun _ => List.mem_cons_of_mem _) hagree,
    hagree.get? "source_name" List.mem_cons_self]

/-- A member that cannot be set aside, whatever its name, is in no article with its source. -/
theorem ArticleWithSource.ofJson?_eq_none {m : String × Value} (hm : m ∈ fields)
    (h : m.2.isWhole 126 = false) : ArticleWithSource.ofJson? (.object fields) = none := by
  have hwhole : (Value.object fields).isWhole 127 = false := by
    rw [Value.isWhole, membersAreWhole_eq_all, Bool.and_eq_false_iff]
    refine Or.inr (List.all_eq_false.mpr ⟨m, hm, ?_⟩)
    rw [h]
    decide
  rw [ArticleWithSource.ofJson?, hwhole]
  rfl

/-- A rearranged article to be stored is read alike. -/
theorem NewArticle.ofJson?_eq (h : Rearranged NewArticle.fieldNames allowed v v') :
    NewArticle.ofJson? v' = NewArticle.ofJson? v := by
  refine h.fields?.bind_eq fun hagree => ?_
  simp only [hagree.get? "source_id" (by decide), hagree.get? "title" (by decide),
    hagree.get? "url" (by decide), hagree.get? "summary" (by decide),
    hagree.get? "published_at" (by decide)]

/-- A rearranged source is read alike. -/
theorem Source.ofJson?_eq (h : Rearranged Source.fieldNames allowed v v') :
    Source.ofJson? v' = Source.ofJson? v := by
  refine h.fields?.bind_eq fun hagree => ?_
  simp only [hagree.get? "id" (by decide), hagree.get? "name" (by decide),
    hagree.get? "feed_url" (by decide), hagree.get? "source_type" (by decide),
    hagree.get? "active" (by decide), hagree.getOrNull? "last_crawled_at" (by decide)]

/-- A rearranged source to be stored is read alike. -/
theorem NewSource.ofJson?_eq (h : Rearranged NewSource.fieldNames allowed v v') :
    NewSource.ofJson? v' = NewSource.ofJson? v := by
  refine h.fields?.bind_eq fun hagree => ?_
  simp only [hagree.get? "name" (by decide), hagree.get? "feed_url" (by decide),
    hagree.get? "source_type" (by decide), hagree.get? "active" (by decide)]

end

end FeedArchive
