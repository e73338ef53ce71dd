import FeedArchive.Proofs.Time.Order
import FeedArchive.Search.Entity
import Mathlib.Data.List.Nodup

/-!
# The order of results

`Precedes` says in which order the records of an entity stand in results, and `Arranged` that a
list holds the same records as another one in this order, those that tie as in the other one.
Sorting arranges (`arranged_mergeSort`), and there is only one way to arrange records
(`Arranged.eq`). Where no two records have the same identifier there is only one way to put them in
order at all (`eq_of_perm_of_ordered`).
-/

namespace FeedArchive.Entity

/-- What the order of results looks at. -/
abbrev Key : Entity → Type
  | .article => Instant × Int
  | .source => Int

instance (e : Entity) : DecidableEq e.Key :=
  match e with
  | .article => inferInstanceAs (DecidableEq (Instant × Int))
  | .source => inferInstanceAs (DecidableEq Int)

/-- The key of a record. -/
def key : (e : Entity) → e.Record → e.Key
  | .article, a => (Article.publishedAt a, Article.id a)
  | .source, s => Source.id s

/-- The identifier of a record. -/
def id : (e : Entity) → e.Record → Int
  | .article => Article.id
  | .source => Source.id

/-- Articles stand from the latest to the earliest, and those published at the same time by
descending identifier; sources stand by ascending identifier. -/
def Precedes : (e : Entity) → e.Record → e.Record → Prop
  | .article, a, b =>
    (Article.publishedAt b).le (Article.publishedAt a) = true ∧
      (Article.publishedAt a = Article.publishedAt b → Article.id b ≤ Article.id a)
  | .source, s, t => Source.id s ≤ Source.id t

/-- The stored records in the order of results; those with the same key stand as they are
stored. -/
structure Arranged (e : Entity) (stored found : List e.Record) : Prop where
  perm : found.Perm stored
  ordered : found.Pairwise e.Precedes
  ties : ∀ k : e.Key, found.filter (e.key · = k) = stored.filter (e.key · = k)

variable {e : Entity} {a b c : e.Record}

/-! ## The comparison -/

/-- Records compare as the order of results says. -/
theorem compare_isLE_iff : (e.compare a b).isLE = true ↔ e.Precedes a b := by
  cases e with
  | article =>
    show (Article.compare a b).isLE = true ↔ _
    rw [Article.compare, Ordering.isLE_then_iff_and, Instant.compare_isLE, Int.isLE_compare]
    refine and_congr_right fun hle => ?_
    constructor
    · rintro (hlt | hid) heq
      · have heq' : Instant.compare (Article.publishedAt b) (Article.publishedAt a) = .eq :=
          Instant.compare_eq_eq.mpr heq.symm
        rw [heq'] at hlt
        cases hlt
      · exact hid
    · intro hid
      cases hcmp : Instant.compare (Article.publishedAt b) (Article.publishedAt a) with
      | lt => exact Or.inl rfl
      | eq => exact Or.inr (hid (Instant.compare_eq_eq.mp hcmp).symm)
      | gt =>
        rw [← Instant.compare_isLE, hcmp] at hle
        cases hle
  | source => exact Int.isLE_compare

/-- What comes before a record comes before those that the record comes before. -/
theorem Precedes.trans (hab : e.Precedes a b) (hbc : e.Precedes b c) : e.Precedes a c := by
  cases e with
  | article =>
    refine ⟨Instant.le_trans hbc.1 hab.1, fun heq => ?_⟩
    -- between two that are published at the same time there is no other time
    have hmid : Article.publishedAt a = Article.publishedAt b :=
      Instant.le_antisymm (by rw [heq]; exact hbc.1) hab.1
    exact Int.le_trans (hbc.2 (hmid.symm.trans heq)) (hab.2 hmid)
  | source => exact Int.le_trans hab hbc

/-- Of two records one comes before the other. -/
theorem precedes_total (a b : e.Record) : e.Precedes a b ∨ e.Precedes b a := by
  cases e with
  | article =>
    by_cases heq : Article.publishedAt a = Article.publishedAt b
    · have hle : (Article.publishedAt b).le (Article.publishedAt a) = true := by
        rw [heq]
        exact Instant.le_refl _
      rcases Int.le_total (Article.id b) (Article.id a) with h | h
      · exact Or.inl ⟨hle, fun _ => h⟩
      · exact Or.inr ⟨heq ▸ hle, fun _ => h⟩
    · rcases Instant.le_total (Article.publishedAt b) (Article.publishedAt a) with h | h
      · exact Or.inl ⟨h, fun h' => absurd h' heq⟩
      · exact Or.inr ⟨h, fun h' => absurd h'.symm heq⟩
  | source => exact Int.le_total _ _

/-- Records with the same key precede each other. -/
theorem precedes_of_key_eq (h : e.key a = e.key b) : e.Precedes a b := by
  cases e with
  | article =>
    obtain ⟨htime, hid⟩ := Prod.ext_iff.mp h
    simp only [key] at htime hid
    refine ⟨?_, fun _ => Int.le_of_eq hid.symm⟩
    rw [htime]
    exact Instant.le_refl _
  | source => exact Int.le_of_eq h

/-- Records that precede each other have the same key. -/
theorem Precedes.key_eq (hab : e.Precedes a b) (hba : e.Precedes b a) : e.key a = e.key b := by
  cases e with
  | article =>
    have htime := Instant.le_antisymm hba.1 hab.1
    exact Prod.ext htime (Int.le_antisymm (hba.2 htime.symm) (hab.2 htime))
  | source => exact Int.le_antisymm hab hba

/-- Records that precede each other have the same identifier. -/
theorem Precedes.id_eq (hab : e.Precedes a b) (hba : e.Precedes b a) : e.id a = e.id b := by
  have hkey := hab.key_eq hba
  cases e with
  | article => exact congrArg Prod.snd hkey
  | source => exact hkey

/-! ## Sorting -/

/-- Sorting by the comparison arranges. -/
theorem arranged_mergeSort (stored : List e.Record) :
    e.Arranged stored (stored.mergeSort fun a b => (e.compare a b).isLE) := by
  have htrans : ∀ a b c : e.Record, (e.compare a b).isLE = true → (e.compare b c).isLE = true →
      (e.compare a c).isLE = true := by
    simp only [compare_isLE_iff]
    exact fun _ _ _ => Precedes.trans
  have htotal : ∀ a b : e.Record, ((e.compare a b).isLE || (e.compare b a).isLE) = true := by
    simp only [Bool.or_eq_true, compare_isLE_iff]
    exact precedes_total
  have hperm := List.mergeSort_perm stored fun a b => (e.compare a b).isLE
  refine ⟨hperm, ?_, fun k => ?_⟩
  · exact (List.pairwise_mergeSort htrans htotal stored).imp compare_isLE_iff.mp
  · -- records of one key are in order however they stand, so that sorting leaves them
    have hties : (stored.filter (e.key · = k)).Pairwise fun a b => (e.compare a b).isLE := by
      refine List.pairwise_iff_forall_sublist.mpr fun {a b} hab => ?_
      have ha := List.mem_filter.mp (hab.subset List.mem_cons_self)
      have hb := List.mem_filter.mp (hab.subset (List.mem_cons_of_mem a List.mem_cons_self))
      simp only [decide_eq_true_eq] at ha hb
      exact compare_isLE_iff.mpr (precedes_of_key_eq (ha.2.trans hb.2.symm))
    have hsub := (List.sublist_mergeSort htrans htotal hties List.filter_sublist).filter
      (e.key · = k)
    rw [List.filter_filter] at hsub
    simp only [Bool.and_self] at hsub
    exact (hsub.eq_of_length (hperm.filter _).length_eq.symm).symm

/-! ## There is only one arrangement -/

/-- Records in order are told apart by nothing but the order of those that tie. -/
theorem eq_of_ordered_of_ties {xs ys : List e.Record} (hperm : xs.Perm ys)
    (hxs : xs.Pairwise e.Precedes) (hys : ys.Pairwise e.Precedes)
    (hties : ∀ k : e.Key, xs.filter (e.key · = k) = ys.filter (e.key · = k)) : xs = ys := by
  induction xs generalizing ys with
  | nil => exact hperm.nil_eq
  | cons a xs ih =>
    cases ys with
    | nil => exact hperm.eq_nil
    | cons b ys =>
      obtain ⟨hafter, hxs'⟩ := List.pairwise_cons.mp hxs
      obtain ⟨hafter', hys'⟩ := List.pairwise_cons.mp hys
      -- the two that stand first precede each other, so that they tie
      have hkey : e.key b = e.key a := by
        rcases List.mem_cons.mp (hperm.subset List.mem_cons_self) with rfl | ha
        · rfl
        rcases List.mem_cons.mp (hperm.symm.subset List.mem_cons_self) with rfl | hb
        · rfl
        exact (hafter' a ha).key_eq (hafter b hb)
      have hfirst := hties (e.key a)
      rw [List.filter_cons_of_pos (by simp),
        List.filter_cons_of_pos (by simpa using hkey)] at hfirst
      obtain rfl := (List.cons.inj hfirst).1
      refine congrArg (a :: ·) (ih hperm.cons_inv hxs' hys' fun k => ?_)
      have htie := hties k
      by_cases hk : e.key a = k
      · rw [List.filter_cons_of_pos (by simpa using hk),
          List.filter_cons_of_pos (by simpa using hk)] at htie
        exact (List.cons.inj htie).2
      · rwa [List.filter_cons_of_neg (by simpa using hk),
          List.filter_cons_of_neg (by simpa using hk)] at htie

/-- Records are arranged in one way only. -/
theorem Arranged.eq {stored xs ys : List e.Record} (hx : e.Arranged stored xs)
    (hy : e.Arranged stored ys) : xs = ys := by
  refine eq_of_ordered_of_ties (hx.perm.trans hy.perm.symm) hx.ordered hy.ordered fun k => ?_
  rw [hx.ties, hy.ties]

/-- What is left of an arrangement when records are left out is an arrangement. -/
theorem Arranged.filter {stored found : List e.Record} (h : e.Arranged stored found)
    (p : e.Record → Bool) : e.Arranged (stored.filter p) (found.filter p) := by
  refine ⟨h.perm.filter p, h.ordered.filter p, fun k => ?_⟩
  rw [List.filter_comm, h.ties, List.filter_comm]

/-- Where identifiers are pairwise distinct, the order of results leaves no choice. -/
theorem eq_of_perm_of_ordered {xs ys : List e.Record} (hid : (ys.map e.id).Nodup)
    (hperm : xs.Perm ys) (hxs : xs.Pairwise e.Precedes) (hys : ys.Pairwise e.Precedes) :
    xs = ys := by
  refine hperm.eq_of_pairwise ?_ hxs hys
  intro a b ha hb hab hba
  exact List.inj_on_of_nodup_map hid (hperm.subset ha) hb (hab.id_eq hba)

end FeedArchive.Entity
