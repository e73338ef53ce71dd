import FeedArchive.Record
import Mathlib.Data.List.Nodup
import Mathlib.Data.List.Perm.Basic

/-!
# Lists without repetitions, and looking up

Leaving out repetitions keeps the first appearance of each member: `FirstAppearances` says what this
means for the order of what is left, without reference to how it is found
(`firstAppearances_distinct`).

Columns of rows and members of objects are looked up by name. What is found hangs neither on their
order nor on others beside them, as long as the name does not come twice (`lookup_eq_of_perm`).
-/

namespace FeedArchive

/-! ## First appearances -/

section

variable {α β : Type} [BEq β]

/-- The keys of the first members for each key are the keys, each once. -/
theorem map_distinctBy (key : α → β) (as : List α) :
    (distinctBy key as).map key = distinct (as.map key) := by
  induction as with
  | nil => rfl
  | cons a as ih =>
    rw [distinctBy, List.map_cons, List.map_cons, distinct, distinctBy]
    refine congrArg (key a :: ·) ?_
    have hfilter : ((distinctBy key as).filter (key · != key a)).map key
        = ((distinctBy key as).map key).filter (· != key a) := by
      rw [List.filter_map]
      rfl
    rw [hfilter, ih]
    rfl

/-- The first member is kept, and those equal to it are left out. -/
theorem distinct_cons (b : β) (bs : List β) :
    distinct (b :: bs) = b :: (distinct bs).filter (· != b) := rfl

variable [LawfulBEq β]

/-- Members may be left out by their keys before or after the first one for each key is taken. -/
theorem distinctBy_filter (key : α → β) (p : β → Bool) (as : List α) :
    distinctBy key (as.filter fun a => p (key a))
      = (distinctBy key as).filter fun a => p (key a) := by
  induction as with
  | nil => rfl
  | cons a as ih =>
    by_cases ha : p (key a) = true
    · rw [List.filter_cons_of_pos (p := fun a => p (key a)) ha, distinctBy, distinctBy,
        List.filter_cons_of_pos (p := fun a => p (key a)) ha, ih]
      exact congrArg (a :: ·) (List.filter_comm ..)
    · rw [List.filter_cons_of_neg (p := fun a => p (key a)) ha, distinctBy,
        List.filter_cons_of_neg (p := fun a => p (key a)) ha, ih, List.filter_filter]
      -- what has the key of this member is left out by its key anyway
      refine List.filter_congr fun b _ => ?_
      by_cases hb : p (key b) = true
      · have hne : key b ≠ key a := fun heq => ha (heq ▸ hb)
        simp [hb, hne]
      · simp [hb]

/-- Nothing is left out if no two members have the same key. -/
theorem distinctBy_of_nodup {key : α → β} {as : List α} (h : (as.map key).Nodup) :
    distinctBy key as = as := by
  induction as with
  | nil => rfl
  | cons a as ih =>
    obtain ⟨hfirst, hothers⟩ := List.nodup_cons.mp h
    rw [distinctBy, ih hothers]
    refine congrArg (a :: ·) (List.filter_eq_self.mpr fun b hb => bne_iff_ne.mpr fun heq => ?_)
    exact hfirst (heq ▸ List.mem_map_of_mem hb)

/-- What comes last is kept if nothing before it has its key. -/
theorem distinctBy_concat (key : α → β) (as : List α) (a : α) :
    distinctBy key (as ++ [a])
      = if key a ∈ as.map key then distinctBy key as else distinctBy key as ++ [a] := by
  induction as with
  | nil => rfl
  | cons b as ih =>
    rw [List.cons_append, distinctBy, distinctBy, ih, List.map_cons]
    by_cases hrest : key a ∈ as.map key
    · rw [if_pos hrest, if_pos (List.mem_cons_of_mem _ hrest)]
    · rw [if_neg hrest, List.filter_append]
      by_cases hfirst : key a = key b
      · simp [hfirst]
      · simp [hfirst, hrest]

/-- Leaving out repetitions loses no member. -/
theorem mem_distinct {b : β} {bs : List β} : b ∈ distinct bs ↔ b ∈ bs := by
  induction bs with
  | nil => exact Iff.rfl
  | cons c bs ih =>
    rw [distinct_cons, List.mem_cons, List.mem_cons, List.mem_filter, ih, bne_iff_ne]
    by_cases h : b = c
    · simp [h]
    · simp [h]

/-- No repetition is left. -/
theorem nodup_distinct (bs : List β) : (distinct bs).Nodup := by
  induction bs with
  | nil => exact List.nodup_nil
  | cons b bs ih =>
    rw [distinct_cons]
    refine List.nodup_cons.mpr ⟨fun hb => ?_, ih.filter _⟩
    exact bne_iff_ne.mp (List.mem_filter.mp hb).2 rfl

/-- The members of a list, each once, in the order in which they first appear in it. -/
structure FirstAppearances (bs firsts : List β) : Prop where
  mem_iff : ∀ b, b ∈ firsts ↔ b ∈ bs
  ordered : firsts.Pairwise fun b c => bs.idxOf b < bs.idxOf c

/-- What is left are the first appearances, in order. -/
theorem firstAppearances_distinct (bs : List β) : FirstAppearances bs (distinct bs) := by
  refine ⟨fun _ => mem_distinct, ?_⟩
  induction bs with
  | nil => exact List.Pairwise.nil
  | cons b bs ih =>
    have hshift : ∀ c ∈ (distinct bs).filter (· != b), (b :: bs).idxOf c = bs.idxOf c + 1 := by
      intro c hc
      have hne : c ≠ b := bne_iff_ne.mp (List.mem_filter.mp hc).2
      exact List.idxOf_cons_ne bs hne.symm
    rw [distinct_cons, List.pairwise_cons]
    constructor
    · intro c hc
      rw [hshift c hc, List.idxOf_cons_self]
      exact Nat.succ_pos _
    · refine (ih.filter _).imp_of_mem fun hc hd hlt => ?_
      rw [hshift _ hc, hshift _ hd]
      exact Nat.succ_lt_succ hlt

end

/-! ## Looking up in rearranged lists -/

section

variable {α : Type} {l l' more : List (String × α)} {name : String}

/-- What is found under a name is the first that has it. -/
theorem lookup_eq_head?_filter (l : List (String × α)) (name : String) :
    l.lookup name = ((l.filter (·.1 == name)).head?).map (·.2) := by
  induction l with
  | nil => rfl
  | cons x l ih =>
    obtain ⟨other, a⟩ := x
    by_cases h : other = name
    · simp [h]
    · have hne : (name == other) = false := beq_eq_false_iff_ne.mpr (Ne.symm h)
      simp [List.lookup_cons, h, hne, ih]

/-- Other names and another order do not change what is found under a name that comes at most
once. -/
theorem lookup_eq_of_perm (h : l'.Perm (l ++ more)) (hmore : name ∉ more.map (·.1))
    (honce : (l.map (·.1)).count name ≤ 1) : l'.lookup name = l.lookup name := by
  have hnone : more.filter (·.1 == name) = [] := by
    rw [List.filter_eq_nil_iff]
    intro x hx hname
    exact hmore (List.mem_map.mpr ⟨x, hx, beq_iff_eq.mp hname⟩)
  have hperm : (l'.filter (·.1 == name)).Perm (l.filter (·.1 == name)) := by
    have := h.filter (·.1 == name)
    rwa [List.filter_append, hnone, List.append_nil] at this
  have hlength : (l.filter (·.1 == name)).length ≤ 1 := by
    rwa [← List.countP_eq_length_filter, ← Function.comp_def (· == name), ← List.countP_map]
  rw [lookup_eq_head?_filter, lookup_eq_head?_filter]
  -- a list of at most one member has one arrangement only
  generalize l.filter (·.1 == name) = found at hperm hlength
  rcases found with _ | ⟨x, _ | ⟨y, found⟩⟩
  · rw [hperm.eq_nil]
  · rw [List.perm_singleton.mp hperm]
  · simp at hlength

end

end FeedArchive
