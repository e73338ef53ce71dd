import FeedArchive.Proofs.Table.Session
import Mathlib.Algebra.BigOperators.Group.Finset.Piecewise
import Mathlib.Data.Fintype.Basic
import Mathlib.Logic.Relation

/-!
# Interleaved sessions

Sessions at a shared table, each with a program of its own. In one step some session gets an answer
to its next request; which session it is, is left open, and so is the answer as far as
`SharedTable.Serves` goes. `Sessions.Step.invariant` says what one step preserves, and
`Sessions.invariant_of_steps` what any sequence of steps does.
-/

namespace FeedArchive

open SharedTable

variable {ι α : Type}

/-- A shared table, and what is left of the program of each session. -/
structure Sessions (ι α : Type) where
  table : SharedTable ι
  programs : ι → Program α

namespace Sessions

/-- Programs at a table on which no transaction is open. -/
def start (rows : List Article) (programs : ι → Program α) : Sessions ι α :=
  ⟨⟨rows, fun _ => none⟩, programs⟩

variable [DecidableEq ι]

/-- One session gets an answer. -/
inductive Step (feed : ι → String → String) : Sessions ι α → Sessions ι α → Prop
  | answer {s : Sessions ι α} (i : ι) {r : Request} {next : r.Answer → Program α}
      {answer : r.Answer} {table : SharedTable ι} (hprogram : s.programs i = .ask r next)
      (hserves : Serves feed i s.table r answer table) :
      Step feed s ⟨table, Function.update s.programs i (next answer)⟩

/-- Any number of steps, of any sessions in any order. -/
abbrev Steps (feed : ι → String → String) : Sessions ι α → Sessions ι α → Prop :=
  Relation.ReflTransGen (Step feed)

variable [Fintype ι] {feed : ι → String → String} {own : ι → NewArticle → Prop}
  {Q : ι → α → Counted ι → Prop} {initial : List Article}

/-- What stays true of sessions that hold to their terms, where there have been some rows in the
beginning: no row is lost, each new row is counted once and is from an article of some session, and
each session goes on to hold to its terms. -/
structure Invariant (feed : ι → String → String) (own : ι → NewArticle → Prop)
    (Q : ι → α → Counted ι → Prop) (initial : List Article) (s : Sessions ι α) : Prop where
  consistent : s.table.Consistent
  grows : initial <+: s.table.rows
  origin : ∀ row ∈ s.table.rows, row ∈ initial ∨ ∃ i, own i row.toNew
  counted : ∃ added : ι → Nat, s.table.rows.length = initial.length + ∑ i, added i ∧
    ∀ i, (s.programs i).Holds (terms feed (own i) i) (Q i) ⟨s.table, added i⟩

/-- One step preserves the invariant. -/
theorem Step.invariant (hstable : ∀ i x, (terms feed (own i) i).Stable (Q i x)) {s t : Sessions ι α}
    (hstep : Step feed s t) (h : s.Invariant feed own Q initial) :
    t.Invariant feed own Q initial := by
  obtain ⟨i, hprogram, hserves⟩ := hstep
  obtain ⟨hconsistent, hgrows, horigin, added, hlength, hholds⟩ := h
  rename_i r next answer table
  have hi := hholds i
  rw [hprogram] at hi
  obtain ⟨hguarantee, hnext⟩ := hi ⟨s.table, added i⟩ ⟨hconsistent.rely, rfl⟩ answer
    ⟨table, added i + (table.rows.length - s.table.rows.length)⟩ ⟨hserves, rfl⟩
  refine ⟨hguarantee.consistent, hgrows.trans hguarantee.grows, ?_,
    Function.update added i (added i + (table.rows.length - s.table.rows.length)), ?_, ?_⟩
  · intro row hrow
    rcases hguarantee.own row hrow with hrow | hrow
    · exact horigin row hrow
    · exact Or.inr ⟨i, hrow⟩
  · -- only the count of the session that has moved goes up, by the rows that are new
    have hle : s.table.rows.length ≤ table.rows.length := hguarantee.grows.length_le
    have hsum : ∑ j, added j = added i + ∑ j ∈ Finset.univ \ {i}, added j := by
      rw [Finset.sdiff_singleton_eq_erase, Finset.add_sum_erase _ _ (Finset.mem_univ i)]
    rw [Finset.sum_update_of_mem (Finset.mem_univ i)]
    show table.rows.length = _
    omega
  · intro j
    by_cases hj : j = i
    · subst hj
      simp only [Function.update_self]
      exact hnext
    · simp only [Function.update_of_ne hj]
      -- to another session the step is something that it relies on
      exact (hholds j).of_rely (hstable j) rely_trans ⟨hguarantee.rely hj, rfl⟩

/-- Any number of steps preserve the invariant. -/
theorem invariant_of_steps (hstable : ∀ i x, (terms feed (own i) i).Stable (Q i x))
    {s t : Sessions ι α} (hsteps : Steps feed s t) (h : s.Invariant feed own Q initial) :
    t.Invariant feed own Q initial := by
  induction hsteps with
  | refl => exact h
  | tail _ hstep ih => exact hstep.invariant hstable ih

/-- The invariant is true in the beginning. -/
theorem invariant_start (hinitial : (urls initial).Nodup) {programs : ι → Program α}
    (h : ∀ i s, Knows i 0 none ∅ s → (programs i).Holds (terms feed (own i) i) (Q i) s) :
    (start initial programs).Invariant feed own Q initial := by
  refine ⟨Consistent.of_pending_none hinitial fun _ => rfl, List.prefix_refl _,
    fun row hrow => Or.inl hrow, fun _ => 0, ?_, fun i => ?_⟩
  · rw [Finset.sum_const_zero, Nat.add_zero]
    rfl
  · refine h i ⟨(start initial programs).table, 0⟩ ⟨rfl, rfl, fun u hu => ?_⟩
    exact absurd hu (Set.notMem_empty u)

end Sessions

end FeedArchive
