import FeedArchive.Time.Instant

/-!
# Instants in order

Not being later is a linear order on instants, and `Instant.compare` decides it.
-/

namespace FeedArchive.Instant

variable {a b c : Instant}

/-- Instants are ordered by their seconds, and within a second by their nanoseconds. -/
theorem le_iff : a.le b = true ↔ a.second < b.second ∨ (a.second = b.second ∧ a.nano ≤ b.nano) := by
  simp [le]

theorem ext_iff : a = b ↔ a.second = b.second ∧ a.nano = b.nano := by
  cases a
  cases b
  simp

theorem le_refl (a : Instant) : a.le a = true :=
  le_iff.mpr (Or.inr ⟨rfl, Nat.le_refl _⟩)

theorem le_trans (hab : a.le b = true) (hbc : b.le c = true) : a.le c = true := by
  rw [le_iff] at *
  omega

theorem le_total (a b : Instant) : a.le b = true ∨ b.le a = true := by
  rw [le_iff, le_iff]
  omega

theorem le_antisymm (hab : a.le b = true) (hba : b.le a = true) : a = b := by
  rw [le_iff] at hab hba
  rw [ext_iff]
  omega

/-- Comparing two instants finds them in order if the first is not later. -/
theorem compare_isLE : (compare a b).isLE = a.le b := by
  rw [Bool.eq_iff_iff, le_iff, compare, Ordering.isLE_then_iff_or, Int.compare_eq_lt,
    Int.compare_eq_eq, Nat.isLE_compare]

/-- The other way round the order is the other way round. -/
theorem compare_swap : (compare a b).swap = compare b a := by
  rw [compare, compare, Ordering.swap_then, Int.compare_swap, Nat.compare_swap]

/-- Comparing two instants finds them the other way round if the second is not later. -/
theorem compare_isGE : (compare a b).isGE = b.le a := by
  rw [← compare_swap, Ordering.isGE_swap, compare_isLE]

theorem compare_eq_eq : compare a b = .eq ↔ a = b := by
  rw [compare, Ordering.then_eq_eq, Int.compare_eq_eq, Nat.compare_eq_eq, ext_iff]

end FeedArchive.Instant
