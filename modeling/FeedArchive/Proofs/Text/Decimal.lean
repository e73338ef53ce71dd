import FeedArchive.Text.Decimal
import Mathlib.Data.List.Basic
import Mathlib.Data.List.Induction
import Mathlib.Tactic.Ring

/-!
# Numerals

The numeral of a number consists of digits, is not empty, and has the number as its value. Any run
of digits is the numeral of its value in a fixed width (`fixed_value`), and its first digits have
the value of the run divided by a power of ten (`value_take`).
-/

namespace FeedArchive.Decimal

/-- What is written for a number below ten is a digit. -/
theorem isDigit_digit (n : Nat) : (digit n).isDigit = true := by
  have h : ∀ k < 10, (Char.ofNat ('0'.toNat + k)).isDigit = true := by decide
  exact h (n % 10) (Nat.mod_lt n (by decide))

/-- The digit that is written for a number has the value of its last digit. -/
theorem digitValue_digit (n : Nat) : digitValue (digit n) = n % 10 := by
  have h : ∀ k < 10, digitValue (Char.ofNat ('0'.toNat + k)) = k := by decide
  exact h (n % 10) (Nat.mod_lt n (by decide))

/-- A numeral has at least one digit. -/
theorem numeral_ne_nil (n : Nat) : numeral n ≠ [] := by
  rw [numeral]
  split <;> simp

/-- A numeral consists of digits. -/
theorem isDigit_of_mem_numeral (n : Nat) : ∀ c ∈ numeral n, c.isDigit = true := by
  induction n using numeral.induct with
  | case1 n hn =>
    rw [numeral, if_pos hn]
    simp [isDigit_digit]
  | case2 n hn ih =>
    rw [numeral, if_neg hn]
    intro c hc
    rcases List.mem_append.mp hc with hc | hc
    · exact ih c hc
    · rw [List.mem_singleton.mp hc]
      exact isDigit_digit n

/-- One more digit at the end makes the value ten times as large and adds its own. -/
theorem value_append_singleton (ds : List Char) (c : Char) :
    value (ds ++ [c]) = 10 * value ds + digitValue c := by
  rw [value, List.foldl_append]
  rfl

/-- The value of a numeral is its number. -/
theorem value_numeral (n : Nat) : value (numeral n) = n := by
  induction n using numeral.induct with
  | case1 n hn =>
    rw [numeral, if_pos hn, ← List.nil_append [digit n], value_append_singleton,
      digitValue_digit]
    simp only [value, List.foldl_nil]
    omega
  | case2 n hn ih =>
    rw [numeral, if_neg hn, value_append_singleton, ih, digitValue_digit]
    omega

/-! ## Runs of digits -/

/-- The value of a digit is below ten. -/
theorem digitValue_lt {c : Char} (h : c.isDigit = true) : digitValue c < 10 := by
  have hrange := Char.isDigit_iff_toNat.mp h
  simp only [Char.reduceToNat] at hrange
  simp only [digitValue, Char.reduceToNat]
  omega

/-- A digit is the one that is written for its value. -/
theorem digit_digitValue {c : Char} (h : c.isDigit = true) : digit (digitValue c) = c := by
  have hrange := Char.isDigit_iff_toNat.mp h
  simp only [Char.reduceToNat] at hrange
  have hsum : '0'.toNat + digitValue c % 10 = c.toNat := by
    simp only [digitValue, Char.reduceToNat]
    omega
  rw [digit, hsum, Char.ofNat_toNat]

/-- Digits in front count as many tens as there are digits behind them. -/
theorem value_append (ds es : List Char) :
    value (ds ++ es) = value ds * 10 ^ es.length + value es := by
  -- from the end, where the last digit is the one of the least weight
  induction es using List.reverseRecOn with
  | nil => simp [value]
  | append_singleton es c ih =>
    rw [← List.append_assoc, value_append_singleton, value_append_singleton, ih,
      List.length_append, List.length_singleton, Nat.pow_succ]
    ring

/-- The value of digits is below the power of ten with as many zeros. -/
theorem value_lt {ds : List Char} (h : ∀ c ∈ ds, c.isDigit = true) :
    value ds < 10 ^ ds.length := by
  induction ds using List.reverseRecOn with
  | nil => simp [value]
  | append_singleton ds c ih =>
    have hds := ih fun d hd => h d (by simp [hd])
    have hc := digitValue_lt (h c (by simp))
    rw [value_append_singleton, List.length_append, List.length_singleton, Nat.pow_succ]
    omega

/-! ## Numerals of a fixed width -/

/-- A numeral of fixed width has that width. -/
@[simp] theorem length_fixed (width n : Nat) : (fixed width n).length = width := by
  induction width generalizing n with
  | zero => rfl
  | succ width ih => rw [fixed, List.length_append, ih, List.length_singleton]

/-- A numeral of fixed width consists of digits. -/
theorem isDigit_of_mem_fixed (width n : Nat) : ∀ c ∈ fixed width n, c.isDigit = true := by
  induction width generalizing n with
  | zero => simp [fixed]
  | succ width ih =>
    intro c hc
    rw [fixed, List.mem_append] at hc
    rcases hc with hc | hc
    · exact ih _ c hc
    · rw [List.mem_singleton.mp hc]
      exact isDigit_digit n

/-- The last digits of a number are its remainder by a power of ten. -/
theorem value_fixed (width n : Nat) : value (fixed width n) = n % 10 ^ width := by
  induction width generalizing n with
  | zero => simp [fixed, value, Nat.mod_one]
  | succ width ih =>
    rw [fixed, value_append_singleton, ih, digitValue_digit, Nat.pow_succ, Nat.mul_comm _ 10,
      Nat.mod_mul]
    omega

/-- Digits are the last digits of their value. -/
theorem fixed_value {ds : List Char} (h : ∀ c ∈ ds, c.isDigit = true) :
    fixed ds.length (value ds) = ds := by
  induction ds using List.reverseRecOn with
  | nil => rfl
  | append_singleton ds c ih =>
    have hds : ∀ d ∈ ds, d.isDigit = true := fun d hd => h d (by simp [hd])
    have hc : c.isDigit = true := h c (by simp)
    have hlt := digitValue_lt hc
    have hfront : (10 * value ds + digitValue c) / 10 = value ds := by omega
    have hlast : digit (10 * value ds + digitValue c) = digit (digitValue c) := by
      rw [digit, digit, Nat.mul_add_mod]
    rw [List.length_append, List.length_singleton, fixed, value_append_singleton, hfront, ih hds,
      hlast, digit_digitValue hc]

/-! ## Parts of a run of digits -/

/-- Zeros alone have the value zero. -/
theorem value_replicate_zero (k : Nat) : value (List.replicate k '0') = 0 := by
  induction k with
  | zero => rfl
  | succ k ih =>
    rw [List.replicate_succ', value_append_singleton, ih]
    rfl

/-- Zeros in front do not change the value. -/
theorem value_leading_zeros (k : Nat) (ds : List Char) :
    value (List.replicate k '0' ++ ds) = value ds := by
  rw [value_append, value_replicate_zero, Nat.zero_mul, Nat.zero_add]

/-- The first `k` digits of a run have the value of the run without its last digits. -/
theorem value_take (k : Nat) {ds : List Char} (h : ∀ c ∈ ds, c.isDigit = true) :
    value (ds.take k) = value ds / 10 ^ (ds.length - k) := by
  have hlt : value (ds.drop k) < 10 ^ (ds.length - k) := by
    rw [← List.length_drop]
    exact value_lt fun c hc => h c (List.mem_of_mem_drop hc)
  have hsplit : value ds = value (ds.take k) * 10 ^ (ds.length - k) + value (ds.drop k) := by
    conv_lhs => rw [← List.take_append_drop k ds]
    rw [value_append, List.length_drop]
  rw [hsplit, Nat.add_comm, Nat.add_mul_div_right _ _ (Nat.pow_pos (by decide)),
    Nat.div_eq_of_lt hlt, Nat.zero_add]
end FeedArchive.Decimal
