import FeedArchive.Proofs.Text.Decimal
import FeedArchive.Text.Blank

/-!
# Reading integers

`Natural` and `Whole` are the grammars of integers: digits, perhaps behind a `+`, and for `Whole`
also behind a `-`. The readers of integers of 64 bits accept exactly these texts, as long as the
value is in their range (`readNat64_eq_some_iff` and `readInt64_eq_some_iff`).
-/

namespace FeedArchive.Decimal

/-- One or more digits. -/
structure IsDigits (ds : List Char) : Prop where
  ne_nil : ds ≠ []
  digit : ∀ c ∈ ds, c.isDigit = true

/-- Digits with the value `n`, perhaps behind a `+`. -/
inductive Natural : List Char → Nat → Prop
  | digits {ds : List Char} (h : IsDigits ds) : Natural ds (value ds)
  | plus {ds : List Char} (h : IsDigits ds) : Natural ('+' :: ds) (value ds)

/-- Digits, perhaps behind a sign, with the value `n`. -/
inductive Whole : List Char → Int → Prop
  | natural {cs : List Char} {n : Nat} (h : Natural cs n) : Whole cs n
  | minus {ds : List Char} (h : IsDigits ds) : Whole ('-' :: ds) (-(value ds : Int))

variable {cs ds : List Char}

/-! ## What is read -/

/-- Digits are read as their value, and nothing else is read. -/
theorem digitsOnly?_eq_some_iff {n : Nat} :
    digitsOnly? cs = some n ↔ IsDigits cs ∧ value cs = n := by
  rw [digitsOnly?]
  constructor
  · intro h
    split at h
    · cases h
    · rename_i hdigits
      simp only [Bool.or_eq_true, List.isEmpty_iff, Bool.not_eq_true', not_or,
        Bool.not_eq_false, List.all_eq_true] at hdigits
      exact ⟨⟨hdigits.1, hdigits.2⟩, Option.some.inj h⟩
  · rintro ⟨h, rfl⟩
    rw [if_neg]
    simp only [Bool.or_eq_true, List.isEmpty_iff, Bool.not_eq_true', not_or, Bool.not_eq_false,
      List.all_eq_true]
    exact ⟨h.ne_nil, h.digit⟩

/-- What consists of digits does not begin with a sign. -/
theorem IsDigits.not_sign {c : Char} (h : IsDigits (c :: ds)) : c ≠ '+' ∧ c ≠ '-' := by
  have hc := h.digit c (by simp)
  constructor <;> (rintro rfl; simp at hc)

/-- Reading an integer without a minus sign finds the value of its digits. -/
theorem readNat64_eq_some_iff {n : Nat} : readNat64 cs = some n ↔ Natural cs n ∧ n < 2 ^ 64 := by
  have hrange : decide (n ≤ maxNat64) = true ↔ n < 2 ^ 64 := by
    rw [decide_eq_true_eq, maxNat64]
    omega
  simp only [readNat64, Option.filter_eq_some_iff, hrange]
  refine and_congr_left fun _ => ?_
  constructor
  · intro h
    split at h
    · obtain ⟨hds, rfl⟩ := digitsOnly?_eq_some_iff.mp h
      exact .plus hds
    · obtain ⟨hds, rfl⟩ := digitsOnly?_eq_some_iff.mp h
      exact .digits hds
  · intro h
    cases h with
    | plus hds => exact digitsOnly?_eq_some_iff.mpr ⟨hds, rfl⟩
    | digits hds =>
      split
      · exact absurd rfl hds.not_sign.1
      · exact digitsOnly?_eq_some_iff.mpr ⟨hds, rfl⟩

/-- Reading an integer finds the value of its digits with its sign. -/
theorem readInt64_eq_some_iff {n : Int} :
    readInt64 cs = some n ↔ Whole cs n ∧ -2 ^ 63 ≤ n ∧ n < 2 ^ 63 := by
  have hrange : inInt64 n = true ↔ -2 ^ 63 ≤ n ∧ n < 2 ^ 63 := by
    rw [inInt64, Bool.and_eq_true, decide_eq_true_eq, decide_eq_true_eq, minInt64, maxInt64]
    omega
  simp only [readInt64, Option.filter_eq_some_iff, hrange]
  refine and_congr_left fun _ => ?_
  constructor
  · intro h
    split at h
    · obtain ⟨m, hm, rfl⟩ := Option.map_eq_some_iff.mp h
      obtain ⟨k, hk, hkm⟩ := Option.bind_eq_some_iff.mp hm
      obtain ⟨hds, rfl⟩ := digitsOnly?_eq_some_iff.mp hk
      rw [← Option.some.inj hkm]
      exact .minus hds
    · obtain ⟨m, hm, rfl⟩ := Option.map_eq_some_iff.mp h
      obtain ⟨hds, rfl⟩ := digitsOnly?_eq_some_iff.mp hm
      exact .natural (.plus hds)
    · obtain ⟨m, hm, rfl⟩ := Option.map_eq_some_iff.mp h
      obtain ⟨hds, rfl⟩ := digitsOnly?_eq_some_iff.mp hm
      exact .natural (.digits hds)
  · have hread : ∀ {ds : List Char}, IsDigits ds → digitsOnly? ds = some (value ds) :=
      fun hds => digitsOnly?_eq_some_iff.mpr ⟨hds, rfl⟩
    intro h
    cases h with
    | minus hds => simp only [hread hds, Option.bind_eq_bind, Option.bind_some, Option.map_some,
        Option.pure_def]
    | natural h =>
      cases h with
      | plus hds => simp only [hread hds, Option.map_some, Int.ofNat_eq_natCast]
      | digits hds =>
        split
        · exact absurd rfl hds.not_sign.2
        · exact absurd rfl hds.not_sign.1
        · simp only [hread hds, Option.map_some, Int.ofNat_eq_natCast]

/-! ## What integers consist of -/

/-- A numeral is not empty. -/
theorem Whole.ne_nil {n : Int} (h : Whole cs n) : cs ≠ [] := by
  cases h with
  | minus => exact List.cons_ne_nil _ _
  | natural h =>
    cases h with
    | plus => exact List.cons_ne_nil _ _
    | digits hds => exact hds.ne_nil

/-- There are only digits and signs in an integer. -/
theorem Whole.mem {n : Int} (h : Whole cs n) :
    ∀ c ∈ cs, c.isDigit = true ∨ c = '+' ∨ c = '-' := by
  intro c hc
  cases h with
  | minus hds =>
    rcases List.mem_cons.mp hc with rfl | hc
    · exact Or.inr (Or.inr rfl)
    · exact Or.inl (hds.digit c hc)
  | natural h =>
    cases h with
    | plus hds =>
      rcases List.mem_cons.mp hc with rfl | hc
      · exact Or.inr (Or.inl rfl)
      · exact Or.inl (hds.digit c hc)
    | digits hds => exact Or.inl (hds.digit c hc)

/-- A digit is no white space. -/
theorem isBlank_of_isDigit {c : Char} (h : c.isDigit = true) : Text.isBlank c = false := by
  have hrange := Char.isDigit_iff_toNat.mp h
  simp only [Char.reduceToNat] at hrange
  rw [Bool.eq_false_iff]
  simp only [Text.isBlank, ne_eq, Bool.or_eq_true, Bool.and_eq_true, decide_eq_true_eq,
    beq_iff_eq]
  omega

/-- There is no white space in an integer. -/
theorem Whole.not_blank {n : Int} (h : Whole cs n) : ∀ c ∈ cs, Text.isBlank c = false := by
  intro c hc
  rcases h.mem c hc with hdigit | rfl | rfl
  · exact isBlank_of_isDigit hdigit
  · decide
  · decide

/-- Digits without a sign have one value only. -/
theorem Whole.eq_value {y : Int} (h : Whole ds y) (hds : IsDigits ds) : y = value ds := by
  cases h with
  | minus => exact absurd rfl hds.not_sign.2
  | natural h =>
    cases h with
    | plus => exact absurd rfl hds.not_sign.1
    | digits => rfl

/-! ## What is written -/

/-- A numeral of fixed width above zero is a run of digits. -/
theorem isDigits_fixed (width n : Nat) (hwidth : 0 < width) :
    IsDigits (fixed width n) := by
  refine ⟨List.ne_nil_of_length_pos ?_, isDigit_of_mem_fixed width n⟩
  rwa [length_fixed]

/-- The numeral of a number is a run of digits. -/
theorem isDigits_numeral (n : Nat) : IsDigits (numeral n) :=
  ⟨numeral_ne_nil n, isDigit_of_mem_numeral n⟩

/-- A numeral with zeros in front consists of digits, and they have its value. -/
theorem isDigits_leading_zeros (k n : Nat) :
    IsDigits (List.replicate k '0' ++ numeral n) ∧
      value (List.replicate k '0' ++ numeral n) = n := by
  refine ⟨⟨List.append_ne_nil_of_right_ne_nil _ (numeral_ne_nil n), fun c hc => ?_⟩, ?_⟩
  · rcases List.mem_append.mp hc with hc | hc
    · rw [List.eq_of_mem_replicate hc]
      decide
    · exact isDigit_of_mem_numeral n c hc
  · rw [value_leading_zeros, value_numeral]

/-- What is written for an integer is in the grammar, with the integer as its value. -/
theorem whole_signed (n : Int) : Whole (signed n) n := by
  cases n with
  | ofNat n =>
    have h := Whole.natural (.digits (isDigits_numeral n))
    rwa [value_numeral] at h
  | negSucc n =>
    have h := Whole.minus (isDigits_numeral (n + 1))
    rwa [value_numeral] at h

end FeedArchive.Decimal
