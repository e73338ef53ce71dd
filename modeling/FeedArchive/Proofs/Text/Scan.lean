import FeedArchive.Proofs.Text.Decimal
import FeedArchive.Proofs.Text.Trimming
import FeedArchive.Text.Scan

/-!
# What scanners take

For each scanner, what stands at the front of a text exactly if the scanner takes a value and leaves
a given rest. The text that a composed scanner takes is put together from what its parts take
(`run_bind_eq_some_iff`).
-/

namespace FeedArchive.Scan

variable {α β : Type} {cs rest : List Char}

/-! ## One after the other -/

/-- Two scanners one after the other: the second one takes up what the first one has left. -/
theorem run_bind_eq_some_iff {x : Scan α} {f : α → Scan β} {b : β} :
    (x >>= f).run cs = some (b, rest) ↔
      ∃ a left, x.run cs = some (a, left) ∧ (f a).run left = some (b, rest) := by
  rw [StateT.run_bind, Option.bind_eq_bind, Option.bind_eq_some_iff, Prod.exists]

/-- What is made of a result does not change what is left. -/
theorem run_map_eq_some_iff {x : Scan α} {f : α → β} {b : β} :
    (f <$> x).run cs = some (b, rest) ↔ ∃ a, x.run cs = some (a, rest) ∧ f a = b := by
  rw [StateT.run_map, Option.map_eq_map, Option.map_eq_some_iff, Prod.exists]
  simp only [Prod.mk.injEq]
  constructor
  · rintro ⟨a, left, h, rfl, rfl⟩
    exact ⟨a, h, rfl⟩
  · rintro ⟨a, h, rfl⟩
    exact ⟨a, rest, h, rfl, rfl⟩

/-- A result that is there already leaves everything. -/
theorem run_pure_eq_some_iff {a b : α} :
    (pure a : Scan α).run cs = some (b, rest) ↔ a = b ∧ cs = rest := by
  rw [StateT.run_pure, Option.pure_def, Option.some.injEq, Prod.mk.injEq]

/-- A value taken and then put into another one. -/
theorem run_bind_pure_eq_some_iff {x : Scan α} {f : α → β} {b : β} :
    (x >>= fun a => pure (f a)).run cs = some (b, rest) ↔
      ∃ a, x.run cs = some (a, rest) ∧ f a = b := by
  simp only [run_bind_eq_some_iff, run_pure_eq_some_iff]
  constructor
  · rintro ⟨a, _, h, rfl, rfl⟩
    exact ⟨a, h, rfl⟩
  · rintro ⟨a, h, rfl⟩
    exact ⟨a, rest, h, rfl, rfl⟩

/-- Looking at what is left takes nothing. -/
theorem run_rest_bind {f : List Char → Scan α} (cs : List Char) :
    (Scan.rest >>= f).run cs = (f cs).run cs := rfl

/-- A whole text is scanned if nothing is left. -/
theorem whole_eq_some_iff {x : Scan α} {a : α} : whole x cs = some a ↔ x.run cs = some (a, []) := by
  rw [whole]
  constructor
  · intro h
    split at h
    · rename_i heq
      rw [heq, Option.some.inj h]
    · cases h
  · intro h
    rw [h]

/-- What may be missing and is there is scanned. -/
theorem run_optional_some {x : Scan α} {a : α} (h : x.run cs = some (a, rest)) :
    (optional x).run cs = some (some a, rest) := by
  simp only [optional, StateT.run] at h ⊢
  rw [h]

/-- What may be missing and is not there leaves everything. -/
theorem run_optional_none {x : Scan α} (h : x.run cs = none) :
    (optional x).run cs = some (none, cs) := by
  simp only [optional, StateT.run] at h ⊢
  rw [h]

/-! ## Characters -/

/-- Only the character itself is taken. -/
theorem run_char_eq_some_iff {c : Char} {u : Unit} :
    (char c).run cs = some (u, rest) ↔ cs = c :: rest := by
  cases cs with
  | nil => simp [char, StateT.run]
  | cons d cs =>
    by_cases h : d = c
    · simp [char, StateT.run, h]
    · simp [char, StateT.run, h]

/-- One character of a kind is taken. -/
theorem run_oneOf_eq_some_iff {p : Char → Bool} {c : Char} :
    (oneOf p).run cs = some (c, rest) ↔ cs = c :: rest ∧ p c = true := by
  cases cs with
  | nil => simp [oneOf, StateT.run]
  | cons d cs =>
    simp only [oneOf, StateT.run]
    constructor
    · intro h
      split at h
      · rename_i hd
        obtain ⟨rfl, rfl⟩ := Prod.mk.inj (Option.some.inj h)
        exact ⟨rfl, hd⟩
      · cases h
    · rintro ⟨h, hc⟩
      obtain ⟨rfl, rfl⟩ := List.cons.inj h
      rw [if_pos hc]

/-- Behind the longest run of a kind stands no character of the kind. -/
theorem head?_dropWhile (p : Char → Bool) (cs : List Char) :
    ∀ c ∈ (cs.dropWhile p).head?, p c = false := by
  intro c hc
  have hnot := List.head?_dropWhile_not p cs
  rw [Option.mem_def.mp hc] at hnot
  simpa using hnot

/-- White space is taken up to the first character that is none. -/
theorem run_blanks_eq_some_iff {u : Unit} :
    blanks.run cs = some (u, rest) ↔
      ∃ gap, cs = gap ++ rest ∧ (∀ c ∈ gap, Text.isBlank c = true) ∧
        ∀ c ∈ rest.head?, Text.isBlank c = false := by
  have hrun : blanks.run cs = some ((), Text.trimStart cs) := rfl
  rw [hrun, Option.some.injEq, Prod.mk.injEq, Text.trimStart]
  constructor
  · rintro ⟨-, rfl⟩
    exact ⟨cs.takeWhile Text.isBlank, List.takeWhile_append_dropWhile.symm,
      fun c hc => List.mem_takeWhile_imp hc, head?_dropWhile Text.isBlank cs⟩
  · rintro ⟨gap, rfl, hgap, hrest⟩
    exact ⟨rfl, Text.dropWhile_run hgap hrest⟩

/-! ## Digits -/

/-- A run of digits in front of `rest`, of at least `least` and at most `most` digits, that is as
long as it can be. -/
structure Run (least : Nat) (most : Option Nat) (ds rest : List Char) : Prop where
  digit : ∀ c ∈ ds, c.isDigit = true
  least_le : least ≤ ds.length
  le_most : ∀ k ∈ most, ds.length ≤ k
  stop : most = some ds.length ∨ ∀ c ∈ rest.head?, c.isDigit = false

variable {least : Nat} {most : Option Nat} {ds : List Char}

/-- A run of digits is taken as a whole if it is full or no digit follows. -/
theorem leadingDigits_append (h : Run least most ds rest) :
    leadingDigits most (ds ++ rest) = ds := by
  have hall : ds.takeWhile Char.isDigit = ds := List.takeWhile_eq_self_iff.mpr h.digit
  cases most with
  | none =>
    rcases h.stop with hstop | hstop
    · cases hstop
    · exact Text.takeWhile_run h.digit hstop
  | some k =>
    have hle : ds.length ≤ k := h.le_most k rfl
    rcases h.stop with hstop | hstop
    · rw [leadingDigits, Option.some.inj hstop, List.take_left, hall]
    · rw [leadingDigits, List.take_append, List.take_of_length_le hle]
      refine Text.takeWhile_run h.digit fun c hc => hstop c ?_
      cases rest with
      | nil => simp at hc
      | cons d rest =>
        cases hk : k - ds.length with
        | zero => simp [hk] at hc
        | succ j => simpa [hk] using hc

/-- The leading digits of a text are a run in front of the rest of it. -/
theorem exists_run_leadingDigits (most : Option Nat) (cs : List Char) :
    ∃ rest, cs = leadingDigits most cs ++ rest ∧
      Run (leadingDigits most cs).length most (leadingDigits most cs) rest := by
  cases most with
  | none =>
    refine ⟨cs.dropWhile Char.isDigit, List.takeWhile_append_dropWhile.symm, ?_⟩
    exact ⟨fun c hc => List.mem_takeWhile_imp hc, Nat.le_refl _, by simp,
      Or.inr (head?_dropWhile Char.isDigit cs)⟩
  | some k =>
    have hsplit := List.takeWhile_append_dropWhile (p := Char.isDigit) (l := cs.take k)
    refine ⟨(cs.take k).dropWhile Char.isDigit ++ cs.drop k, ?_, ?_⟩
    · rw [leadingDigits, ← List.append_assoc, hsplit, List.take_append_drop]
    refine ⟨fun c hc => List.mem_takeWhile_imp hc, Nat.le_refl _, ?_, ?_⟩
    · intro _ hk
      rw [Option.mem_some.mp hk.symm]
      exact Nat.le_trans (List.takeWhile_prefix _).length_le (List.length_take_le _ _)
    · -- the run ends because of a limit, or at a character, or at the end of the text
      by_cases hnil : (cs.take k).dropWhile Char.isDigit = []
      · rw [hnil, List.append_nil] at hsplit
        rw [leadingDigits, hsplit, hnil, List.nil_append, List.length_take]
        rcases Nat.le_total k cs.length with hk | hk
        · left
          rw [Nat.min_eq_left hk]
        · right
          simp [List.drop_eq_nil_of_le hk]
      · right
        rw [List.head?_append_of_ne_nil _ hnil]
        exact head?_dropWhile Char.isDigit _

/-- Digits are taken exactly as runs that are long enough and as long as may be. -/
theorem run_digits_eq_some_iff :
    (digits least most).run cs = some (ds, rest) ↔ cs = ds ++ rest ∧ Run least most ds rest := by
  simp only [digits, StateT.run]
  constructor
  · intro h
    split at h
    · rename_i hleast
      obtain ⟨rfl, hrest⟩ := Prod.mk.inj (Option.some.inj h)
      obtain ⟨left, hcs, hrun⟩ := exists_run_leadingDigits most cs
      have hdrop := congrArg (List.drop (leadingDigits most cs).length) hcs
      rw [List.drop_left] at hdrop
      obtain rfl := hdrop.symm.trans hrest
      exact ⟨hcs, hrun.digit, hleast, hrun.le_most, hrun.stop⟩
    · cases h
  · rintro ⟨rfl, h⟩
    rw [leadingDigits_append h, if_pos h.least_le, List.drop_left]

/-- A number of fixed width takes its numeral of that width. -/
theorem run_fixedNumber_eq_some_iff {width n : Nat} :
    (fixedNumber width).run cs = some (n, rest) ↔
      n < 10 ^ width ∧ cs = Decimal.fixed width n ++ rest := by
  rw [fixedNumber, number, run_map_eq_some_iff]
  constructor
  · rintro ⟨ds, h, rfl⟩
    obtain ⟨rfl, hrun⟩ := run_digits_eq_some_iff.mp h
    have hlength : ds.length = width :=
      Nat.le_antisymm (hrun.le_most width rfl) hrun.least_le
    subst hlength
    exact ⟨Decimal.value_lt hrun.digit, by rw [Decimal.fixed_value hrun.digit]⟩
  · rintro ⟨hn, rfl⟩
    refine ⟨Decimal.fixed width n, run_digits_eq_some_iff.mpr ⟨rfl, ?_⟩, ?_⟩
    · exact ⟨Decimal.isDigit_of_mem_fixed width n, by simp, by simp, Or.inl (by simp)⟩
    · rw [Decimal.value_fixed, Nat.mod_eq_of_lt hn]

end FeedArchive.Scan
