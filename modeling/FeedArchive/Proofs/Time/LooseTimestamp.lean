import FeedArchive.Proofs.Time.LooseDate
import FeedArchive.Proofs.Time.Writing

/-!
# Timestamps read loosely

`Layout.looseTimestamp` reads more than the timestamps of RFC 3339. All timestamps of the grammar
are among the texts that it reads, with the same instants (`readInstant_of_writes`), and so are the
texts of instants (`readInstant_chars`).
-/

namespace FeedArchive.Layout

open Scan

variable {r r' : Reading} {item : Item} {items : List Item} {cs left rest : List Char}

/-! ## One item -/

/-- What an item takes is left to the others. -/
theorem run_steps_cons (h : (r.step item).run cs = some (r', left)) :
    (r.steps (item :: items)).run cs = (r'.steps items).run left := by
  rw [Reading.steps, StateT.run_bind, h]
  rfl

/-- Blanks of the layout may be missing. -/
theorem run_step_blanks (h : ∀ c ∈ cs.head?, Text.isBlank c = false) :
    (r.step .blanks).run cs = some (r, cs) := by
  rw [Reading.step, run_bind_pure_eq_some_iff]
  exact ⟨(), run_blanks_eq_some_iff.mpr ⟨[], rfl, List.forall_mem_nil _, h⟩, rfl⟩

/-- A number of the layout is taken as its part of the date or clock. -/
theorem run_step_number {part : Part} (h : ∀ c ∈ cs.head?, Text.isBlank c = false)
    (htake : (r.take part).run cs = some (r', rest)) :
    (r.step (.number part)).run cs = some (r', rest) := by
  rw [Reading.step, run_bind_eq_some_iff]
  exact ⟨(), cs, run_blanks_eq_some_iff.mpr ⟨[], rfl, List.forall_mem_nil _, h⟩, htake⟩

/-- A mark of the layout is taken. -/
theorem run_step_literal (c : Char) : (r.step (.literal c)).run (c :: cs) = some (r, cs) := by
  rw [Reading.step, run_bind_pure_eq_some_iff]
  exact ⟨(), run_char_eq_some_iff.mpr rfl, rfl⟩

/-- Date and clock may be parted in three ways. -/
theorem run_step_dateTimeMark {mark : Char} (h : mark ∈ ['T', 't', ' ']) :
    (r.step .dateTimeMark).run (mark :: cs) = some (r, cs) := by
  rw [Reading.step, run_bind_pure_eq_some_iff]
  refine ⟨mark, run_oneOf_eq_some_iff.mpr ⟨rfl, ?_⟩, rfl⟩
  simpa [or_assoc] using h

/-- A fraction gives its nanoseconds, and none if it is missing. -/
theorem run_step_fraction {fraction : List Char} {n : Nat} (h : Rfc3339.Fraction fraction n)
    (hrest : ∀ c ∈ rest.head?, c ≠ '.' ∧ c.isDigit = false) (hr : r.nano = none) :
    ∃ nano : Option Nat, nano.getD 0 = n ∧
      (r.step .fraction).run (fraction ++ rest) = some ({ r with nano }, rest) := by
  rw [Reading.step, run_rest_bind]
  cases h with
  | missing =>
    refine ⟨none, rfl, ?_⟩
    split
    · rename_i left hleft
      exact absurd rfl (hrest '.' (by rw [← List.nil_append rest, hleft]; rfl)).1
    · obtain ⟨year, month, day, hour, dialHour, afternoon, minute, second, nano, offset⟩ := r
      cases hr
      exact run_pure_eq_some_iff.mpr ⟨rfl, rfl⟩
  | @digits ds hds =>
    refine ⟨some _, rfl, ?_⟩
    have hrun : Run 1 none ds rest := run_of_isDigits hds (by simp) fun c hc => (hrest c hc).2
    simp only [List.cons_append, nanosAfterPoint, run_bind_eq_some_iff, run_char_eq_some_iff,
      run_digits_eq_some_iff, run_pure_eq_some_iff]
    exact ⟨(), _, rfl, _, rest, ⟨ds, rest, ⟨rfl, hrun⟩, Rfc3339.value_nine_digits hds.digit, rfl⟩,
      rfl, rfl⟩

/-! ## Zones -/

/-- A numeral has no divider in front. -/
theorem head_fixed (n : Nat) :
    ∀ c ∈ (Decimal.fixed 2 n ++ rest).head?, (c == ':' || Text.isBlank c) = false := by
  intro c hc
  have hdigits := Decimal.isDigits_fixed 2 n (by decide)
  rw [List.head?_append_of_ne_nil _ hdigits.ne_nil] at hc
  have hmem := List.mem_of_mem_head? hc
  have hcolon : c ≠ ':' := by
    rintro rfl
    exact absurd (hdigits.digit _ hmem) (by decide)
  have hblank := (Decimal.Whole.natural (.digits hdigits)).not_blank c hmem
  simp [hcolon, hblank]

/-- Of what follows the hours, the colon is taken and no more. -/
theorem run_divide_loose (n : Nat) :
    (Offset.divide .loose).run (':' :: (Decimal.fixed 2 n ++ rest))
      = some ((), Decimal.fixed 2 n ++ rest) := by
  have hcolon : ∀ c ∈ [':'], (c == ':' || Text.isBlank c) = true := by simp
  show some ((), List.dropWhile (fun c => c == ':' || Text.isBlank c) _) = _
  exact congrArg (fun left => some ((), left)) (Text.dropWhile_run hcolon (head_fixed n))

/-- An offset is read from its sign, its hours and its minutes. -/
theorem run_numeric {c : Char} {h m : Nat} (hc : c = '+' ∨ c = '-' ∨ c = '\u2212') (hh : h < 100)
    (hm : m < 60) :
    (Offset.numeric (offsetSpelling false)).run
        (c :: (Decimal.fixed 2 h ++ ':' :: (Decimal.fixed 2 m ++ [])))
      = some (if c != '+' then -((h * 60 + m : Nat) : Int) else (h * 60 + m : Nat), []) := by
  rw [Offset.numeric, run_bind_eq_some_iff]
  refine ⟨_, _, (Rfc3339.run_sign_eq_some_iff rfl).mpr ⟨c, rfl, hc, rfl⟩, ?_⟩
  rw [run_bind_eq_some_iff]
  refine ⟨h, _, run_fixedNumber_eq_some_iff.mpr ⟨hh, rfl⟩, ?_⟩
  rw [run_bind_eq_some_iff]
  refine ⟨(), _, run_divide_loose m, ?_⟩
  rw [run_bind_pure_eq_some_iff]
  exact ⟨m, (Rfc3339.run_minutes_eq_some_iff rfl).mpr ⟨hm, rfl⟩, rfl⟩

/-- A zone of the grammar is taken as its offset. -/
theorem run_scan_zone {zone : List Char} {offset : Int} (h : Rfc3339.Zone zone offset) :
    (Offset.scan (offsetSpelling false)).run zone = some (offset, []) := by
  rw [Offset.scan, run_rest_bind]
  cases h with
  | @utc c hc =>
    have hz : ((offsetSpelling false).zulu && (c == 'Z' || c == 'z')) = true := by
      rcases hc with rfl | rfl <;> rfl
    simp only [if_pos hz, run_bind_eq_some_iff, run_char_eq_some_iff, run_pure_eq_some_iff]
    exact ⟨(), [], rfl, trivial, rfl⟩
  | @ahead h m hh hm =>
    have hrun := run_numeric (c := '+') (Or.inl rfl) (Nat.lt_trans hh (by decide)) hm
    rw [List.append_nil] at hrun
    exact hrun
  | @behind c h m hc hh hm =>
    have hz : ¬((offsetSpelling false).zulu && (c == 'Z' || c == 'z')) = true := by
      rcases hc with rfl | rfl <;> decide
    have hneg : (c != '+') = true := by rcases hc with rfl | rfl <;> rfl
    have hrun := run_numeric (Or.inr hc) (Nat.lt_trans hh (by decide)) hm
    rw [List.append_nil, if_pos hneg] at hrun
    simp only [if_neg hz]
    exact hrun

/-- No zone of the grammar is the word for UTC. -/
theorem run_word_zone {zone : List Char} {offset : Int} (h : Rfc3339.Zone zone offset) :
    (word "UTC").run zone = none := by
  have hhead : ∀ c left, zone = c :: left → c.toLower ≠ 'u' := by
    rintro c left rfl
    cases h with
    | utc hc => rcases hc with rfl | rfl <;> decide
    | ahead => decide
    | behind hc => rcases hc with rfl | rfl <;> decide
  refine if_neg fun heq => ?_
  cases zone with
  | nil => cases heq
  | cons c left => exact hhead c left rfl (List.cons.inj heq).1

/-- A zone is read as its offset, and nothing is left. -/
theorem run_step_zone {zone : List Char} {offset : Int} (h : Rfc3339.Zone zone offset) :
    (r.step .zone).run zone = some ({ r with offset := some offset }, []) := by
  rw [Reading.step, run_bind_eq_some_iff]
  refine ⟨none, zone, run_optional_none (run_word_zone h), ?_⟩
  rw [run_bind_pure_eq_some_iff]
  exact ⟨offset, run_scan_zone h, rfl⟩

/-! ## Timestamps -/

theorem forall_mem_head?_cons {p : Char → Prop} {c : Char} (h : p c) :
    ∀ d ∈ (c :: rest).head?, p d := by
  intro d hd
  obtain rfl := Option.some.inj hd
  exact h

/-- A numeral of fixed width does not begin with a blank. -/
theorem head_fixed_not_blank {width : Nat} (hwidth : 0 < width) (n : Nat) :
    ∀ c ∈ (Decimal.fixed width n ++ rest).head?, Text.isBlank c = false :=
  (Decimal.Whole.natural (.digits (Decimal.isDigits_fixed width n hwidth))).head rest

/-- A number of two digits is taken as a whole. -/
theorem run_within_fixed {least greatest n : Nat} (hn : n < 100)
    (hwithin : least ≤ n ∧ n ≤ greatest) (hrest : ∀ c ∈ rest.head?, c.isDigit = false) :
    (within least greatest).run (Decimal.fixed 2 n ++ rest) = some (n, rest) :=
  run_within (DateSpelling.short_fixed hn) hwithin hrest

/-- A year of four digits is taken as a whole. -/
theorem run_yearNumber_fixed {y : Int} (hyear : 0 ≤ y ∧ y ≤ 9999)
    (hrest : ∀ c ∈ rest.head?, c.isDigit = false) :
    yearNumber.run (Decimal.fixed 4 y.toNat ++ rest) = some (y, rest) := by
  have hwhole := Decimal.Whole.natural (.digits (Decimal.isDigits_fixed 4 y.toNat (by decide)))
  rw [Decimal.value_fixed, Nat.mod_eq_of_lt (by omega), Int.toNat_of_nonneg hyear.1] at hwhole
  exact run_yearNumber hwhole (fun _ => Nat.le_of_eq (Decimal.length_fixed 4 _)) hrest

/-- A number and the mark behind it are taken, where no white space stands between them. -/
theorem run_steps_number_literal {part : Part} {width n : Nat} {c : Char} (hwidth : 0 < width)
    (hc : Text.isBlank c = false)
    (htake : (r.take part).run (Decimal.fixed width n ++ c :: rest) = some (r', c :: rest)) :
    (r.steps (.number part :: .blanks :: .literal c :: items)).run
        (Decimal.fixed width n ++ c :: rest)
      = (r'.steps items).run rest := by
  rw [run_steps_cons (run_step_number (head_fixed_not_blank hwidth n) htake),
    run_steps_cons (run_step_blanks (forall_mem_head?_cons hc)),
    run_steps_cons (run_step_literal c)]

/-- A date is taken by the items for its numbers and the marks between them. -/
theorem run_steps_date {d : Date} (hyear : 0 ≤ d.year ∧ d.year ≤ 9999)
    (hrest : ∀ c ∈ rest.head?, c.isDigit = false) :
    (r.steps (.number .year :: .blanks :: .literal '-' :: .number .month :: .blanks ::
        .literal '-' :: .number .day :: items)).run (Instant.dateText d ++ rest)
      = (Reading.steps { r with year := some d.year, month := some d.month, day := some d.day }
          items).run rest := by
  have hday : 1 ≤ d.day ∧ d.day ≤ 31 :=
    ⟨d.day_mem.1, Nat.le_trans d.day_mem.2 (daysInMonth_le d.year d.month)⟩
  simp only [Instant.dateText_eq hyear, List.append_assoc, List.cons_append]
  refine Eq.trans (run_steps_number_literal (by decide) (by decide)
    (run_bind_pure_eq_some_iff.mpr
      ⟨_, run_yearNumber_fixed hyear (forall_mem_head?_cons (by decide)), rfl⟩)) ?_
  refine Eq.trans (run_steps_number_literal (by decide) (by decide)
    (run_bind_pure_eq_some_iff.mpr
      ⟨_, run_within_fixed d.numbers_lt.1 d.month_mem (forall_mem_head?_cons (by decide)),
        rfl⟩)) ?_
  exact run_steps_cons (run_step_number (head_fixed_not_blank (by decide) d.day)
    (run_bind_pure_eq_some_iff.mpr ⟨_, run_within_fixed d.numbers_lt.2 hday hrest, rfl⟩))

/-- The reading of a clock is taken as far as its seconds. -/
theorem run_steps_clock (c : Instant.Clock) (hrest : ∀ d ∈ rest.head?, d.isDigit = false) :
    (r.steps (.number .hour :: .blanks :: .literal ':' :: .number .minute :: .blanks ::
        .literal ':' :: .number .second :: items)).run (c.chars ++ rest)
      = (Reading.steps
          { r with hour := some c.hour, minute := some c.minute, second := some c.second }
          items).run rest := by
  have hh := c.hour_lt
  have hm := c.minute_lt
  have hs := c.second_le
  simp only [Instant.Clock.chars, List.append_assoc, List.cons_append]
  refine Eq.trans (run_steps_number_literal (by decide) (by decide)
    (run_bind_pure_eq_some_iff.mpr
      ⟨_, run_within_fixed (by omega) ⟨Nat.zero_le _, Nat.le_of_lt_succ hh⟩
        (forall_mem_head?_cons (by decide)), rfl⟩)) ?_
  refine Eq.trans (run_steps_number_literal (by decide) (by decide)
    (run_bind_pure_eq_some_iff.mpr
      ⟨_, run_within_fixed (by omega) ⟨Nat.zero_le _, Nat.le_of_lt_succ hm⟩
        (forall_mem_head?_cons (by decide)), rfl⟩)) ?_
  exact run_steps_cons (run_step_number (head_fixed_not_blank (by decide) c.second)
    (run_bind_pure_eq_some_iff.mpr
      ⟨_, run_within_fixed (by omega) ⟨Nat.zero_le _, hs⟩ hrest, rfl⟩))

/-- A zone of the grammar follows a fraction, or the clock, as no part of it. -/
theorem head_fraction_zone {fraction zone : List Char} {n : Nat} {offset : Int}
    (hfraction : Rfc3339.Fraction fraction n) (hzone : Rfc3339.Zone zone offset) :
    ∀ c ∈ (fraction ++ zone).head?, c.isDigit = false := by
  cases hfraction with
  | missing => exact fun c hc => (hzone.head c hc).2
  | digits => exact forall_mem_head?_cons (by decide)

/-- A timestamp of the grammar is read as its instant. -/
theorem readInstant_of_writes {i : Instant} (h : Rfc3339.Writes cs i) :
    looseTimestamp.readInstant cs = some i := by
  obtain @⟨d, c, mark, fraction, zone, offset, hyear, hmark, hfraction, hzone⟩ := h
  obtain ⟨-, hoffset⟩ := Rfc3339.run_zone_iff.mpr ⟨zone, (List.append_nil zone).symm, hzone⟩
  have hmarkDigit : mark.isDigit = false := by
    simp only [List.mem_cons, List.not_mem_nil, or_false] at hmark
    rcases hmark with rfl | rfl | rfl <;> rfl
  have hblank : ∀ c ∈ zone.head?, Text.isBlank c = false := by
    cases hzone with
    | utc hc => rcases hc with rfl | rfl <;> exact forall_mem_head?_cons (by decide)
    | ahead => exact forall_mem_head?_cons (by decide)
    | behind hc => rcases hc with rfl | rfl <;> exact forall_mem_head?_cons (by decide)
  obtain ⟨nano, hnano, hrun⟩ := run_step_fraction (r := {
    year := some d.year, month := some d.month, day := some d.day, hour := some c.hour,
    minute := some c.minute, second := some c.second }) hfraction hzone.head rfl
  -- the items take the parts of the text one after the other, with no white space in between
  have hsteps : (Reading.steps {} looseTimestamp).run
      (Instant.dateText d ++ mark :: (c.chars ++ (fraction ++ zone))) = some ({
        year := some d.year, month := some d.month, day := some d.day, hour := some c.hour,
        minute := some c.minute, second := some c.second, nano, offset := some offset }, []) := by
    rw [looseTimestamp, run_steps_date hyear (forall_mem_head?_cons hmarkDigit),
      run_steps_cons (run_step_dateTimeMark hmark),
      run_steps_clock c (head_fraction_zone hfraction hzone), run_steps_cons hrun,
      run_steps_cons (run_step_blanks hblank), run_steps_cons (run_step_zone hzone),
      run_steps_cons (run_step_blanks (by simp))]
    exact run_steps_nil_iff.mpr ⟨rfl, rfl⟩
  have hdate : Date.ofNumbers? d.year d.month d.day = some d :=
    Date.ofNumbers?_eq_some_iff.mpr ⟨rfl, rfl, rfl⟩
  have hclock : Instant.Clock.ofNumbers? c.hour c.minute c.second (nano.getD 0) = some c :=
    Instant.Clock.ofNumbers?_eq_some_iff.mpr ⟨rfl, rfl, rfl, hnano.symm⟩
  have hknown : Instant.minYear ≤ d.year ∧ d.year ≤ Instant.maxYear := by
    simp only [Instant.minYear, Instant.maxYear]
    omega
  rw [readInstant, read, whole_eq_some_iff.mpr hsteps, Option.bind_some]
  simp only [Reading.instant?, Reading.date?, Reading.clock?, Reading.hour?, Option.getD_some,
    Option.bind_eq_bind, Option.bind_some, hdate, hclock, if_pos hknown]
  exact (Instant.ofLocal?_eq_some_iff hyear).mpr ⟨hoffset, rfl⟩

/-- The text of an instant is read as the instant. -/
theorem readInstant_chars {i : Instant} (hyear : 0 ≤ i.date.year ∧ i.date.year ≤ 9999) :
    looseTimestamp.readInstant i.chars = some i := by
  rw [Instant.chars_eq_charsAt]
  rw [← i.localDate_zero] at hyear
  exact readInstant_of_writes (Rfc3339.writes_charsAt i true (by decide) hyear)

end FeedArchive.Layout
