import FeedArchive.Proofs.Text.Integer
import FeedArchive.Proofs.Text.Scan
import FeedArchive.Proofs.Time.Local
import FeedArchive.Time.Rfc3339

/-!
# The grammar of timestamps

`Rfc3339.Writes` is the grammar of timestamps with the instants that they stand for. The reader
accepts a text exactly if it is in the grammar, and finds the instant (`read_eq_some_iff`).
-/

namespace FeedArchive

open Scan

/-- The reading of a clock as `HH:MM:SS`. -/
def Instant.Clock.chars (c : Clock) : List Char :=
  Decimal.fixed 2 c.hour ++ ':' :: (Decimal.fixed 2 c.minute ++ ':' :: Decimal.fixed 2 c.second)

namespace Rfc3339

/-- A decimal fraction of a second and its nanoseconds, rounded down. It may be missing. -/
inductive Fraction : List Char → Nat → Prop
  | missing : Fraction [] 0
  | digits {ds : List Char} (h : Decimal.IsDigits ds) :
      Fraction ('.' :: ds) (Decimal.value ds * 10 ^ 9 / 10 ^ ds.length)

/-- A zone and its offset in minutes: `Z`, or a sign, hours, a colon and minutes. -/
inductive Zone : List Char → Int → Prop
  | utc {c : Char} (hc : c = 'Z' ∨ c = 'z') : Zone [c] 0
  | ahead {h m : Nat} (hh : h < 24) (hm : m < 60) :
      Zone ('+' :: (Decimal.fixed 2 h ++ ':' :: Decimal.fixed 2 m)) (h * 60 + m : Nat)
  | behind {c : Char} {h m : Nat} (hc : c = '-' ∨ c = '\u2212') (hh : h < 24) (hm : m < 60) :
      Zone (c :: (Decimal.fixed 2 h ++ ':' :: Decimal.fixed 2 m)) (-(h * 60 + m : Nat))

/-- A timestamp and its instant: a date with a year of four digits, a mark, a time with an optional
fraction, and a zone. -/
inductive Writes : List Char → Instant → Prop
  | mk {d : Date} {c : Instant.Clock} {mark : Char} {fraction zone : List Char} {offset : Int}
      (hyear : 0 ≤ d.year ∧ d.year ≤ 9999) (hmark : mark ∈ ['T', 't', ' '])
      (hfraction : Fraction fraction c.nano) (hzone : Zone zone offset) :
      Writes (Instant.dateText d ++ mark :: (c.chars ++ (fraction ++ zone)))
        (Instant.ofLocal d c offset)

variable {cs rest : List Char}

/-! ## The parts -/

/-- A date is read from four, two and two digits with dashes between them. -/
theorem run_date_eq_some_iff {y m d : Nat} :
    date.run cs = some ((y, m, d), rest) ↔ y < 10 ^ 4 ∧ m < 10 ^ 2 ∧ d < 10 ^ 2 ∧
      cs = Decimal.fixed 4 y ++
        '-' :: (Decimal.fixed 2 m ++ '-' :: (Decimal.fixed 2 d ++ rest)) := by
  simp only [date, run_bind_eq_some_iff, run_fixedNumber_eq_some_iff, run_char_eq_some_iff,
    run_pure_eq_some_iff, Prod.mk.injEq]
  constructor
  · rintro ⟨y, _, ⟨hy, rfl⟩, _, _, rfl, m, _, ⟨hm, rfl⟩, _, _, rfl, d, _, ⟨hd, rfl⟩,
      ⟨rfl, rfl, rfl⟩, rfl⟩
    exact ⟨hy, hm, hd, rfl⟩
  · rintro ⟨hy, hm, hd, rfl⟩
    exact ⟨y, _, ⟨hy, rfl⟩, (), _, rfl, m, _, ⟨hm, rfl⟩, (), _, rfl, d, _, ⟨hd, rfl⟩,
      ⟨rfl, rfl, rfl⟩, rfl⟩

/-- A clock is read from two digits each with colons between them, and a fraction. -/
theorem run_time_eq_some_iff {h m s n : Nat} :
    time.run cs = some ((h, m, s, n), rest) ↔ h < 10 ^ 2 ∧ m < 10 ^ 2 ∧ s < 10 ^ 2 ∧
      ∃ left, cs = Decimal.fixed 2 h ++ ':' :: (Decimal.fixed 2 m ++ ':' ::
        (Decimal.fixed 2 s ++ left)) ∧ nanos.run left = some (n, rest) := by
  simp only [time, run_bind_eq_some_iff, run_fixedNumber_eq_some_iff, run_char_eq_some_iff,
    run_pure_eq_some_iff, Prod.mk.injEq]
  constructor
  · rintro ⟨h, _, ⟨hh, rfl⟩, _, _, rfl, m, _, ⟨hm, rfl⟩, _, _, rfl, s, left, ⟨hs, rfl⟩, n, _, hn,
      ⟨rfl, rfl, rfl, rfl⟩, rfl⟩
    exact ⟨hh, hm, hs, left, rfl, hn⟩
  · rintro ⟨hh, hm, hs, left, rfl, hn⟩
    exact ⟨h, _, ⟨hh, rfl⟩, (), _, rfl, m, _, ⟨hm, rfl⟩, (), _, rfl, s, left, ⟨hs, rfl⟩, n, rest,
      hn, ⟨rfl, rfl, rfl, rfl⟩, rfl⟩

/-- Nine digits of a fraction, with zeros behind it where it is shorter, are its nanoseconds. -/
theorem value_nine_digits {ds : List Char} (h : ∀ c ∈ ds, c.isDigit = true) :
    Decimal.value ((ds ++ List.replicate 9 '0').take 9)
      = Decimal.value ds * 10 ^ 9 / 10 ^ ds.length := by
  have hall : ∀ c ∈ ds ++ List.replicate 9 '0', c.isDigit = true := by
    intro c hc
    rcases List.mem_append.mp hc with hc | hc
    · exact h c hc
    · rw [List.eq_of_mem_replicate hc]
      rfl
  rw [Decimal.value_take 9 hall, Decimal.value_append, Decimal.value_replicate_zero,
    List.length_append, List.length_replicate, Nat.add_zero, Nat.add_sub_cancel]

/-- What is taken as a fraction is one. -/
theorem fraction_of_run {n : Nat} (h : nanos.run cs = some (n, rest)) :
    ∃ fraction, cs = fraction ++ rest ∧ Fraction fraction n := by
  rw [nanos, run_rest_bind] at h
  split at h
  · simp only [nanosAfterPoint, run_bind_eq_some_iff, run_char_eq_some_iff,
      run_digits_eq_some_iff, run_pure_eq_some_iff] at h
    obtain ⟨_, _, hcs, ds, _, ⟨rfl, hrun⟩, rfl, rfl⟩ := h
    have hds : Decimal.IsDigits ds := ⟨List.ne_nil_of_length_pos hrun.least_le, hrun.digit⟩
    rw [value_nine_digits hds.digit]
    exact ⟨'.' :: ds, hcs, .digits hds⟩
  · obtain ⟨rfl, rfl⟩ := run_pure_eq_some_iff.mp h
    exact ⟨[], rfl, .missing⟩

/-- A fraction is taken as a whole, unless what follows it could belong to it. -/
theorem Fraction.run {fraction : List Char} {n : Nat} (h : Fraction fraction n)
    (hrest : ∀ c ∈ rest.head?, c ≠ '.' ∧ c.isDigit = false) :
    nanos.run (fraction ++ rest) = some (n, rest) := by
  rw [nanos, run_rest_bind]
  cases h with
  | missing =>
    split
    · rename_i left hleft
      exact absurd rfl (hrest '.' (by rw [← List.nil_append rest, hleft]; rfl)).1
    · exact run_pure_eq_some_iff.mpr ⟨rfl, rfl⟩
  | @digits ds hds =>
    simp only [List.cons_append, nanosAfterPoint, run_bind_eq_some_iff, run_char_eq_some_iff,
      run_digits_eq_some_iff, run_pure_eq_some_iff]
    have hrun : Run 1 none ds rest :=
      ⟨hds.digit, List.length_pos_iff.mpr hds.ne_nil, by simp, Or.inr fun c hc => (hrest c hc).2⟩
    exact ⟨(), _, rfl, ds, rest, ⟨rfl, hrun⟩, value_nine_digits hds.digit, rfl⟩

/-! ## The zone -/

/-- A sign is taken by every spelling that has the minus sign U+2212. -/
theorem run_sign_eq_some_iff {spelling : Offset.Spelling} (hminus : spelling.minusSign = true)
    {negative : Bool} : (Offset.sign spelling).run cs = some (negative, rest) ↔
      ∃ c, cs = c :: rest ∧ (c = '+' ∨ c = '-' ∨ c = '\u2212') ∧ (c != '+') = negative := by
  simp only [Offset.sign, hminus, run_bind_eq_some_iff, run_oneOf_eq_some_iff,
    run_pure_eq_some_iff, Bool.or_eq_true, Bool.true_and, beq_iff_eq]
  constructor
  · rintro ⟨c, _, ⟨rfl, hc⟩, rfl, rfl⟩
    exact ⟨c, rfl, or_assoc.mp hc, rfl⟩
  · rintro ⟨c, rfl, hc, rfl⟩
    exact ⟨c, rest, ⟨rfl, or_assoc.mpr hc⟩, rfl, rfl⟩

/-- Minutes are taken by every spelling in which they may not be missing. -/
theorem run_minutes_eq_some_iff {spelling : Offset.Spelling} (halone : spelling.hoursAlone = false)
    {m : Nat} : (Offset.minutes spelling).run cs = some (m, rest) ↔
      m < 60 ∧ cs = Decimal.fixed 2 m ++ rest := by
  rw [Offset.minutes, run_rest_bind, halone]
  split
  · -- the minutes may not be missing
    constructor
    · intro h
      cases h
    · rintro ⟨-, h⟩
      have hlength := congrArg List.length h
      simp only [List.length_nil, List.length_append, Decimal.length_fixed] at hlength
      omega
  · simp only [run_bind_eq_some_iff, run_fixedNumber_eq_some_iff]
    constructor
    · rintro ⟨m', _, ⟨-, rfl⟩, h⟩
      split at h
      · obtain ⟨rfl, rfl⟩ := run_pure_eq_some_iff.mp h
        exact ⟨‹_›, rfl⟩
      · cases h
    · rintro ⟨hm, rfl⟩
      refine ⟨m, rest, ⟨by omega, rfl⟩, ?_⟩
      rw [if_pos hm]
      exact run_pure_eq_some_iff.mpr ⟨rfl, rfl⟩

/-- An offset is read from a sign, two digits of hours and two of minutes below sixty. -/
theorem run_numeric_eq_some_iff {o : Int} :
    (Offset.numeric offsetSpelling).run cs = some (o, rest) ↔ ∃ c h m, h < 100 ∧ m < 60 ∧
      (c = '+' ∧ o = (h * 60 + m : Nat) ∨
        (c = '-' ∨ c = '\u2212') ∧ o = -(h * 60 + m : Nat)) ∧
      cs = c :: (Decimal.fixed 2 h ++ ':' :: (Decimal.fixed 2 m ++ rest)) := by
  have hdivide : Offset.divide offsetSpelling.divider = char ':' := rfl
  have hminus : offsetSpelling.minusSign = true := rfl
  have halone : offsetSpelling.hoursAlone = false := rfl
  simp only [Offset.numeric, hdivide, run_bind_eq_some_iff, run_sign_eq_some_iff hminus,
    run_fixedNumber_eq_some_iff, run_char_eq_some_iff, run_minutes_eq_some_iff halone,
    run_pure_eq_some_iff]
  constructor
  · rintro ⟨_, _, ⟨c, rfl, hc, rfl⟩, h, _, ⟨hh, rfl⟩, _, _, rfl, m, _, ⟨hm, rfl⟩, rfl, rfl⟩
    refine ⟨c, h, m, hh, hm, ?_, rfl⟩
    rcases hc with rfl | hc
    · exact Or.inl ⟨rfl, rfl⟩
    · have hne : (c != '+') = true := by rcases hc with rfl | rfl <;> rfl
      rw [if_pos hne]
      exact Or.inr ⟨hc, rfl⟩
  · rintro ⟨c, h, m, hh, hm, hc, rfl⟩
    refine ⟨c != '+', _, ⟨c, rfl, ?_, rfl⟩, h, _, ⟨hh, rfl⟩, (), _, rfl, m, rest, ⟨hm, rfl⟩, ?_,
      rfl⟩
    · rcases hc with ⟨rfl, -⟩ | ⟨hc, -⟩
      · exact Or.inl rfl
      · exact Or.inr hc
    · rcases hc with ⟨rfl, rfl⟩ | ⟨rfl | rfl, rfl⟩ <;> rfl

/-- A zone less than a day away from UTC is taken as a whole. -/
theorem run_zone_iff {o : Int} :
    (Offset.scan offsetSpelling).run cs = some (o, rest) ∧ -1440 < o ∧ o < 1440 ↔
      ∃ zone, cs = zone ++ rest ∧ Zone zone o := by
  rw [Offset.scan, run_rest_bind]
  constructor
  · rintro ⟨h, hlow, hhigh⟩
    split at h
    · rename_i c left
      split at h
      · rename_i hz
        simp only [run_bind_eq_some_iff, run_char_eq_some_iff, run_pure_eq_some_iff] at h
        obtain ⟨_, _, hleft, rfl, rfl⟩ := h
        refine ⟨[c], hleft, .utc ?_⟩
        simpa [offsetSpelling] using hz
      -- what is not `Z` has a sign, which says whether the clock is ahead of UTC or behind
      · obtain ⟨c, hours, minutes, -, hm, ⟨rfl, rfl⟩ | ⟨hc, rfl⟩, hcs⟩ :=
          run_numeric_eq_some_iff.mp h
        · exact ⟨_, by simpa using hcs, .ahead (by omega) hm⟩
        · exact ⟨_, by simpa using hcs, .behind hc (by omega) hm⟩
    · cases h
  · rintro ⟨zone, rfl, hzone⟩
    cases hzone with
    | @utc c hc =>
      have hz : (offsetSpelling.zulu && (c == 'Z' || c == 'z')) = true := by
        rcases hc with rfl | rfl <;> rfl
      simp only [List.cons_append, List.nil_append, if_pos hz, run_bind_eq_some_iff,
        run_char_eq_some_iff, run_pure_eq_some_iff]
      exact ⟨⟨(), rest, rfl, trivial, rfl⟩, by decide, by decide⟩
    | @ahead h m hh hm =>
      refine ⟨run_numeric_eq_some_iff.mpr ⟨'+', h, m, by omega, hm, Or.inl ⟨rfl, rfl⟩, ?_⟩, ?_⟩
      · simp only [List.cons_append, List.append_assoc]
      · omega
    | @behind c h m hc hh hm =>
      have hz : ¬(offsetSpelling.zulu && (c == 'Z' || c == 'z')) = true := by
        rcases hc with rfl | rfl <;> decide
      simp only [List.cons_append, if_neg hz]
      refine ⟨run_numeric_eq_some_iff.mpr ⟨c, h, m, by omega, hm, Or.inr ⟨hc, rfl⟩, ?_⟩, ?_⟩
      · simp only [List.append_assoc, List.cons_append]
      · omega

/-- A zone begins with no point and no digit, so that a fraction ends in front of it. -/
theorem Zone.head {zone : List Char} {o : Int} (h : Zone zone o) :
    ∀ c ∈ zone.head?, c ≠ '.' ∧ c.isDigit = false := by
  intro c hc
  cases h with
  | utc hz =>
    obtain rfl := Option.some.inj hc
    rcases hz with rfl | rfl <;> decide
  | ahead =>
    obtain rfl := Option.some.inj hc
    decide
  | behind hz =>
    obtain rfl := Option.some.inj hc
    rcases hz with rfl | rfl <;> decide

/-! ## Whole timestamps -/

/-- Between date and clock stands a `T` in either case or a blank. -/
theorem isMark_eq_true_iff {c : Char} : isMark c = true ↔ c ∈ ['T', 't', ' '] := by
  simp [isMark, or_assoc]

/-- What is taken as a timestamp is one. -/
theorem writes_of_run {i : Instant} (h : timestamp.run cs = some (i, rest)) :
    ∃ text, cs = text ++ rest ∧ Writes text i := by
  simp only [timestamp, run_bind_eq_some_iff, Prod.exists, run_date_eq_some_iff,
    run_oneOf_eq_some_iff, run_time_eq_some_iff] at h
  obtain ⟨y, m, d, _, ⟨hy, -, -, rfl⟩, mark, _, ⟨rfl, hmark⟩, h, mi, s, n, _, ⟨-, -, -, _, rfl, hn⟩,
    o, _, hscan, hread⟩ := h
  obtain ⟨fraction, rfl, hfraction⟩ := fraction_of_run hn
  split at hread
  · rename_i date hdate
    split at hread
    · rename_i clock hclock
      split at hread
      · rename_i instant hinstant
        obtain ⟨rfl, rfl⟩ := run_pure_eq_some_iff.mp hread
        obtain ⟨hdy, rfl, rfl⟩ := Date.ofNumbers?_eq_some_iff.mp hdate
        obtain ⟨rfl, rfl, rfl, rfl⟩ := Instant.Clock.ofNumbers?_eq_some_iff.mp hclock
        have hyear : 0 ≤ date.year ∧ date.year ≤ 9999 := by omega
        obtain ⟨hoffset, rfl⟩ := (Instant.ofLocal?_eq_some_iff hyear).mp hinstant
        obtain ⟨zone, rfl, hzone⟩ := run_zone_iff.mp ⟨hscan, hoffset⟩
        refine ⟨_, ?_, .mk hyear (isMark_eq_true_iff.mp hmark) hfraction hzone⟩
        rw [Instant.dateText_eq hyear, hdy, Int.toNat_natCast, Instant.Clock.chars]
        simp only [List.append_assoc, List.cons_append]
      · cases hread
    · cases hread
  · cases hread

/-- A timestamp is taken as a whole. -/
theorem Writes.run {text : List Char} {i : Instant} (h : Writes text i) :
    timestamp.run text = some (i, []) := by
  cases h with
  | @mk d c mark fraction zone offset hyear hmark hfraction hzone =>
    obtain ⟨hscan, hoffset⟩ := run_zone_iff.mpr ⟨zone, (List.append_nil zone).symm, hzone⟩
    have hdate : Date.ofNumbers? d.year.toNat d.month d.day = some d :=
      Date.ofNumbers?_eq_some_iff.mpr ⟨by omega, rfl, rfl⟩
    have hclock : Instant.Clock.ofNumbers? c.hour c.minute c.second c.nano = some c :=
      Instant.Clock.ofNumbers?_eq_some_iff.mpr ⟨rfl, rfl, rfl, rfl⟩
    have hinstant := (Instant.ofLocal?_eq_some_iff hyear (c := c)).mpr ⟨hoffset, rfl⟩
    have hh := c.hour_lt
    have hm := c.minute_lt
    have hs := c.second_le
    have hd := d.numbers_lt
    simp only [timestamp, run_bind_eq_some_iff, Prod.exists, run_date_eq_some_iff,
      run_oneOf_eq_some_iff, run_time_eq_some_iff]
    refine ⟨d.year.toNat, d.month, d.day, _, ⟨by omega, by omega, by omega, ?_⟩, mark, _,
      ⟨rfl, isMark_eq_true_iff.mpr hmark⟩, c.hour, c.minute, c.second, c.nano, zone,
      ⟨by omega, by omega, by omega, fraction ++ zone, rfl, hfraction.run hzone.head⟩, offset, [],
      hscan, ?_⟩
    · rw [Instant.dateText_eq hyear, Instant.Clock.chars]
      simp only [List.append_assoc, List.cons_append]
    · simp only [hdate, hclock, hinstant, run_pure_eq_some_iff, and_self]

/-- The reader accepts the timestamps of the grammar, and finds their instants. -/
theorem read_eq_some_iff {i : Instant} : read cs = some i ↔ Writes cs i := by
  rw [read, whole_eq_some_iff]
  constructor
  · intro h
    obtain ⟨text, rfl, hwrites⟩ := writes_of_run h
    rwa [List.append_nil]
  · exact Writes.run

end Rfc3339

end FeedArchive
