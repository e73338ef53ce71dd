import FeedArchive.Pattern.Like
import Mathlib.Tactic.Ring

/-!
# The rounds of the matcher

`Cursor.Course` says which rounds a run goes through and with what result it ends. A run from a
cursor that lies within goes through cursors that lie within (`Cursor.Course.within`), and since
each round makes the measure of the cursor smaller, there are not more rounds than the first measure
has room for (`Cursor.Course.length_le`).
-/

namespace FeedArchive.Pattern

variable {ts : Array Token} {text : Array Char} {c last : Cursor} {rounds : List Cursor}
  {result : Bool}

/-- From a cursor on, a run makes a round at each of these cursors, and it is at the last one when
it ends with a result: the text is used up, or a mismatch cannot be mended. -/
inductive Cursor.Course (ts : Array Token) (text : Array Char) :
    Cursor → List Cursor → Cursor → Bool → Prop
  | usedUp {c : Cursor} (hc : text.size ≤ c.char) :
      Course ts text c [] c ((ts.toList.drop c.token).all (· == .any))
  | mismatch {c : Cursor} (hc : c.char < text.size) (hd : c.step ts text = none) :
      Course ts text c [c] c false
  | round {c d last : Cursor} {rounds : List Cursor} {result : Bool} (hc : c.char < text.size)
      (hd : c.step ts text = some d) (h : Course ts text d rounds last result) :
      Course ts text c (c :: rounds) last result

/-- A run has a course, which ends with its result. -/
theorem Cursor.exists_course (c : Cursor) (hw : c.Within ts text) :
    ∃ rounds last, Course ts text c rounds last (c.run ts text hw) := by
  fun_induction Cursor.run ts text c hw with
  | case1 c hw hc d hd ih =>
    obtain ⟨rounds, last, h⟩ := ih
    exact ⟨c :: rounds, last, .round hc hd h⟩
  | case2 c hw hc hd => exact ⟨[c], c, .mismatch hc hd⟩
  | case3 c hw hc => exact ⟨[], c, .usedUp (Nat.le_of_not_lt hc)⟩

namespace Cursor.Course

/-- There is one course from a cursor only. -/
theorem unique {last' : Cursor} {rounds' : List Cursor} {result' : Bool}
    (h : Course ts text c rounds last result) (h' : Course ts text c rounds' last' result') :
    rounds = rounds' ∧ last = last' ∧ result = result' := by
  induction h generalizing rounds' with
  | usedUp hc =>
    cases h' with
    | usedUp => exact ⟨rfl, rfl, rfl⟩
    | mismatch hc' | round hc' => exact absurd hc' (Nat.not_lt.mpr hc)
  | mismatch hc hd =>
    cases h' with
    | usedUp hc' => exact absurd hc (Nat.not_lt.mpr hc')
    | mismatch => exact ⟨rfl, rfl, rfl⟩
    | round _ hd' => cases hd.symm.trans hd'
  | round hc hd _ ih =>
    cases h' with
    | usedUp hc' => exact absurd hc (Nat.not_lt.mpr hc')
    | mismatch _ hd' => cases hd.symm.trans hd'
    | round _ hd' h' =>
      obtain rfl := Option.some.inj (hd.symm.trans hd')
      obtain ⟨rfl, rfl, rfl⟩ := ih h'
      exact ⟨rfl, rfl, rfl⟩

/-- There is a next character in each round. -/
theorem char_lt (h : Course ts text c rounds last result) :
    ∀ d ∈ rounds, d.char < text.size := by
  induction h with
  | usedUp => exact List.forall_mem_nil _
  | mismatch hc => exact List.forall_mem_singleton.mpr hc
  | round hc _ _ ih => exact List.forall_mem_cons.mpr ⟨hc, ih⟩

/-- A run that starts within stays within. -/
theorem within (h : Course ts text c rounds last result) (hw : c.Within ts text) :
    ∀ d ∈ last :: rounds, d.Within ts text := by
  induction h with
  | usedUp => exact List.forall_mem_singleton.mpr hw
  | mismatch =>
    rw [List.forall_mem_cons, List.forall_mem_singleton]
    exact ⟨hw, hw⟩
  | round hc hd _ ih =>
    have hrest := List.forall_mem_cons.mp (ih (hw.step hc hd))
    rw [List.forall_mem_cons, List.forall_mem_cons]
    exact ⟨hrest.1, hw, hrest.2⟩

end Cursor.Course

/-! ## How many rounds there are -/

/-- A measure as one number, where the second and third components are at most `n`. -/
def Cursor.weight (n : Nat) (m : Nat × Nat × Nat) : Nat :=
  m.1 * (n + 1) ^ 2 + m.2.1 * (n + 1) + m.2.2

/-- A cursor that is smaller weighs less. -/
theorem Cursor.weight_lt {n : Nat} {m m' : Nat × Nat × Nat} (h : Smaller m m')
    (hsecond : m.2.1 ≤ n) (hthird : m.2.2 ≤ n) : weight n m < weight n m' := by
  have hroom : m.2.1 * (n + 1) + m.2.2 < (n + 1) ^ 2 := by
    have := Nat.mul_le_mul_right (n + 1) hsecond
    rw [Nat.pow_two, Nat.succ_mul n (n + 1)]
    omega
  rcases h with ⟨_, _, hfirst⟩ | ⟨_, ⟨_, _, hless⟩ | ⟨_, hless⟩⟩
  all_goals simp only [weight] at hroom hthird ⊢
  · have := Nat.mul_le_mul_right ((n + 1) ^ 2) (Nat.succ_le_of_lt hfirst)
    rw [Nat.succ_mul] at this
    omega
  · have := Nat.mul_le_mul_right (n + 1) (Nat.succ_le_of_lt hless)
    rw [Nat.succ_mul] at this
    omega
  · omega

/-- The parts of the measure that count characters are bounded by the text. -/
theorem Cursor.measure_le (ts : Array Token) (text : Array Char) (c : Cursor) :
    (c.measure ts text).2.1 ≤ text.size ∧ (c.measure ts text).2.2 ≤ text.size := by
  unfold Cursor.measure
  split <;> simp

/-- There are at most as many rounds as the measure of the first cursor has room for. -/
theorem Cursor.Course.length_le (h : Course ts text c rounds last result)
    (hw : c.Within ts text) : rounds.length ≤ weight text.size (c.measure ts text) + 1 := by
  induction h with
  | usedUp => exact Nat.zero_le _
  | mismatch => exact Nat.succ_le_succ (Nat.zero_le _)
  | @round c d last rounds result hc hd _ ih =>
    have hrest := ih (hw.step hc hd)
    have hbound := Cursor.measure_le ts text d
    have hless := weight_lt (hw.measure_step hc hd) hbound.1 hbound.2
    rw [List.length_cons]
    omega

/-- The weight at the start bounds how many rounds there can be. -/
theorem Cursor.weight_start (ts : Array Token) (text : Array Char) :
    weight text.size (Cursor.start.measure ts text) + 1 = (ts.size + 2) * (text.size + 1) ^ 2 := by
  simp only [weight, Cursor.measure, Cursor.start, Nat.sub_zero]
  ring

/-! ## Matching -/

/-- Matching comes to an end after a bounded number of rounds, whatever the tokens and the text are,
and never looks outside of them: in each round there is a next character, and at each cursor on the
way the indices lie in the tokens and the text, with the last `any` where it is remembered. -/
theorem Like.matches_course (p : Like) (t : List Char) :
    let ts := p.tokens.toArray
    let text := (t.map Text.fold).toArray
    ∃ (rounds : List Cursor) (last : Cursor),
      Cursor.Course ts text .start rounds last (p.matches t) ∧
      rounds.length ≤ (ts.size + 2) * (text.size + 1) ^ 2 ∧
      (∀ c ∈ rounds, c.char < text.size) ∧
      ∀ c ∈ last :: rounds, c.token ≤ ts.size ∧ c.char ≤ text.size ∧
        ∀ s ∈ c.star, s.1 < ts.size ∧ ts[s.1]? = some .any ∧ s.2 ≤ c.char := by
  intro ts text
  have hstart := Cursor.start_within ts text
  obtain ⟨rounds, last, hcourse⟩ := Cursor.exists_course Cursor.start hstart
  refine ⟨rounds, last, hcourse, ?_, hcourse.char_lt, fun c hc => ?_⟩
  · rw [← Cursor.weight_start]
    exact hcourse.length_le hstart
  · obtain ⟨htoken, hchar, hstar⟩ := hcourse.within hstart c hc
    refine ⟨htoken, hchar, fun s hs => ?_⟩
    obtain ⟨hany, -, hle⟩ := hstar s hs
    exact ⟨(Array.getElem?_eq_some_iff.mp hany).1, hany, hle⟩

/-- The mismatch at the third `a` leads back to the second one, from where the match is found. -/
theorem Like.matches_course_back :
    let p : Like := ⟨[.any, .literal 'a', .literal 'a', .literal 'b']⟩
    let ts := p.tokens.toArray
    let text := #['a', 'a', 'a', 'b']
    ∃ (rounds : List Cursor) (last : Cursor), Cursor.Course ts text .start rounds last true ∧
      rounds.length ≤ 150 ∧ ⟨3, 2, some (0, 0)⟩ ∈ rounds ∧ ⟨1, 1, some (0, 1)⟩ ∈ rounds ∧
      ts[0]? = some .any ∧ last.token ≤ 4 ∧ last.char ≤ 4 := by
  intro p ts text
  obtain ⟨rounds, last, hcourse, hlength, hchar, hwithin⟩ := p.matches_course "aaab".toList
  have hexplicit : Cursor.Course ts text .start
      [⟨0, 0, none⟩, ⟨1, 0, some (0, 0)⟩, ⟨2, 1, some (0, 0)⟩, ⟨3, 2, some (0, 0)⟩,
        ⟨1, 1, some (0, 1)⟩, ⟨2, 2, some (0, 1)⟩, ⟨3, 3, some (0, 1)⟩] ⟨4, 4, some (0, 1)⟩ true :=
    .round (by decide) rfl <| .round (by decide) rfl <| .round (by decide) rfl <|
      .round (by decide) rfl <| .round (by decide) rfl <| .round (by decide) rfl <|
        .round (by decide) rfl <| .usedUp (by decide)
  obtain ⟨rfl, rfl, hresult⟩ := hexplicit.unique hcourse
  have hback := hwithin ⟨3, 2, some (0, 0)⟩ (by decide)
  have hlast := hwithin ⟨4, 4, some (0, 1)⟩ (by decide)
  rw [← hresult] at hcourse
  exact ⟨_, _, hcourse, hlength, by decide, by decide, (hback.2.2 (0, 0) rfl).2.1, hlast.1,
    hlast.2.1⟩

end FeedArchive.Pattern
