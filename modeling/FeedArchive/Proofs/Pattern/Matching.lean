import FeedArchive.Proofs.Pattern.Language

/-!
# The matcher decides the language of a pattern

The matcher keeps only the last `any` that it met. `Cursor.Open` says what a cursor still has to
try: to go on from where it stands, or to let the last `any` take in at least one more character.
A round changes neither (`Cursor.open_step`).

Forgetting the earlier `any` is sound because of `Cursor.Steady`: between the last `any` and the
next token there is no other one, so that the tokens there take in as many characters as there are
of them, whichever they are. Whatever an earlier place of the last `any` could achieve, the `any`
that is met now achieves as well.
-/

namespace FeedArchive.Pattern

open Text (fold)

/-- What is left from a token and a character on. -/
def Left (ts : Array Token) (text : Array Char) (token char : Nat) : Prop :=
  Accepts (ts.toList.drop token) (text.toList.drop char)

/-- The tokens since the last `any` have taken in one character each. -/
def Cursor.Steady (ts : Array Token) (c : Cursor) : Prop :=
  ∀ s ∈ c.star, s.2 + (c.token - (s.1 + 1)) = c.char ∧
    ∀ i, s.1 < i → i < c.token → ts[i]? ≠ some .any

/-- What a run may still achieve: to go on from the cursor, or from its last `any` with at least
one more character. -/
def Cursor.Open (ts : Array Token) (text : Array Char) (c : Cursor) : Prop :=
  Left ts text c.token c.char ∨ ∃ s ∈ c.star, Left ts text s.1 (s.2 + 1)

variable {ts : Array Token} {text : Array Char}

/-! ## What is left, by the next token -/

/-- The tokens from a position on are the one there and those behind it. -/
theorem drop_eq_cons {i : Nat} {a : Token} (h : ts[i]? = some a) :
    ts.toList.drop i = a :: ts.toList.drop (i + 1) := by
  obtain ⟨hi, rfl⟩ := Array.getElem?_eq_some_iff.mp h
  exact List.drop_eq_getElem_cons hi

/-- The text from a position on is the character there and what is behind it. -/
theorem text_drop_eq_cons {j : Nat} (h : j < text.size) :
    text.toList.drop j = text[j] :: text.toList.drop (j + 1) :=
  List.drop_eq_getElem_cons h

/-- An `any` takes in nothing, or one character more. -/
theorem left_any {i : Nat} (j : Nat) (h : ts[i]? = some .any) :
    Left ts text i j ↔ Left ts text (i + 1) j ∨ Left ts text i (j + 1) := by
  by_cases hj : j < text.size
  · simp only [Left]
    rw [drop_eq_cons h, accepts_any_iff, text_drop_eq_cons hj]
    simp
  · -- behind the end of the text it makes no difference where one stands
    have hend : ∀ k, text.size ≤ k → text.toList.drop k = [] := fun k hk =>
      List.drop_eq_nil_of_le hk
    simp only [Left]
    rw [drop_eq_cons h, accepts_any_iff, hend j (by omega), hend (j + 1) (by omega)]
    simp only [accepts_any_iff (ts.toList.drop (i + 1)) []]
    simp

/-- A `one` takes in any character. -/
theorem left_one {i j : Nat} (h : ts[i]? = some .one) (hj : j < text.size) :
    Left ts text i j ↔ Left ts text (i + 1) (j + 1) := by
  simp only [Left]
  rw [drop_eq_cons h, text_drop_eq_cons hj]
  simp [Accepts]

/-- A literal takes in its character. -/
theorem left_literal {i j : Nat} {l : Char} (h : ts[i]? = some (.literal l)) (hj : j < text.size) :
    Left ts text i j ↔ text[j]? = some l ∧ Left ts text (i + 1) (j + 1) := by
  simp only [Left]
  rw [drop_eq_cons h, text_drop_eq_cons hj, Array.getElem?_eq_getElem hj]
  simp [Accepts]

/-- Where there is no token left, characters are too many. -/
theorem not_left_of_none {i j : Nat} (h : ts[i]? = none) (hj : j < text.size) :
    ¬ Left ts text i j := by
  have hi : ts.toList.drop i = [] := List.drop_eq_nil_of_le (Array.getElem?_eq_none_iff.mp h)
  simp only [Left]
  rw [hi, text_drop_eq_cons hj]
  simp

/-- Where there is no character left, the tokens left over have to take in nothing. -/
theorem left_end (i : Nat) {j : Nat} (hj : text.size ≤ j) :
    Left ts text i j ↔ (ts.toList.drop i).all (· == .any) = true := by
  have hnil : text.toList.drop j = [] := List.drop_eq_nil_of_le hj
  simp only [Left]
  rw [hnil, accepts_empty_iff]
  simp

/-! ## The last `any` is enough -/

/-- The tokens between the last `any` and the next token. -/
theorem Cursor.Steady.exists_segment {c : Cursor} (hs : c.Steady ts) (hw : c.Within ts text)
    {s : Nat × Nat} (hm : s ∈ c.star) :
    ∃ seg : List Token, ts.toList.drop s.1 = .any :: (seg ++ ts.toList.drop c.token) ∧
      (∀ a ∈ seg, a ≠ .any) ∧ s.2 + seg.length = c.char := by
  obtain ⟨hchar, hfixed⟩ := hs s hm
  obtain ⟨hany, hlt, -⟩ := hw.star_any s hm
  have htoken : c.token ≤ ts.size := hw.token_le
  refine ⟨(ts.toList.drop (s.1 + 1)).take (c.token - (s.1 + 1)), ?_, ?_, ?_⟩
  · have hdrop : ts.toList.drop c.token
        = (ts.toList.drop (s.1 + 1)).drop (c.token - (s.1 + 1)) := by
      rw [List.drop_drop]
      congr 1
      omega
    rw [drop_eq_cons hany, hdrop, List.take_append_drop]
  · rintro a ha rfl
    obtain ⟨i, hi, hai⟩ := List.mem_take_iff_getElem.mp ha
    rw [List.length_drop, Array.length_toList] at hi
    rw [List.getElem_drop] at hai
    refine hfixed (s.1 + 1 + i) (by omega) (by omega) ?_
    rw [← hai, Array.getElem?_eq_some_iff]
    exact ⟨by omega, rfl⟩
  · rw [List.length_take, List.length_drop, Array.length_toList]
    omega

/-- A later start of the last `any` leads to the next token with at least as many characters taken
in. -/
theorem Cursor.Steady.left_star {c : Cursor} (hs : c.Steady ts) (hw : c.Within ts text)
    {s : Nat × Nat} (hm : s ∈ c.star) (h : Left ts text s.1 (s.2 + 1)) :
    ∃ j, c.char ≤ j ∧ Left ts text c.token j := by
  obtain ⟨seg, hseg, hne, hlen⟩ := hs.exists_segment hw hm
  simp only [Left] at h
  rw [hseg] at h
  obtain ⟨front, u, hu, hrest⟩ := h
  obtain ⟨-, hleft⟩ := accepts_fixed_append hne hrest
  have hdrop : u = text.toList.drop (s.2 + 1 + front.length) := by
    rw [← List.drop_drop, hu, List.drop_left]
  refine ⟨s.2 + 1 + front.length + seg.length, by omega, ?_⟩
  rw [hdrop, List.drop_drop] at hleft
  exact hleft

/-! ## One round -/

/-- What a round can do: remember an `any`, take in a character, or go back to the last `any`,
which needs one. -/
theorem Cursor.step_cases (ts : Array Token) {c : Cursor} (hc : c.char < text.size) :
    (ts[c.token]? = some .any ∧
      c.step ts text = some ⟨c.token + 1, c.char, some (c.token, c.char)⟩) ∨
    (ts[c.token]? ≠ some .any ∧
      (Left ts text c.token c.char ↔ Left ts text (c.token + 1) (c.char + 1)) ∧
      c.step ts text = some ⟨c.token + 1, c.char + 1, c.star⟩) ∨
    (¬ Left ts text c.token c.char ∧
      c.step ts text = c.star.map fun s => ⟨s.1 + 1, s.2 + 1, some (s.1, s.2 + 1)⟩) := by
  cases htoken : ts[c.token]? with
  | none =>
    refine Or.inr (Or.inr ⟨not_left_of_none htoken hc, ?_⟩)
    simp only [Cursor.step, htoken]
  | some a =>
    cases a with
    | any =>
      refine Or.inl ⟨rfl, ?_⟩
      simp only [Cursor.step, htoken]
    | one =>
      refine Or.inr (Or.inl ⟨by simp, left_one htoken hc, ?_⟩)
      simp only [Cursor.step, htoken]
    | literal l =>
      by_cases hl : text[c.char]? = some l
      · refine Or.inr (Or.inl ⟨by simp, ?_, ?_⟩)
        · rw [left_literal htoken hc]
          exact and_iff_right hl
        · simp only [Cursor.step, htoken, if_pos hl]
      · refine Or.inr (Or.inr ⟨?_, ?_⟩)
        · rw [left_literal htoken hc]
          exact fun h => hl h.1
        · simp only [Cursor.step, htoken, if_neg hl]

/-- Right behind an `any` there are no tokens since. -/
theorem Cursor.steady_behind (token char : Nat) :
    Cursor.Steady ts ⟨token + 1, char, some (token, char)⟩ := by
  rintro s ⟨rfl⟩
  refine ⟨by simp, fun i hi hi' => ?_⟩
  simp only at hi hi'
  omega

/-- A run is steady at its start. -/
theorem Cursor.start_steady (ts : Array Token) : Cursor.start.Steady ts := by
  rintro s ⟨⟩

/-- A round keeps a cursor steady. -/
theorem Cursor.Steady.step {c d : Cursor} (hs : c.Steady ts) (hw : c.Within ts text)
    (hc : c.char < text.size) (hd : c.step ts text = some d) : d.Steady ts := by
  rcases Cursor.step_cases ts hc with ⟨-, hstep⟩ | ⟨hne, -, hstep⟩ | ⟨-, hstep⟩
  · obtain rfl := Option.some.inj (hstep.symm.trans hd)
    exact steady_behind c.token c.char
  · obtain rfl := Option.some.inj (hstep.symm.trans hd)
    intro s hm
    obtain ⟨hchar, hfixed⟩ := hs s hm
    obtain ⟨-, hlt, -⟩ := hw.star_any s hm
    refine ⟨by simp only; omega, fun i hi hi' => ?_⟩
    rcases Nat.lt_succ_iff_lt_or_eq.mp hi' with h | rfl
    · exact hfixed i hi h
    · exact hne
  · obtain ⟨s, -, rfl⟩ := Option.map_eq_some_iff.mp (hstep.symm.trans hd)
    exact steady_behind s.1 (s.2 + 1)

/-- A round changes nothing about what may be achieved. -/
theorem Cursor.open_step {c d : Cursor} (hs : c.Steady ts) (hw : c.Within ts text)
    (hc : c.char < text.size) (hd : c.step ts text = some d) :
    c.Open ts text ↔ d.Open ts text := by
  rcases Cursor.step_cases ts hc with ⟨hany, hstep⟩ | ⟨-, hleft, hstep⟩ | ⟨hno, hstep⟩
  · -- the new `any` can do what the last one could
    obtain rfl := Option.some.inj (hstep.symm.trans hd)
    have hstar : (∃ s ∈ c.star, Left ts text s.1 (s.2 + 1)) → Left ts text c.token c.char := by
      rintro ⟨s, hm, h⟩
      obtain ⟨j, hj, hleft⟩ := hs.left_star hw hm h
      simp only [Left] at hleft ⊢
      rw [drop_eq_cons hany] at hleft ⊢
      rw [← accepts_any_any]
      refine accepts_any_of_drop (j - c.char) ?_
      rw [List.drop_drop, Nat.add_sub_of_le hj]
      exact hleft
    simp only [Cursor.Open, Option.mem_some_iff, exists_eq_left']
    rw [or_iff_left_of_imp hstar]
    exact left_any c.char hany
  · obtain rfl := Option.some.inj (hstep.symm.trans hd)
    simp only [Cursor.Open, hleft]
  · obtain ⟨s, hm, rfl⟩ := Option.map_eq_some_iff.mp (hstep.symm.trans hd)
    simp only [Cursor.Open, or_iff_right hno, hm, Option.mem_some_iff, exists_eq_left']
    exact left_any (s.2 + 1) (hw.star_any s hm).1

/-- Where a run breaks off, nothing can be achieved. -/
theorem Cursor.not_open_of_step_eq_none {c : Cursor} (hc : c.char < text.size)
    (hd : c.step ts text = none) : ¬ c.Open ts text := by
  rcases Cursor.step_cases ts hc with ⟨-, hstep⟩ | ⟨-, -, hstep⟩ | ⟨hno, hstep⟩
  · simp [hstep] at hd
  · simp [hstep] at hd
  · have hnone : c.star = none := Option.map_eq_none_iff.mp (hstep.symm.trans hd)
    simp [Cursor.Open, hno, hnone]

/-- At the end of the text, only what is left from the cursor on counts. -/
theorem Cursor.open_end {c : Cursor} (hs : c.Steady ts) (hw : c.Within ts text)
    (hc : text.size ≤ c.char) :
    c.Open ts text ↔ (ts.toList.drop c.token).all (· == .any) = true := by
  have hstar : (∃ s ∈ c.star, Left ts text s.1 (s.2 + 1)) → Left ts text c.token c.char := by
    rintro ⟨s, hm, h⟩
    obtain ⟨j, hj, hleft⟩ := hs.left_star hw hm h
    rw [left_end _ (hc.trans hj)] at hleft
    exact (left_end _ hc).mpr hleft
  rw [Cursor.Open, or_iff_left_of_imp hstar, left_end _ hc]

/-! ## The whole run -/

/-- A run from a cursor finds out what may be achieved from it. -/
theorem Cursor.run_iff (c : Cursor) (hw : c.Within ts text) (hs : c.Steady ts) :
    c.run ts text hw = true ↔ c.Open ts text := by
  fun_induction Cursor.run ts text c hw with
  | case1 c hw hc d hd ih =>
    rw [ih (hs.step hw hc hd), Cursor.open_step hs hw hc hd]
  | case2 c hw hc hd =>
    simp [Cursor.not_open_of_step_eq_none hc hd]
  | case3 c hw hc =>
    rw [Cursor.open_end hs hw (Nat.le_of_not_lt hc)]

/-- A text matches if the tokens stand for its folding. -/
theorem Like.matches_iff_accepts (p : Like) (t : List Char) :
    p.matches t = true ↔ Accepts p.tokens (t.map fold) := by
  rw [Like.matches, Cursor.run_iff _ _ (Cursor.start_steady _)]
  simp [Cursor.Open, Cursor.start, Left]

/-- A pattern that has been made ready stands for the same texts as its tokens. -/
theorem Like.matches_compile (p t : List Char) :
    (Like.compile p).matches t = true ↔ Accepts (Pattern.tokens p) (t.map fold) := by
  rw [Like.matches_iff_accepts, Like.compile, accepts_collapse]

/-- The texts that match a pattern are those of its language. -/
theorem Like.matches_compile_iff_mem_language (p t : List Char) :
    (Like.compile p).matches t = true ↔ t ∈ language p := by
  rw [Like.matches_compile, mem_language_iff]

end FeedArchive.Pattern
