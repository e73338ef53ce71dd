import FeedArchive.Text.Blank
import Mathlib.Data.List.Basic
import Mathlib.Data.List.TakeWhile

/-!
# The words of a text

`IsWord` says what a word of a text is, without any splitting: a run free of white space that white
space or an end of the text bounds on both sides. `mem_words_iff` says that the words found by
splitting are these, and `words_append` and `words_intercalate` that splitting goes piece by piece.
-/

namespace FeedArchive.Text

/-- A non-empty run free of white space, which white space or an end of the text bounds on both
sides. -/
structure IsWord (text word : List Char) : Prop where
  ne_nil : word ≠ []
  free : ∀ c ∈ word, isBlank c = false
  bounded : ∃ before after, text = before ++ word ++ after ∧
    (∀ c ∈ before.getLast?, isBlank c = true) ∧ ∀ c ∈ after.head?, isBlank c = true

/-! ## Splitting -/

/-- The empty text has no words. -/
@[simp] theorem words_nil : words [] = [] := rfl

/-- An empty run is no word. -/
theorem pushWord_nil (others : List (List Char)) : pushWord [] others = others := rfl

/-- A run that is not empty is a word. -/
theorem pushWord_of_ne_nil {word : List Char} (h : word ≠ []) (others : List (List Char)) :
    pushWord word others = word :: others := by
  rw [pushWord, if_neg (by simpa using h)]

/-- A word in front of words is in front of those behind them. -/
theorem pushWord_append (word : List Char) (others more : List (List Char)) :
    pushWord word others ++ more = pushWord word (others ++ more) := by
  by_cases h : word = []
  · subst h
    rfl
  · rw [pushWord_of_ne_nil h, pushWord_of_ne_nil h, List.cons_append]

/-- White space at the start is passed over. -/
theorem words_cons_blank {c : Char} (hc : isBlank c = true) (cs : List Char) :
    words (c :: cs) = words cs := by
  simp only [words, leadingWord, hc, if_true, pushWord_nil]

/-- The run at the start, and the words of what comes after it. -/
theorem leadingWord_eq (cs : List Char) :
    leadingWord cs
      = (cs.takeWhile (!isBlank ·), words (cs.dropWhile (!isBlank ·))) := by
  induction cs with
  | nil => rfl
  | cons c cs ih =>
    by_cases hc : isBlank c = true
    · rw [List.takeWhile_cons_of_neg (by simpa using hc),
        List.dropWhile_cons_of_neg (by simpa using hc), words_cons_blank hc, leadingWord]
      simp only [hc, if_true]
      rfl
    · rw [List.takeWhile_cons_of_pos (by simpa using hc),
        List.dropWhile_cons_of_pos (by simpa using hc), leadingWord, ih]
      simp only [if_neg hc]

/-- The first word is the run at the start, unless that is empty. -/
theorem words_eq (cs : List Char) :
    words cs = pushWord (cs.takeWhile (!isBlank ·)) (words (cs.dropWhile (!isBlank ·))) := by
  rw [words, leadingWord_eq]

/-- A character that is not blank begins a word, which goes on up to the next blank. -/
theorem words_cons_of_not_blank {c : Char} (hc : isBlank c = false) (cs : List Char) :
    words (c :: cs)
      = (c :: cs.takeWhile (!isBlank ·)) :: words (cs.dropWhile (!isBlank ·)) := by
  rw [words_eq, List.takeWhile_cons_of_pos (by simpa using hc),
    List.dropWhile_cons_of_pos (by simpa using hc), pushWord_of_ne_nil (by simp)]

/-- A run free of white space is a word. -/
theorem words_of_free {w : List Char} (hne : w ≠ []) (hfree : ∀ c ∈ w, isBlank c = false) :
    words w = [w] := by
  have hall : ∀ c ∈ w, (!isBlank c) = true := fun c hc => by simp [hfree c hc]
  rw [words_eq, List.takeWhile_eq_self_iff.mpr hall, List.dropWhile_eq_nil_iff.mpr hall,
    pushWord_of_ne_nil hne, words_nil]

/-! ## Piece by piece -/

/-- What follows does not touch the words in front of it if it begins with white space. -/
theorem leadingWord_append {ys : List Char} (h : ∀ c ∈ ys.head?, isBlank c = true)
    (xs : List Char) :
    leadingWord (xs ++ ys) = ((leadingWord xs).1, (leadingWord xs).2 ++ words ys) := by
  induction xs with
  | nil =>
    cases ys with
    | nil => rfl
    | cons c ys =>
      have hc : isBlank c = true := h c rfl
      rw [words_cons_blank hc]
      simp only [List.nil_append, leadingWord, hc, if_true]
      rfl
  | cons c xs ih =>
    rw [List.cons_append, leadingWord, leadingWord, ih]
    by_cases hc : isBlank c = true
    · simp only [hc, if_true, pushWord_append]
    · simp only [if_neg hc]

/-- Where a blank follows, the words of two texts are those of the one and then those of the
other. -/
theorem words_append_of_blank_head {ys : List Char} (h : ∀ c ∈ ys.head?, isBlank c = true)
    (xs : List Char) : words (xs ++ ys) = words xs ++ words ys := by
  rw [words, leadingWord_append h]
  exact (pushWord_append _ _ _).symm

/-- Two texts have their words one after the other if white space bounds one of them. -/
theorem words_append (xs ys : List Char)
    (h : (∀ c ∈ xs.getLast?, isBlank c = true) ∨ ∀ c ∈ ys.head?, isBlank c = true) :
    words (xs ++ ys) = words xs ++ words ys := by
  rcases h with h | h
  · rcases List.eq_nil_or_concat xs with rfl | ⟨zs, b, rfl⟩
    · rfl
    · have hb : isBlank b = true := h b (by simp)
      have hhead : ∀ cs : List Char, ∀ c ∈ (b :: cs).head?, isBlank c = true := by
        rintro cs c ⟨rfl⟩
        exact hb
      rw [List.concat_eq_append, words_append_of_blank_head (hhead []) zs, List.append_assoc,
        List.singleton_append, words_append_of_blank_head (hhead ys) zs, words_cons_blank hb,
        words_cons_blank hb, words_nil, List.append_nil]
  · exact words_append_of_blank_head h xs

/-- Texts joined by white space have their words one after the other. -/
theorem words_intercalate {c : Char} (hc : isBlank c = true) (texts : List (List Char)) :
    words ([c].intercalate texts) = texts.flatMap words := by
  induction texts with
  | nil => rfl
  | cons cs rest ih =>
    cases rest with
    | nil => rw [List.intercalate_singleton, List.flatMap_cons, List.flatMap_nil, List.append_nil]
    | cons ds rest =>
      have hhead : ∀ b ∈ ([c] ++ [c].intercalate (ds :: rest)).head?, isBlank b = true := by
        rintro b ⟨rfl⟩
        exact hc
      rw [List.intercalate_cons_cons, List.append_assoc, words_append_of_blank_head hhead,
        List.singleton_append, words_cons_blank hc, ih]
      rfl

/-! ## The words found are the words -/

/-- Words of what comes after a bound are words of the whole. -/
theorem IsWord.append_left {text word : List Char} (h : IsWord text word) (front : List Char)
    (hbound : (∀ c ∈ front.getLast?, isBlank c = true) ∨ ∀ c ∈ text.head?, isBlank c = true) :
    IsWord (front ++ text) word := by
  obtain ⟨before, after, htext, hbefore, hafter⟩ := h.bounded
  refine ⟨h.ne_nil, h.free, front ++ before, after, by rw [htext]; simp, ?_, hafter⟩
  cases before with
  | cons b before =>
    rw [List.getLast?_append_of_ne_nil _ (by simp)]
    exact hbefore
  | nil =>
    rw [List.append_nil]
    rcases hbound with hfront | hhead
    · exact hfront
    · -- the text begins with the word, which white space cannot do
      obtain ⟨c, w, rfl⟩ := List.exists_cons_of_ne_nil h.ne_nil
      have hc : isBlank c = true := hhead c (by simp [htext])
      rw [h.free c List.mem_cons_self] at hc
      exact absurd hc (by decide)

/-- What follows a word begins with a blank, if anything follows. -/
theorem head?_dropWhile_blank (cs : List Char) :
    ∀ c ∈ (cs.dropWhile (!isBlank ·)).head?, isBlank c = true := by
  intro c hc
  have := List.head?_dropWhile_not (!isBlank ·) cs
  rw [Option.mem_def.mp hc] at this
  simpa using this

/-- Each of the words of a text is a word in it. -/
theorem isWord_of_mem_words (cs : List Char) {w : List Char} (hw : w ∈ words cs) :
    IsWord cs w := by
  -- a run is split off as a whole, so that structural induction would not do
  induction hn : cs.length using Nat.strongRecOn generalizing cs with
  | ind n ih =>
    subst hn
    cases cs with
    | nil => simp at hw
    | cons c cs =>
      by_cases hc : isBlank c = true
      · rw [words_cons_blank hc] at hw
        have hword := ih cs.length (by simp) cs hw rfl
        refine hword.append_left [c] (Or.inl ?_)
        rintro d ⟨rfl⟩
        exact hc
      · rw [Bool.not_eq_true] at hc
        have hsplit : c :: cs
            = (c :: cs.takeWhile (!isBlank ·)) ++ cs.dropWhile (!isBlank ·) := by
          rw [List.cons_append, List.takeWhile_append_dropWhile]
        rw [words_cons_of_not_blank hc, List.mem_cons] at hw
        rcases hw with rfl | hw
        · refine ⟨by simp, ?_, [], cs.dropWhile (!isBlank ·), hsplit, by simp,
            head?_dropWhile_blank cs⟩
          intro d hd
          rcases List.mem_cons.mp hd with rfl | hd
          · exact hc
          · simpa using List.mem_takeWhile_imp hd
        · have hlen : (cs.dropWhile (!isBlank ·)).length < (c :: cs).length :=
            Nat.lt_succ_of_le (List.dropWhile_sublist _).length_le
          have hword := ih _ hlen _ hw rfl
          rw [hsplit]
          exact hword.append_left _ (Or.inr (head?_dropWhile_blank cs))

/-- The words that splitting finds are those of the text. -/
theorem mem_words_iff (cs w : List Char) : w ∈ words cs ↔ IsWord cs w := by
  constructor
  · exact isWord_of_mem_words cs
  · rintro ⟨hne, hfree, before, after, rfl, hbefore, hafter⟩
    rw [words_append_of_blank_head hafter, words_append _ _ (Or.inl hbefore),
      words_of_free hne hfree]
    simp

end FeedArchive.Text
