import FeedArchive.Proofs.Text.Words
import Mathlib.Data.List.Chain

/-!
# Words and the white space around them

Every text can be taken apart into words and the white space around them in exactly one way
(`existsUnique_spacing`). The words are those that splitting finds, whatever white space stands
between them (`Spacing.words_text`).
-/

namespace FeedArchive.Text

/-- A word with the white space behind it, if there is any. -/
@[ext]
structure Piece where
  word : List Char
  gap : List Char
  ne_nil : word ≠ []
  free : ∀ c ∈ word, isBlank c = false
  blank : ∀ c ∈ gap, isBlank c = true

/-- The text of words and the white space behind them. -/
def Piece.textOf (pieces : List Piece) : List Char :=
  pieces.flatMap fun p => p.word ++ p.gap

/-- A text taken apart into the white space at its start, if there is any, and its words. No two
words stand side by side without white space between them. -/
@[ext]
structure Spacing where
  start : List Char
  pieces : List Piece
  blank : ∀ c ∈ start, isBlank c = true
  apart : pieces.IsChain fun p _ => p.gap ≠ []

/-- The text that is taken apart. -/
def Spacing.text (s : Spacing) : List Char := s.start ++ Piece.textOf s.pieces

/-- The words of the text, in order. -/
def Spacing.words (s : Spacing) : List (List Char) := s.pieces.map Piece.word

/-! ## Where a run ends -/

/-- A run that is followed by a character of another kind is taken as a whole. -/
theorem takeWhile_run {p : Char → Bool} {run rest : List Char} (hrun : ∀ c ∈ run, p c = true)
    (hrest : ∀ c ∈ rest.head?, p c = false) : (run ++ rest).takeWhile p = run := by
  rw [List.takeWhile_append_of_pos hrun]
  cases rest with
  | nil => exact List.append_nil run
  | cons c rest =>
    rw [List.takeWhile_cons_of_neg (by simpa using hrest c rfl), List.append_nil]

/-- A text begins with a run in one way only, if what follows the run does not go on with it. -/
theorem append_inj_of_run {p : Char → Bool} {run rest run' rest' : List Char}
    (h : run ++ rest = run' ++ rest') (hrun : ∀ c ∈ run, p c = true)
    (hrest : ∀ c ∈ rest.head?, p c = false) (hrun' : ∀ c ∈ run', p c = true)
    (hrest' : ∀ c ∈ rest'.head?, p c = false) : run = run' ∧ rest = rest' := by
  have hsame : run = run' := by rw [← takeWhile_run hrun hrest, h, takeWhile_run hrun' hrest']
  subst hsame
  exact ⟨rfl, List.append_cancel_left h⟩

namespace Piece

variable {p : Piece} {ps : List Piece}

/-- The text of pieces is that of the first one and then that of the others. -/
theorem textOf_cons (p : Piece) (ps : List Piece) :
    textOf (p :: ps) = p.word ++ (p.gap ++ textOf ps) := by
  rw [textOf, List.flatMap_cons, List.append_assoc]
  rfl

/-- What is taken apart into words begins with the first of them. -/
theorem head?_textOf (ps : List Piece) : ∀ c ∈ (textOf ps).head?, isBlank c = false := by
  intro c hc
  cases ps with
  | nil => cases hc
  | cons p ps =>
    rw [textOf_cons, List.head?_append_of_ne_nil _ p.ne_nil] at hc
    exact p.free c (List.mem_of_mem_head? hc)

/-- White space follows a word, unless nothing does. -/
theorem head?_gap (h : (p :: ps).IsChain fun p _ => p.gap ≠ []) :
    ∀ c ∈ (p.gap ++ textOf ps).head?, isBlank c = true := by
  intro c hc
  by_cases hgap : p.gap = []
  · -- this is the last word
    cases ps with
    | nil =>
      rw [hgap] at hc
      cases hc
    | cons q ps => exact absurd hgap (List.isChain_cons_cons.mp h).1
  · rw [List.head?_append_of_ne_nil _ hgap] at hc
    exact p.blank c (List.mem_of_mem_head? hc)

/-- A text that begins with a word is taken apart in one way only. -/
theorem textOf_inj {qs : List Piece} (hps : ps.IsChain fun p _ => p.gap ≠ [])
    (hqs : qs.IsChain fun p _ => p.gap ≠ []) (h : textOf ps = textOf qs) : ps = qs := by
  have hne : ∀ (p : Piece) (ps : List Piece), textOf (p :: ps) ≠ [] := by
    intro p ps
    rw [textOf_cons]
    exact List.append_ne_nil_of_left_ne_nil p.ne_nil _
  induction ps generalizing qs with
  | nil =>
    cases qs with
    | nil => rfl
    | cons q qs => exact absurd h.symm (hne q qs)
  | cons p ps ih =>
    cases qs with
    | nil => exact absurd h (hne p ps)
    | cons q qs =>
      -- first the word is split off, and then the white space behind it
      rw [textOf_cons, textOf_cons] at h
      obtain ⟨hword, h⟩ := append_inj_of_run (p := (!isBlank ·)) h
        (by simpa using p.free) (by simpa using head?_gap hps)
        (by simpa using q.free) (by simpa using head?_gap hqs)
      obtain ⟨hgap, h⟩ := append_inj_of_run h p.blank (head?_textOf ps) q.blank (head?_textOf qs)
      rw [Piece.ext hword hgap, ih (List.isChain_cons.mp hps).2 (List.isChain_cons.mp hqs).2 h]

end Piece

namespace Spacing

/-- A text is taken apart in one way only. -/
theorem text_inj {s t : Spacing} (h : s.text = t.text) : s = t := by
  obtain ⟨hstart, hpieces⟩ := append_inj_of_run h s.blank (Piece.head?_textOf s.pieces) t.blank
    (Piece.head?_textOf t.pieces)
  exact Spacing.ext hstart (Piece.textOf_inj s.apart t.apart hpieces)

end Spacing

/-- Every text can be taken apart. -/
theorem exists_spacing (cs : List Char) : ∃ s : Spacing, s.text = cs := by
  -- a character goes in front of the white space or of the first word, or it is a word of its own
  induction cs with
  | nil => exact ⟨⟨[], [], List.forall_mem_nil _, .nil⟩, rfl⟩
  | cons c cs ih =>
    obtain ⟨⟨start, pieces, hblank, hapart⟩, rfl⟩ := ih
    by_cases hc : isBlank c = true
    · exact ⟨⟨c :: start, pieces, List.forall_mem_cons.mpr ⟨hc, hblank⟩, hapart⟩, rfl⟩
    rw [Bool.not_eq_true] at hc
    by_cases hword : start = [] ∧ pieces ≠ []
    · obtain ⟨rfl, hpieces⟩ := hword
      obtain ⟨p, ps, rfl⟩ := List.exists_cons_of_ne_nil hpieces
      let longer : Piece := ⟨c :: p.word, p.gap, List.cons_ne_nil _ _,
        List.forall_mem_cons.mpr ⟨hc, p.free⟩, p.blank⟩
      refine ⟨⟨[], longer :: ps, List.forall_mem_nil _, ?_⟩, ?_⟩
      · rw [List.isChain_cons] at hapart ⊢
        exact hapart
      · rfl
    · let alone : Piece := ⟨[c], start, List.cons_ne_nil _ _,
        List.forall_mem_singleton.mpr hc, hblank⟩
      refine ⟨⟨[], alone :: pieces, List.forall_mem_nil _, ?_⟩, ?_⟩
      · refine List.isChain_cons.mpr ⟨fun q hq hstart => hword ⟨hstart, ?_⟩, hapart⟩
        rintro rfl
        cases hq
      · rfl

/-- There is exactly one way to take a text apart into words and the white space around them. -/
theorem existsUnique_spacing (cs : List Char) : ∃! s : Spacing, s.text = cs := by
  obtain ⟨s, hs⟩ := exists_spacing cs
  exact ⟨s, hs, fun t ht => Spacing.text_inj (ht.trans hs.symm)⟩

/-! ## Splitting -/

/-- White space at the start is passed over. -/
theorem words_blank_append {gap : List Char} (h : ∀ c ∈ gap, isBlank c = true) (cs : List Char) :
    words (gap ++ cs) = words cs := by
  induction gap with
  | nil => rfl
  | cons c gap ih =>
    obtain ⟨hc, hgap⟩ := List.forall_mem_cons.mp h
    rw [List.cons_append, words_cons_blank hc, ih hgap]

/-- The words of pieces with white space between them are those of the pieces. -/
theorem Piece.words_textOf {ps : List Piece} (h : ps.IsChain fun p _ => p.gap ≠ []) :
    Text.words (textOf ps) = ps.map Piece.word := by
  induction ps with
  | nil => rfl
  | cons p ps ih =>
    rw [textOf_cons, words_append_of_blank_head (head?_gap h), words_of_free p.ne_nil p.free,
      words_blank_append p.blank, ih (List.isChain_cons.mp h).2]
    rfl

/-- Splitting finds the words, whatever white space stands around them. -/
theorem Spacing.words_text (s : Spacing) : Text.words s.text = s.words := by
  rw [text, words_blank_append s.blank, Piece.words_textOf s.apart]
  rfl

end FeedArchive.Text
