import FeedArchive.Proofs.Text.Spacing
import Mathlib.Data.List.DropRight

/-!
# Trimming

`Trims` says what is left of a text without the white space at its ends, by what stands around it:
the text is taken apart into white space, what is left and white space again, and what is left
neither begins nor ends with white space. There is exactly one such part, and trimming finds it
(`trims_iff`).
-/

namespace FeedArchive.Text

/-- The second text is the first one without the white space at its ends. -/
structure Trims (text inner : List Char) : Prop where
  head : ∀ c ∈ inner.head?, isBlank c = false
  last : ∀ c ∈ inner.getLast?, isBlank c = false
  around : ∃ before after, text = before ++ inner ++ after ∧
    (∀ c ∈ before, isBlank c = true) ∧ ∀ c ∈ after, isBlank c = true

variable {text inner : List Char}

/-- A run that is followed by a character of another kind is dropped as a whole. -/
theorem dropWhile_run {p : Char → Bool} {run rest : List Char} (hrun : ∀ c ∈ run, p c = true)
    (hrest : ∀ c ∈ rest.head?, p c = false) : (run ++ rest).dropWhile p = rest := by
  have hsplit := List.takeWhile_append_dropWhile (p := p) (l := run ++ rest)
  rw [takeWhile_run hrun hrest] at hsplit
  exact List.append_cancel_left hsplit

/-- Trimming leaves out white space, and as much of it as there is at the ends. -/
theorem trims_trim (text : List Char) : Trims text (trim text) := by
  have htrim : trim text = (text.dropWhile isBlank).rdropWhile isBlank := rfl
  refine ⟨?_, ?_, ?_⟩
  · -- what is left at the end begins as it did before the end was trimmed
    intro c hc
    have hprefix : trim text <+: text.dropWhile isBlank := by
      rw [htrim]
      exact List.rdropWhile_prefix isBlank _
    obtain ⟨rest, hrest⟩ := hprefix
    have hne : trim text ≠ [] := by
      intro hnil
      simp [hnil] at hc
    have hhead : (text.dropWhile isBlank).head? = some c := by
      rw [← hrest, List.head?_append_of_ne_nil _ hne]
      exact hc
    have hnot := List.head?_dropWhile_not isBlank text
    simpa [hhead] using hnot
  · intro c hc
    rw [htrim] at hc
    obtain ⟨hne, rfl⟩ := List.mem_getLast?_eq_getLast hc
    simpa using List.rdropWhile_last_not isBlank _ hne
  · refine ⟨text.takeWhile isBlank, (text.dropWhile isBlank).rtakeWhile isBlank, ?_, ?_, ?_⟩
    · rw [htrim, List.append_assoc, List.rdropWhile_append_rtakeWhile,
        List.takeWhile_append_dropWhile]
    · exact fun c hc => List.mem_takeWhile_imp hc
    · exact fun c hc => List.mem_rtakeWhile_imp hc

/-- There is only one part that is left. -/
theorem Trims.trim_eq (h : Trims text inner) : trim text = inner := by
  obtain ⟨before, after, rfl, hbefore, hafter⟩ := h.around
  by_cases hnil : inner = []
  · subst hnil
    have hall : ∀ c ∈ before ++ [] ++ after, isBlank c = true := by
      intro c hc
      simp only [List.append_nil, List.mem_append] at hc
      rcases hc with hc | hc
      · exact hbefore c hc
      · exact hafter c hc
    rw [trim, trimStart, List.dropWhile_eq_nil_iff.mpr hall]
    rfl
  · have hhead : ∀ c ∈ (inner ++ after).head?, isBlank c = false := by
      rw [List.head?_append_of_ne_nil _ hnil]
      exact h.head
    have hlast : ∀ c ∈ inner.reverse.head?, isBlank c = false := by
      rw [List.head?_reverse]
      exact h.last
    have hafter' : ∀ c ∈ after.reverse, isBlank c = true := fun c hc =>
      hafter c (List.mem_reverse.mp hc)
    rw [trim, trimStart, List.append_assoc, dropWhile_run hbefore hhead, trimEnd,
      List.reverse_append, dropWhile_run hafter' hlast, List.reverse_reverse]

/-- Trimming finds what is left. -/
theorem trims_iff : Trims text inner ↔ trim text = inner := by
  constructor
  · exact Trims.trim_eq
  · rintro rfl
    exact trims_trim text

/-- Nothing is left of white space. -/
theorem trims_nil_iff : Trims text [] ↔ ∀ c ∈ text, isBlank c = true := by
  constructor
  · intro h c hc
    obtain ⟨before, after, rfl, hbefore, hafter⟩ := h.around
    simp only [List.append_nil, List.mem_append] at hc
    rcases hc with hc | hc
    · exact hbefore c hc
    · exact hafter c hc
  · intro h
    exact ⟨by simp, by simp, text, [], by simp, h, by simp⟩

/-- The same for strings. -/
theorem trims_trimBlank_iff {s t : String} : Trims s.toList t.toList ↔ s.trimBlank = t := by
  rw [trims_iff, String.trimBlank]
  constructor
  · intro h
    rw [h, String.ofList_toList]
  · rintro rfl
    rw [String.toList_ofList]

end FeedArchive.Text
