/-!
# Replacing a character in a text

`String.replace` searches a text from position to position. `toList_replace` says what comes of it
in terms of characters: the replacement stands where the character stood, and everything else is as
it was. The search is known by its steps, of which each is one character found or a stretch in which
there is none (`toList_foldl_replaceStep`).
-/

namespace FeedArchive.Text

open String.Slice (Pos)
open String.Slice.Pattern (SearchStep ToForwardSearcher)
open String.Slice.Pattern.Model (IsValidSearchFrom MatchesAt LawfulToForwardSearcherModel)

variable {c : Char} {s : String.Slice}

/-- Puts a text in the place of each occurrence of a character. -/
def replaceChar (c : Char) (replacement text : List Char) : List Char :=
  text.flatMap fun d => if d = c then replacement else [d]

/-- A text in two parts is replaced part by part. -/
theorem replaceChar_append (c : Char) (replacement text rest : List Char) :
    replaceChar c replacement (text ++ rest) =
      replaceChar c replacement text ++ replaceChar c replacement rest :=
  List.flatMap_append

/-- Where the character does not occur nothing is replaced. -/
theorem replaceChar_of_notMem {text : List Char} (replacement : List Char) (h : c ∉ text) :
    replaceChar c replacement text = text := by
  induction text with
  | nil => rfl
  | cons d text ih =>
    rw [List.mem_cons, not_or] at h
    rw [replaceChar, List.flatMap_cons, if_neg (Ne.symm h.1), ← replaceChar, ih h.2]
    rfl

/-! ## Stretches of a text -/

/-- A stretch with no occurrence at any of its positions does not have the character. -/
theorem notMem_slice {start stop : s.Pos} (h : start ≤ stop)
    (hno : ∀ pos : s.Pos, start ≤ pos → pos < stop → ¬ MatchesAt c pos) :
    c ∉ (s.slice start stop h).copy.toList := by
  intro hc
  obtain ⟨pos, hne, hget⟩ := String.Slice.mem_toList_copy_iff_exists_get.mp hc
  have hlt : Pos.ofSlice pos < stop := by
    have hend := Pos.ofSlice_lt_ofSlice_iff.mpr ((Pos.lt_endPos_iff pos).mpr hne)
    rwa [Pos.ofSlice_endPos] at hend
  refine hno (Pos.ofSlice pos) Pos.le_ofSlice hlt ?_
  rw [String.Slice.Pattern.Model.Char.matchesAt_iff]
  exact ⟨Pos.ofSlice_ne_endPos hne, Pos.get_eq_get_ofSlice.symm.trans hget⟩

/-- What is left of a text from a position on, split at a later one. -/
theorem toList_sliceFrom {start stop : s.Pos} (h : start ≤ stop) :
    (s.sliceFrom start).copy.toList =
      (s.slice start stop h).copy.toList ++ (s.sliceFrom stop).copy.toList := by
  obtain ⟨t₁, t₂, hstart, hstop⟩ := String.Slice.copy_slice_eq_iff_splits.mp ⟨h, rfl⟩
  rw [hstart.copy_sliceFrom_eq, hstop.copy_sliceFrom_eq, String.toList_append]

/-! ## The search -/

/-- What a step of the search adds to the text that is put together. -/
def replaceStep (replacement done : String) : SearchStep s → String
  | .matched _ _ => done ++ replacement.toSlice
  | .rejected start stop => done ++ s.slice! start stop

/-- The steps of a search from a position on put together what is left with each occurrence
replaced. -/
theorem toList_foldl_replaceStep (replacement : String) {pos : s.Pos} {steps : List (SearchStep s)}
    (h : IsValidSearchFrom c pos steps) (done : String) :
    (steps.foldl (replaceStep replacement) done).toList =
      done.toList ++ replaceChar c replacement.toList (s.sliceFrom pos).copy.toList := by
  induction h generalizing done with
  | endPos => simp [replaceChar]
  | @matched steps start stop hmatch _ ih =>
    obtain ⟨hne, rfl, hget⟩ := String.Slice.Pattern.Model.Char.isLongestMatchAt_iff.mp hmatch
    have hle : start ≤ start.next hne := Pos.le_next
    have hone : (s.slice start (start.next hne) hle).copy.toList = [c] := by
      rw [String.Slice.copy_slice_next, hget, String.toList_singleton]
    rw [List.foldl_cons, ih, toList_sliceFrom hle, replaceChar_append, hone]
    simp [replaceStep, replaceChar]
  | @mismatched steps start stop hlt hno _ ih =>
    have hle : start ≤ stop := Std.le_of_lt hlt
    rw [List.foldl_cons, ih, toList_sliceFrom hle, replaceChar_append,
      replaceChar_of_notMem _ (notMem_slice hle hno)]
    simp [replaceStep, String.Slice.slice!, hle]

/-- The characters of a text in which a character has been replaced. -/
theorem toList_replace (text : String) (c : Char) (replacement : String) :
    (text.replace c replacement).toList = replaceChar c replacement.toList text.toList := by
  have hfold : text.replace c replacement =
      (ToForwardSearcher.toSearcher c text.toSlice).toList.foldl (replaceStep replacement) "" := by
    rw [String.replace, String.Slice.replace, Std.Iter.foldl_toList]
    congr
    funext done step
    cases step <;> rfl
  rw [hfold, toList_foldl_replaceStep replacement
    (LawfulToForwardSearcherModel.isValidSearchFrom_toList text.toSlice)]
  simp

end FeedArchive.Text
