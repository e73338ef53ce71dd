import FeedArchive.Proofs.Pattern.Spelling
import FeedArchive.Proofs.Text.Replacement

/-!
# Escaping in passes

`protect` goes through a keyword once. It comes to the same to replace one special character after
the other in the whole text (`protect_eq_replaceChar`), provided that the backslash is the first of
them: a later pass meets the backslashes that the earlier ones have put in, and leaves them alone
because it looks for another character (`replaceChar_guard`).
-/

namespace FeedArchive.Pattern

open Text (replaceChar replaceChar_append replaceChar_of_notMem toList_replace)

/-- Puts a backslash in front of each character that a test picks. -/
def guard (picks : Char → Bool) (text : List Char) : List Char :=
  text.flatMap fun c => if picks c then ['\\', c] else [c]

theorem guard_cons (picks : Char → Bool) (c : Char) (text : List Char) :
    guard picks (c :: text) = (if picks c then ['\\', c] else [c]) ++ guard picks text :=
  rfl

/-- Protecting a keyword guards its special characters. -/
theorem protect_eq_guard (k : List Char) : protect k = guard isSpecial k := by
  induction k with
  | nil => rfl
  | cons c k ih =>
    rw [guard_cons, ← ih]
    cases hc : isSpecial c with
    | true =>
      rw [protect_cons_of_special hc, if_pos rfl]
      rfl
    | false =>
      rw [protect_cons_of_not_special hc, if_neg Bool.false_ne_true]
      rfl

/-- The first pass guards the backslashes of a text. -/
theorem replaceChar_backslash (text : List Char) :
    replaceChar '\\' ['\\', '\\'] text = guard (· == '\\') text := by
  induction text with
  | nil => rfl
  | cons c text ih =>
    rw [guard_cons, ← ih, replaceChar, List.flatMap_cons, ← replaceChar]
    by_cases hc : c = '\\'
    · rw [if_pos hc, if_pos (beq_iff_eq.mpr hc), hc]
    · rw [if_neg hc, if_neg (mt beq_iff_eq.mp hc)]

/-- A later pass guards one more character, in a text in which others are guarded. -/
theorem replaceChar_guard {picks : Char → Bool} {c : Char} (hc : c ≠ '\\')
    (hpicks : picks c = false) (text : List Char) :
    replaceChar c ['\\', c] (guard picks text) = guard (fun d => picks d || d == c) text := by
  induction text with
  | nil => rfl
  | cons d text ih =>
    rw [guard_cons, guard_cons, replaceChar_append, ih]
    congr 1
    by_cases hd : picks d = true
    · -- neither the backslash that is there nor the character behind it is the one looked for
      have hne : d ≠ c := fun h => Bool.false_ne_true (hpicks.symm.trans (h ▸ hd))
      have hno : c ∉ ['\\', d] := by simp [hc, hne.symm]
      rw [if_pos hd, hd, Bool.true_or, if_pos rfl, replaceChar_of_notMem _ hno]
    · by_cases hdc : d = c
      · simp [replaceChar, hpicks, hdc]
      · simp [replaceChar, hd, hdc]

/-- Protecting a keyword guards the backslash first, then each of the other special characters. -/
theorem protect_eq_replaceChar (k : List Char) :
    protect k =
      replaceChar '_' ['\\', '_']
        (replaceChar '%' ['\\', '%'] (replaceChar '\\' ['\\', '\\'] k)) := by
  rw [replaceChar_backslash, replaceChar_guard (by decide) (by decide),
    replaceChar_guard (by decide) (by decide), protect_eq_guard]
  rfl

/-- The backslash has to come first: as the last one, it would be put in front of those that the
other passes have put in. -/
example : replaceChar '\\' ['\\', '\\'] (replaceChar '%' ['\\', '%'] ['%']) ≠ protect ['%'] := by
  decide

/-- A keyword is escaped by replacing every backslash, then every percent sign and then every
underscore in the whole of it by the same character behind a backslash, and putting what comes of it
between two percent signs. -/
theorem likeEscape_eq_replace (keyword : String) :
    keyword.likeEscape =
      "%" ++ ((keyword.replace '\\' "\\\\").replace '%' "\\%").replace '_' "\\_" ++ "%" := by
  rw [← String.toList_inj, toList_likeEscape, escape, protect_eq_replaceChar]
  simp only [String.toList_append, toList_replace]
  rfl

end FeedArchive.Pattern
