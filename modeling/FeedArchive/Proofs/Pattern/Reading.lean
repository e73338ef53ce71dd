import FeedArchive.Pattern.Like
import FeedArchive.Proofs.Pattern.Spelling

/-!
# What a pattern says, character by character

Unescaping cuts off the percent sign at either end of a pattern before it reads what is between
them, whereas a matcher goes through the whole pattern once, from the left. `reading` is what the
matcher sees, before it folds letters and leaves out repeated `any` (`tokens_eq_map_reading`).

The two agree on the patterns of keywords (`reading_eq_iff`). Where a backslash takes away the last
percent sign, there is no `any` at the end for the one, and nothing behind that backslash for the
other.
-/

namespace FeedArchive.Pattern

open Text (fold)

variable {p w k : List Char} {n : Nat}

/-- What a pattern says, with letters as they are written. A backslash at the end stands for
itself. -/
def reading : List Char → List Token
  | [] => []
  | ['\\'] => [.literal '\\']
  | '\\' :: c :: p => .literal c :: reading p
  | '%' :: p => .any :: reading p
  | '_' :: p => .one :: reading p
  | c :: p => .literal c :: reading p

/-- A token with its letter folded. -/
def Token.folded : Token → Token
  | .literal c => .literal (fold c)
  | .one => .one
  | .any => .any

/-! ## One character -/

theorem isSpecial_eq_false_iff {c : Char} :
    isSpecial c = false ↔ c ≠ '\\' ∧ c ≠ '%' ∧ c ≠ '_' := by
  simp [isSpecial, and_assoc]

/-- A character is not special if it is read by none of the rules for those that are. -/
theorem not_special_of_no_rule {c : Char} (hlone : c = '\\' → p = [] → False)
    (hescape : ∀ d q, c = '\\' → p = d :: q → False) (hany : c = '%' → False)
    (hone : c = '_' → False) : isSpecial c = false := by
  refine isSpecial_eq_false_iff.mpr ⟨fun hc => ?_, hany, hone⟩
  cases p with
  | nil => exact hlone hc rfl
  | cons d q => exact hescape d q hc rfl

/-- A character that is not special is read as it stands. -/
theorem reading_cons_of_not_special {c : Char} (hc : isSpecial c = false) (p : List Char) :
    reading (c :: p) = .literal c :: reading p := by
  obtain ⟨hslash, hany, hone⟩ := isSpecial_eq_false_iff.mp hc
  rw [reading]
  · exact fun h _ => hslash h
  · exact fun _ _ h _ => hslash h
  · exact hany
  · exact hone

/-- A character without a meaning stands for itself, folded. -/
theorem tokens_cons_of_not_special {c : Char} (hc : isSpecial c = false) (p : List Char) :
    tokens (c :: p) = .literal (fold c) :: tokens p := by
  obtain ⟨hslash, hany, hone⟩ := isSpecial_eq_false_iff.mp hc
  rw [tokens]
  · exact fun _ _ h _ => hslash h
  · exact hany
  · exact hone

/-- The tokens of a pattern are what it says, with letters folded. -/
theorem tokens_eq_map_reading (p : List Char) : tokens p = (reading p).map Token.folded := by
  induction p using reading.induct with
  | case1 => rfl
  | case2 => rfl
  | case3 c p ih => rw [tokens, reading, ih]; rfl
  | case4 p ih => rw [tokens, reading, ih]; rfl
  | case5 p ih => rw [tokens, reading, ih]; rfl
  | case6 c p hlone hescape hany hone ih =>
    have hc := not_special_of_no_rule hlone hescape hany hone
    rw [tokens_cons_of_not_special hc, reading_cons_of_not_special hc, ih]
    rfl

/-- A pattern is made ready by folding what it says and leaving out repeated `any`. -/
theorem Like.compile_eq_reading (p : List Char) :
    Like.compile p = ⟨collapse ((reading p).map Token.folded)⟩ := by
  rw [Like.compile, tokens_eq_map_reading]

/-- Nothing is read only where nothing is written. -/
theorem reading_eq_nil_iff : reading p = [] ↔ p = [] := by
  constructor
  · intro h
    unfold reading at h
    split at h
    · rfl
    all_goals cases h
  · rintro rfl
    rfl

/-- A reading begins with `any` where the pattern begins with a percent sign. -/
theorem reading_eq_any_cons_iff {ts : List Token} :
    reading p = .any :: ts ↔ ∃ q, p = '%' :: q ∧ reading q = ts := by
  constructor
  · intro h
    unfold reading at h
    split at h
    case h_4 q => exact ⟨q, rfl, (List.cons.inj h).2⟩
    all_goals cases h
  · rintro ⟨q, rfl, rfl⟩
    rfl

/-- A reading begins with a character where the pattern begins with a backslash and that character,
or with the character if it is not special, or is nothing but a backslash. -/
theorem reading_eq_literal_cons {c : Char} {ts : List Token} (h : reading p = .literal c :: ts) :
    (∃ q, p = '\\' :: c :: q ∧ reading q = ts) ∨
      (∃ q, p = c :: q ∧ isSpecial c = false ∧ reading q = ts) ∨ (p = ['\\'] ∧ ts = []) := by
  unfold reading at h
  split at h
  case h_2 =>
    exact Or.inr (Or.inr ⟨rfl, (List.cons.inj h).2.symm⟩)
  case h_3 d q =>
    obtain ⟨rfl, rfl⟩ : d = c ∧ reading q = ts := by simpa using h
    exact Or.inl ⟨q, rfl, rfl⟩
  case h_6 d q hlone hescape hany hone =>
    obtain ⟨rfl, rfl⟩ : d = c ∧ reading q = ts := by simpa using h
    exact Or.inr (Or.inl ⟨q, rfl, not_special_of_no_rule hlone hescape hany hone, rfl⟩)
  all_goals cases h

/-! ## Keywords -/

/-- A spelling is read as the characters that it spells, whatever comes after it. -/
theorem Spells.reading_append (h : Spells n w k) (rest : List Char) :
    reading (w ++ rest) = k.map .literal ++ reading rest := by
  induction h with
  | nil => rfl
  | plain hc _ ih =>
    rw [List.cons_append, reading_cons_of_not_special hc, ih]
    rfl
  | guarded _ _ ih =>
    rw [List.cons_append, List.cons_append, reading, ih]
    rfl
  | needless _ _ ih =>
    rw [List.cons_append, List.cons_append, reading, ih]
    rfl

/-- What is read as given characters and then `any` spells them in front of a percent sign. -/
theorem exists_spells_of_reading (h : reading p = k.map .literal ++ [.any]) :
    ∃ w n, p = w ++ ['%'] ∧ Spells n w k := by
  induction k generalizing p with
  | nil =>
    obtain ⟨q, rfl, hq⟩ := reading_eq_any_cons_iff.mp h
    exact ⟨[], 0, by rw [reading_eq_nil_iff.mp hq]; rfl, .nil⟩
  | cons c k ih =>
    rcases reading_eq_literal_cons h with ⟨q, rfl, hq⟩ | ⟨q, rfl, hc, hq⟩ | ⟨-, hend⟩
    · obtain ⟨w, n, rfl, hw⟩ := ih hq
      cases hc : isSpecial c with
      | true => exact ⟨'\\' :: c :: w, n, rfl, .guarded hc hw⟩
      | false => exact ⟨'\\' :: c :: w, n + 1, rfl, .needless hc hw⟩
    · obtain ⟨w, n, rfl, hw⟩ := ih hq
      exact ⟨c :: w, n, rfl, .plain hc hw⟩
    · -- the `any` that is still to come is not behind the end
      exact absurd hend (List.append_ne_nil_of_right_ne_nil _ (List.cons_ne_nil _ _))

/-- A pattern is read as the characters of a keyword between two `any` if it spells the keyword
between two percent signs, and only then. -/
theorem reading_eq_iff :
    reading p = .any :: (k.map .literal ++ [.any]) ↔
      ∃ w n, p = '%' :: (w ++ ['%']) ∧ Spells n w k := by
  constructor
  · intro h
    obtain ⟨q, rfl, hq⟩ := reading_eq_any_cons_iff.mp h
    obtain ⟨w, n, rfl, hw⟩ := exists_spells_of_reading hq
    exact ⟨w, n, rfl, hw⟩
  · rintro ⟨w, n, rfl, hw⟩
    rw [reading, hw.reading_append]
    rfl

/-- The pattern of a keyword is read as its characters between two tokens for any text. -/
theorem reading_escape (k : List Char) :
    reading (escape k) = .any :: (k.map .literal ++ [.any]) :=
  reading_eq_iff.mpr ⟨protect k, 0, rfl, spells_protect k⟩

/-- Unescaping and matching read a pattern alike. What the matcher reads, before it folds letters,
is the characters of a keyword between two `any` exactly if the keyword is what unescaping gives,
and then the pattern is made ready as the escaped keyword is. -/
theorem likeUnescape_eq_some_iff_reading (pattern keyword : String) :
    Like.compile pattern.toList = ⟨collapse ((reading pattern.toList).map Token.folded)⟩ ∧
    (pattern.likeUnescape = some keyword ↔
      reading pattern.toList = .any :: (keyword.toList.map .literal ++ [.any])) ∧
    (pattern.likeUnescape = some keyword →
      Like.compile pattern.toList = Like.compile keyword.likeEscape.toList) := by
  have hread : pattern.likeUnescape = some keyword ↔
      reading pattern.toList = .any :: (keyword.toList.map .literal ++ [.any]) := by
    rw [likeUnescape_eq_some_iff_unescape, unescape_eq_some_iff, reading_eq_iff]
  refine ⟨Like.compile_eq_reading pattern.toList, hread, fun h => ?_⟩
  rw [Like.compile_eq_reading, Like.compile_eq_reading, toList_likeEscape, hread.mp h,
    reading_escape]

/-- A pattern with a backslash that it could do without, and one that it needs. -/
theorem likeUnescape_reading_needless :
    "%\\a\\%%".likeUnescape = some "a%" ∧
      Like.compile "%\\a\\%%".toList = Like.compile "a%".likeEscape.toList := by
  have h : "%\\a\\%%".likeUnescape = some "a%" := by decide
  exact ⟨h, (likeUnescape_eq_some_iff_reading "%\\a\\%%" "a%").2.2 h⟩

end FeedArchive.Pattern
