import FeedArchive.Pattern.Like

/-!
# What is read as an escaped keyword

A keyword may be spelled with more backslashes than it needs: one has to stand before each special
character, and one may stand before any other. `Spells` keeps count of the latter. Unescaping reads
every spelling between two `%` (`likeUnescape_eq_some_iff`), whereas escaping writes only the one in
which no backslash is needless. That one is read back as the keyword (`unescape_escape`).
-/

namespace FeedArchive.Pattern

variable {w k : List Char} {n : Nat}

/-- A text spells a keyword, with a number of backslashes that it could do without. -/
inductive Spells : Nat → List Char → List Char → Prop
  | nil : Spells 0 [] []
  | plain {n : Nat} {w k : List Char} {c : Char} (hc : isSpecial c = false) (h : Spells n w k) :
      Spells n (c :: w) (c :: k)
  | guarded {n : Nat} {w k : List Char} {c : Char} (hc : isSpecial c = true) (h : Spells n w k) :
      Spells n ('\\' :: c :: w) (c :: k)
  | needless {n : Nat} {w k : List Char} {c : Char} (hc : isSpecial c = false) (h : Spells n w k) :
      Spells (n + 1) ('\\' :: c :: w) (c :: k)

/-! ## The shortest spelling -/

/-- A character with a meaning gets a backslash. -/
theorem protect_cons_of_special {c : Char} (hc : isSpecial c = true) (k : List Char) :
    protect (c :: k) = '\\' :: c :: protect k :=
  if_pos hc

/-- A character without a meaning stays as it is. -/
theorem protect_cons_of_not_special {c : Char} (hc : isSpecial c = false) (k : List Char) :
    protect (c :: k) = c :: protect k :=
  if_neg (Bool.eq_false_iff.mp hc)

/-- Protecting a keyword spells it with no backslash that it could do without. -/
theorem spells_protect (k : List Char) : Spells 0 (protect k) k := by
  induction k with
  | nil => exact .nil
  | cons c k ih =>
    cases hc : isSpecial c with
    | true =>
      rw [protect_cons_of_special hc]
      exact .guarded hc ih
    | false =>
      rw [protect_cons_of_not_special hc]
      exact .plain hc ih

/-- A spelling is longer than the shortest one by its needless backslashes. -/
theorem Spells.length_eq (h : Spells n w k) : w.length = (protect k).length + n := by
  induction h with
  | nil => rfl
  | plain hc h ih =>
    rw [protect_cons_of_not_special hc, List.length_cons, List.length_cons, ih]
    omega
  | guarded hc h ih =>
    rw [protect_cons_of_special hc]
    simp only [List.length_cons, ih]
    omega
  | needless hc h ih =>
    rw [protect_cons_of_not_special hc]
    simp only [List.length_cons, ih]
    omega

/-- A spelling is what protecting gives if it has no needless backslash, and only then. -/
theorem Spells.eq_protect_iff (h : Spells n w k) : w = protect k ↔ n = 0 := by
  constructor
  · intro heq
    have hlength := h.length_eq
    rw [heq] at hlength
    omega
  · intro hn
    induction h with
    | nil => rfl
    | plain hc h ih => rw [protect_cons_of_not_special hc, ih hn]
    | guarded hc h ih => rw [protect_cons_of_special hc, ih hn]
    | needless hc h ih => omega

/-! ## Reading -/

/-- A character that is not special is read as it stands. -/
theorem unprotect_cons_of_not_special {c : Char} (hc : isSpecial c = false) (w : List Char) :
    unprotect (c :: w) = (unprotect w).map (c :: ·) := by
  rw [unprotect]
  · rw [if_neg (by simp [hc])]
  · intro d cs hslash
    subst hslash
    cases hc

/-- Unprotecting reads every spelling, and nothing else. -/
theorem unprotect_eq_some_iff : unprotect w = some k ↔ ∃ n, Spells n w k := by
  constructor
  · intro h
    induction w using unprotect.induct generalizing k with
    | case1 =>
      obtain rfl := Option.some.inj h
      exact ⟨0, .nil⟩
    | case2 c w ih =>
      obtain ⟨k, hk, rfl⟩ := Option.map_eq_some_iff.mp h
      obtain ⟨n, hn⟩ := ih hk
      cases hc : isSpecial c with
      | true => exact ⟨n, .guarded hc hn⟩
      | false => exact ⟨n + 1, .needless hc hn⟩
    | case3 c w hne hc =>
      rw [unprotect, if_pos hc] at h
      · cases h
      · exact hne
    | case4 c w hne hc ih =>
      replace hc := Bool.not_eq_true _ ▸ hc
      rw [unprotect_cons_of_not_special hc] at h
      obtain ⟨k, hk, rfl⟩ := Option.map_eq_some_iff.mp h
      obtain ⟨n, hn⟩ := ih hk
      exact ⟨n, .plain hc hn⟩
  · rintro ⟨n, h⟩
    induction h with
    | nil => rfl
    | plain hc h ih => rw [unprotect_cons_of_not_special hc, ih, Option.map_some]
    | guarded hc h ih => rw [unprotect, ih, Option.map_some]
    | needless hc h ih => rw [unprotect, ih, Option.map_some]

/-- What stands inside is what is left between the first `%` and the last one. -/
theorem inside?_eq_some_iff {p : List Char} : inside? p = some w ↔ p = '%' :: (w ++ ['%']) := by
  constructor
  · intro h
    unfold inside? at h
    split at h
    · rename_i p
      by_cases hlast : p.getLast? = some '%'
      · rw [if_pos hlast] at h
        obtain ⟨p, rfl⟩ := List.getLast?_eq_some_iff.mp hlast
        rw [← Option.some.inj h, List.dropLast_concat]
      · rw [if_neg hlast] at h
        cases h
    · cases h
  · rintro rfl
    simp [inside?]

/-- What is read back stands between two `%` and spells the keyword. -/
theorem unescape_eq_some_iff {p : List Char} :
    unescape p = some k ↔ ∃ w n, p = '%' :: (w ++ ['%']) ∧ Spells n w k := by
  simp only [unescape, Option.bind_eq_some_iff, inside?_eq_some_iff, unprotect_eq_some_iff,
    exists_and_left]

/-- Unescaping undoes escaping. -/
theorem unescape_escape (k : List Char) : unescape (escape k) = some k :=
  unescape_eq_some_iff.mpr ⟨protect k, 0, rfl, spells_protect k⟩

/-! ## Strings -/

/-- The characters of an escaped keyword. -/
theorem toList_likeEscape (keyword : String) : keyword.likeEscape.toList = escape keyword.toList :=
  String.toList_ofList

/-- A keyword is read from a pattern as its characters are read from those of the pattern. -/
theorem likeUnescape_eq_some_iff_unescape {pattern keyword : String} :
    pattern.likeUnescape = some keyword ↔ unescape pattern.toList = some keyword.toList := by
  simp only [String.likeUnescape, Option.map_eq_some_iff, ← String.toList_inj,
    String.toList_ofList, exists_eq_right]

/-- Every keyword is read back from its escaped form. -/
theorem likeUnescape_likeEscape (keyword : String) :
    keyword.likeEscape.likeUnescape = some keyword := by
  rw [likeUnescape_eq_some_iff_unescape, toList_likeEscape, unescape_escape]

/-- Unescaping reads a keyword from those patterns that spell it between two `%`. Such a pattern is
the one that escaping the keyword gives if it has no needless backslash, and only then. -/
theorem likeUnescape_eq_some_iff (pattern keyword : String) :
    pattern.likeUnescape = some keyword ↔
      ∃ w needless, pattern.toList = '%' :: (w ++ ['%']) ∧ Spells needless w keyword.toList ∧
        (pattern = keyword.likeEscape ↔ needless = 0) := by
  have hread : pattern.likeUnescape = some keyword ↔
      unescape pattern.toList = some keyword.toList := by
    rw [String.likeUnescape, Option.map_eq_some_iff]
    constructor
    · rintro ⟨k, hk, rfl⟩
      rw [hk, String.toList_ofList]
    · intro h
      exact ⟨_, h, String.ofList_toList⟩
  rw [hread, unescape_eq_some_iff]
  refine exists_congr fun w => exists_congr fun n => and_congr_right fun hp => ?_
  refine (and_iff_left_of_imp fun h => ?_).symm
  -- the two `%` are the same in every pattern, so that only what they enclose has to be compared
  rw [← h.eq_protect_iff, String.likeEscape, escape, ← String.toList_inj, hp, String.toList_ofList,
    List.cons.injEq, List.append_cancel_right_eq]
  exact and_iff_right rfl

/-- A backslash before a letter is read over, so that a pattern is accepted that escaping does not
give for any keyword. -/
theorem likeUnescape_needless :
    "%\\a%".likeUnescape = some "a" ∧ ∀ keyword : String, keyword.likeEscape ≠ "%\\a%" := by
  refine ⟨by decide, fun keyword heq => ?_⟩
  have hescape : escape keyword.toList = ['%', '\\', 'a', '%'] := by
    rw [← String.toList_inj, String.likeEscape, String.toList_ofList] at heq
    exact heq
  have hprotect : protect keyword.toList = ['\\', 'a'] :=
    List.append_cancel_right (List.cons.inj hescape).2
  -- whatever the keyword is, its escaped form has no needless backslash
  have hspells : Spells 0 ['\\', 'a'] keyword.toList := hprotect ▸ spells_protect keyword.toList
  generalize keyword.toList = k at hspells
  cases hspells with
  | plain hc h => cases hc
  | guarded hc h => cases hc

end FeedArchive.Pattern
