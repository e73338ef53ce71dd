import FeedArchive.Pattern.Like
import Mathlib.Data.Set.Basic
import Mathlib.Data.List.Infix

/-!
# The language of a pattern

`language` says which texts a pattern stands for, by recursion on the pattern as it is written.
`Accepts` says the same of tokens and a text that is folded already, one token after the other; no
matcher is involved in either.

The two agree (`mem_language_iff`), and leaving out the second of two `any` in a row changes
nothing (`accepts_collapse`). The last section is about where an `any` may begin to match: the
facts that a matcher needs in order to forget all of them but the last.
-/

namespace FeedArchive.Pattern

open Text (fold)

/-- The texts that a pattern stands for. -/
def language : List Char → Set (List Char)
  | [] => {[]}
  | ['\\'] => {t | ∃ d, t = [d] ∧ fold d = fold '\\'}
  | '\\' :: c :: p => {t | ∃ d u, t = d :: u ∧ fold d = fold c ∧ u ∈ language p}
  | '%' :: p => {t | ∃ s u, t = s ++ u ∧ u ∈ language p}
  | '_' :: p => {t | ∃ d u, t = d :: u ∧ u ∈ language p}
  | c :: p => {t | ∃ d u, t = d :: u ∧ fold d = fold c ∧ u ∈ language p}

/-- The tokens stand for the text, whose characters are folded. -/
def Accepts : List Token → List Char → Prop
  | [], t => t = []
  | .literal c :: ts, t => ∃ u, t = c :: u ∧ Accepts ts u
  | .one :: ts, t => ∃ d u, t = d :: u ∧ Accepts ts u
  | .any :: ts, t => ∃ s u, t = s ++ u ∧ Accepts ts u

/-! ## The language in terms of tokens -/

/-- A folded text begins with a character if the text begins with one that folds to it. -/
theorem map_fold_eq_cons_iff {t : List Char} {c : Char} {P : List Char → Prop} :
    (∃ u, t.map fold = c :: u ∧ P u) ↔ ∃ d u, t = d :: u ∧ fold d = c ∧ P (u.map fold) := by
  constructor
  · rintro ⟨u, h, hu⟩
    obtain ⟨d, v, rfl, rfl, rfl⟩ := List.map_eq_cons_iff.mp h
    exact ⟨d, v, rfl, rfl, hu⟩
  · rintro ⟨d, v, rfl, rfl, hv⟩
    exact ⟨v.map fold, rfl, hv⟩

/-- A text is in the language of a pattern if the tokens of the pattern stand for its folding. -/
theorem mem_language_iff (p t : List Char) :
    t ∈ language p ↔ Accepts (tokens p) (t.map fold) := by
  -- the cases are those of reading a pattern: its end, a lone backslash, an escape, `%`, `_`, and
  -- any other character
  induction p using language.induct generalizing t with
  | case1 =>
    show t = [] ↔ t.map fold = []
    rw [List.map_eq_nil_iff]
  | case2 =>
    show (∃ d, t = [d] ∧ fold d = fold '\\') ↔ ∃ u, t.map fold = fold '\\' :: u ∧ u = []
    rw [map_fold_eq_cons_iff]
    constructor
    · rintro ⟨d, rfl, hd⟩
      exact ⟨d, [], rfl, hd, rfl⟩
    · rintro ⟨d, u, rfl, hd, hu⟩
      rw [List.map_eq_nil_iff] at hu
      exact ⟨d, by rw [hu], hd⟩
  | case3 c p ih =>
    simp only [language, tokens, Accepts, Set.mem_ofPred_eq, map_fold_eq_cons_iff, ih]
  | case4 p ih =>
    simp only [language, tokens, Accepts, Set.mem_ofPred_eq, ih]
    constructor
    · rintro ⟨s, u, rfl, hu⟩
      exact ⟨s.map fold, u.map fold, List.map_append, hu⟩
    · rintro ⟨s, u, h, hu⟩
      obtain ⟨s, u, rfl, rfl, rfl⟩ := List.map_eq_append_iff.mp h
      exact ⟨s, u, rfl, hu⟩
  | case5 p ih =>
    simp only [language, tokens, Accepts, Set.mem_ofPred_eq, ih]
    constructor
    · rintro ⟨d, u, rfl, hu⟩
      exact ⟨fold d, u.map fold, rfl, hu⟩
    · rintro ⟨d, u, h, hu⟩
      obtain ⟨d, u, rfl, rfl, rfl⟩ := List.map_eq_cons_iff.mp h
      exact ⟨d, u, rfl, hu⟩
  | case6 c p hlone hescape hany hone ih =>
    have htokens : tokens (c :: p) = .literal (fold c) :: tokens p := by
      rw [tokens]
      · exact fun d q h hp => hescape d q h hp
      · exact hany
      · exact hone
    rw [language, htokens]
    · simp only [Accepts, Set.mem_ofPred_eq, map_fold_eq_cons_iff, ih]
    · exact hlone
    · exact hescape
    · exact hany
    · exact hone

/-! ## Where an `any` begins to match -/

/-- No tokens stand for the empty text only. -/
@[simp] theorem accepts_nil (t : List Char) : Accepts [] t ↔ t = [] := Iff.rfl

/-- An `any` takes in nothing, or one character and goes on. -/
theorem accepts_any_iff (ts : List Token) (t : List Char) :
    Accepts (.any :: ts) t ↔ Accepts ts t ∨ ∃ d u, t = d :: u ∧ Accepts (.any :: ts) u := by
  constructor
  · rintro ⟨s, u, rfl, hu⟩
    cases s with
    | nil => exact Or.inl hu
    | cons d s => exact Or.inr ⟨d, s ++ u, rfl, s, u, rfl, hu⟩
  · rintro (h | ⟨d, v, rfl, s, u, rfl, hu⟩)
    · exact ⟨[], t, rfl, h⟩
    · exact ⟨d :: s, u, rfl, hu⟩

/-- What an `any` is followed by may begin at any later place. -/
theorem accepts_any_of_drop {ts : List Token} {t : List Char} (n : Nat)
    (h : Accepts ts (t.drop n)) : Accepts (.any :: ts) t :=
  ⟨t.take n, t.drop n, (List.take_append_drop n t).symm, h⟩

/-- An `any` in front of another one adds nothing. -/
theorem accepts_any_any (ts : List Token) (t : List Char) :
    Accepts (.any :: .any :: ts) t ↔ Accepts (.any :: ts) t := by
  constructor
  · rintro ⟨s, _, rfl, s', u, rfl, hu⟩
    exact ⟨s ++ s', u, (List.append_assoc s s' u).symm, hu⟩
  · exact fun h => ⟨[], t, rfl, h⟩

/-- Tokens behind a common first one may be exchanged for others that stand for the same. -/
theorem accepts_cons_congr {ts ts' : List Token} (h : ∀ u, Accepts ts u ↔ Accepts ts' u)
    (a : Token) (t : List Char) : Accepts (a :: ts) t ↔ Accepts (a :: ts') t := by
  cases a <;> simp only [Accepts, h]

/-- Leaving out each `any` that follows another one changes nothing. -/
theorem accepts_collapse (ts : List Token) (t : List Char) :
    Accepts (collapse ts) t ↔ Accepts ts t := by
  induction ts using collapse.induct generalizing t with
  | case1 ts ih =>
    rw [collapse, ih, accepts_any_any]
  | case2 a ts hne ih =>
    rw [collapse]
    · exact accepts_cons_congr ih a t
    · exact hne
  | case3 => rfl

/-- Nothing but `any` is needed where there is no text left. -/
theorem accepts_empty_iff (ts : List Token) :
    Accepts ts [] ↔ ∀ a ∈ ts, a = .any := by
  induction ts with
  | nil => simp
  | cons a ts ih =>
    cases a with
    | literal c => simp [Accepts]
    | one => simp [Accepts]
    | any =>
      have hany : Accepts (.any :: ts) [] ↔ Accepts ts [] := by
        rw [accepts_any_iff]
        simp
      simp [hany, ih]

/-- Tokens without an `any` take in as many characters as there are of them. -/
theorem accepts_fixed_append {seg rest : List Token} {t : List Char}
    (hseg : ∀ a ∈ seg, a ≠ .any) (h : Accepts (seg ++ rest) t) :
    seg.length ≤ t.length ∧ Accepts rest (t.drop seg.length) := by
  induction seg generalizing t with
  | nil => exact ⟨Nat.zero_le _, h⟩
  | cons a seg ih =>
    have htail : ∀ b ∈ seg, b ≠ .any := fun b hb => hseg b (List.mem_cons_of_mem a hb)
    cases a with
    | any => exact absurd rfl (hseg .any List.mem_cons_self)
    | literal c =>
      obtain ⟨u, rfl, hu⟩ := h
      obtain ⟨hle, hrest⟩ := ih htail hu
      exact ⟨Nat.succ_le_succ hle, hrest⟩
    | one =>
      obtain ⟨d, u, rfl, hu⟩ := h
      obtain ⟨hle, hrest⟩ := ih htail hu
      exact ⟨Nat.succ_le_succ hle, hrest⟩

end FeedArchive.Pattern
