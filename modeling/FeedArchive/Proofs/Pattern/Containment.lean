import FeedArchive.Proofs.Pattern.Matching
import FeedArchive.Proofs.Pattern.Reading

/-!
# Escaped keywords

The tokens of an escaped keyword are its characters between two `any`, so that it stands for the
texts in which the keyword occurs without regard to case (`accepts_tokens_escape`). The matcher
finds these texts (`Like.matches_compile_escape`).
-/

namespace FeedArchive.Pattern

open Text (fold)

/-- A keyword occurs in a text, without regard to case. -/
def Occurs (keyword text : List Char) : Prop :=
  keyword.map fold <:+: text.map fold

/-- The tokens of an escaped keyword. -/
theorem tokens_escape (k : List Char) :
    tokens (escape k) = .any :: ((k.map fold).map .literal ++ [.any]) := by
  rw [tokens_eq_map_reading, reading_escape, List.map_cons, List.map_append, List.map_map,
    List.map_map]
  rfl

/-- Literals are left as they are. -/
theorem collapse_literals_append (w : List Char) (ts : List Token) :
    collapse (w.map .literal ++ ts) = w.map .literal ++ collapse ts := by
  induction w with
  | nil => rfl
  | cons c w ih =>
    rw [List.map_cons, List.cons_append, collapse, ih]
    · rfl
    · exact fun _ h _ => Token.noConfusion h

/-- An escaped keyword is made ready as its characters between two `any`, which are one if there is
nothing between them. -/
theorem Like.tokens_compile_escape (k : List Char) :
    (Like.compile (escape k)).tokens =
      .any :: ((k.map fold).map .literal ++ if k = [] then [] else [.any]) := by
  rw [Like.compile, tokens_escape]
  cases k with
  | nil => rfl
  | cons c k =>
    rw [if_neg (List.cons_ne_nil c k), collapse, collapse_literals_append]
    · rfl
    · exact fun _ _ h => Token.noConfusion (List.cons.inj h).1

/-- Literals take in themselves. -/
theorem accepts_literals_append (w t : List Char) (ts : List Token) :
    Accepts (w.map .literal ++ ts) t ↔ ∃ u, t = w ++ u ∧ Accepts ts u := by
  induction w generalizing t with
  | nil => simp
  | cons c w ih =>
    simp only [List.map_cons, List.cons_append, Accepts, ih]
    constructor
    · rintro ⟨_, rfl, u, rfl, hu⟩
      exact ⟨u, rfl, hu⟩
    · rintro ⟨u, rfl, hu⟩
      exact ⟨w ++ u, rfl, u, rfl, hu⟩

/-- The escaped keyword stands for the texts in which the keyword occurs. -/
theorem accepts_tokens_escape (k t : List Char) :
    Accepts (tokens (escape k)) (t.map fold) ↔ Occurs k t := by
  rw [tokens_escape, Occurs]
  simp only [Accepts, accepts_literals_append]
  constructor
  · rintro ⟨s, _, ht, u, rfl, -⟩
    exact ⟨s, u, by rw [ht, List.append_assoc]⟩
  · rintro ⟨s, u, ht⟩
    exact ⟨s, k.map fold ++ u, by rw [← ht, List.append_assoc], u, rfl, u, [], by simp, rfl⟩

/-- The escaped keyword is matched by the texts in which the keyword occurs. -/
theorem Like.matches_compile_escape (k t : List Char) :
    (Like.compile (escape k)).matches t = true ↔ Occurs k t := by
  rw [Like.matches_compile, accepts_tokens_escape]

/-- In an escaped keyword every character stands for itself, so that the texts that match are those
in which the keyword occurs, without regard to case. The empty keyword occurs in every text. -/
theorem Like.matches_likeEscape (keyword text : String) :
    (Like.compile keyword.likeEscape.toList).tokens =
      .any :: ((keyword.toList.map fold).map .literal ++ if keyword = "" then [] else [.any]) ∧
    ((Like.compile keyword.likeEscape.toList).matches text.toList = true ↔
      keyword.toList.map fold <:+: text.toList.map fold) ∧
    (Like.compile "".likeEscape.toList).matches text.toList = true := by
  refine ⟨?_, ?_, ?_⟩
  · rw [toList_likeEscape, Like.tokens_compile_escape]
    simp only [String.toList_eq_nil_iff]
  · rw [toList_likeEscape, Like.matches_compile_escape, Occurs]
  · rw [toList_likeEscape, Like.matches_compile_escape]
    exact List.nil_infix

end FeedArchive.Pattern
