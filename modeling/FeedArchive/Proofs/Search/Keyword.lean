import FeedArchive.Proofs.Text.Spacing
import FeedArchive.Search.Input

/-!
# Which queries are accepted

`KeywordLimits.Judges` says what comes of the words of a query under limits, and
`KeywordLimits.parse_spacing` that parsing a query comes to just this. The query is taken apart into
words and white space for it, which can be done in one way only, and keywords that have been
accepted once are accepted again whatever white space is put between them.
-/

namespace FeedArchive

open Text (Spacing)

/-- The words of a text, each as a keyword. -/
def Text.Spacing.keywords (s : Spacing) : List Keyword :=
  s.words.map fun w => ⟨String.ofList w⟩

namespace KeywordLimits

/-- What comes of words under limits. That there are too many of them counts before their lengths,
and of those that are too long the first one is reported. -/
inductive Judges (limits : KeywordLimits) :
    List Keyword → Except SearchError (List Keyword) → Prop
  | nothing : Judges limits [] (.error .emptyInput)
  | tooMany {ks : List Keyword} (hne : ks ≠ []) (hcount : limits.maxCount < ks.length) :
      Judges limits ks (.error (.tooManyKeywords ks.length limits.maxCount))
  | tooLong {before after : List Keyword} {k : Keyword}
      (hcount : (before ++ k :: after).length ≤ limits.maxCount)
      (hbefore : ∀ b ∈ before, b.length ≤ limits.maxLength) (hk : limits.maxLength < k.length) :
      Judges limits (before ++ k :: after) (.error (.keywordTooLong k.text limits.maxLength))
  | within {ks : List Keyword} (hne : ks ≠ []) (hcount : ks.length ≤ limits.maxCount)
      (hlength : ∀ k ∈ ks, k.length ≤ limits.maxLength) : Judges limits ks (.ok ks)

variable {limits : KeywordLimits} {query : String} {y : Except SearchError (List Keyword)}

/-- Parsing a query judges the words that it is split into. -/
theorem parse_eq_iff :
    limits.parse query = y ↔ limits.Judges (query.blankWords.map Keyword.mk) y := by
  simp only [parse]
  generalize query.blankWords.map Keyword.mk = ks
  constructor
  · intro h
    -- the checks are made in this order, so that each outcome also says which checks were passed
    by_cases hnil : ks = []
    · subst hnil
      subst h
      exact .nothing
    rw [if_neg (by simpa using hnil)] at h
    by_cases hcount : limits.maxCount < ks.length
    · rw [if_pos hcount] at h
      subst h
      exact .tooMany hnil hcount
    rw [if_neg hcount] at h
    replace hcount := Nat.not_lt.mp hcount
    cases hfind : ks.find? fun k => limits.maxLength < k.length with
    | some k =>
      simp only [hfind] at h
      subst h
      obtain ⟨hk, before, after, rfl, hbefore⟩ := List.find?_eq_some_iff_append.mp hfind
      exact .tooLong hcount (by simpa using hbefore) (by simpa using hk)
    | none =>
      simp only [hfind] at h
      subst h
      exact .within hnil hcount (by simpa using hfind)
  · intro h
    cases h with
    | nothing => rfl
    | tooMany hne hcount => rw [if_neg (by simpa using hne), if_pos hcount]
    | @tooLong before after k hcount hbefore hk =>
      have hfind : (before ++ k :: after).find? (fun k => limits.maxLength < k.length) = some k :=
        List.find?_eq_some_iff_append.mpr
          ⟨by simpa using hk, before, after, rfl, by simpa using hbefore⟩
      rw [if_neg (by simp), if_neg (Nat.not_lt.mpr hcount), hfind]
    | within hne hcount hlength =>
      have hfind : ks.find? (fun k => limits.maxLength < k.length) = none := by
        simpa using hlength
      rw [if_neg (by simpa using hne), if_neg (Nat.not_lt.mpr hcount), hfind]

/-- Queries with the same words are read in the same way. -/
theorem parse_congr (limits : KeywordLimits) {other : String}
    (h : query.blankWords = other.blankWords) : limits.parse query = limits.parse other := by
  rw [parse, parse, h]

/-- A query that is accepted has its words as keywords. -/
theorem Judges.eq_of_ok {ks keywords : List Keyword} (h : limits.Judges ks (.ok keywords)) :
    keywords = ks := by
  cases h
  rfl

end KeywordLimits

/-- The words of a text are those that it is split into. -/
theorem Text.Spacing.map_blankWords (s : Spacing) :
    (String.ofList s.text).blankWords.map Keyword.mk = s.keywords := by
  rw [String.blankWords, String.toList_ofList, s.words_text, List.map_map]
  rfl

/-- A query can be taken apart into words and the white space around them in one way only, and
parsing it judges these words. Keywords that are accepted are accepted again whatever white space is
put around them, as long as there is some between any two of them. -/
theorem KeywordLimits.parse_spacing (limits : KeywordLimits) (query : String) :
    ∃ s : Spacing, s.text = query.toList ∧ (∀ t : Spacing, t.text = query.toList → t = s) ∧
      (∀ y, limits.parse query = y ↔ limits.Judges s.keywords y) ∧
      ∀ keywords, limits.parse query = .ok keywords → ∀ t : Spacing, t.keywords = keywords →
        limits.parse (String.ofList t.text) = .ok keywords := by
  obtain ⟨s, hs, hunique⟩ := Text.existsUnique_spacing query.toList
  have hwords : query.blankWords.map Keyword.mk = s.keywords := by
    rw [← s.map_blankWords, hs, String.ofList_toList]
  refine ⟨s, hs, hunique, fun y => hwords ▸ parse_eq_iff, fun keywords hok t ht => ?_⟩
  have hjudges := parse_eq_iff.mp hok
  rw [parse_eq_iff, t.map_blankWords, ht]
  rwa [← hjudges.eq_of_ok] at hjudges

end FeedArchive
