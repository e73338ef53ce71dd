import FeedArchive.Proofs.Sql.Syntax
import Mathlib.Data.List.Forall2

/-!
# Conditions in SQL

The text of a condition and what it is read as. `Condition.lexemes` gives the lexemes of the text
(`Condition.reads_text`). `Denotes` says that some lexemes are one operand of a chain of `AND` or
`OR`, whatever stands around them; a condition denotes its expression (`denotes_lexemes`), and a
chain of conditions is read as their conjunction (`condition?_intercalate`).
-/

namespace FeedArchive

open Sql

namespace Sql

/-- A text that is read as the name of a column. -/
structure IsName (s : String) : Prop where
  reads : Reads s.toList [.word s]
  free : s ∉ reserved

/-- A name stands for a column. -/
theorem IsName.ofLexeme?_word {s : String} (h : IsName s) :
    Operand.ofLexeme? (.word s) = some (.column s) := by
  have hfree := h.free
  simp [Operand.ofLexeme?, hfree]

/-- A name is no word of the language. -/
theorem IsName.word_ne {s : String} (h : IsName s) (word : String) (hword : word ∈ reserved) :
    Lexeme.word s ≠ .word word := by
  intro heq
  rw [Lexeme.word.injEq] at heq
  exact h.free (heq ▸ hword)

end Sql

/-- The columns in which fields are stored have names. -/
theorem Field.isName_column (f : Field) : IsName f.column := by
  cases f <;> exact ⟨by rfl, by decide⟩

namespace Database

/-! ## Texts -/

def Comparison.lexeme : Comparison → Lexeme
  | .equal => .equal
  | .atLeast => .atLeast
  | .atMost => .atMost

/-- The text of a slot. -/
theorem reads_slotText (n : Nat) : Reads (slotText n).toList [.slot n] := by
  have h := reads_slot n
  simpa [slotText, Nat.decimalText] using h

namespace Condition

/-- The lexemes of one alternative of `anyMatches`. -/
def matchLexemes (term : String × Nat) : List Lexeme :=
  [.word term.1, .word "ilike", .slot term.2, .word "escape", .quoted ['\\']]

/-- The lexemes of a condition. -/
def lexemes : Condition → List Lexeme
  | .anyMatches terms => .left :: ([.word "or"].intercalate (terms.map matchLexemes) ++ [.right])
  | .compare column comparison slot => [.word column, comparison.lexeme, .slot slot]
  | .isTrue column => [.word column, .equal, .word "true"]
  | .among column slot => [.word column, .equal, .word "any", .left, .slot slot, .right]

/-- The columns in a condition. -/
def columns : Condition → List String
  | .anyMatches terms => terms.map (·.1)
  | .compare column _ _ | .isTrue column | .among column _ => [column]

/-- The text that matches a column against a slot has these lexemes. -/
theorem reads_matchText {term : String × Nat} (h : IsName term.1) :
    Reads (matchText term).toList (matchLexemes term) := by
  have hlike : Reads "ILIKE".toList [.word "ilike"] := rfl
  have hescape : Reads "ESCAPE '\\'".toList [.word "escape", .quoted ['\\']] := rfl
  have hall := h.reads.join (hlike.join ((reads_slotText term.2).join hescape))
  simpa [matchText, matchLexemes] using hall

/-- A condition is read as its lexemes. -/
theorem reads_text {c : Condition} (h : ∀ name ∈ c.columns, IsName name) :
    Reads c.text.toList c.lexemes := by
  cases c with
  | anyMatches terms =>
    rw [text, lexemes, String.toList_append, String.toList_append, String.toList_intercalate,
      List.map_map]
    cases terms with
    | nil => rfl
    | cons term terms =>
      have hor : Reads "OR".toList [.word "or"] := rfl
      have hterms : ∀ t ∈ term :: terms, Reads (matchText t).toList (matchLexemes t) :=
        fun t ht => reads_matchText (h t.1 (List.mem_map_of_mem ht))
      exact (hor.intercalate hterms).parenthesized
  | compare column comparison slot =>
    have hsign : Reads comparison.text.toList [comparison.lexeme] := by
      cases comparison <;> rfl
    have hall := (h column List.mem_cons_self).reads.join (hsign.join (reads_slotText slot))
    simpa [text, lexemes] using hall
  | isTrue column =>
    have htrue : Reads "= TRUE".toList [.equal, .word "true"] := rfl
    have hall := (h column List.mem_cons_self).reads.join htrue
    simpa [text, lexemes] using hall
  | among column slot =>
    have hany : Scans .nothing "= ANY(".toList [.equal, .word "any", .left] .nothing := rfl
    have hblank : Scans .nothing [' '] [] .nothing := rfl
    have hslot := (reads_slotText slot).append_mark.2.append hblank
    have hall := (h column List.mem_cons_self).reads.append (hany.append hslot)
    rw [Reads]
    simpa [text, lexemes] using hall

/-! ## Expressions -/

/-- The expression of one alternative of `anyMatches`. -/
def matchExpr (term : String × Nat) : Expr :=
  .iLike (.column term.1) (.slot term.2) '\\'

/-- The expression of a condition, for the conditions of predicates. -/
def expr? : Condition → Option Expr
  | .anyMatches (term :: terms) => some ((terms.map matchExpr).foldl .or (matchExpr term))
  | .compare column comparison slot => some (.compare (.column column) comparison (.slot slot))
  | .anyMatches [] | .isTrue _ | .among .. => none

end Condition

end Database

namespace Sql

open Database

/-- Reads a condition on from a level. -/
def read? (around : List Level) (l : Level) (ls : List Lexeme) : Option Expr :=
  (items ls).bind (structured? around l)

section Read

variable {around : List Level} {l outer : Level} {ls : List Lexeme}

/-- Behind `AND` another term is read. -/
theorem read?_and :
    read? around l (.word "and" :: ls) = l.and?.bind (read? around · ls) := by
  simp only [read?, items]
  cases items ls with
  | none => cases l.and? <;> rfl
  | some its => cases around <;> rfl

/-- Behind `OR` another chain of terms is read. -/
theorem read?_or : read? around l (.word "or" :: ls) = l.or?.bind (read? around · ls) := by
  simp only [read?, items]
  cases items ls with
  | none => cases l.or? <;> rfl
  | some its => cases around <;> rfl

/-- A parenthesis opens only where an operand is wanted. -/
theorem read?_left :
    read? around l (.left :: ls)
      = if l.wants then read? (l :: around) (.start none) ls else none := by
  simp only [read?, items]
  cases items ls with
  | none => cases l.wants <;> rfl
  | some its => cases around <;> rfl

/-- A parenthesis closes what has been read since it was opened. -/
theorem read?_right :
    read? (outer :: around) l (.right :: ls)
      = l.expr?.bind fun e => (outer.operand? e).bind (read? around · ls) := by
  simp only [read?, items]
  cases items ls with
  | none =>
    cases l.expr? with
    | none => rfl
    | some e => cases outer.operand? e <;> simp
  | some its =>
    rw [Option.map_some, Option.bind_some, structured?]
    rfl

end Read

/-- These lexemes are one operand of `AND` or `OR`, an expression. -/
def Denotes (ls : List Lexeme) (e : Expr) : Prop :=
  ∀ (around : List Level) (l : Level) (rest : List Lexeme),
    read? around l (ls ++ rest) = (l.operand? e).bind (read? around · rest)

/-- Lexemes that are one test are one operand. -/
theorem denotes_of_items {ls : List Lexeme} {e : Expr}
    (h : ∀ rest, items (ls ++ rest) = (items rest).map (.test e :: ·)) : Denotes ls e := by
  intro around l rest
  simp only [read?, h]
  cases items rest with
  | none => cases l.operand? e <;> rfl
  | some its => cases around <;> rfl

/-- The lexemes that match a column against a slot denote this condition. -/
theorem denotes_match {term : String × Nat} (h : IsName term.1) :
    Denotes (Condition.matchLexemes term) (Condition.matchExpr term) := by
  refine denotes_of_items fun rest => ?_
  simp only [Condition.matchLexemes, List.cons_append, List.nil_append]
  rw [items, h.ofLexeme?_word]
  · cases items rest <;> rfl
  · exact Lexeme.noConfusion
  · exact Lexeme.noConfusion
  · exact h.word_ne "and" (by decide)
  · exact h.word_ne "or" (by decide)

/-- The lexemes that compare a column with a slot denote this condition. -/
theorem denotes_compare {column : String} (h : IsName column) (comparison : Comparison)
    (slot : Nat) :
    Denotes [.word column, comparison.lexeme, .slot slot]
      (.compare (.column column) comparison (.slot slot)) := by
  refine denotes_of_items fun rest => ?_
  simp only [List.cons_append, List.nil_append]
  rw [items, h.ofLexeme?_word]
  · cases comparison <;> cases items rest <;> rfl
  · exact Lexeme.noConfusion
  · exact Lexeme.noConfusion
  · exact h.word_ne "and" (by decide)
  · exact h.word_ne "or" (by decide)
  · -- the sign is a comparison, and not the beginning of a match
    intro c ls hsign
    cases comparison <;> cases hsign

/-- Alternatives, read from the start of a level or after an `OR`. -/
theorem read?_alternatives {first : List Lexeme} {more : List (List Lexeme)} {e a : Expr}
    {es : List Expr} (alternatives : Option Expr) (hfirst : Denotes first e)
    (hmore : List.Forall₂ Denotes more es) (ha : (Level.whole alternatives e).expr? = some a)
    (around : List Level) (rest : List Lexeme) :
    ∃ l : Level, l.expr? = some (es.foldl .or a) ∧
      read? around (.start alternatives) ([.word "or"].intercalate (first :: more) ++ rest)
        = read? around l rest := by
  -- each `OR` ends a level, so that what follows is read from the start of a new one
  induction hmore generalizing first e a alternatives with
  | nil =>
    refine ⟨.whole alternatives e, ha, ?_⟩
    rw [List.intercalate_singleton, hfirst]
    rfl
  | cons hnext _ ih =>
    obtain ⟨l, hl, hread⟩ := ih (some a) hnext rfl
    refine ⟨l, hl, ?_⟩
    rw [List.intercalate_cons_cons, List.append_assoc, List.append_assoc, hfirst]
    show read? around (.whole alternatives e) (.word "or" :: _) = _
    rw [read?_or, Level.or?, ha]
    exact hread

/-- A conjunction, read from the start of a level or after an `AND`. -/
theorem read?_conjunction {first : List Lexeme} {more : List (List Lexeme)} {l : Level}
    {alternatives : Option Expr} {e c : Expr} {es : List Expr} (hfirst : Denotes first e)
    (hmore : List.Forall₂ Denotes more es) (hc : l.operand? e = some (.whole alternatives c))
    (around : List Level) (rest : List Lexeme) :
    read? around l ([.word "and"].intercalate (first :: more) ++ rest)
      = read? around (.whole alternatives (es.foldl .and c)) rest := by
  -- each `AND` goes on with the level, whose alternatives stay as they are
  induction hmore generalizing first e c l with
  | nil =>
    rw [List.intercalate_singleton, hfirst, hc]
    rfl
  | cons hnext _ ih =>
    rw [List.intercalate_cons_cons, List.append_assoc, List.append_assoc, hfirst, hc]
    show read? around (.whole alternatives c) (.word "and" :: _) = _
    rw [read?_and]
    exact ih hnext rfl

/-- Alternatives in parentheses are one operand. -/
theorem denotes_parenthesized {first : List Lexeme} {more : List (List Lexeme)} {e : Expr}
    {es : List Expr} (hfirst : Denotes first e) (hmore : List.Forall₂ Denotes more es) :
    Denotes (.left :: ([.word "or"].intercalate (first :: more) ++ [.right])) (es.foldl .or e) := by
  intro around l rest
  obtain ⟨inside, hinside, hread⟩ :=
    read?_alternatives none hfirst hmore rfl (l :: around) (.right :: rest)
  rw [List.cons_append, List.append_assoc, List.singleton_append, read?_left, hread, read?_right,
    hinside]
  -- where no parenthesis may be opened no operand may stand
  cases l <;> rfl

/-- The lexemes of a condition denote its expression. -/
theorem denotes_lexemes {c : Condition} {e : Expr} (h : ∀ name ∈ c.columns, IsName name)
    (he : c.expr? = some e) : Denotes c.lexemes e := by
  cases c with
  | anyMatches terms =>
    cases terms with
    | nil => cases he
    | cons term terms =>
      cases he
      refine denotes_parenthesized (denotes_match (h _ List.mem_cons_self)) ?_
      rw [List.forall₂_map_left_iff, List.forall₂_map_right_iff, List.forall₂_same]
      exact fun t ht => denotes_match (h t.1 (List.mem_map_of_mem (List.mem_cons_of_mem _ ht)))
  | compare column comparison slot =>
    cases he
    exact denotes_compare (h column List.mem_cons_self) comparison slot
  | isTrue column => cases he
  | among column slot => cases he

/-- A chain of operands is read as their conjunction. -/
theorem condition?_intercalate {first : List Lexeme} {more : List (List Lexeme)} {e : Expr}
    {es : List Expr} (hfirst : Denotes first e) (hmore : List.Forall₂ Denotes more es) :
    condition? ([.word "and"].intercalate (first :: more)) = some (es.foldl .and e) := by
  have h := read?_conjunction hfirst hmore (l := .start none) rfl [] []
  rw [List.append_nil] at h
  exact h

end Sql

end FeedArchive
