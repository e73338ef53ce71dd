import FeedArchive.Proofs.Text.Decimal

/-!
# Lexemes of SQL

The text of a statement is read from left to right into words, numbered slots, quoted texts and
marks. Words are read in lower case, as names and keywords are without regard to case, and a quote
inside a quoted text is written twice.

`Scans` says what reading a part of a text gives, and parts are put together with `Scans.append`:
the reading of a long text follows from those of its parts.
-/

namespace FeedArchive.Sql

/-- The smallest parts of a statement. -/
inductive Lexeme where
  /-- A keyword or the name of a table or column. -/
  | word (name : String)
  /-- The place of the parameter with a number, counted from one. -/
  | slot (number : Nat)
  | quoted (text : List Char)
  | comma
  | left
  | right
  | equal
  | atLeast
  | atMost
  deriving DecidableEq

/-- What has been read of the lexeme at hand. -/
inductive Pending where
  | nothing
  | word (name : List Char)
  | slot (digits : List Char)
  | quoted (text : List Char)
  /-- A quoted text with a quote after it, which ends the text unless there is another one. -/
  | quote (text : List Char)
  | less
  | greater

namespace Pending

def startsWord (c : Char) : Bool :=
  c.isAlpha || c == '_'

def continuesWord (c : Char) : Bool :=
  c.isAlphanum || c == '_'

/-- A character between lexemes. -/
def ofFirst? (c : Char) : Option (List Lexeme × Pending) :=
  if c.isWhitespace then some ([], .nothing)
  else if startsWord c then some ([], .word [c.toLower])
  else match c with
    | '$' => some ([], .slot [])
    | '\'' => some ([], .quoted [])
    | '<' => some ([], .less)
    | '>' => some ([], .greater)
    | ',' => some ([.comma], .nothing)
    | '(' => some ([.left], .nothing)
    | ')' => some ([.right], .nothing)
    | '=' => some ([.equal], .nothing)
    | _ => none

/-- The lexeme at hand with another character, if that belongs to it. -/
def extend? : Pending → Char → Option (List Lexeme × Pending)
  | .word w, c => if continuesWord c then some ([], .word (w ++ [c.toLower])) else none
  | .slot ds, c => if c.isDigit then some ([], .slot (ds ++ [c])) else none
  | .quoted t, c => some ([], if c = '\'' then .quote t else .quoted (t ++ [c]))
  | .quote t, c => if c = '\'' then some ([], .quoted (t ++ [c])) else none
  | .less, c => if c = '=' then some ([.atMost], .nothing) else none
  | .greater, c => if c = '=' then some ([.atLeast], .nothing) else none
  | .nothing, _ => none

/-- The lexeme at hand if nothing more belongs to it. -/
def close? : Pending → Option (List Lexeme)
  | .nothing => some []
  | .word w => some [.word (String.ofList w)]
  | .slot ds => if ds.isEmpty then none else some [.slot (Decimal.value ds)]
  | .quote t => some [.quoted t]
  | .quoted _ | .less | .greater => none

/-- Reads one character. -/
def read? (p : Pending) (c : Char) : Option (List Lexeme × Pending) :=
  match p.extend? c with
  | some r => some r
  | none => do
    let closed ← p.close?
    let (begun, q) ← ofFirst? c
    return (closed ++ begun, q)

end Pending

/-- Reads a part of a text: the lexemes that are complete, and what is left pending. -/
def scan : Pending → List Char → Option (List Lexeme × Pending)
  | p, [] => some ([], p)
  | p, c :: cs => do
    let (ls, q) ← p.read? c
    let (more, r) ← scan q cs
    return (ls ++ more, r)

/-- The lexemes of a text. -/
def lexemes (cs : List Char) : Option (List Lexeme) := do
  let (ls, p) ← scan .nothing cs
  let last ← p.close?
  return ls ++ last

/-! ## Parts of a text -/

/-- Reading a part of a text gives lexemes and leaves something pending. -/
def Scans (p : Pending) (cs : List Char) (ls : List Lexeme) (q : Pending) : Prop :=
  scan p cs = some (ls, q)

/-- Nothing yields no lexeme. -/
theorem Scans.nil (p : Pending) : Scans p [] [] p := rfl

/-- One character, and then the rest of the text. -/
theorem Scans.cons {p q r : Pending} {c : Char} {cs : List Char} {ls more : List Lexeme}
    (hc : p.read? c = some (ls, q)) (h : Scans q cs more r) :
    Scans p (c :: cs) (ls ++ more) r := by
  have h' : scan q cs = some (more, r) := h
  rw [Scans, scan, hc]
  show (scan q cs >>= fun x => pure (ls ++ x.1, x.2)) = _
  rw [h']
  rfl

/-- The first character of a part is read before the others. -/
theorem Scans.exists_of_cons {p r : Pending} {c : Char} {cs : List Char} {ls : List Lexeme}
    (h : Scans p (c :: cs) ls r) :
    ∃ (first rest : List Lexeme) (q : Pending),
      p.read? c = some (first, q) ∧ Scans q cs rest r ∧ first ++ rest = ls := by
  rw [Scans, scan] at h
  obtain ⟨⟨first, q⟩, hfirst, h⟩ := Option.bind_eq_some_iff.mp h
  obtain ⟨⟨rest, r'⟩, hrest, h⟩ := Option.bind_eq_some_iff.mp h
  obtain ⟨rfl, rfl⟩ := Prod.ext_iff.mp (Option.some.inj h)
  exact ⟨first, rest, q, hfirst, hrest, rfl⟩

/-- Parts are read one after the other. -/
theorem Scans.append {p q r : Pending} {xs ys : List Char} {ls more : List Lexeme}
    (hx : Scans p xs ls q) (hy : Scans q ys more r) : Scans p (xs ++ ys) (ls ++ more) r := by
  induction xs generalizing p ls with
  | nil =>
    obtain ⟨rfl, rfl⟩ := Prod.ext_iff.mp (Option.some.inj hx)
    exact hy
  | cons c xs ih =>
    obtain ⟨first, rest, q', hc, hrest, rfl⟩ := hx.exists_of_cons
    rw [List.cons_append, List.append_assoc]
    exact Scans.cons hc (ih hrest)

/-- A character that does not belong to the lexeme at hand ends it and is read afresh. -/
theorem Scans.of_close {p q : Pending} {c : Char} {cs : List Char} {closed ls : List Lexeme}
    (hclose : p.close? = some closed) (hextend : p.extend? c = none)
    (h : Scans .nothing (c :: cs) ls q) : Scans p (c :: cs) (closed ++ ls) q := by
  obtain ⟨first, rest, r, hfirst, hrest, rfl⟩ := h.exists_of_cons
  have hnothing : Pending.ofFirst? c = some (first, r) := by
    obtain ⟨⟨begun, r'⟩, hbegun, heq⟩ := Option.bind_eq_some_iff.mp hfirst
    rw [hbegun, ← heq]
    rfl
  have hread : p.read? c = some (closed ++ first, r) := by
    rw [Pending.read?, hextend, hclose, hnothing]
    rfl
  rw [← List.append_assoc]
  exact Scans.cons hread hrest

/-- Digits go on with a slot. -/
theorem scans_digits {digits : List Char} (h : ∀ c ∈ digits, c.isDigit = true)
    (before : List Char) : Scans (.slot before) digits [] (.slot (before ++ digits)) := by
  induction digits generalizing before with
  | nil =>
    rw [List.append_nil]
    exact Scans.nil _
  | cons c digits ih =>
    have hc : (Pending.slot before).read? c = some ([], .slot (before ++ [c])) := by
      simp only [Pending.read?, Pending.extend?, if_pos (h c List.mem_cons_self)]
    have hrest := ih (fun d hd => h d (List.mem_cons_of_mem c hd)) (before ++ [c])
    rw [List.append_assoc] at hrest
    exact Scans.cons hc hrest

/-- A numeral behind the dollar sign is the number of a slot, and a blank ends it. -/
theorem scans_numeral_blank (n : Nat) {cs : List Char} {ls : List Lexeme} {q : Pending}
    (h : Scans .nothing (' ' :: cs) ls q) :
    Scans (.slot []) (Decimal.numeral n ++ ' ' :: cs) (.slot n :: ls) q := by
  have hclose : (Pending.slot ([] ++ Decimal.numeral n)).close? = some [.slot n] := by
    rw [List.nil_append, Pending.close?, if_neg (by simp [Decimal.numeral_ne_nil]),
      Decimal.value_numeral]
  exact (scans_digits (Decimal.isDigit_of_mem_numeral n) []).append
    (Scans.of_close hclose rfl h)

/-! ## Texts between blanks -/

/-- A text is read up to any place in it and from there on. -/
theorem Scans.exists_of_append {p q : Pending} {xs ys : List Char} {ls : List Lexeme}
    (h : Scans p (xs ++ ys) ls q) :
    ∃ (first more : List Lexeme) (r : Pending),
      Scans p xs first r ∧ Scans r ys more q ∧ first ++ more = ls := by
  induction xs generalizing p ls with
  | nil => exact ⟨[], ls, p, Scans.nil p, h, rfl⟩
  | cons c xs ih =>
    rw [List.cons_append] at h
    obtain ⟨begun, rest, q', hc, hrest, rfl⟩ := h.exists_of_cons
    obtain ⟨first, more, r, hfirst, hmore, rfl⟩ := ih hrest
    exact ⟨begun ++ first, more, r, Scans.cons hc hfirst, hmore, List.append_assoc ..⟩

/-- A text with a blank behind it gives these lexemes. -/
def Reads (cs : List Char) (ls : List Lexeme) : Prop :=
  Scans .nothing (cs ++ [' ']) ls .nothing

/-- What a blank ends is ended by a comma or a closing parenthesis too. -/
theorem Pending.close_of_blank {p : Pending} {ls : List Lexeme} (h : Scans p [' '] ls .nothing) :
    p.close? = some ls ∧ p.extend? ',' = none ∧ p.extend? ')' = none := by
  rw [Scans] at h
  cases p with
  | nothing =>
    obtain ⟨rfl, -⟩ := Prod.ext_iff.mp (Option.some.inj h)
    exact ⟨rfl, rfl, rfl⟩
  | word w =>
    obtain ⟨rfl, -⟩ := Prod.ext_iff.mp (Option.some.inj h)
    exact ⟨rfl, rfl, rfl⟩
  | slot ds =>
    cases ds with
    | nil => cases h
    | cons d ds =>
      obtain ⟨rfl, -⟩ := Prod.ext_iff.mp (Option.some.inj h)
      exact ⟨rfl, rfl, rfl⟩
  | quote t =>
    obtain ⟨rfl, -⟩ := Prod.ext_iff.mp (Option.some.inj h)
    exact ⟨rfl, rfl, rfl⟩
  | quoted t | less | greater => cases h

/-- A blank between two texts keeps them apart. -/
theorem Reads.join {xs ys : List Char} {ls more : List Lexeme} (hx : Reads xs ls)
    (hy : Reads ys more) : Reads (xs ++ ' ' :: ys) (ls ++ more) := by
  have h := Scans.append hx hy
  rw [List.append_assoc, List.singleton_append] at h
  rw [Reads, List.append_assoc]
  exact h

/-- A mark behind a text needs no blank. -/
theorem Reads.append_mark {cs : List Char} {ls : List Lexeme} (h : Reads cs ls) :
    Scans .nothing (cs ++ [',']) (ls ++ [.comma]) .nothing ∧
      Scans .nothing (cs ++ [')']) (ls ++ [.right]) .nothing := by
  obtain ⟨first, closed, p, hcs, hblank, rfl⟩ := Scans.exists_of_append h
  obtain ⟨hclose, hcomma, hright⟩ := Pending.close_of_blank hblank
  rw [List.append_assoc, List.append_assoc]
  exact ⟨hcs.append (Scans.of_close hclose hcomma rfl),
    hcs.append (Scans.of_close hclose hright rfl)⟩

/-- Parentheses around a text. -/
theorem Reads.parenthesized {cs : List Char} {ls : List Lexeme} (h : Reads cs ls) :
    Reads ('(' :: cs ++ [')']) (.left :: (ls ++ [.right])) := by
  have hopen : Pending.nothing.read? '(' = some ([.left], .nothing) := rfl
  have hblank : Scans .nothing [' '] [] .nothing := rfl
  have hall := (Scans.cons hopen h.append_mark.2).append hblank
  rw [List.append_nil] at hall
  exact hall

/-- A text needs no blank at its end. -/
theorem Reads.lexemes_eq {cs : List Char} {ls : List Lexeme} (h : Reads cs ls) :
    lexemes cs = some ls := by
  obtain ⟨first, closed, p, hcs, hblank, rfl⟩ := Scans.exists_of_append h
  have hcs' : scan .nothing cs = some (first, p) := hcs
  rw [lexemes, hcs']
  show (p.close? >>= fun last => pure (first ++ last)) = _
  rw [(Pending.close_of_blank hblank).1]
  rfl

/-- A slot is read with its number. -/
theorem reads_slot (n : Nat) : Reads ('$' :: Decimal.numeral n) [.slot n] := by
  have hblank : Scans .nothing [' '] [] .nothing := rfl
  have hdollar : Pending.nothing.read? '$' = some ([], .slot []) := rfl
  exact Scans.cons hdollar (scans_numeral_blank n hblank)

section Lists

variable {α : Type} {text : α → List Char} {ls : α → List Lexeme} {x : α} {xs : List α}

/-- Texts with a keyword between them. -/
theorem Reads.intercalate {keyword : List Char} {between : List Lexeme}
    (hkeyword : Reads keyword between) (h : ∀ y ∈ x :: xs, Reads (text y) (ls y)) :
    Reads ((' ' :: keyword ++ [' ']).intercalate ((x :: xs).map text))
      (between.intercalate ((x :: xs).map ls)) := by
  induction xs generalizing x with
  | nil => simpa using h x List.mem_cons_self
  | cons y xs ih =>
    have hx := h x List.mem_cons_self
    have hrest := ih fun z hz => h z (List.mem_cons_of_mem x hz)
    have hall := hx.join (hkeyword.join hrest)
    simpa [List.intercalate_cons_cons] using hall

/-- Texts with commas between them. -/
theorem Reads.intercalate_comma (h : ∀ y ∈ x :: xs, Reads (text y) (ls y)) :
    Reads ([',', ' '].intercalate ((x :: xs).map text))
      ([.comma].intercalate ((x :: xs).map ls)) := by
  induction xs generalizing x with
  | nil => simpa using h x List.mem_cons_self
  | cons y xs ih =>
    have hx := (h x List.mem_cons_self).append_mark.1
    have hrest := ih fun z hz => h z (List.mem_cons_of_mem x hz)
    have hblank : Scans .nothing [' '] [] .nothing := rfl
    have hall := (hx.append hblank).append hrest
    rw [Reads]
    simpa [List.intercalate_cons_cons] using hall

end Lists

end FeedArchive.Sql
