import FeedArchive.Json.Token
import FeedArchive.Json.Value
import FeedArchive.Proofs.Text.Integer
import FeedArchive.Proofs.Text.Scan

/-!
# Tokens of what is written

A text in quotes is read as one token, whatever comes behind it, and so is the numeral of an integer
in front of what does not belong to a number. `tokens?` takes one token after the other and passes
over the white space between them.
-/

namespace FeedArchive.Json

open Scan

variable {rest cs : List Char}

/-! ## Texts -/

/-- A character that needs no escape stands for itself. -/
theorem textParts?_plain {c : Char} (hquote : c ≠ '"') (hslash : c ≠ '\\') (hspace : ' ' ≤ c) :
    textParts? (c :: cs) = (textParts? cs).map fun p => (.char c :: p.1, p.2) := by
  rw [textParts?]
  · rw [guard, if_pos hspace]
    cases textParts? cs <;> rfl
  · exact hquote
  · intro _ _ _ _ _ h
    exact absurd h hslash
  · intro _ _ h
    exact absurd h hslash

/-- An escape of one letter stands for its character. -/
theorem textParts?_unescape {c d : Char} (hc : c ≠ 'u') (h : unescapeChar? c = some d) :
    textParts? ('\\' :: c :: cs) = (textParts? cs).map fun p => (.char d :: p.1, p.2) := by
  rw [textParts?]
  · rw [h]
    cases textParts? cs <;> rfl
  · intro _ _ _ _ _ h
    exact absurd h hc

/-- An escape of four hexadecimal digits stands for the unit with their value. -/
theorem textParts?_unit {a b c d : Char} {n : Nat} (h : Hexadecimal.value? [a, b, c, d] = some n) :
    textParts? ('\\' :: 'u' :: a :: b :: c :: d :: cs)
      = (textParts? cs).map fun p => (.ofUnit n :: p.1, p.2) := by
  rw [textParts?, h]
  cases textParts? cs <;> rfl

/-- The two digits written for a control character are read as its code. -/
theorem value?_control : ∀ n < 32, Hexadecimal.value?
    ['0', '0', Hexadecimal.digit (n / 16), Hexadecimal.digit (n % 16)] = some n := by
  decide

/-- The unit with the code of a control character is the character. -/
theorem ofUnit_control {c : Char} (h : c < ' ') : TextPart.ofUnit c.toNat = .char c := by
  have hlt : c.toNat < 32 := h
  rw [TextPart.ofUnit, if_neg (by omega), if_neg (by omega), Char.ofNat_toNat]

/-- What is written for a character is read as the character. -/
theorem textParts?_escapeChar (c : Char) :
    textParts? (escapeChar c ++ cs) = (textParts? cs).map fun p => (.char c :: p.1, p.2) := by
  unfold escapeChar
  split_ifs with hquote hslash _ _ _ _ _ hcontrol
  -- the characters that have an escape of one letter
  iterate 7
    · subst c
      exact textParts?_unescape (by decide) rfl
  · rw [← ofUnit_control hcontrol]
    exact textParts?_unit (value?_control c.toNat hcontrol)
  · exact textParts?_plain hquote hslash (Char.not_lt.mp hcontrol)

/-- The characters of a text, escaped and closed with a quote, are read as they are. -/
theorem textParts?_quoted (cs : List Char) :
    textParts? (cs.flatMap escapeChar ++ '"' :: rest) = some (cs.map .char, rest) := by
  induction cs with
  | nil => rw [List.flatMap_nil, List.nil_append, textParts?, List.map_nil]
  | cons c cs ih =>
    rw [List.flatMap_cons, List.append_assoc, textParts?_escapeChar, ih, Option.map_some,
      List.map_cons]

/-- Characters without surrogates are joined to themselves. -/
theorem joinParts?_map_char (cs : List Char) : joinParts? (cs.map .char) = some cs := by
  induction cs with
  | nil => rfl
  | cons c cs ih => rw [List.map_cons, joinParts?, ih, Option.map_some]

/-- A quoted text is scanned as one token, up to its closing quote. -/
theorem run_scanToken_quote (s : String) :
    scanToken.run (quote s ++ rest) = some (.text (some s), rest) := by
  show scanText.run (s.toList.flatMap escapeChar ++ ['"'] ++ rest) = _
  rw [List.append_assoc, List.singleton_append]
  show (textParts? _).bind _ = _
  rw [textParts?_quoted, Option.bind_some]
  show some (Token.text ((joinParts? (s.toList.map .char)).map String.ofList), rest) = _
  rw [joinParts?_map_char, Option.map_some, String.ofList_toList]

/-! ## Numbers -/

/-- What comes behind a number does not belong to it as well. -/
def EndsNumber (rest : List Char) : Prop :=
  ∀ c ∈ rest.head?, c.isDigit = false ∧ c ∉ ['.', 'e', 'E']

/-- Only the numeral of zero begins with a zero. -/
theorem eq_zero_of_head_numeral {n : Nat} {ds : List Char}
    (h : Decimal.numeral n = '0' :: ds) : n = 0 := by
  induction n using Decimal.numeral.induct generalizing ds with
  | case1 n hn =>
    rw [Decimal.numeral, if_pos hn] at h
    have hdigit := congrArg Decimal.digitValue (List.cons.inj h).1
    rw [Decimal.digitValue_digit] at hdigit
    have hzero : Decimal.digitValue '0' = 0 := rfl
    omega
  | case2 n hn ih =>
    rw [Decimal.numeral, if_neg hn] at h
    obtain ⟨c, front, hfront⟩ := List.exists_cons_of_ne_nil (Decimal.numeral_ne_nil (n / 10))
    rw [hfront, List.cons_append] at h
    rw [(List.cons.inj h).1] at hfront
    have := ih hfront
    omega

/-- The numeral of a number is scanned to its end. -/
theorem run_scanIntDigits (n : Nat) (h : EndsNumber rest) :
    scanIntDigits.run (Decimal.numeral n ++ rest) = some (Decimal.numeral n, rest) := by
  rw [scanIntDigits, run_rest_bind]
  split
  · rename_i cs heq
    obtain ⟨c, front, hfront⟩ := List.exists_cons_of_ne_nil (Decimal.numeral_ne_nil n)
    obtain rfl : c = '0' := by
      rw [hfront, List.cons_append] at heq
      exact (List.cons.inj heq).1
    obtain rfl := eq_zero_of_head_numeral hfront
    have hzero : Decimal.numeral 0 = ['0'] := by
      rw [Decimal.numeral, if_pos (by decide)]
      rfl
    rw [hzero, run_bind_pure_eq_some_iff]
    exact ⟨(), run_char_eq_some_iff.mpr rfl, rfl⟩
  · refine run_digits_eq_some_iff.mpr ⟨rfl, ?_⟩
    exact ⟨Decimal.isDigit_of_mem_numeral n, List.length_pos_iff.mpr (Decimal.numeral_ne_nil n),
      by simp, Or.inr fun c hc => (h c hc).1⟩

/-- What ends a number is no fraction. -/
theorem run_scanFraction (h : EndsNumber rest) : scanFraction.run rest = some ([], rest) := by
  rw [scanFraction, run_rest_bind]
  split
  · exact absurd (h '.' rfl).2 (by decide)
  · rfl

/-- What ends a number is no exponent. -/
theorem run_scanExponent (h : EndsNumber rest) : scanExponent.run rest = some ([], rest) := by
  have hnone : (Scan.oneOf fun c => c == 'e' || c == 'E').run rest = none := by
    cases rest with
    | nil => rfl
    | cons c rest =>
      have hc := (h c rfl).2
      refine if_neg ?_
      simp_all
  rw [scanExponent, run_bind_eq_some_iff]
  exact ⟨none, rest, run_optional_none hnone, rfl⟩

/-- The parts of a number behind its sign are its digits and no more. -/
theorem run_scanNumber_of_sign (front : List Char) {sign : Option Unit} {n : Nat}
    (hsign : (Scan.optional (Scan.char '-')).run (front ++ (Decimal.numeral n ++ rest))
      = some (sign, Decimal.numeral n ++ rest))
    (hzero : sign.isSome = true → n ≠ 0) (h : EndsNumber rest) :
    scanNumber.run (front ++ (Decimal.numeral n ++ rest))
      = some (.int (if sign.isSome then -(n : Int) else n), rest) := by
  -- a zero with a sign would be no integer
  have hne : (if sign.isSome then '-' :: Decimal.numeral n else Decimal.numeral n)
      ≠ ['-', '0'] := by
    split
    · intro heq
      exact hzero ‹_› (eq_zero_of_head_numeral (List.cons.inj heq).2)
    · intro heq
      have hdigit := Decimal.isDigit_of_mem_numeral n '-' (by rw [heq]; exact List.mem_cons_self)
      exact absurd hdigit (by decide)
  rw [scanNumber, run_bind_eq_some_iff]
  refine ⟨sign, _, hsign, ?_⟩
  rw [run_bind_eq_some_iff]
  refine ⟨_, _, run_scanIntDigits n h, ?_⟩
  rw [run_bind_eq_some_iff]
  refine ⟨_, _, run_scanFraction h, ?_⟩
  rw [run_bind_eq_some_iff]
  refine ⟨_, _, run_scanExponent h, ?_⟩
  have hint : (([] : List Char).isEmpty && ([] : List Char).isEmpty &&
      (if sign.isSome then '-' :: Decimal.numeral n else Decimal.numeral n) != ['-', '0'])
        = true := by
    simpa using hne
  rw [if_pos hint, Decimal.value_numeral]
  rfl

/-- The numeral of an integer is read as the integer. -/
theorem run_scanNumber_signed (n : Int) (h : EndsNumber rest) :
    scanNumber.run (Decimal.signed n ++ rest) = some (.int n, rest) := by
  cases n with
  | ofNat n =>
    have hsign : (Scan.optional (Scan.char '-')).run (Decimal.numeral n ++ rest)
        = some (none, Decimal.numeral n ++ rest) := by
      apply run_optional_none
      obtain ⟨c, front, hfront⟩ := List.exists_cons_of_ne_nil (Decimal.numeral_ne_nil n)
      have hdigit := Decimal.isDigit_of_mem_numeral n c (by rw [hfront]; exact List.mem_cons_self)
      rw [hfront]
      refine if_neg ?_
      rintro rfl
      exact absurd hdigit (by decide)
    exact run_scanNumber_of_sign [] hsign (by simp) h
  | negSucc n =>
    have hsign : (Scan.optional (Scan.char '-')).run ('-' :: (Decimal.numeral (n + 1) ++ rest))
        = some (some (), Decimal.numeral (n + 1) ++ rest) :=
      run_optional_some (run_char_eq_some_iff.mpr rfl)
    exact run_scanNumber_of_sign ['-'] hsign (by simp) h

/-- The word `null` is one token. -/
theorem run_scanToken_null : scanToken.run ("null".toList ++ rest) = some (.null, rest) := rfl

/-- The word `true` is one token. -/
theorem run_scanToken_true : scanToken.run ("true".toList ++ rest) = some (.bool true, rest) := rfl

/-- The word `false` is one token. -/
theorem run_scanToken_false :
    scanToken.run ("false".toList ++ rest) = some (.bool false, rest) := rfl

/-- A word is not scanned where another character than its first one stands. -/
theorem run_scanWord_eq_none {word : String} {token : Token} {c d : Char} {ds : List Char}
    (hword : word.toList = d :: ds) (h : c ≠ d) :
    (scanWord word token).run (c :: cs) = none := by
  have hchar : (Scan.char d).run (c :: cs) = none := if_neg h
  rw [scanWord, hword, Scan.text, StateT.run_bind, StateT.run_bind, hchar]
  rfl

/-- What begins with a digit or a minus sign is a number, if anything. -/
theorem run_scanToken_eq_scanNumber {c : Char} (h : c = '-' ∨ c.isDigit = true) :
    scanToken.run (c :: cs) = scanNumber.run (c :: cs) := by
  have hne : ∀ d : Char, d ≠ '-' → d.isDigit = false → c ≠ d := by
    rintro d hminus hdigit rfl
    rcases h with rfl | h
    · exact hminus rfl
    · exact absurd (hdigit.symm.trans h) (by decide)
  rw [StateT.run, scanToken, run_scanWord_eq_none rfl (hne 'n' (by decide) (by decide)),
    run_scanWord_eq_none rfl (hne 't' (by decide) (by decide)),
    run_scanWord_eq_none rfl (hne 'f' (by decide) (by decide))]
  · rfl
  all_goals
    intro _ heq
    exact absurd (List.cons.inj heq).1 (hne _ (by decide) (by decide))

/-- The numeral of an integer begins with a minus sign or a digit. -/
theorem head_signed (n : Int) :
    ∃ c cs, Decimal.signed n = c :: cs ∧ (c = '-' ∨ c.isDigit = true) := by
  cases n with
  | ofNat n =>
    obtain ⟨c, front, hfront⟩ := List.exists_cons_of_ne_nil (Decimal.numeral_ne_nil n)
    exact ⟨c, front, hfront, Or.inr (Decimal.isDigit_of_mem_numeral n c (by simp [hfront]))⟩
  | negSucc n => exact ⟨'-', _, rfl, Or.inl rfl⟩

/-- The numeral of an integer is one token. -/
theorem run_scanToken_signed (n : Int) (h : EndsNumber rest) :
    scanToken.run (Decimal.signed n ++ rest) = some (.int n, rest) := by
  obtain ⟨c, cs, hcs, hc⟩ := head_signed n
  have hscan := run_scanNumber_signed n h
  rw [hcs, List.cons_append] at hscan ⊢
  rw [run_scanToken_eq_scanNumber hc, hscan]

/-! ## One token after the other -/

/-- White space yields no token. -/
theorem tokens?_space {c : Char} (hc : isSpace c = true) : tokens? (c :: cs) = tokens? cs := by
  rw [tokens?, if_pos hc]

/-- White space is passed over. -/
theorem tokens?_spaces {gap : List Char} (h : ∀ c ∈ gap, isSpace c = true) :
    tokens? (gap ++ rest) = tokens? rest := by
  induction gap with
  | nil => rfl
  | cons c gap ih =>
    obtain ⟨hc, hgap⟩ := List.forall_mem_cons.mp h
    rw [List.cons_append, tokens?_space hc, ih hgap]

/-- A token is taken off the front. -/
theorem tokens?_of_run {c : Char} {token : Token} (hc : isSpace c = false)
    (hrun : scanToken.run (c :: (cs ++ rest)) = some (token, rest)) :
    tokens? (c :: (cs ++ rest)) = (tokens? rest).map (token :: ·) := by
  -- the reader makes sure that a token has used up some of the text
  have hlength : rest.length ≤ (cs ++ rest).length := by
    rw [List.length_append]
    omega
  rw [tokens?, if_neg (Bool.eq_false_iff.mp hc), hrun]
  exact if_pos hlength

/-- A mark is a token by itself. -/
theorem tokens?_mark {c : Char} {token : Token} (hc : isSpace c = false)
    (hrun : scanToken.run (c :: rest) = some (token, rest)) :
    tokens? (c :: rest) = (tokens? rest).map (token :: ·) :=
  @tokens?_of_run rest [] c token hc hrun

/-- A quoted text yields one token, and then what follows is scanned. -/
theorem tokens?_quote (s : String) :
    tokens? (quote s ++ rest) = (tokens? rest).map (.text (some s) :: ·) :=
  tokens?_of_run (by decide) (run_scanToken_quote s)

/-- The numeral of an integer yields one token, if what follows ends a number. -/
theorem tokens?_signed (n : Int) (h : EndsNumber rest) :
    tokens? (Decimal.signed n ++ rest) = (tokens? rest).map (.int n :: ·) := by
  obtain ⟨c, cs, hcs, hc⟩ := head_signed n
  have hrun := run_scanToken_signed n h
  have hspace : isSpace c = false := by
    rcases hc with rfl | hdigit
    · decide
    · simp only [isSpace, Bool.or_eq_false_iff, beq_eq_false_iff_ne]
      refine ⟨⟨⟨?_, ?_⟩, ?_⟩, ?_⟩ <;> (rintro rfl; exact absurd hdigit (by decide))
  rw [hcs, List.cons_append] at hrun ⊢
  exact tokens?_of_run hspace hrun

end FeedArchive.Json
