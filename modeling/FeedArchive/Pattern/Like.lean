import FeedArchive.Text.LowerCase

/-! # Patterns

Patterns in the manner of SQL's `LIKE` have three special characters: `%` for any text, `_` for
any character and the backslash, which makes the next character an ordinary one. `escape` turns a
keyword into the pattern of the texts that contain it, and `unescape` reads such a pattern
back. -/

namespace FeedArchive.Pattern

/-- The characters that patterns give a meaning. -/
def isSpecial (c : Char) : Bool :=
  c == '\\' || c == '%' || c == '_'

/-- Puts a backslash in front of each special character. -/
def protect : List Char → List Char
  | [] => []
  | c :: cs => if isSpecial c then '\\' :: c :: protect cs else c :: protect cs

/-- The pattern of the texts that contain a keyword. -/
def escape (keyword : List Char) : List Char :=
  '%' :: (protect keyword ++ ['%'])

/-- The text that has been protected, if it has no bare special character: after a backslash any
character may stand. -/
def unprotect : List Char → Option (List Char)
  | [] => some []
  | '\\' :: c :: cs => (unprotect cs).map (c :: ·)
  | c :: cs => if isSpecial c then none else (unprotect cs).map (c :: ·)

/-- What stands between a `%` at the start and another one at the end. -/
def inside? : List Char → Option (List Char)
  | '%' :: cs => if cs.getLast? = some '%' then some cs.dropLast else none
  | _ => none

/-- The keyword of a pattern of the form that `escape` gives. -/
def unescape (pattern : List Char) : Option (List Char) :=
  (inside? pattern).bind unprotect

end FeedArchive.Pattern

/-- See `FeedArchive.Pattern.escape`. -/
def String.likeEscape (keyword : String) : String :=
  String.ofList (FeedArchive.Pattern.escape keyword.toList)

/-- See `FeedArchive.Pattern.unescape`. -/
def String.likeUnescape (pattern : String) : Option String :=
  (FeedArchive.Pattern.unescape pattern.toList).map String.ofList

/-! ## Matching

A pattern is read into tokens, and a text is matched against them without regard to case.

The matcher runs through tokens and text side by side and remembers only the last `%` it met: on
a mismatch that `%` takes in one more character, and matching goes on from there. `Cursor` is the
state of this run, `Cursor.Within` what holds of it at every step, and `Cursor.measure` what gets
smaller, so that the run comes to an end although it moves back in the text. -/

namespace FeedArchive.Pattern

/-- What a part of a pattern stands for. -/
inductive Token where
  /-- One given character, folded to lower case. -/
  | literal (c : Char)
  /-- Any one character. -/
  | one
  /-- Any text, perhaps empty. -/
  | any
  deriving DecidableEq, Repr

/-- The tokens of a pattern as they are written. A backslash at the end stands for itself. -/
def tokens : List Char → List Token
  | [] => []
  | '\\' :: c :: cs => .literal (Text.fold c) :: tokens cs
  | '%' :: cs => .any :: tokens cs
  | '_' :: cs => .one :: tokens cs
  | c :: cs => .literal (Text.fold c) :: tokens cs

/-- Leaves out each `any` that follows another one. -/
def collapse : List Token → List Token
  | .any :: .any :: ts => collapse (.any :: ts)
  | t :: ts => t :: collapse ts
  | [] => []

/-- A pattern made ready for matching. -/
structure Like where
  tokens : List Token
  deriving DecidableEq

/-- Makes a pattern ready for matching. -/
def Like.compile (pattern : List Char) : Like :=
  ⟨collapse (Pattern.tokens pattern)⟩

/-! ## The run of the matcher -/

/-- Where a run stands: the next token, the next character, and the last `any` with the first
character that it does not take in. -/
structure Cursor where
  token : Nat
  char : Nat
  star : Option (Nat × Nat)
  deriving DecidableEq

/-- Where a run starts. -/
def Cursor.start : Cursor := ⟨0, 0, none⟩

/-- The indices of a cursor lie in the tokens and the text, and its `star` is an `any` before the
next token, with a character not after the next one. -/
structure Cursor.Within (ts : Array Token) (text : Array Char) (c : Cursor) : Prop where
  token_le : c.token ≤ ts.size
  char_le : c.char ≤ text.size
  star_any : ∀ s ∈ c.star, ts[s.1]? = some .any ∧ s.1 < c.token ∧ s.2 ≤ c.char

/-- One round, as long as there is a next character: the cursor after it, or `none` on a mismatch
that no `any` can mend. -/
def Cursor.step (ts : Array Token) (text : Array Char) (c : Cursor) : Option Cursor :=
  let back := c.star.map fun s => ⟨s.1 + 1, s.2 + 1, some (s.1, s.2 + 1)⟩
  match ts[c.token]? with
  | some .any => some ⟨c.token + 1, c.char, some (c.token, c.char)⟩
  | some .one => some ⟨c.token + 1, c.char + 1, c.star⟩
  | some (.literal l) =>
    if text[c.char]? = some l then some ⟨c.token + 1, c.char + 1, c.star⟩ else back
  | none => back

/-- The start of a run lies within. -/
theorem Cursor.start_within (ts : Array Token) (text : Array Char) :
    Cursor.start.Within ts text :=
  ⟨Nat.zero_le _, Nat.zero_le _, by simp [Cursor.start]⟩

/-- A round with a next character stays within. -/
theorem Cursor.Within.step {ts : Array Token} {text : Array Char} {c d : Cursor}
    (h : c.Within ts text) (hc : c.char < text.size) (hd : c.step ts text = some d) :
    d.Within ts text := by
  obtain ⟨ht, -, hs⟩ := h
  have back : ∀ s ∈ c.star, (⟨s.1 + 1, s.2 + 1, some (s.1, s.2 + 1)⟩ : Cursor).Within ts text := by
    intro s hm
    have := hs s hm
    have hlt : s.1 < ts.size := (Array.getElem?_eq_some_iff.mp this.1).1
    exact ⟨hlt, by simp; omega, by simp [this.1]⟩
  unfold Cursor.step at hd
  simp only at hd
  split at hd
  · rename_i hany
    have hlt : c.token < ts.size := (Array.getElem?_eq_some_iff.mp hany).1
    cases hd
    exact ⟨hlt, by simp; omega, by simp [hany]⟩
  · rename_i hone
    have hlt : c.token < ts.size := (Array.getElem?_eq_some_iff.mp hone).1
    cases hd
    refine ⟨hlt, hc, fun s hm => ?_⟩
    have := hs s hm
    exact ⟨this.1, by simp; omega, by simp; omega⟩
  · rename_i l hlit
    have hlt : c.token < ts.size := (Array.getElem?_eq_some_iff.mp hlit).1
    split at hd
    · cases hd
      refine ⟨hlt, hc, fun s hm => ?_⟩
      have := hs s hm
      exact ⟨this.1, by simp; omega, by simp; omega⟩
    · obtain ⟨s, hm, rfl⟩ := Option.map_eq_some_iff.mp hd
      exact back s hm
  · obtain ⟨s, hm, rfl⟩ := Option.map_eq_some_iff.mp hd
    exact back s hm

/-- The tokens after the last `any`, the characters after what it takes in, and the characters
left: the first that changes in a round gets smaller. -/
def Cursor.measure (ts : Array Token) (text : Array Char) (c : Cursor) : Nat × Nat × Nat :=
  match c.star with
  | some s => (ts.size - s.1, text.size - s.2, text.size - c.char)
  | none => (ts.size + 1, text.size, text.size - c.char)

/-- Less in the first component that differs. -/
abbrev Cursor.Smaller : Nat × Nat × Nat → Nat × Nat × Nat → Prop :=
  Prod.Lex (· < ·) (Prod.Lex (· < ·) (· < ·))

/-- A round that goes on makes the measure smaller. -/
theorem Cursor.Within.measure_step {ts : Array Token} {text : Array Char} {c d : Cursor}
    (h : c.Within ts text) (hc : c.char < text.size) (hd : c.step ts text = some d) :
    Cursor.Smaller (d.measure ts text) (c.measure ts text) := by
  obtain ⟨ht, -, hs⟩ := h
  have back : ∀ s ∈ c.star, Cursor.Smaller
      ((⟨s.1 + 1, s.2 + 1, some (s.1, s.2 + 1)⟩ : Cursor).measure ts text)
      (c.measure ts text) := by
    intro s hm
    have := hs s hm
    have hm : c.star = some s := hm
    simp only [Cursor.measure, hm]
    exact .right _ (.left _ _ (by omega))
  have forward : Cursor.Smaller
      ((⟨c.token + 1, c.char + 1, c.star⟩ : Cursor).measure ts text) (c.measure ts text) := by
    simp only [Cursor.measure]
    split <;> exact .right _ (.right _ (by omega))
  unfold Cursor.step at hd
  simp only at hd
  split at hd
  · rename_i hany
    have hlt : c.token < ts.size := (Array.getElem?_eq_some_iff.mp hany).1
    cases hd
    simp only [Cursor.measure]
    split
    · rename_i s hm
      have := hs s hm
      exact .left _ _ (by omega)
    · exact .left _ _ (by omega)
  · cases hd; exact forward
  · split at hd
    · cases hd; exact forward
    · obtain ⟨s, hm, rfl⟩ := Option.map_eq_some_iff.mp hd
      exact back s hm
  · obtain ⟨s, hm, rfl⟩ := Option.map_eq_some_iff.mp hd
    exact back s hm

/-- Goes on from a cursor until the text is used up, when the tokens left over have to take
nothing, or until a mismatch that cannot be mended. -/
def Cursor.run (ts : Array Token) (text : Array Char) (c : Cursor) (h : c.Within ts text) : Bool :=
  if hc : c.char < text.size then
    match hd : c.step ts text with
    | some d => Cursor.run ts text d (h.step hc hd)
    | none => false
  else (ts.toList.drop c.token).all (· == .any)
termination_by c.measure ts text
decreasing_by exact h.measure_step hc hd

/-- The text matches the pattern, without regard to case. -/
def Like.matches (p : Like) (text : List Char) : Bool :=
  Cursor.start.run p.tokens.toArray (text.map Text.fold).toArray (Cursor.start_within _ _)

end FeedArchive.Pattern
