/-! # Attributes

The attributes in a tag, as far as they can be made out: a part of a tag that is no attribute is
passed over, and what comes after it is read all the same. -/

namespace FeedArchive.Markup

/-- Space, tab, carriage return or line feed. -/
def isSpace (c : Char) : Bool :=
  c == ' ' || c == '\t' || c == '\r' || c == '\n'

/-- An attribute as it is written; the value is what stands between the quotes. -/
structure Attribute where
  name : List Char
  value : List Char
  deriving DecidableEq, Repr

namespace Attribute

/-- The attribute with a name whose value comes next, and what comes after it. A value has to stand
in quotes; where it does not, it goes on to the next white space. -/
def withValue (name cs : List Char) : Option Attribute × List Char :=
  match cs.dropWhile isSpace with
  | [] => (none, [])
  | q :: value =>
    if q = '"' ∨ q = '\'' then
      match value.dropWhile (· != q) with
      | [] => (none, [])
      | _ :: after => (some ⟨name, value.takeWhile (· != q)⟩, after)
    else (none, (q :: value).dropWhile (!isSpace ·))

/-- The attribute with a name, which has to be followed by `=`, and what comes after it. -/
def withName (name cs : List Char) : Option Attribute × List Char :=
  match cs.dropWhile isSpace with
  | '=' :: after => withValue name after
  | after => (none, after)

/-- A character that may stand in a name after the first one. -/
def isInName (c : Char) : Bool := c != '=' && !isSpace c

/-- The attribute whose name begins with a character, or `none` if that begins something else, and
what comes after it. -/
def first (c : Char) (cs : List Char) : Option Attribute × List Char :=
  withName (c :: cs.takeWhile isInName) (cs.dropWhile isInName)

/-- What is left behind a value is not longer than what there was. -/
theorem length_after_withValue (name cs : List Char) :
    (withValue name cs).2.length ≤ cs.length := by
  have trimmed := (List.dropWhile_sublist (l := cs) isSpace).length_le
  unfold withValue
  split
  · simp
  · rename_i q value h
    rw [h] at trimmed
    split
    · split
      · simp
      · rename_i h'
        have quoted := (List.dropWhile_sublist (l := value) (· != q)).length_le
        rw [h'] at quoted
        simp only [List.length_cons] at trimmed quoted ⊢
        omega
    · exact Nat.le_trans (List.dropWhile_sublist _).length_le trimmed

/-- What is left behind an attribute is not longer than what there was. -/
theorem length_after_withName (name cs : List Char) :
    (withName name cs).2.length ≤ cs.length := by
  have trimmed := (List.dropWhile_sublist (l := cs) isSpace).length_le
  unfold withName
  split
  · rename_i after h
    rw [h] at trimmed
    have := length_after_withValue name after
    simp only [List.length_cons] at trimmed
    omega
  · exact trimmed

/-- What is left behind the first attribute is not longer than what there was. -/
theorem length_after_first (c : Char) (cs : List Char) :
    (first c cs).2.length ≤ cs.length :=
  Nat.le_trans (length_after_withName _ _) (List.dropWhile_sublist _).length_le

/-- The parts of a tag after its name: each one an attribute, or `none`. -/
def parts (cs : List Char) : List (Option Attribute) :=
  match h : cs.dropWhile isSpace with
  | [] => []
  | c :: rest =>
    have := length_after_first c rest
    have : (cs.dropWhile isSpace).length = rest.length + 1 := by rw [h]; rfl
    have := (List.dropWhile_sublist (l := cs) isSpace).length_le
    (first c rest).1 :: parts (first c rest).2
termination_by cs.length

/-- The attributes in a tag after its name. -/
def all (cs : List Char) : List Attribute := (parts cs).filterMap id

/-- The value of the first attribute with a name, if nothing but attributes comes before it. -/
def value? (name : String) (cs : List Char) : Option (List Char) :=
  (((parts cs).takeWhile Option.isSome).filterMap id).find? (·.name = name.toList) |>.map (·.value)

end Attribute

end FeedArchive.Markup
