import FeedArchive.Proofs.Sql.Search

/-!
# Placeholders

The conditions that are written for predicates are known from their shape; patterns and values are
parameters (`Condition.ofPredicates_shape`). In the text each parameter has one slot, with the
column and the operator that it belongs to in front, and the slots are numbered from left to right
(`Condition.slots_chainText`).
-/

namespace FeedArchive

open Database Sql

/-! ## Slots of a text -/

namespace Sql

/-- The number of a slot. -/
def Lexeme.slot? : Lexeme → Option Nat
  | .slot n => some n
  | _ => none

/-- The slots among lexemes in order, each with the two lexemes that stand before it, the nearer one
first. -/
def slotsAfter (before : List Lexeme) : List Lexeme → List (List Lexeme × Nat)
  | [] => []
  | l :: ls =>
    match l.slot? with
    | some n => (before.take 2, n) :: slotsAfter (l :: before) ls
    | none => slotsAfter (l :: before) ls

/-- No slot is left out. -/
theorem map_slotsAfter (before ls : List Lexeme) :
    (slotsAfter before ls).map (·.2) = ls.filterMap Lexeme.slot? := by
  induction ls generalizing before with
  | nil => rfl
  | cons l ls ih =>
    rw [slotsAfter]
    cases hslot : l.slot? with
    | none => rw [List.filterMap_cons_none hslot, ih]
    | some n => rw [List.filterMap_cons_some hslot, List.map_cons, ih]

/-- The slots of two parts, of which the second one is looked at with the first one before it. -/
theorem slotsAfter_append (before xs ys : List Lexeme) :
    slotsAfter before (xs ++ ys)
      = slotsAfter before xs ++ slotsAfter (xs.reverse ++ before) ys := by
  induction xs generalizing before with
  | nil => rfl
  | cons l xs ih =>
    rw [List.cons_append, slotsAfter, slotsAfter, ih, List.reverse_cons, List.append_assoc,
      List.singleton_append]
    cases l.slot? <;> rfl

/-- The slots of parts with something between them that has no slot, where it does not matter for
the slots of a part what stands before it. -/
theorem slotsAfter_intercalate {α : Type} {between : List Lexeme} {part : α → List Lexeme}
    {slots : α → List (List Lexeme × Nat)} {xs : List α}
    (hbetween : ∀ before, slotsAfter before between = [])
    (hpart : ∀ x ∈ xs, ∀ before, slotsAfter before (part x) = slots x) (before : List Lexeme) :
    slotsAfter before (between.intercalate (xs.map part)) = xs.flatMap slots := by
  induction xs generalizing before with
  | nil => rfl
  | cons x xs ih =>
    have hx := hpart x List.mem_cons_self
    have hxs := ih fun y hy => hpart y (List.mem_cons_of_mem x hy)
    cases xs with
    | nil => simpa using hx before
    | cons y xs =>
      rw [List.map_cons, List.map_cons, List.intercalate_cons_cons, slotsAfter_append,
        slotsAfter_append, hx, hbetween, List.append_nil, List.flatMap_cons]
      exact congrArg (slots x ++ ·) (hxs _)

end Sql

/-! ## Slots of conditions -/

namespace Database.Condition

/-- The slots of a condition, each with the operator and the column before it. -/
def slots : Condition → List (List Lexeme × Nat)
  | .anyMatches terms => terms.map fun t => ([.word "ilike", .word t.1], t.2)
  | .compare column comparison slot => [([comparison.lexeme, .word column], slot)]
  | .isTrue _ => []
  | .among _ slot => [([.left, .word "any"], slot)]

/-- The lexemes of a condition have its slots, whatever stands before them. -/
theorem slotsAfter_lexemes (c : Condition) (before : List Lexeme) :
    slotsAfter before c.lexemes = c.slots := by
  -- both lexemes before a slot are in the condition itself
  cases c with
  | anyMatches terms =>
    have hterm : ∀ t ∈ terms, ∀ before, slotsAfter before (matchLexemes t)
        = [([.word "ilike", .word t.1], t.2)] := fun _ _ _ => rfl
    have hor : ∀ before, slotsAfter before [.word "or"] = [] := fun _ => rfl
    show slotsAfter (.left :: before) (_ ++ [.right]) = _
    rw [slotsAfter_append, slotsAfter_intercalate hor hterm, ← List.map_eq_flatMap]
    exact List.append_nil _
  | compare column comparison slot => cases comparison <;> rfl
  | isTrue column => rfl
  | among column slot => rfl

/-- The lexemes of a chain have the slots of its conditions, in order. -/
theorem slotsAfter_chainLexemes (cs : List Condition) :
    slotsAfter [] (chainLexemes cs) = cs.flatMap slots := by
  cases cs with
  | nil => rfl
  | cons c cs =>
    exact slotsAfter_intercalate (fun _ => rfl) (fun c _ => slotsAfter_lexemes c) _

/-- The lexemes of the text of a chain of conditions. -/
theorem lexemes_chainText {cs : List Condition} (h : ∀ c ∈ cs, ∀ name ∈ c.columns, IsName name) :
    Sql.lexemes (chainText cs).toList = some (chainLexemes cs) := by
  have hnothing : Reads [] [] := rfl
  exact (hnothing.append_clause (readsClause_chainText h)).lexemes_eq

end Database.Condition

/-! ## Places of predicates -/

/-- A place in the conditions of predicates where a parameter belongs. -/
structure Place where
  field : Field
  operator : Lexeme
  param : Param

namespace Predicate

/-- The places of a predicate, one for each field that it looks at. -/
def places : Predicate → List Place
  | .contains fields pattern => fields.map fun f => ⟨f, .word "ilike", .text pattern⟩
  | .equals f v => [⟨f, .equal, Condition.paramOf v⟩]
  | .onOrAfter f bound => [⟨f, .atLeast, .time bound⟩]
  | .onOrBefore f bound => [⟨f, .atMost, .time bound⟩]

/-- How many parameters a predicate has. -/
def arity : Predicate → Nat
  | .contains fields _ => fields.length
  | .equals .. | .onOrAfter .. | .onOrBefore .. => 1

/-- What is left of a predicate without its pattern or value. -/
def shape : Predicate → Predicate
  | .contains fields _ => .contains fields ""
  | .equals f (.text _) => .equals f (.text "")
  | .equals f (.int _) => .equals f (.int 0)
  | .equals f (.bool _) => .equals f (.bool false)
  | .onOrAfter f _ => .onOrAfter f (.ofSecond 0)
  | .onOrBefore f _ => .onOrBefore f (.ofSecond 0)

/-- A predicate has as many places as it has parameters. -/
theorem length_places (p : Predicate) : p.places.length = p.arity := by
  cases p with
  | contains fields pattern => exact List.length_map ..
  | equals f v | onOrAfter f bound | onOrBefore f bound => rfl

end Predicate

namespace Database.Condition

/-- The slot for a place, with the operator and the column before it. -/
def slotFor (place : Place × Nat) : List Lexeme × Nat :=
  ([place.1.operator, .word place.1.field.column], place.2)

/-- The condition of a predicate has one slot for each place, numbered on from the next one, and the
parameters are those of the places. -/
theorem slots_ofPredicate (p : Predicate) (next : Nat) :
    (ofPredicate next p).1.slots = (p.places.zipIdx next).map slotFor ∧
      (ofPredicate next p).2 = p.places.map (·.param) := by
  cases p with
  | contains fields pattern =>
    refine ⟨?_, ?_⟩
    · rw [Predicate.places, List.zipIdx_map, List.zipIdx_eq_zip_range', List.map_map]
      show ((fields.map Field.column).zip _).map _ = _
      rw [List.zip_map_left, List.map_map]
      rfl
    · rw [Predicate.places, List.map_map]
      exact List.map_const'.symm
  | equals f v | onOrAfter f bound | onOrBefore f bound => exact ⟨rfl, rfl⟩

/-- The slots of the first predicate come before those of the others. -/
theorem ofPredicates_cons (p : Predicate) (ps : List Predicate) (next : Nat) :
    let others := ofPredicates (next + (ofPredicate next p).2.length) ps
    ofPredicates next (p :: ps)
      = ((ofPredicate next p).1 :: others.1, (ofPredicate next p).2 ++ others.2) := rfl

/-- The conditions of predicates have one slot for each place, numbered on through all of them, and
the parameters are those of the places. -/
theorem slots_ofPredicates (ps : List Predicate) (next : Nat) :
    (ofPredicates next ps).1.flatMap slots
        = ((ps.flatMap Predicate.places).zipIdx next).map slotFor ∧
      (ofPredicates next ps).2 = (ps.flatMap Predicate.places).map (·.param) := by
  induction ps generalizing next with
  | nil => exact ⟨rfl, rfl⟩
  | cons p ps ih =>
    obtain ⟨hslots, hparams⟩ := slots_ofPredicate p next
    obtain ⟨hothers, hmore⟩ := ih (next + (ofPredicate next p).2.length)
    have hlength : (ofPredicate next p).2.length = p.places.length := by
      rw [hparams, List.length_map]
    refine ⟨?_, ?_⟩
    · rw [ofPredicates_cons, List.flatMap_cons, List.flatMap_cons, hslots, hothers, hlength,
        List.zipIdx_append, List.map_append]
    · rw [ofPredicates_cons, List.flatMap_cons, List.map_append, hmore, hparams]

/-! ## Shapes -/

/-- The conditions of predicates, and the number of their parameters, are known from the shape. -/
theorem ofPredicate_shape (p : Predicate) (next : Nat) :
    (ofPredicate next p.shape).1 = (ofPredicate next p).1 ∧
      (ofPredicate next p.shape).2.length = (ofPredicate next p).2.length := by
  cases p with
  | contains fields pattern =>
    refine ⟨rfl, ?_⟩
    simp only [ofPredicate, Predicate.shape, List.length_replicate]
  | equals f v => cases v <;> exact ⟨rfl, rfl⟩
  | onOrAfter f bound | onOrBefore f bound => exact ⟨rfl, rfl⟩

/-- Predicates of the same shape have the same conditions. -/
theorem ofPredicates_shape (ps : List Predicate) (next : Nat) :
    (ofPredicates next (ps.map Predicate.shape)).1 = (ofPredicates next ps).1 := by
  induction ps generalizing next with
  | nil => rfl
  | cons p ps ih =>
    obtain ⟨hcondition, hlength⟩ := ofPredicate_shape p next
    rw [List.map_cons, ofPredicates_cons, ofPredicates_cons, hcondition, hlength, ih]

/-- The text that is written for predicates says nothing about their patterns and values: it is the
same for all predicates of the same shape. In it the slots are numbered from one on, each number
once and in order; each predicate has as many as it looks at fields. A slot stands behind the column
and the operator of its place, and its parameter is the pattern or value that belongs there. -/
theorem slots_chainText (ps : List Predicate) :
    let text := chainText (ofPredicates 1 ps).1
    let places := ps.flatMap Predicate.places
    (∀ qs : List Predicate, qs.map Predicate.shape = ps.map Predicate.shape →
        ∀ start : String, start ++ chainText (ofPredicates 1 qs).1 = start ++ text) ∧
      ∃ ls, Sql.lexemes text.toList = some ls ∧
        ls.filterMap Lexeme.slot? = List.range' 1 (ps.map Predicate.arity).sum ∧
        slotsAfter [] ls = (places.zipIdx 1).map slotFor ∧
        (ofPredicates 1 ps).2 = places.map (·.param) := by
  intro text places
  obtain ⟨hslots, hparams⟩ := slots_ofPredicates ps 1
  have hafter : slotsAfter [] (chainLexemes (ofPredicates 1 ps).1)
      = (places.zipIdx 1).map slotFor := (slotsAfter_chainLexemes _).trans hslots
  refine ⟨fun qs hshape start => ?_, _, lexemes_chainText isName_of_mem_ofPredicates, ?_, hafter,
    hparams⟩
  · rw [← ofPredicates_shape qs 1, hshape, ofPredicates_shape]
  · have hlength : places.length = (ps.map Predicate.arity).sum := by
      rw [List.length_flatMap]
      simp only [Predicate.length_places]
    rw [← map_slotsAfter [], hafter, List.map_map]
    show (places.zipIdx 1).map Prod.snd = _
    rw [List.zipIdx_map_snd, hlength]

/-- A pattern that looks like SQL is nothing but a parameter. -/
theorem slots_chainText_quotes :
    let pattern := "%'); DROP TABLE articles; -- $9 \\%"
    let ps : List Predicate := [.contains [.title, .summary] pattern, .equals .sourceId (.int 7)]
    let qs : List Predicate := [.contains [.title, .summary] "%rust%", .equals .sourceId (.int 1)]
    "SELECT id FROM articles" ++ chainText (ofPredicates 1 ps).1
        = "SELECT id FROM articles" ++ chainText (ofPredicates 1 qs).1 ∧
      (ofPredicates 1 ps).2 = [.text pattern, .text pattern, .int 7] := by
  intro pattern ps qs
  obtain ⟨htext, -⟩ := slots_chainText qs
  obtain ⟨-, _, -, -, -, hparams⟩ := slots_chainText ps
  exact ⟨htext ps rfl "SELECT id FROM articles", hparams⟩

end Database.Condition

end FeedArchive
