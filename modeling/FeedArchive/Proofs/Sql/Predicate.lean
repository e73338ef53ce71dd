import FeedArchive.Proofs.Sql.Meaning
import FeedArchive.Proofs.Sql.Select
import FeedArchive.Proofs.Table.Row
import FeedArchive.Proofs.Time.Order

/-!
# Predicates in SQL

The condition that is written for a predicate is true of the row of a record if and only if the
predicate holds of the record (`Condition.says_ofPredicates`), as long as the predicate looks at
fields of the record with values of the right type (`Predicate.Fits`). The parameters of a condition
may stand anywhere in those of a statement, wherever its slots are numbered to.
-/

namespace FeedArchive

open Database Sql

/-! ## Values -/

namespace Sql

/-- Cells that are not empty are compared by their order. -/
theorem compared?_eq {a b : Cell} (ha : a ≠ .null) (hb : b ≠ .null) (comparison : Comparison) :
    compared? comparison a b = (ordering? a b).map fun o => .ofBool (admits comparison o) := by
  rw [compared?, if_neg]
  rintro (h | h)
  · exact ha h
  · exact hb h

/-- Two times compare as the order of instants says. -/
theorem compared?_time (i bound : Instant) :
    compared? .atLeast (.time i) (.time bound) = some (.ofBool (bound.le i)) ∧
      compared? .atMost (.time i) (.time bound) = some (.ofBool (i.le bound)) := by
  have hi : Cell.time i ≠ .null := Cell.noConfusion
  have hbound : Cell.time bound ≠ .null := Cell.noConfusion
  have hle : (compare i bound).isLE = i.le bound := Instant.compare_isLE
  have hge : (compare i bound).isGE = bound.le i := Instant.compare_isGE
  rw [compared?_eq hi hbound, compared?_eq hi hbound]
  simp only [ordering?, Option.map_some, admits, hle, hge, and_self]

end Sql

/-- The value of a filter and that of a field are of the same type. -/
inductive FilterValue.SameType : FilterValue → FieldValue → Prop
  | text (s t : String) : SameType (.text s) (.text t)
  | int (m n : Int) : SameType (.int m) (.int n)
  | bool (a b : Bool) : SameType (.bool a) (.bool b)

namespace Sql

/-- Values are in the same place of their order if they are equal. -/
theorem isEq_compare {α : Type} [Ord α] [Std.LawfulEqOrd α] [DecidableEq α] (a b : α) :
    (compare b a).isEq = (a == b) := by
  rw [Bool.eq_iff_iff, Ordering.isEq_iff_eq_eq, Std.LawfulEqOrd.compare_eq_iff_eq, beq_iff_eq,
    eq_comm]

/-- Values of the same type are equal in SQL if they are equal. -/
theorem compared?_equal {v : FilterValue} {w : FieldValue} (h : v.SameType w) :
    ∃ c, paramCell? (Condition.paramOf v) = some c ∧
      compared? .equal w.cell c = some (.ofBool (v.equals w)) := by
  cases h with
  | text s t =>
    refine ⟨.text s, rfl, ?_⟩
    show compared? .equal (.text t) (.text s) = some (.ofBool (s == t))
    rw [compared?_eq Cell.noConfusion Cell.noConfusion, ← isEq_compare]
    rfl
  | int m n =>
    refine ⟨.int m, rfl, ?_⟩
    show compared? .equal (.int n) (.int m) = some (.ofBool (m == n))
    rw [compared?_eq Cell.noConfusion Cell.noConfusion, ← isEq_compare]
    rfl
  | bool a b =>
    refine ⟨.bool a, rfl, ?_⟩
    show compared? .equal (.bool b) (.bool a) = some (.ofBool (a == b))
    rw [compared?_eq Cell.noConfusion Cell.noConfusion, ← isEq_compare]
    rfl

end Sql

/-! ## Predicates and the fields of an entity -/

/-- A predicate looks at fields of an entity with values of the right type. -/
def Predicate.Fits (e : Entity) : Predicate → Prop
  | .contains fields _ => fields ≠ [] ∧ ∀ f ∈ fields, ∀ r, ∃ s, e.value r f = some (.text s)
  | .equals f v => ∀ r, ∃ w, e.value r f = some w ∧ v.SameType w
  | .onOrAfter f _ | .onOrBefore f _ => ∀ r, ∃ i, e.value r f = some (.time i)

/-- A keyword is looked for in fields of texts. -/
theorem Entity.fits_keywordPredicate {e : Entity} (k : Keyword) :
    (e.keywordPredicate k).Fits e := by
  cases e with
  | article =>
    refine ⟨List.cons_ne_nil _ _, ?_⟩
    intro f hf a
    rcases List.mem_pair.mp hf with rfl | rfl
    · exact ⟨_, rfl⟩
    · exact ⟨_, rfl⟩
  | source =>
    refine ⟨List.cons_ne_nil _ _, ?_⟩
    intro f hf s
    rcases List.mem_pair.mp hf with rfl | rfl
    · exact ⟨_, rfl⟩
    · exact ⟨_, rfl⟩

/-- Filters compare fields with values of their types. -/
theorem Entity.fits_of_mem_predicates {e : Entity} {filters : e.Filters} :
    ∀ p ∈ e.predicates filters, p.Fits e := by
  intro p hp
  cases e with
  | article =>
    simp only [predicates, ArticleFilters.predicates, List.mem_append, Option.mem_toList,
      Option.map_eq_some_iff] at hp
    rcases hp with (⟨n, -, rfl⟩ | ⟨i, -, rfl⟩) | ⟨i, -, rfl⟩
    · exact fun a => ⟨_, rfl, .int _ _⟩
    · exact fun a => ⟨_, rfl⟩
    · exact fun a => ⟨_, rfl⟩
  | source =>
    simp only [predicates, SourceFilters.predicates, List.mem_append, Option.mem_toList,
      Option.map_eq_some_iff] at hp
    rcases hp with ⟨t, -, rfl⟩ | ⟨b, -, rfl⟩
    · exact fun s => ⟨_, rfl, .text _ _⟩
    · exact fun s => ⟨_, rfl, .bool _ _⟩

/-- The predicates of a search fit the entity that is searched. -/
theorem Entity.fits_of_mem_compose {e : Entity} {keywords : List Keyword} {filters : e.Filters} :
    ∀ p ∈ e.compose keywords filters, p.Fits e := by
  intro p hp
  rcases List.mem_append.mp hp with hp | hp
  · obtain ⟨k, -, rfl⟩ := List.mem_map.mp hp
    exact fits_keywordPredicate k
  · exact fits_of_mem_predicates p hp

/-! ## Truth -/

namespace Sql

variable {params : List Param} {row : Row}

/-- One expression is known to be true or false. -/
def Says (params : List Param) (row : Row) (e : Expr) (b : Bool) : Prop :=
  e.truth? params row = some (.ofBool b)

/-- Of two expressions with truth values one holds if one of the values is true. -/
theorem Says.or {e f : Expr} {a b : Bool} (he : Says params row e a) (hf : Says params row f b) :
    Says params row (e.or f) (a || b) := by
  rw [Says, Expr.truth?, he, hf]
  cases a <;> cases b <;> rfl

/-- Two expressions with truth values hold if both values are true. -/
theorem Says.and {e f : Expr} {a b : Bool} (he : Says params row e a) (hf : Says params row f b) :
    Says params row (e.and f) (a && b) := by
  rw [Says, Expr.truth?, he, hf]
  cases a <;> cases b <;> rfl

/-- Alternatives are true if one of them is. -/
theorem Says.foldl_or {es : List Expr} {bs : List Bool}
    (h : List.Forall₂ (Says params row) es bs) {e : Expr} {b : Bool} (he : Says params row e b) :
    Says params row (es.foldl .or e) (b || bs.any id) := by
  induction h generalizing e b with
  | nil =>
    rw [List.any_nil, Bool.or_false]
    exact he
  | cons hnext _ ih =>
    rw [List.any_cons, ← Bool.or_assoc]
    exact ih (he.or hnext)

/-- A conjunction is true if all of its parts are. -/
theorem Says.foldl_and {es : List Expr} {bs : List Bool}
    (h : List.Forall₂ (Says params row) es bs) {e : Expr} {b : Bool} (he : Says params row e b) :
    Says params row (es.foldl .and e) (b && bs.all id) := by
  induction h generalizing e b with
  | nil =>
    rw [List.all_nil, Bool.and_true]
    exact he
  | cons hnext _ ih =>
    rw [List.all_cons, ← Bool.and_assoc]
    exact ih (he.and hnext)

/-- A match of a column with the pattern in a slot. -/
theorem says_match {column text pattern : String} {slot : Nat}
    (hcolumn : row.lookup column = some (.text text))
    (hparam : params[slot]? = some (.text pattern)) :
    Says params row (Condition.matchExpr (column, slot + 1))
      ((Pattern.Like.compile pattern.toList).matches text.toList) := by
  have hmatches : (Pattern.Like.compile pattern.toList).matches text.toList
      = decide (text.toList ∈ Pattern.language pattern.toList) := by
    rw [Bool.eq_iff_iff, decide_eq_true_iff, Pattern.Like.matches_compile,
      Pattern.mem_language_iff]
  rw [Says, Condition.matchExpr, Expr.truth?, Operand.cell?, Operand.cell?, hcolumn, hparam,
    hmatches]
  rfl

/-- A comparison of a column with the value in a slot. -/
theorem says_compare {column : String} {slot : Nat} {comparison : Comparison} {c v : Cell}
    {param : Param} {b : Bool} (hcolumn : row.lookup column = some c)
    (hparam : params[slot]? = some param) (hvalue : paramCell? param = some v)
    (hcompared : compared? comparison c v = some (.ofBool b)) :
    Says params row (.compare (.column column) comparison (.slot (slot + 1))) b := by
  rw [Says, Expr.truth?, Operand.cell?, Operand.cell?, hcolumn, hparam, Option.bind_some, hvalue]
  exact hcompared

end Sql

namespace Predicate

variable {e : Entity} {r : e.Record} {params : List Param}

/-- A text is looked for in each of the fields. -/
theorem holds_contains (fields : List Field) (pattern : String)
    (value : Field → Option FieldValue) : (Predicate.contains fields pattern).holds value
      = (fields.map fun f => (Predicate.contains [f] pattern).holds value).any id := by
  simp [holds]

/-- Matching a column against a pattern says whether the field contains it. -/
theorem says_field {f : Field} {pattern : String} {slot : Nat}
    (hf : ∃ s, e.value r f = some (.text s)) (hparam : params[slot]? = some (.text pattern)) :
    Says params (e.row r) (Condition.matchExpr (f.column, slot + 1))
      ((Predicate.contains [f] pattern).holds (e.value r)) := by
  obtain ⟨s, hs⟩ := hf
  have hholds : (Predicate.contains [f] pattern).holds (e.value r)
      = (Pattern.Like.compile pattern.toList).matches s.toList := by
    simp [holds, hs]
  rw [hholds]
  exact says_match (Entity.lookup_column hs) hparam

/-- The alternatives for the fields, whose slots follow one another. -/
theorem says_fields {fields : List Field} {pattern : String} {first : Nat}
    (hfields : ∀ f ∈ fields, ∃ s, e.value r f = some (.text s))
    (hparams : ∀ k < fields.length, params[first + k]? = some (.text pattern)) :
    List.Forall₂ (Says params (e.row r))
      (((fields.map Field.column).zip (List.range' (first + 1) fields.length)).map
        Condition.matchExpr)
      (fields.map fun f => (Predicate.contains [f] pattern).holds (e.value r)) := by
  induction fields generalizing first with
  | nil => exact .nil
  | cons f fields ih =>
    refine .cons (says_field (hfields f List.mem_cons_self) (hparams 0 (Nat.succ_pos _))) ?_
    refine ih (fun g hg => hfields g (List.mem_cons_of_mem f hg)) fun k hk => ?_
    rw [Nat.add_assoc, Nat.add_comm 1 k]
    exact hparams (k + 1) (Nat.succ_lt_succ hk)

end Predicate

namespace Database.Condition

variable {e : Entity} {p : Predicate}

/-- The condition of a predicate says of the row of a record whether the predicate holds. -/
theorem says_ofPredicate (h : p.Fits e) (before after : List Param) :
    ∃ x, (ofPredicate (before.length + 1) p).1.expr? = some x ∧
      ∀ r, Says (before ++ (ofPredicate (before.length + 1) p).2 ++ after) (e.row r) x
        (p.holds (e.value r)) := by
  -- a single parameter stands right behind those before
  have hsingle : ∀ param : Param, (before ++ [param] ++ after)[before.length]? = some param := by
    intro param
    rw [List.append_assoc, List.getElem?_append_right (Nat.le_refl _), Nat.sub_self]
    rfl
  cases p with
  | contains fields pattern =>
    obtain ⟨hne, hfields⟩ := h
    have hparams : ∀ k < fields.length,
        (before ++ List.replicate fields.length (.text pattern) ++ after)[before.length + k]?
          = some (.text pattern) := by
      intro k hk
      rw [List.append_assoc, List.getElem?_append_right (Nat.le_add_right _ _),
        Nat.add_sub_cancel_left, List.getElem?_append_left (by rwa [List.length_replicate]),
        List.getElem?_replicate, if_pos hk]
    cases fields with
    | nil => exact absurd rfl hne
    | cons f fields =>
      refine ⟨_, rfl, fun r => ?_⟩
      have hall := Predicate.says_fields (fun f hf => hfields f hf r) hparams
      rw [Predicate.holds_contains]
      cases hall with
      | cons hfirst hmore => exact Says.foldl_or hmore hfirst
  | equals f v =>
    refine ⟨_, rfl, fun r => ?_⟩
    obtain ⟨w, hw, htype⟩ := h r
    have hholds : (Predicate.equals f v).holds (e.value r) = v.equals w := by
      simp [Predicate.holds, hw]
    obtain ⟨c, hc, hcompared⟩ := compared?_equal htype
    rw [hholds]
    exact says_compare (Entity.lookup_column hw) (hsingle _) hc hcompared
  | onOrAfter f bound =>
    refine ⟨_, rfl, fun r => ?_⟩
    obtain ⟨i, hi⟩ := h r
    have hholds : (Predicate.onOrAfter f bound).holds (e.value r) = bound.le i := by
      simp [Predicate.holds, hi]
    rw [hholds]
    exact says_compare (Entity.lookup_column hi) (hsingle _) rfl (compared?_time i bound).1
  | onOrBefore f bound =>
    refine ⟨_, rfl, fun r => ?_⟩
    obtain ⟨i, hi⟩ := h r
    have hholds : (Predicate.onOrBefore f bound).holds (e.value r) = i.le bound := by
      simp [Predicate.holds, hi]
    rw [hholds]
    exact says_compare (Entity.lookup_column hi) (hsingle _) rfl (compared?_time i bound).2

/-- So do the conditions of several predicates, each with parameters of its own. -/
theorem says_ofPredicates {ps : List Predicate} (h : ∀ p ∈ ps, p.Fits e)
    (before after : List Param) :
    ∃ es, List.Forall₂ (fun c x => c.expr? = some x) (ofPredicates (before.length + 1) ps).1 es ∧
      ∀ r, List.Forall₂
        (Says (before ++ (ofPredicates (before.length + 1) ps).2 ++ after) (e.row r)) es
        (ps.map fun p => p.holds (e.value r)) := by
  induction ps generalizing before with
  | nil => exact ⟨[], .nil, fun _ => .nil⟩
  | cons p ps ih =>
    -- the parameters of `p` are among those before the conditions that follow
    let own := (ofPredicate (before.length + 1) p).2
    have hnext : before.length + 1 + own.length = (before ++ own).length + 1 := by
      rw [List.length_append]
      omega
    obtain ⟨es, hexprs, hsays⟩ := ih (fun q hq => h q (List.mem_cons_of_mem p hq)) (before ++ own)
    let others := (ofPredicates ((before ++ own).length + 1) ps).2
    obtain ⟨x, hx, hfirst⟩ :=
      says_ofPredicate (h p List.mem_cons_self) before (others ++ after)
    have hparams : (ofPredicates (before.length + 1) (p :: ps)).2 = own ++ others := by
      show own ++ (ofPredicates (before.length + 1 + own.length) ps).2 = _
      rw [hnext]
    refine ⟨x :: es, ?_, fun r => ?_⟩
    · refine .cons hx ?_
      show List.Forall₂ _ (ofPredicates (before.length + 1 + own.length) ps).1 es
      rw [hnext]
      exact hexprs
    · rw [hparams]
      refine .cons ?_ ?_
      · have hp := hfirst r
        rw [List.append_assoc] at hp ⊢
        rwa [← List.append_assoc own] at hp
      · have hps := hsays r
        rwa [← List.append_assoc before]

end Database.Condition

end FeedArchive
