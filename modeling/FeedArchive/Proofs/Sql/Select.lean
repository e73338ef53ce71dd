import FeedArchive.Proofs.Sql.Condition

/-!
# Queries in SQL

The text of a command that selects rows is read as a query (`Command.read_select`): its columns,
its table, the conjunction of its conditions and its order.
-/

namespace FeedArchive

open Sql

namespace Sql

/-- What holds of all parts, and of what stands between them, holds of the whole. -/
theorem forall_mem_intercalate {α : Type} {P : α → Prop} {between : List α} {parts : List (List α)}
    (hbetween : ∀ x ∈ between, P x) (hparts : ∀ part ∈ parts, ∀ x ∈ part, P x) :
    ∀ x ∈ between.intercalate parts, P x := by
  induction parts with
  | nil =>
    intro x hx
    cases hx
  | cons part parts ih =>
    have hpart := hparts part List.mem_cons_self
    have hrest := ih fun q hq => hparts q (List.mem_cons_of_mem part hq)
    cases parts with
    | nil =>
      rw [List.intercalate_singleton]
      exact hpart
    | cons next parts =>
      intro x hx
      rw [List.intercalate_cons_cons, List.mem_append, List.mem_append] at hx
      rcases hx with (hx | hx) | hx
      · exact hpart x hx
      · exact hbetween x hx
      · exact hrest x hx

/-- A name is not the word that ends a part of a query. -/
theorem IsName.isNotWord {s : String} (h : IsName s) (word : String) (hword : word ∈ reserved) :
    isNotWord word (.word s) = true := by
  rw [Sql.isNotWord, bne_iff_ne]
  exact h.word_ne word hword

/-! ## Clauses -/

/-- A part of a query that may be missing: nothing, or a text with a blank in front. -/
def ReadsClause (cs : List Char) (ls : List Lexeme) : Prop :=
  (cs = [] ∧ ls = []) ∨ ∃ text : List Char, cs = ' ' :: text ∧ Reads text ls

/-- A part that may be missing is read behind a text. -/
theorem Reads.append_clause {xs ys : List Char} {ls more : List Lexeme} (hx : Reads xs ls)
    (hy : ReadsClause ys more) : Reads (xs ++ ys) (ls ++ more) := by
  rcases hy with ⟨rfl, rfl⟩ | ⟨text, rfl, htext⟩
  · rw [List.append_nil, List.append_nil]
    exact hx
  · exact hx.join htext

/-! ## Lists of columns -/

/-- The lexemes of names with commas between them. -/
def nameLexemes (names : List String) : List Lexeme :=
  [.comma].intercalate (names.map fun name => [.word name])

/-- Names with commas between them are read as they are. -/
theorem names?_nameLexemes {name : String} {names : List String} :
    names? (nameLexemes (name :: names)) = some (name :: names) := by
  induction names generalizing name with
  | nil => rfl
  | cons next names ih =>
    rw [nameLexemes, List.map_cons, List.map_cons, List.intercalate_cons_cons]
    show (names? (nameLexemes (next :: names))).map (name :: ·) = _
    rw [ih]
    rfl

/-- The text of names with commas between them has their lexemes. -/
theorem reads_names {name : String} {names : List String} (h : ∀ n ∈ name :: names, IsName n) :
    Reads (", ".intercalate (name :: names)).toList (nameLexemes (name :: names)) := by
  have hall := Reads.intercalate_comma fun n hn => (h n hn).reads
  rw [String.toList_intercalate]
  exact hall

end Sql

namespace Database

/-! ## Orders -/

def Direction.lexemes : Direction → List Lexeme
  | .unwritten => []
  | .ascending => [.word "asc"]
  | .descending => [.word "desc"]

namespace RowOrder

/-- The lexemes of the columns of an order. -/
def keyLexemes (order : RowOrder) : List Lexeme :=
  [.comma].intercalate (order.map fun k => .word k.1 :: k.2.lexemes)

/-- The lexemes of an order. -/
def lexemes : RowOrder → List Lexeme
  | [] => []
  | k :: order => .word "order" :: .word "by" :: keyLexemes (k :: order)

/-- The columns of an order, and whether they descend. -/
def keys (order : RowOrder) : List (String × Bool) :=
  order.map fun k => (k.1, k.2 = .descending)

/-- The text of a key of an order has these lexemes. -/
theorem reads_key {k : String × Direction} (h : IsName k.1) :
    Reads (k.1 ++ k.2.text).toList (.word k.1 :: k.2.lexemes) := by
  obtain ⟨name, direction⟩ := k
  have hname : Reads name.toList [.word name] := h.reads
  have hasc : Reads "ASC".toList [.word "asc"] := rfl
  have hdesc : Reads "DESC".toList [.word "desc"] := rfl
  rw [String.toList_append]
  cases direction with
  | unwritten =>
    show Reads (name.toList ++ []) _
    rw [List.append_nil]
    exact hname
  | ascending => simpa [Direction.text, Direction.lexemes] using hname.join hasc
  | descending => simpa [Direction.text, Direction.lexemes] using hname.join hdesc

/-- A key with a comma behind it is read before the rest of the order. -/
theorem order?_key_comma (name : String) (direction : Direction) (ls : List Lexeme) :
    order? (.word name :: (direction.lexemes ++ .comma :: ls))
      = (order? ls).map ((name, decide (direction = .descending)) :: ·) := by
  cases direction <;> rfl

/-- Keys with commas between them are read as an order. -/
theorem order?_keyLexemes {k : String × Direction} {order : RowOrder} :
    order? (keyLexemes (k :: order)) = some (keys (k :: order)) := by
  induction order generalizing k with
  | nil =>
    obtain ⟨name, direction⟩ := k
    cases direction <;> rfl
  | cons next order ih =>
    rw [keyLexemes, List.map_cons, List.map_cons, List.intercalate_cons_cons, List.append_assoc,
      List.singleton_append, List.cons_append, order?_key_comma]
    show (order? (keyLexemes (next :: order))).map _ = _
    rw [ih]
    rfl

/-- The clause of an order is read as its keys. -/
theorem orderClause?_lexemes (order : RowOrder) : orderClause? order.lexemes = some order.keys := by
  cases order with
  | nil => rfl
  | cons k order => exact order?_keyLexemes

/-- An order is read as its lexemes. -/
theorem readsClause_text {order : RowOrder} (h : ∀ k ∈ order, IsName k.1) :
    ReadsClause order.text.toList order.lexemes := by
  cases order with
  | nil => exact Or.inl ⟨rfl, rfl⟩
  | cons k order =>
    have horder : Reads "ORDER BY".toList [.word "order", .word "by"] := rfl
    have hkeys := Reads.intercalate_comma fun k' hk => reads_key (h k' hk)
    refine Or.inr ⟨_, ?_, horder.join hkeys⟩
    rw [text, List.isEmpty_cons, if_neg Bool.false_ne_true, String.toList_append,
      String.toList_intercalate, List.map_map]
    rfl

end RowOrder

/-! ## Chains of conditions -/

namespace Condition

/-- The lexemes of a chain of conditions. -/
def chainLexemes : List Condition → List Lexeme
  | [] => []
  | c :: cs => .word "where" :: [.word "and"].intercalate ((c :: cs).map lexemes)

/-- A chain of conditions is read as its lexemes. -/
theorem readsClause_chainText {cs : List Condition}
    (h : ∀ c ∈ cs, ∀ name ∈ c.columns, IsName name) :
    ReadsClause (chainText cs).toList (chainLexemes cs) := by
  cases cs with
  | nil => exact Or.inl ⟨rfl, rfl⟩
  | cons c cs =>
    have hwhere : Reads "WHERE".toList [.word "where"] := rfl
    have hand : Reads "AND".toList [.word "and"] := rfl
    have hconditions := hand.intercalate fun c' hc => reads_text (h c' hc)
    refine Or.inr ⟨_, ?_, hwhere.join hconditions⟩
    rw [chainText, List.isEmpty_cons, if_neg Bool.false_ne_true, String.toList_append,
      String.toList_intercalate, List.map_map]
    rfl

/-- No lexeme of a condition is the word that begins an order. -/
theorem isNotWord_lexemes {c : Condition} (h : ∀ name ∈ c.columns, IsName name) :
    ∀ l ∈ c.lexemes, isNotWord "order" l = true := by
  have hname : ∀ name ∈ c.columns, isNotWord "order" (.word name) = true :=
    fun name hmem => (h name hmem).isNotWord "order" (by decide)
  cases c with
  | anyMatches terms =>
    have hterms : ∀ l ∈ [.word "or"].intercalate (terms.map matchLexemes),
        isNotWord "order" l = true := by
      refine forall_mem_intercalate (by decide) ?_
      rw [List.forall_mem_map]
      intro term hterm
      have hcolumn := hname term.1 (List.mem_map_of_mem hterm)
      simp only [matchLexemes, List.forall_mem_cons, hcolumn, true_and]
      exact ⟨rfl, rfl, rfl, rfl, List.forall_mem_nil _⟩
    simp only [lexemes, List.forall_mem_cons, List.forall_mem_append]
    exact ⟨rfl, hterms, rfl, List.forall_mem_nil _⟩
  | compare column comparison slot =>
    have hcolumn := hname column List.mem_cons_self
    have hsign : isNotWord "order" comparison.lexeme = true := by cases comparison <;> rfl
    simp only [lexemes, List.forall_mem_cons, hcolumn, hsign, true_and]
    exact ⟨rfl, List.forall_mem_nil _⟩
  | isTrue column | among column slot =>
    have hcolumn := hname column List.mem_cons_self
    simp only [lexemes, List.forall_mem_cons, hcolumn, true_and]
    simp [isNotWord]

/-- No lexeme of a chain of conditions is the word that begins an order. -/
theorem isNotWord_chainLexemes {cs : List Condition}
    (h : ∀ c ∈ cs, ∀ name ∈ c.columns, IsName name) :
    ∀ l ∈ chainLexemes cs, isNotWord "order" l = true := by
  cases cs with
  | nil =>
    intro l hl
    cases hl
  | cons c cs =>
    refine List.forall_mem_cons.mpr ⟨by decide, forall_mem_intercalate ?_ ?_⟩
    · exact List.forall_mem_singleton.mpr (by decide)
    · rw [List.forall_mem_map]
      exact fun c' hc => isNotWord_lexemes (h c' hc)

end Condition

/-- The conjunction of some expressions. -/
def conjunction? : List Expr → Option Expr
  | [] => none
  | e :: es => some (es.foldl .and e)

/-- The clause of a chain of conditions is read as their conjunction. -/
theorem whereClause?_chainLexemes {cs : List Condition} {es : List Expr}
    (h : ∀ c ∈ cs, ∀ name ∈ c.columns, IsName name)
    (hes : List.Forall₂ (fun c e => c.expr? = some e) cs es) :
    whereClause? (Condition.chainLexemes cs) = some (conjunction? es) := by
  have hdenotes : List.Forall₂ Denotes (cs.map Condition.lexemes) es := by
    rw [List.forall₂_map_left_iff]
    exact ((List.forall₂_and_left cs es).mpr ⟨h, hes⟩).imp
      fun c e hce => denotes_lexemes hce.1 hce.2
  cases hes with
  | nil => rfl
  | cons he hes =>
    cases hdenotes with
    | cons hfirst hmore =>
      show (condition? _).map some = _
      rw [List.map_cons, condition?_intercalate hfirst hmore]
      rfl

/-! ## Commands -/

/-- No name is the word that ends a list of columns. -/
theorem isNotWord_nameLexemes {names : List String} (h : ∀ name ∈ names, IsName name) :
    ∀ l ∈ nameLexemes names, isNotWord "from" l = true := by
  rw [nameLexemes]
  refine forall_mem_intercalate (List.forall_mem_singleton.mpr rfl) ?_
  rw [List.forall_mem_map]
  exact fun name hname =>
    List.forall_mem_singleton.mpr ((h name hname).isNotWord "from" (by decide))

/-- The order begins where it is written, or there is none. -/
theorem splitAt_order {cs : List Condition} (order : RowOrder)
    (h : ∀ c ∈ cs, ∀ name ∈ c.columns, IsName name) :
    (Condition.chainLexemes cs ++ order.lexemes).takeWhile (isNotWord "order")
        = Condition.chainLexemes cs ∧
      (Condition.chainLexemes cs ++ order.lexemes).dropWhile (isNotWord "order")
        = order.lexemes := by
  have hchain := Condition.isNotWord_chainLexemes h
  rw [List.takeWhile_append_of_pos hchain, List.dropWhile_append_of_pos hchain]
  cases order with
  | nil => exact ⟨List.append_nil _, rfl⟩
  | cons k order => exact ⟨List.append_nil _, rfl⟩

/-- The clauses of a query are read as the query. -/
theorem ofLexemes?_clauses {column relation : String} {columns : List String}
    {cs : List Condition} {es : List Expr} (order : RowOrder)
    (hcolumns : ∀ name ∈ column :: columns, IsName name)
    (hcs : ∀ c ∈ cs, ∀ name ∈ c.columns, IsName name)
    (hes : List.Forall₂ (fun c e => c.expr? = some e) cs es) :
    Query.ofLexemes? (.word "select" :: (nameLexemes (column :: columns) ++ .word "from" ::
        .word relation :: (Condition.chainLexemes cs ++ order.lexemes)))
      = some ⟨column :: columns, relation, conjunction? es, order.keys⟩ := by
  have hnames := isNotWord_nameLexemes hcolumns
  obtain ⟨hchain, horder⟩ := splitAt_order order hcs
  have hfrom : isNotWord "from" (.word "from") = false := rfl
  rw [Query.ofLexemes?, List.takeWhile_append_of_pos hnames, List.dropWhile_append_of_pos hnames,
    List.takeWhile_cons_of_neg (by rw [hfrom]; decide),
    List.dropWhile_cons_of_neg (by rw [hfrom]; decide), List.append_nil, names?_nameLexemes,
    Option.bind_eq_bind, Option.bind_some, Query.ofRest?, hchain, horder,
    whereClause?_chainLexemes hcs hes, RowOrder.orderClause?_lexemes]
  rfl

namespace Command

/-- The text of a query, put together from its parts. -/
theorem text_select (columns : List String) (relation : String) (cs : List Condition)
    (order : RowOrder) :
    (Command.select columns relation cs order).text = "SELECT " ++ ", ".intercalate columns
      ++ " FROM " ++ relation ++ Condition.chainText cs ++ order.text := rfl

/-- A command that selects rows is read as a query. -/
theorem read_select {column relation : String} {columns : List String}
    {cs : List Condition} {es : List Expr} {order : RowOrder}
    (hcolumns : ∀ name ∈ column :: columns, IsName name) (hrelation : IsName relation)
    (hcs : ∀ c ∈ cs, ∀ name ∈ c.columns, IsName name)
    (hes : List.Forall₂ (fun c e => c.expr? = some e) cs es)
    (horder : ∀ k ∈ order, IsName k.1) :
    Query.read (Command.select (column :: columns) relation cs order).text
      = some ⟨column :: columns, relation, conjunction? es, order.keys⟩ := by
  have hselect : Reads "SELECT".toList [.word "select"] := rfl
  have hfrom : Reads "FROM".toList [.word "from"] := rfl
  have hhead := hselect.join ((reads_names hcolumns).join (hfrom.join hrelation.reads))
  have hall := (hhead.append_clause (Condition.readsClause_chainText hcs)).append_clause
    (RowOrder.readsClause_text horder)
  have htext : (Command.select (column :: columns) relation cs order).text.toList
      = "SELECT".toList ++ ' ' :: ((", ".intercalate (column :: columns)).toList ++ ' ' ::
          ("FROM".toList ++ ' ' :: relation.toList)) ++ (Condition.chainText cs).toList
          ++ order.text.toList := by
    have hselect : "SELECT ".toList = "SELECT".toList ++ [' '] := rfl
    have hfrom : " FROM ".toList = ' ' :: ("FROM".toList ++ [' ']) := rfl
    rw [text_select]
    simp only [String.toList_append, hselect, hfrom, List.append_assoc, List.cons_append,
      List.nil_append]
  rw [Query.read, htext, hall.lexemes_eq, Option.bind_some]
  simp only [List.append_assoc, List.cons_append, List.nil_append]
  exact ofLexemes?_clauses order hcolumns hcs hes

end Command

end Database

end FeedArchive
