import FeedArchive.Json.Reader
import FeedArchive.Proofs.Json.Token

/-!
# Reading what is written

A value without numbers that are no integers and without halves of surrogate pairs (`IsPlain`) is
read back from its text, in either style (`read_compactText`, `read_prettyText`). The text has the
tokens of the value, whatever white space stands between them, and the reader finds the value from
its tokens within any lists and objects around it. Both are inductions on the value.
-/

namespace FeedArchive.Json

variable {rest : List Char} {style : Style}

/-! ## Tokens of a value -/

namespace Value

/-- The tokens of a value. -/
def tokens : Value → List Token
  | .null => [.null]
  | .bool b => [.bool b]
  | .int n => [.int n]
  | .decimal literal => [.decimal literal]
  | .text s => [.text (some s)]
  | .halfText => [.text none]
  | .list [] => [.beginList, .endList]
  | .list (v :: vs) => .beginList :: (tokens v ++ (items vs ++ [.endList]))
  | .object [] => [.beginObject, .endObject]
  | .object ((k, v) :: ms) =>
    .beginObject :: .text (some k) :: .colon :: (tokens v ++ (members ms ++ [.endObject]))
where
  /-- The tokens of the items after the first one of a list. -/
  items : List Value → List Token
    | [] => []
    | v :: vs => .comma :: (tokens v ++ items vs)
  /-- The tokens of the members after the first one of an object. -/
  members : List (String × Value) → List Token
    | [] => []
    | (k, v) :: ms => .comma :: .text (some k) :: .colon :: (tokens v ++ members ms)

/-- All numbers in a value are integers, and all texts have characters. -/
inductive IsPlain : Value → Prop
  | null : IsPlain .null
  | bool (b : Bool) : IsPlain (.bool b)
  | int (n : Int) : IsPlain (.int n)
  | text (s : String) : IsPlain (.text s)
  | list {items : List Value} (h : ∀ v ∈ items, IsPlain v) : IsPlain (.list items)
  | object {members : List (String × Value)} (h : ∀ m ∈ members, IsPlain m.2) :
      IsPlain (.object members)

end Value

/-! ## The text of a value -/

/-- There is nothing but white space where the style of a text may have it. -/
structure Style.IsSpacing (style : Style) : Prop where
  lineBreak : ∀ depth, ∀ c ∈ style.lineBreak depth, isSpace c = true
  afterColon : ∀ c ∈ style.afterColon, isSpace c = true

/-- Nothing stands between the tokens of a compact text. -/
theorem isSpacing_compact : compact.IsSpacing :=
  ⟨fun _ => List.forall_mem_nil _, List.forall_mem_nil _⟩

/-- Line breaks and indentation are white space. -/
theorem isSpacing_pretty : pretty.IsSpacing where
  lineBreak depth := by
    refine List.forall_mem_cons.mpr ⟨by decide, fun c hc => ?_⟩
    rw [List.eq_of_mem_replicate hc]
    decide
  afterColon := List.forall_mem_singleton.mpr rfl

/-- A character that is no part of a number ends one. -/
theorem endsNumber_cons {c : Char} (h : c.isDigit = false ∧ c ∉ ['.', 'e', 'E']) :
    EndsNumber (c :: rest) := by
  intro d hd
  obtain rfl := Option.some.inj hd
  exact h

/-- White space and what ends a number behind it end a number. -/
theorem endsNumber_spaces {gap : List Char} (h : ∀ c ∈ gap, isSpace c = true)
    (hrest : EndsNumber rest) : EndsNumber (gap ++ rest) := by
  cases gap with
  | nil => exact hrest
  | cons c gap =>
    have hc := (List.forall_mem_cons.mp h).1
    simp only [isSpace, Bool.or_eq_true, beq_iff_eq] at hc
    rcases hc with ((rfl | rfl) | rfl) | rfl <;> exact endsNumber_cons (by decide)

/-- A text gives some tokens, whatever comes behind it that does not run into a number. -/
def Yields (front : List Char) (ts : List Token) : Prop :=
  ∀ rest, EndsNumber rest → tokens? (front ++ rest) = (tokens? rest).map (ts ++ ·)

/-- Nothing yields no token. -/
theorem yields_nil : Yields [] [] := by
  intro rest _
  show tokens? rest = (tokens? rest).map id
  rw [Option.map_id, id]

namespace Value

variable {v : Value} {vs : List Value} {ms : List (String × Value)} {depth : Nat}

/-- Items that follow the first one begin with a comma, which ends a number. -/
theorem endsNumber_items (h : EndsNumber rest) :
    EndsNumber (print.items style depth vs ++ rest) := by
  cases vs with
  | nil => exact h
  | cons v vs => exact endsNumber_cons (by decide)

/-- Members that follow the first one begin with a comma, which ends a number. -/
theorem endsNumber_members (h : EndsNumber rest) :
    EndsNumber (print.members style depth ms ++ rest) := by
  cases ms with
  | nil => exact h
  | cons m ms => exact endsNumber_cons (by decide)

/-- The items after the first one have their tokens. -/
theorem yields_items (hs : style.IsSpacing)
    (h : ∀ v ∈ vs, ∀ depth, Yields (v.print style depth) v.tokens) :
    Yields (print.items style depth vs) (tokens.items vs) := by
  induction vs with
  | nil => exact yields_nil
  | cons v vs ih =>
    obtain ⟨hv, hvs⟩ := List.forall_mem_cons.mp h
    intro rest hrest
    simp only [print.items, tokens.items, List.append_assoc, List.cons_append]
    rw [tokens?_mark rfl rfl, tokens?_spaces (hs.lineBreak _), hv _ _ (endsNumber_items hrest),
      ih hvs _ hrest, Option.map_map, Option.map_map]
    rfl

/-- A member gives its key, a colon and the tokens of its value. -/
theorem tokens?_member (hs : style.IsSpacing) (k : String)
    (hv : Yields (v.print style depth) v.tokens) (hrest : EndsNumber rest) :
    tokens? (quote k ++ ':' :: (style.afterColon ++ (v.print style depth ++ rest)))
      = (tokens? rest).map fun ts => .text (some k) :: .colon :: (v.tokens ++ ts) := by
  rw [tokens?_quote, tokens?_mark rfl rfl, tokens?_spaces hs.afterColon, hv _ hrest,
    Option.map_map, Option.map_map]
  rfl

/-- The members after the first one have their tokens. -/
theorem yields_members (hs : style.IsSpacing)
    (h : ∀ m ∈ ms, ∀ depth, Yields (m.2.print style depth) m.2.tokens) :
    Yields (print.members style depth ms) (tokens.members ms) := by
  induction ms with
  | nil => exact yields_nil
  | cons m ms ih =>
    obtain ⟨k, v⟩ := m
    obtain ⟨hv, hms⟩ := List.forall_mem_cons.mp h
    intro rest hrest
    simp only [print.members, tokens.members, List.append_assoc, List.cons_append]
    rw [tokens?_mark rfl rfl, tokens?_spaces (hs.lineBreak _),
      tokens?_member hs k (hv _) (endsNumber_members hrest), ih hms _ hrest, Option.map_map,
      Option.map_map]
    rfl

/-- A list yields its brackets, its commas and the tokens of its items, if each item yields its
own. -/
theorem yields_list (hs : style.IsSpacing)
    (h : ∀ v ∈ vs, ∀ depth, Yields (v.print style depth) v.tokens) :
    Yields ((Value.list vs).print style depth) (Value.list vs).tokens := by
  intro rest hrest
  cases vs with
  | nil =>
    simp only [print, tokens, List.cons_append, List.nil_append]
    rw [tokens?_mark rfl rfl, tokens?_mark rfl rfl, Option.map_map]
    rfl
  | cons v vs =>
    obtain ⟨hv, hvs⟩ := List.forall_mem_cons.mp h
    -- the last item may be a number, behind which the line ends or the list does
    have hend : EndsNumber (style.lineBreak depth ++ ']' :: rest) :=
      endsNumber_spaces (hs.lineBreak depth) (endsNumber_cons (by decide))
    simp only [print, tokens, List.append_assoc, List.cons_append, List.nil_append]
    rw [tokens?_mark rfl rfl, tokens?_spaces (hs.lineBreak _), hv _ _ (endsNumber_items hend),
      yields_items hs hvs _ hend, tokens?_spaces (hs.lineBreak _), tokens?_mark rfl rfl]
    simp only [Option.map_map]
    rfl

/-- An object yields its braces, its keys and the tokens of its members, if each member yields its
own. -/
theorem yields_object (hs : style.IsSpacing)
    (h : ∀ m ∈ ms, ∀ depth, Yields (m.2.print style depth) m.2.tokens) :
    Yields ((Value.object ms).print style depth) (Value.object ms).tokens := by
  intro rest hrest
  cases ms with
  | nil =>
    simp only [print, tokens, List.cons_append, List.nil_append]
    rw [tokens?_mark rfl rfl, tokens?_mark rfl rfl, Option.map_map]
    rfl
  | cons m ms =>
    obtain ⟨k, v⟩ := m
    obtain ⟨hv, hms⟩ := List.forall_mem_cons.mp h
    have hend : EndsNumber (style.lineBreak depth ++ '\x7d' :: rest) :=
      endsNumber_spaces (hs.lineBreak depth) (endsNumber_cons (by decide))
    simp only [print, tokens, List.append_assoc, List.cons_append, List.nil_append]
    rw [tokens?_mark rfl rfl, tokens?_spaces (hs.lineBreak _),
      tokens?_member hs k (hv _) (endsNumber_members hend), yields_members hs hms _ hend,
      tokens?_spaces (hs.lineBreak _), tokens?_mark rfl rfl]
    simp only [Option.map_map]
    rfl

/-- A plain value is written with its tokens, at any depth. -/
theorem IsPlain.yields (h : v.IsPlain) (hs : style.IsSpacing) :
    ∀ depth, Yields (v.print style depth) v.tokens := by
  induction h with
  | null => exact fun _ rest _ => tokens?_of_run (by decide) run_scanToken_null
  | bool b =>
    intro _ rest _
    cases b with
    | true => exact tokens?_of_run (by decide) run_scanToken_true
    | false => exact tokens?_of_run (by decide) run_scanToken_false
  | int n => exact fun _ rest hrest => tokens?_signed n hrest
  | text s => exact fun _ rest _ => tokens?_quote s
  | list _ ih => exact fun _ => yields_list hs ih
  | object _ ih => exact fun _ => yields_object hs ih

/-! ## Reading the tokens -/

/-- The tokens of a value begin with no end of a list. -/
theorem exists_tokens_eq_cons (v : Value) : ∃ t ts, v.tokens = t :: ts ∧ t ≠ .endList := by
  cases v with
  | list items => cases items <;> exact ⟨_, _, rfl, by decide⟩
  | object members => cases members <;> exact ⟨_, _, rfl, by decide⟩
  | _ => exact ⟨_, _, rfl, by simp⟩

/-- The reader finds the value from its tokens, within any lists and objects. -/
def IsRead (v : Value) : Prop :=
  ∀ around, v.tokens.foldlM State.next (.value around) = some (.after v around)

/-- The reader goes on behind the value. -/
theorem IsRead.foldlM_append (h : IsRead v) (ts : List Token) (around : List Frame) :
    (v.tokens ++ ts).foldlM State.next (.value around)
      = ts.foldlM State.next (.after v around) := by
  rw [List.foldlM_append, h]
  rfl

/-- The items behind a value, and the end of their list. -/
theorem foldlM_items (h : ∀ v ∈ vs, IsRead v) (around : List Frame) :
    ∀ (u : Value) (before : List Value),
      (tokens.items vs ++ [Token.endList]).foldlM State.next (.after u (.list before :: around))
        = some (.after (.list ((u :: before).reverse ++ vs)) around) := by
  induction vs with
  | nil =>
    intro u before
    rw [List.append_nil]
    rfl
  | cons v vs ih =>
    obtain ⟨hv, hvs⟩ := List.forall_mem_cons.mp h
    intro u before
    rw [tokens.items, List.cons_append, List.append_assoc, List.foldlM_cons]
    refine (hv.foldlM_append _ (.list (u :: before) :: around)).trans ?_
    rw [ih hvs, List.reverse_cons, List.append_assoc]
    rfl

/-- A list whose items are read back is read back. -/
theorem isRead_list (h : ∀ v ∈ vs, IsRead v) : IsRead (.list vs) := by
  intro around
  cases vs with
  | nil => rfl
  | cons v vs =>
    obtain ⟨hv, hvs⟩ := List.forall_mem_cons.mp h
    obtain ⟨t, ts, htokens, ht⟩ := v.exists_tokens_eq_cons
    -- the first token is read as one behind a comma would be, since the list does not end there
    have hfirst : (State.firstItem around).next t = (State.value (.list [] :: around)).next t := by
      cases t with
      | endList => exact absurd rfl ht
      | _ => rfl
    have hvalue : v.tokens.foldlM State.next (.firstItem around)
        = some (.after v (.list [] :: around)) := by
      rw [← hv, htokens, List.foldlM_cons, List.foldlM_cons, hfirst]
    rw [tokens, List.foldlM_cons]
    show (v.tokens ++ (tokens.items vs ++ [Token.endList])).foldlM State.next
      (.firstItem around) = _
    rw [List.foldlM_append, hvalue]
    exact foldlM_items hvs around v []

/-- The members of an object whose keys all have characters. -/
theorem ofMembers_map_some (ms : List (String × Value)) :
    ofMembers (ms.map (Prod.map some id)) = .object ms := by
  have hmapM : (ms.map (Prod.map some id)).mapM (fun m => m.1.map (·, m.2)) = some ms := by
    rw [List.mapM_map]
    exact List.mapM_pure.trans (congrArg some (List.map_id ms))
  rw [ofMembers, hmapM]
  rfl

/-- The members behind a value, and the end of their object. -/
theorem foldlM_members (h : ∀ m ∈ ms, IsRead m.2) (around : List Frame) :
    ∀ (k : Option String) (u : Value) (before : Members),
      (tokens.members ms ++ [Token.endObject]).foldlM State.next
          (.after u (.object before k :: around))
        = some (.after (ofMembers (((k, u) :: before).reverse ++ ms.map (Prod.map some id)))
            around) := by
  induction ms with
  | nil =>
    intro k u before
    rw [List.map_nil, List.append_nil]
    rfl
  | cons m ms ih =>
    obtain ⟨k', v⟩ := m
    obtain ⟨hv, hms⟩ := List.forall_mem_cons.mp h
    intro k u before
    rw [tokens.members, List.cons_append, List.cons_append, List.cons_append, List.append_assoc,
      List.foldlM_cons]
    refine (hv.foldlM_append _ (.object ((k, u) :: before) (some k') :: around)).trans ?_
    rw [ih hms, List.reverse_cons, List.append_assoc]
    rfl

/-- An object whose members are read back is read back. -/
theorem isRead_object (h : ∀ m ∈ ms, IsRead m.2) : IsRead (.object ms) := by
  intro around
  cases ms with
  | nil => rfl
  | cons m ms =>
    obtain ⟨k, v⟩ := m
    obtain ⟨hv, hms⟩ := List.forall_mem_cons.mp h
    rw [tokens, List.foldlM_cons]
    refine (hv.foldlM_append _ (.object [] (some k) :: around)).trans ?_
    exact (foldlM_members hms around (some k) v []).trans
      (congrArg (fun u => some (State.after u around)) (ofMembers_map_some ((k, v) :: ms)))

/-- The tokens of a plain value are read as the value, whatever is read around it. -/
theorem IsPlain.isRead (h : v.IsPlain) : IsRead v := by
  induction h with
  | null | bool | int | text => exact fun _ => rfl
  | list _ ih => exact isRead_list ih
  | object _ ih => exact isRead_object ih

/-- A plain value is read back from its text. -/
theorem read_print (h : v.IsPlain) (hs : style.IsSpacing) :
    Value.read (String.ofList (v.print style 0)) = some v := by
  have htokens : tokens? (v.print style 0) = some v.tokens := by
    have hend : EndsNumber [] := fun _ hc => absurd hc (by simp)
    have hyields := h.yields hs 0 [] hend
    rwa [List.append_nil, tokens?, Option.map_some, List.append_nil] at hyields
  rw [Value.read, String.toList_ofList, htokens]
  show (v.tokens.foldlM State.next (.value [])).bind State.result? = some v
  rw [h.isRead]
  rfl

/-- A plain value is read back from its compact text. -/
theorem read_compactText (h : v.IsPlain) : Value.read v.compactText = some v :=
  read_print h isSpacing_compact

/-- A plain value is read back from its text with a line for each member. -/
theorem read_prettyText (h : v.IsPlain) : Value.read v.prettyText = some v :=
  read_print h isSpacing_pretty

end Value

end FeedArchive.Json
