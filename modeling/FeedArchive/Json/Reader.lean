import FeedArchive.Json.Token
import FeedArchive.Json.Value

/-! # Reading JSON

A value is read token by token. The state between two tokens says what may come next, and within
which lists and objects. -/

namespace FeedArchive.Json

/-- The members of an object with their keys, where these have characters. -/
abbrev Members := List (Option String × Value)

/-- A list or object that has not been read to its end, the last member first. -/
inductive Frame where
  | list (items : List Value)
  /-- An object, with the key of the member whose value comes next. -/
  | object (members : Members) (key : Option String)

/-- What may come next. The lists and objects around it are given from the innermost one
outwards. -/
inductive State where
  | value (around : List Frame)
  /-- The first item of a list, or its end. -/
  | firstItem (around : List Frame)
  /-- The first key of an object, or its end. -/
  | firstKey (around : List Frame)
  /-- A key after other members. -/
  | key (members : Members) (around : List Frame)
  | colon (members : Members) (key : Option String) (around : List Frame)
  /-- What comes after a value. -/
  | after (v : Value) (around : List Frame)

/-- The object with some members, unless a key has no characters. -/
def Value.ofMembers (members : Members) : Value :=
  let keyed? := members.mapM fun (m : Option String × Value) => m.1.map (·, m.2)
  (keyed?.map Value.object).getD .halfText

/-- A value begins. -/
def State.begin (around : List Frame) : Token → Option State
  | .beginList => some (.firstItem around)
  | .beginObject => some (.firstKey around)
  | .null => some (.after .null around)
  | .bool b => some (.after (.bool b) around)
  | .int n => some (.after (.int n) around)
  | .decimal literal => some (.after (.decimal literal) around)
  | .text (some s) => some (.after (.text s) around)
  | .text none => some (.after .halfText around)
  | _ => none

/-- The state after a token, unless the token is out of place. -/
def State.next : State → Token → Option State
  | .value around, t => State.begin around t
  | .firstItem around, .endList => some (.after (.list []) around)
  | .firstItem around, t => State.begin (.list [] :: around) t
  | .firstKey around, .endObject => some (.after (.object []) around)
  | .firstKey around, .text k => some (.colon [] k around)
  | .key members around, .text k => some (.colon members k around)
  | .colon members k around, .colon => some (.value (.object members k :: around))
  | .after v (.list items :: around), .comma => some (.value (.list (v :: items) :: around))
  | .after v (.list items :: around), .endList =>
    some (.after (.list (v :: items).reverse) around)
  | .after v (.object members k :: around), .comma => some (.key ((k, v) :: members) around)
  | .after v (.object members k :: around), .endObject =>
    some (.after (.ofMembers ((k, v) :: members).reverse) around)
  | _, _ => none

/-- The value that has been read, if it is complete. -/
def State.result? : State → Option Value
  | .after v [] => some v
  | _ => none

/-- The value that a text stands for. -/
def Value.read (text : String) : Option Value := do
  let tokens ← tokens? text.toList
  let state ← tokens.foldlM State.next (.value [])
  state.result?

end FeedArchive.Json
