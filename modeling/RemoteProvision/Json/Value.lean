/-
JSON values.

A JSON text is one value.  The reader goes through its tokens once and
keeps the lists and objects that are still open, the innermost first.
What the next token may be is told by the stage it is in, so that a comma
stands between items and nowhere else.

A string is a text unless it holds half of a surrogate pair; such a
string is a value all the same.  Fields of an object keep their order,
and a name may come twice.
-/
import RemoteProvision.Json.Token

namespace RemoteProvision.Json

-- =========================================================== values

/-- A JSON value. -/
inductive Value where
  | null
  | truth (value : Bool)
  /-- A number as it is written. -/
  | number (literal : String)
  /-- A string, if its units form a text. -/
  | string (text : Option String)
  | list (items : List Value)
  | object (fields : List (Option String × Value))

-- ========================================================== reading

/-- The text of some units, unless half of a pair stands alone. -/
def textOfUnits? (units : List UInt16) : Option String :=
  (Encoding.ofUnits? units).map String.ofList

/-- A list or object that is still open; the newest item comes first. -/
inductive Opened where
  | list (items : List Value)
  | object (fields : List (Option String × Value))
  /-- An object behind the name of a field. -/
  | field (fields : List (Option String × Value)) (name : Option String)

/-- What may come next. -/
inductive Stage where
  | value
  /-- The first item of a list, or its end. -/
  | firstItem
  /-- The first name of an object, or its end. -/
  | firstName
  | name
  | colon
  /-- A comma or an end. -/
  | behind
  | done (value : Value)

/-- A reader between two tokens. -/
structure Reader where
  opened : List Opened
  stage : Stage

namespace Reader

/-- A reader at the front of a text. -/
def start : Reader := ⟨[], .value⟩

/-- Gives a finished value to what is open around it. -/
def give (value : Value) : List Opened → Option Reader
  | [] => some ⟨[], .done value⟩
  | .list items :: outer =>
    some ⟨.list (value :: items) :: outer, .behind⟩
  | .field fields name :: outer =>
    some ⟨.object ((name, value) :: fields) :: outer, .behind⟩
  | .object _ :: _ => none

/-- A token where a value may begin. -/
def beginValue (opened : List Opened) : Token → Option Reader
  | .null => give .null opened
  | .truth value => give (.truth value) opened
  | .number literal => give (.number (String.ofList literal)) opened
  | .string units => give (.string (textOfUnits? units)) opened
  | .openList => some ⟨.list [] :: opened, .firstItem⟩
  | .openObject => some ⟨.object [] :: opened, .firstName⟩
  | _ => none

/-- A token where a name must be. -/
def beginField (opened : List Opened) : Token → Option Reader
  | .string units =>
    match opened with
    | .object fields :: outer =>
      some ⟨.field fields (textOfUnits? units) :: outer, .colon⟩
    | _ => none
  | _ => none

/-- A token that ends the innermost list or object. -/
def close (opened : List Opened) : Token → Option Reader
  | .closeList =>
    match opened with
    | .list items :: outer => give (.list items.reverse) outer
    | _ => none
  | .closeObject =>
    match opened with
    | .object fields :: outer => give (.object fields.reverse) outer
    | _ => none
  | _ => none

/-- A token behind an item. -/
def goOn (opened : List Opened) : Token → Option Reader
  | .comma =>
    match opened with
    | .list _ :: _ => some ⟨opened, .value⟩
    | .object _ :: _ => some ⟨opened, .name⟩
    | _ => none
  | token => close opened token

/-- One more token. -/
def step (r : Reader) (token : Token) : Option Reader :=
  match r.stage, token with
  | .value, token => beginValue r.opened token
  | .firstItem, .closeList => close r.opened .closeList
  | .firstItem, token => beginValue r.opened token
  | .firstName, .closeObject => close r.opened .closeObject
  | .firstName, token => beginField r.opened token
  | .name, token => beginField r.opened token
  | .colon, .colon => some ⟨r.opened, .value⟩
  | .colon, _ => none
  | .behind, token => goOn r.opened token
  | .done _, _ => none

/-- The value at the end of a text. -/
def result? (r : Reader) : Option Value :=
  match r.stage with
  | .done value => some value
  | _ => none

end Reader

/-- Reads a JSON text. -/
def read? (text : String) : Option Value := do
  let tokens ← tokens text.toList
  let reader ← tokens.foldlM Reader.step Reader.start
  reader.result?

end RemoteProvision.Json
