/-
Records for other programs.

What the user is told can also be written for a program to read: one
JSON object to a line, with the time, the kind and the text.  The text is
escaped, so a line feed in it does not end the line.

A record is read back from any JSON object with these three fields, each
of them once; other fields do not matter.  A list of the three values in
this order is a record, too.
-/
import RemoteProvision.Json.Quoted
import RemoteProvision.Json.Value
import RemoteProvision.Moment
import RemoteProvision.Ui.Basic

namespace RemoteProvision.Ui

-- =========================================================== kinds

/-- The name of a kind. -/
def Kind.name : Kind → String
  | .say => "say"
  | .message => "message"
  | .error => "error"

/-- The kind of a name. -/
def Kind.ofName? (name : String) : Option Kind :=
  if name = "say" then some .say
  else if name = "message" then some .message
  else if name = "error" then some .error
  else none

theorem Kind.ofName?_name (kind : Kind) :
    Kind.ofName? kind.name = some kind := by
  cases kind <;> rfl

-- ========================================================= writing

/-- An entry as a record, at a time that is written already. -/
def Entry.record (time : String) (entry : Entry) : String :=
  "\x7b\"ts\":" ++ Json.quoted time
    ++ ",\"kind\":" ++ Json.quoted entry.kind.name
    ++ ",\"message\":" ++ Json.quoted entry.text ++ "\x7d"

/-- Entries as lines of records, all at one time. -/
def recordLines (time : String) (entries : List Entry) : String :=
  String.join (entries.map fun e => e.record time ++ "\n")

-- ========================================================= reading

/-- An entry and when the user was told. -/
structure Record where
  time : Moment
  entry : Entry
deriving DecidableEq

open Json (Value)

/-- The values of the fields with a name. -/
def valuesOf (name : String) (fields : List (Option String × Value)) :
    List Value :=
  (fields.filter fun f => f.1 == some name).map (·.2)

/-- A moment from its JSON value. -/
def readTime : Value → Option Moment
  | .string (some text) => Moment.read? text
  | _ => none

/-- A kind from its JSON value: its name, or an object that has nothing
but an empty field of that name. -/
def readKind : Value → Option Kind
  | .string (some name) => Kind.ofName? name
  | .object [(some name, .null)] => Kind.ofName? name
  | _ => none

/-- A text from its JSON value. -/
def readText : Value → Option String
  | .string text => text
  | _ => none

/-- A record from the values of its three fields. -/
def Record.ofValues? (time kind text : Value) : Option Record := do
  return ⟨← readTime time, ← readKind kind, ← readText text⟩

/-- A record from its JSON value. -/
def Record.ofValue? : Value → Option Record
  | .list [time, kind, text] => Record.ofValues? time kind text
  | .object fields =>
    if fields.all fun f => f.1.isSome then
      match valuesOf "ts" fields, valuesOf "kind" fields,
          valuesOf "message" fields with
      | [time], [kind], [text] => Record.ofValues? time kind text
      | _, _, _ => none
    else none
  | _ => none

/-- Reads a record. -/
def Record.read? (line : String) : Option Record := do
  Record.ofValue? (← Json.read? line)

end RemoteProvision.Ui
