/-
Filling a template.

The parts of a template are written one after the other: literal and
quoted texts as they are, a field as its value.  A value is copied and
never read again, whatever braces it holds.  The first part that cannot
be written stops the filling and is the error: an unclosed `{{`, an
action that is empty or of no known form, or a field that has no value.
An undefined field is an error and not an empty text, so that a typing
slip in a template shows before it does harm.
-/
import RemoteProvision.Template.Segment

namespace RemoteProvision.Template

-- ========================================================== faults

/-- Why a template cannot be filled; every position is the byte offset
of the action's `{{`. -/
inductive Fault where
  | undefinedField (name : String) (position : Nat)
  | unclosedAction (position : Nat)
  | emptyAction (position : Nat)
  | unsupportedAction (action : String) (position : Nat)
deriving DecidableEq

/-- Where a fault lies. -/
def Fault.position : Fault → Nat
  | .undefinedField _ position => position
  | .unclosedAction position => position
  | .emptyAction position => position
  | .unsupportedAction _ position => position

/-- The text of a fault. -/
def Fault.message : Fault → String
  | .undefinedField name position =>
    "undefined field '." ++ name ++ "' at position "
      ++ toString position ++ " in template"
  | .unclosedAction position =>
    "unclosed '\x7b\x7b' at position " ++ toString position
      ++ " in template"
  | .emptyAction position =>
    "empty action at position " ++ toString position ++ " in template"
  | .unsupportedAction action position =>
    "unsupported action '" ++ action ++ "' at position "
      ++ toString position ++ " in template (expected '.Field')"

-- ========================================================= filling

/-- The values of fields by name. -/
abbrev Fields := String → Option String

/-- What one part of a template is written as. -/
def Segment.fill (fields : Fields) :
    Segment → Except Fault (List Char)
  | .literal text => .ok text
  | .unclosed position => .error (.unclosedAction position)
  | .action position .empty => .error (.emptyAction position)
  | .action position (.unsupported text) =>
    .error (.unsupportedAction text position)
  | .action _ (.quoted text) => .ok text.toList
  | .action position (.field name) =>
    match fields name with
    | some value => .ok value.toList
    | none => .error (.undefinedField name position)

/-- Writes parts one after the other, up to the first that fails. -/
def fillAll (fields : Fields) :
    List Segment → Except Fault (List Char)
  | [] => .ok []
  | s :: rest => do
    let text ← s.fill fields
    let more ← fillAll fields rest
    return text ++ more

/-- Fills a template. -/
def render (template : String) (fields : Fields) :
    Except Fault String :=
  (fillAll fields (segments template)).map String.ofList

/-- Fields given as pairs of name and value. -/
def Fields.ofList (pairs : List (String × String)) : Fields :=
  fun name => pairs.lookup name

end RemoteProvision.Template
