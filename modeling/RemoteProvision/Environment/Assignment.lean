/-
One assignment.

A variable is given as `key=value`: the key ends at the first `=` and is
not empty, and the value may hold further `=`.

A variable is written through a format with two slots.  The first `%s`
takes the key and the second the value; `%%` writes one `%`; any other
`%`, a third `%s` among them, is copied like the characters around it.
What goes into a slot is never read as a format.
-/

namespace RemoteProvision.Environment

-- ========================================================= reading

/-- Splits `key=value` at its first `=`; no `=` or no key is no
assignment. -/
def splitAssignment (text : String) : Option (String × String) :=
  let cs := text.toList
  let key := cs.takeWhile (· ≠ '=')
  match cs.dropWhile (· ≠ '=') with
  | [] => none
  | _ :: value =>
    if key.isEmpty then none
    else some (String.ofList key, String.ofList value)

-- ========================================================= writing

/-- Writes a format with the values that its next slots take. -/
def fillSlots : List (List Char) → List Char → List Char
  | _, [] => []
  | slots, '%' :: '%' :: rest => '%' :: fillSlots slots rest
  | slot :: slots, '%' :: 's' :: rest =>
    slot ++ fillSlots slots rest
  | slots, c :: rest => c :: fillSlots slots rest

/-- Writes one variable through a format. -/
def formatAssignment (format key value : String) : String :=
  String.ofList (fillSlots [key.toList, value.toList] format.toList)

end RemoteProvision.Environment
