/-
JSON strings.

A string is written between double quotes on one line.  A double quote
and a backslash get a backslash in front, the five control characters
with a letter of their own are written with it, and every other control
character below the space as four hexadecimal digits.  All else stands
as it is, so no control character is left in the written form.
-/
import RemoteProvision.Ids

namespace RemoteProvision.Json

/-- A character inside a JSON string. -/
def stringChar (c : Char) : List Char :=
  if c = '\x22' then ['\x5c', '\x22']
  else if c = '\x5c' then ['\x5c', '\x5c']
  else if c = '\x08' then ['\x5c', 'b']
  else if c = '\x0c' then ['\x5c', 'f']
  else if c = '\n' then ['\x5c', 'n']
  else if c = '\r' then ['\x5c', 'r']
  else if c = '\t' then ['\x5c', 't']
  else if c.toNat < 0x20 then
    ['\x5c', 'u'] ++ Ids.hexDigits 4 c.toNat
  else [c]

/-- A text as a JSON string. -/
def quoted (text : String) : String :=
  "\"" ++ String.ofList (text.toList.flatMap stringChar) ++ "\""

end RemoteProvision.Json
