/-
Debugging text of strings and lists.

A string is written between double quotes.  A double quote, a backslash,
NUL, tab, line feed and carriage return are written with a backslash;
every other character without a picture of its own is written as its
number in braces.  A list is written between brackets, its entries
separated by a comma and a space.
-/
import RemoteProvision.Text.Unseen

namespace RemoteProvision.Text

/-- The hexadecimal digits of a number, in lower case, without leading
zeros. -/
def hexText (n : Nat) : String :=
  String.ofList (Nat.toDigits 16 n)

/-- A character inside debugging quotes. -/
def quotedChar (c : Char) : String :=
  if c = '\x00' then "\\0"
  else if c = '\t' then "\\t"
  else if c = '\n' then "\\n"
  else if c = '\r' then "\\r"
  else if c = '\x22' then "\\\""
  else if c = '\x5c' then "\\\\"
  else if isUnseen c then "\\u\x7b" ++ hexText c.toNat ++ "\x7d"
  else c.toString

/-- The debugging text of a string. -/
def quoted (s : String) : String :=
  "\"" ++ String.join (s.toList.map quotedChar) ++ "\""

/-- The debugging text of a path, in which a single quote is written
with a backslash as well. -/
def quotedPath (s : String) : String :=
  let written (c : Char) :=
    if c = '\x27' then "\\'" else quotedChar c
  "\"" ++ String.join (s.toList.map written) ++ "\""

/-- The text of a list whose entries are written already. -/
def bracketed (entries : List String) : String :=
  "[" ++ String.intercalate ", " entries ++ "]"

/-- The text of a truth value. -/
def truthText (b : Bool) : String :=
  if b then "true" else "false"

end RemoteProvision.Text
