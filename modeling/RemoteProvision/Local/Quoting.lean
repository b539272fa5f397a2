/-
Words as programs show them.

A program that complains about a word puts it in quotes.  A word that is
just shown has a backslash in front of what could be taken for something
else.  The name of a file is shown in such a way that a shell would read
the same name, and sometimes only if it has to be.

Words are packed bytes.  Bytes beyond ASCII are shown as numbers.
-/

namespace RemoteProvision.Local

-- ========================================================== letters

/-- Three digits of base eight. -/
def octalText (n : Nat) : String :=
  let digit (d : Nat) : Char := Char.ofNat (48 + d % 8)
  String.ofList [digit (n / 64), digit (n / 8), digit n]

/-- Whether a byte has no picture in ASCII. -/
def isHidden (c : Char) : Bool := c.toNat < 32 || 126 < c.toNat

/-- The letter or number of a byte without a picture. -/
def hiddenText (c : Char) : String :=
  match c with
  | '\x07' => "a"
  | '\x08' => "b"
  | '\t' => "t"
  | '\n' => "n"
  | '\x0b' => "v"
  | '\x0c' => "f"
  | '\r' => "r"
  | c => octalText c.toNat

-- =========================================================== words

/-- A word in quotes. -/
def quote (word : String) : String :=
  let shown (c : Char) : String :=
    if c = '\x27' then "\\'"
    else if c = '\x5c' then "\\\\"
    else if isHidden c then "\\" ++ hiddenText c
    else c.toString
  "'" ++ String.join (word.toList.map shown) ++ "'"

-- =========================================================== names

/-- Whether a byte may stand between double quotes, at the beginning of
a name or behind it. -/
def isMild (atStart : Bool) (c : Char) : Bool :=
  c.isAlphanum
    || [' ', '\x27', '%', '+', ',', '-', '.', '/', ':', ']', '_',
      '@'].contains c
    || (atStart && (c = '#' || c = '~'))

/-- Whether a name may stand between double quotes. -/
def isMildName : List Char → Bool
  | [] => true
  | c :: rest => isMild true c && rest.all (isMild false)

/-- The rest of a name between quotes for a shell; whether a stretch of
numbers is open. -/
def shellTail (inNumbers : Bool) : List Char → String
  | [] => "'"
  | c :: rest =>
    if isHidden c then
      (if inNumbers then "\\" else "'$'\\") ++ hiddenText c
        ++ shellTail true rest
    else
      (if c = '\x27' then "'\\''"
        else if inNumbers then "''" ++ c.toString
        else c.toString)
        ++ shellTail false rest

/-- The name of a file in quotes.  One that has a quote in it and ends
in a number is begun as if it were behind a number; an empty pair of
quotes more changes nothing for a shell. -/
def quoteName (name : String) : String :=
  let cs := name.toList
  let hasQuote := cs.contains '\x27'
  if hasQuote && isMildName cs then "\"" ++ name ++ "\""
  else "'" ++ shellTail (hasQuote && cs.getLast?.any isHidden) cs

/-- Whether a byte may stand outside quotes, at the beginning of a name
or behind it. -/
def isPlainIn (atStart : Bool) (c : Char) : Bool :=
  c.isAlphanum
    || ['%', '+', ',', '-', '.', '/', ':', ']', '_', '@', '\x7b',
      '\x7d'].contains c
    || (!atStart && (c = '#' || c = '~'))

/-- A word as a shell would read it back, in quotes only if it needs
them. -/
def quoteForShell (word : String) : String :=
  let isPlain : Bool :=
    match word.toList with
    | [] => false
    | [c] => isPlainIn true c && c != '\x7b' && c != '\x7d'
    | c :: rest => isPlainIn true c && rest.all (isPlainIn false)
  if isPlain then word else quoteName word

/-- The name of a file in front of a colon, in quotes only if it needs
them; a colon in it would be taken for the one behind. -/
def quoteIfNeeded (name : String) : String :=
  if name.toList.contains ':' then quoteName name else quoteForShell name

end RemoteProvision.Local
