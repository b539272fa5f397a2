/-
Positions in a YAML text.

A cursor is the rest of a text together with where it begins: how many
bytes, lines and columns lie before it.  Five characters end a
line; a carriage return and a line feed together end one line.  A line
end counts as a line feed when it is part of a value, except for the two
separators that Unicode has for lines and paragraphs, which stay.

Whatever is wrong with a text is a fault with a position.
-/
import RemoteProvision.Text.Blank
import RemoteProvision.Text.Utf8

namespace RemoteProvision.Yaml

-- ========================================================== faults

/-- What is wrong, and where, counted from one. -/
structure Fault where
  problem : String
  line : Nat
  column : Nat
deriving DecidableEq

/-- The text of a fault. -/
def Fault.message (f : Fault) : String :=
  f.problem ++ " at line " ++ toString f.line ++ " column "
    ++ toString f.column

-- ====================================================== characters

/-- The characters that end a line. -/
def isBreak (c : Char) : Bool :=
  c == '\n' || c == '\r' || c == '\u0085' || c == '\u2028'
    || c == '\u2029'

/-- Spaces and tabs. -/
def isGap (c : Char) : Bool := c == ' ' || c == '\t'

/-- Letters and digits of ASCII, `_` and `-`. -/
def isWordChar (c : Char) : Bool := c.isAlphanum || c == '_' || c == '-'

/-- Whether a line ends here. -/
def endsLine : Option Char → Bool
  | none => true
  | some c => isBreak c

/-- Whether a word ends here. -/
def endsWord : Option Char → Bool
  | none => true
  | some c => isGap c || isBreak c

/-- The characters that a text may hold. -/
def isAllowed (c : Char) : Bool :=
  let n := c.toNat
  n == 0x09 || n == 0x0A || n == 0x0D || (0x20 ≤ n && n ≤ 0x7E)
    || n == 0x85 || (0xA0 ≤ n && n ≤ 0xD7FF)
    || (0xE000 ≤ n && n ≤ 0xFFFD) || 0x10000 ≤ n

-- ========================================================== cursor

/-- The rest of a text, and where it begins; the index counts bytes, the
column counts characters. -/
structure Cursor where
  rest : List Char
  index : Nat
  line : Nat
  column : Nat

namespace Cursor

/-- The beginning of a text. -/
def start (text : String) : Cursor := ⟨text.toList, 0, 0, 0⟩

/-- The next character. -/
def here (c : Cursor) : Option Char := c.rest.head?

/-- The character `n` places ahead. -/
def ahead (c : Cursor) (n : Nat) : Option Char := c.rest[n]?

/-- Whether a character is next. -/
def sees (c : Cursor) (ch : Char) : Bool := c.here == some ch

/-- Goes on by some characters of one line. -/
def skip (c : Cursor) (n : Nat) : Cursor :=
  ⟨c.rest.drop n, c.index + Text.width (c.rest.take n), c.line,
    c.column + n⟩

/-- Goes on by one character if it is next. -/
def skipIf (c : Cursor) (ch : Char) : Cursor :=
  if c.sees ch then c.skip 1 else c

/-- Takes the characters of one line up to the first that fails. -/
def span (c : Cursor) (p : Char → Bool) : List Char × Cursor :=
  let taken := c.rest.takeWhile p
  (taken, c.skip taken.length)

/-- Goes behind the characters up to the first that fails. -/
def skipWhile (c : Cursor) (p : Char → Bool) : Cursor :=
  (c.span p).2

/-- Takes a line end, as it counts in a value. -/
def takeBreak (c : Cursor) : List Char × Cursor :=
  match c.rest with
  | '\r' :: '\n' :: rest => (['\n'], ⟨rest, c.index + 2, c.line + 1, 0⟩)
  | ch :: rest =>
    let kept := ch == '\u2028' || ch == '\u2029'
    if isBreak ch then
      ([if kept then ch else '\n'],
        ⟨rest, c.index + ch.utf8Size, c.line + 1, 0⟩)
    else ([], c)
  | [] => ([], c)

/-- Goes behind a line end. -/
def skipBreak (c : Cursor) : Cursor := c.takeBreak.2

/-- Goes to the end of the line behind a comment. -/
def skipComment (c : Cursor) : Cursor :=
  if c.sees '#' then c.skipWhile fun ch => !isBreak ch else c

/-- Whether a marker of three characters stands alone at the beginning of
this line. -/
def seesMarker (c : Cursor) (ch : Char) : Bool :=
  c.column == 0 && c.ahead 0 == some ch && c.ahead 1 == some ch
    && c.ahead 2 == some ch && endsWord (c.ahead 3)

/-- Whether the marker of a document's start or end stands here. -/
def seesDocumentMarker (c : Cursor) : Bool :=
  c.seesMarker '-' || c.seesMarker '.'

/-- A fault at this place. -/
def fault {α : Type} (c : Cursor) (problem : String) :
    Except Fault α :=
  .error ⟨problem, c.line + 1, c.column + 1⟩

end Cursor

end RemoteProvision.Yaml
