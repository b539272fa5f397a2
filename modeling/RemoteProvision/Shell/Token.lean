/-
The tokens of a shell script.

A token is an operator, the end of a line, a redirection or a word; a
word without quotes can have a meaning of its own where a command could
begin.  One token can be put back and taken again, perhaps under other
rules.
-/
import RemoteProvision.Shell.Grammar

namespace RemoteProvision.Shell

-- =========================================================== types

/-- A redirection before its target is read. -/
inductive Arrow where
  | file (stream : Nat) (direction : Direction)
  | here (stream : Nat) (dropsTabs : Bool)

/-- A token. -/
inductive Token where
  | ending
  | newline
  /-- An operator or bracket. -/
  | mark (text : String)
  | arrow (a : Arrow)
  /-- A word; `bare` is its text if nothing in it is quoted. -/
  | word (parts : Word) (bare : Option String)
  /-- A word with a meaning. -/
  | keyword (name : String)

/-- How a token is shown. -/
def Token.shown : Token → String
  | .ending => "end of file"
  | .newline => "newline"
  | .mark text => "\"" ++ text ++ "\""
  | .arrow _ => "redirection"
  | .word _ _ => "word"
  | .keyword name => "\"" ++ name ++ "\""

/-- The words with a meaning. -/
def keywords : List String :=
  ["!", "case", "do", "done", "elif", "else", "esac", "fi", "for", "if",
   "in", "then", "until", "while", "\x7b", "\x7d"]

/-- The tokens that end a list of commands. -/
def Token.endsList : Token → Bool
  | .ending => true
  | .mark text => text == ")" || text == ";;"
  | .keyword name =>
    ["do", "done", "elif", "else", "esac", "fi", "then", "\x7d"].contains
      name
  | _ => false

/-- The kinds of lists of commands: one that ends with its line, one that
must not be empty, and one that may be. -/
inductive ListKind where
  | line
  | inner
  | free
deriving DecidableEq

/-- The commands whose names no function may have. -/
def specialNames : List String :=
  [".", ":", "break", "continue", "eval", "exec", "exit", "export",
   "readonly", "return", "set", "shift", "times", "trap", "unset"]

-- ========================================================== source

/-- A text in the script that is still to come. -/
structure Awaited where
  number : Nat
  /-- The line that ends it. -/
  marker : String
  dropsTabs : Bool
  /-- Whether parts of it are replaced. -/
  active : Bool

/-- The rest of a script, and what is known from before. -/
structure Source where
  rest : List Char
  line : Nat := 1
  /-- The last token, and whether it was put back. -/
  last : Token := .ending
  putBack : Bool := false
  awaited : List Awaited := []
  /-- Texts that were found, by number. -/
  texts : List (Nat × Word) := []
  nextText : Nat := 0
  aliases : List (String × String) := []
  /-- Aliases in use, each until no more than so much is left. -/
  replaced : List (String × Nat) := []

/-- Why a script cannot be read, and on which line. -/
structure Fault where
  problem : String
  line : Nat

/-- Reading that may fail. -/
abbrev Read (α : Type) := StateT Source (Except Fault) α

/-- A fault at this place. -/
def refuse {α : Type} (problem : String) : Read α := do
  throw ⟨"Syntax error: " ++ problem, (← get).line⟩

/-- The last token has no place here. -/
def unexpected {α : Type} (wanted : Option Token) : Read α := do
  let text := (← get).last.shown ++ " unexpected"
  refuse <|
    match wanted with
    | none => text
    | some t => text ++ " (expecting " ++ t.shown ++ ")"

-- ====================================================== characters

/-- Goes on by one character. -/
def skipOne : Read Unit := modify fun s =>
  match s.rest with
  | [] => s
  | c :: rest =>
    { s with
      rest := rest
      line := if c == '\n' then s.line + 1 else s.line }

/-- Goes on by some characters. -/
def skip : Nat → Read Unit
  | 0 => pure ()
  | count + 1 => do skipOne; skip count

/-- Goes behind line ends that a backslash takes away. -/
def joinLines : Nat → Read Unit
  | 0 => pure ()
  | fuel + 1 => do
    match (← get).rest with
    | '\x5c' :: '\n' :: _ => skip 2; joinLines fuel
    | _ => pure ()

/-- The next character. -/
def peek : Read (Option Char) := do
  joinLines (← get).rest.length
  return (← get).rest.head?

/-- The next character, as it stands. -/
def peekRaw : Read (Option Char) := return (← get).rest.head?

/-- Takes the next character if it is a certain one. -/
def accept (c : Char) : Read Bool := do
  if (← peek) == some c then
    skipOne
    return true
  return false

/-- The characters that end a word. -/
def endsWord (c : Char) : Bool :=
  c == ' ' || c == '\t' || c == '\n' || c == ';' || c == '&' || c == '|'
    || c == '<' || c == '>' || c == '(' || c == ')'

/-- The first characters of a name. -/
def startsName (c : Char) : Bool := c.isAlpha || c == '_'

/-- The characters of a name. -/
def isNameChar (c : Char) : Bool := c.isAlphanum || c == '_'

/-- Whether a text is a name. -/
def isName (s : String) : Bool :=
  match s.toList with
  | [] => false
  | c :: cs => startsName c && cs.all isNameChar

/-- The parameters of one character that are no names. -/
def isSpecial (c : Char) : Bool :=
  c.isDigit || ['@', '*', '#', '?', '$', '!', '-'].contains c

/-- Takes characters up to the first that fails. -/
def takeWhile (p : Char → Bool) : Nat → String → Read String
  | 0, text => return text
  | fuel + 1, text => do
    match ← peek with
    | some c => if p c then do skipOne; takeWhile p fuel (text.push c)
                else return text
    | none => return text

/-- How much is left. -/
def left : Read Nat := return (← get).rest.length + 1

end RemoteProvision.Shell
