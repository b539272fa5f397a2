/-
The commands of a shell.

A script is a list of commands.  A word of a command is made of parts,
some of which are replaced when the command runs: a parameter by its
value, commands by what they print, an expression by its number.  What
replaces a part between quotes is never split into several words.

The texts of a shell are bytes.  They are kept in strings each of whose
characters stands for one byte.
-/

namespace RemoteProvision.Shell

/-- What a redirection does with its stream. -/
inductive Direction where
  | input
  | output
  /-- Like `output`, whatever protects old files. -/
  | force
  | append
  | both
  /-- Makes one stream the same as another. -/
  | same
deriving DecidableEq

/-- How the value of a parameter is used. -/
inductive Operator where
  | plain
  | length
  /-- A word for a value that is missing. -/
  | instead
  /-- The same, and the parameter gets that value. -/
  | assigned
  | complain
  /-- A word for a value that is there. -/
  | present
  | trimFront (longest : Bool)
  | trimBack (longest : Bool)
  /-- No operator that there is. -/
  | unknown
deriving DecidableEq

mutual

/-- A part of a word. -/
inductive Part where
  | text (s : String) (quoted : Bool)
  /-- A parameter, with an operator and its word; an empty value may
  count as a missing one. -/
  | parameter (name : String) (op : Operator) (emptyToo : Bool)
      (word : List Part) (quoted : Bool)
  /-- What commands print. -/
  | output (body : List Command) (quoted : Bool)
  /-- The value of an expression. -/
  | number (expression : List Part) (quoted : Bool)

/-- A redirection of a stream. -/
inductive Redirect where
  | file (stream : Nat) (direction : Direction) (target : List Part)
  /-- A text that stands in the script, known by its number. -/
  | here (stream number : Nat)

/-- A command. -/
inductive Command where
  /-- Assignments, words and redirections, on a line. -/
  | simple (line : Nat) (assignments : List (String × List Part))
      (words : List (List Part)) (redirects : List Redirect)
  | redirected (line : Nat) (command : Command)
      (redirects : List Redirect)
  | subshell (line : Nat) (body : List Command)
      (redirects : List Redirect)
  | group (body : List Command)
  | branch (condition body otherwise : List Command)
  /-- Repeats while the condition succeeds, or until it does. -/
  | loop (wanted : Bool) (condition body : List Command)
  /-- Repeats for each word. -/
  | each (line : Nat) (name : String) (words : List (List Part))
      (body : List Command)
  | choice (line : Nat) (word : List Part)
      (cases : List (List (List Part) × List Command))
  | pipeline (stages : List Command)
  | inverted (command : Command)
  | both (first second : Command)
  | either (first second : Command)
  | background (command : Command)
  | definition (name : String) (body : Command)

end

/-- Words made of parts. -/
abbrev Word := List Part

/-- Whether a part stands between quotes. -/
def Part.quoted : Part → Bool
  | .text _ q => q
  | .parameter _ _ _ _ q => q
  | .output _ q => q
  | .number _ q => q

end RemoteProvision.Shell
