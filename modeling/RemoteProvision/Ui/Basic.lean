/-
What the user is told.

The program tells the user three kinds of things: how far it has come,
what a remote command printed, and errors.  An entry is one such thing.
The console shows progress and output on the standard output and errors
on the standard error stream, each kind with its own mark in front.
-/

namespace RemoteProvision.Ui

-- =========================================================== types

/-- The kinds of things the user is told. -/
inductive Kind where
  /-- How far the program has come. -/
  | say
  /-- A line that a remote command printed. -/
  | message
  | error
deriving DecidableEq

/-- One thing the user is told. -/
structure Entry where
  kind : Kind
  text : String
deriving DecidableEq

/-- The texts of one kind, in order. -/
def ofKind (kind : Kind) (entries : List Entry) : List String :=
  (entries.filter (·.kind = kind)).map (·.text)

-- ========================================================= console

/-- An entry on the console. -/
def Entry.console (entry : Entry) : String :=
  match entry.kind with
  | .say => "==> " ++ entry.text ++ "\n"
  | .message => "    " ++ entry.text ++ "\n"
  | .error => "==> " ++ entry.text ++ "\n"

/-- What the console shows on the standard output. -/
def consoleOut (entries : List Entry) : String :=
  String.join ((entries.filter (·.kind ≠ .error)).map Entry.console)

/-- What the console shows on the standard error stream. -/
def consoleErr (entries : List Entry) : String :=
  String.join ((entries.filter (·.kind = .error)).map Entry.console)

end RemoteProvision.Ui
