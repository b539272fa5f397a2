/-
Arguments of the program.

An argument is a divider `--`, a long option with perhaps a value behind
`=`, a row of option letters behind one dash, or plain text.  A single
dash is plain text.

Options are switches, which are there or not, and settings, which carry a
value.  The switches for help, version and diagnostics are known
everywhere; the others belong to the verbs that heed them.
-/

namespace RemoteProvision.Cli

-- ============================================================ words

/-- What an argument looks like. -/
inductive Word where
  | divider
  | long (name : String) (value : Option String)
  | letters (letters : List Char)
  | plain
deriving DecidableEq

/-- Characters up to the first `=`, and those behind it. -/
def cutAtEquals : List Char → List Char × Option (List Char)
  | [] => ([], none)
  | c :: rest =>
    if c = '=' then ([], some rest)
    else
      let (front, behind) := cutAtEquals rest
      (c :: front, behind)

/-- What an argument looks like. -/
def Word.ofText (text : String) : Word :=
  match text.toList with
  | ['-', '-'] => .divider
  | '-' :: '-' :: rest =>
    let (name, value) := cutAtEquals rest
    .long (String.ofList name) (value.map String.ofList)
  | '-' :: c :: rest => .letters (c :: rest)
  | _ => .plain

-- ============================================================ verbs

/-- What the program can be asked for. -/
inductive Verb where
  | validate
  | render
  | run
  | decode
deriving DecidableEq

namespace Verb

/-- The word for a verb. -/
def word : Verb → String
  | validate => "validate"
  | render => "render"
  | run => "run"
  | decode => "decode"

/-- All verbs. -/
def all : List Verb := [validate, render, run, decode]

/-- The verb of a word. -/
def ofWord? (word : String) : Option Verb :=
  all.find? fun v => v.word == word

/-- Whether the operand of a verb is the path of a file. -/
def takesPath : Verb → Bool
  | decode => false
  | _ => true

end Verb

/-- The word that asks for help. -/
def helpWord : String := "help"

/-- Whether a word stands in the place of a verb. -/
def isVerbWord (word : String) : Bool :=
  word == helpWord || (Verb.ofWord? word).isSome

-- ========================================================== options

/-- Options without a value. -/
inductive Switch where
  | verbose
  | help
  | version
  | machineReadable
deriving DecidableEq

/-- Options with a value. -/
inductive Setting where
  | httpAddr
  | retryDelay
deriving DecidableEq

/-- An option. -/
inductive Named where
  | switch (switch : Switch)
  | setting (setting : Setting)
deriving DecidableEq

/-- Whether a verb heeds an option; `none` stands before any verb. -/
def Named.heededBy : Named → Option Verb → Bool
  | .switch .machineReadable, verb => verb == some .run
  | .switch _, _ => true
  | .setting .httpAddr, verb => verb == some .render || verb == some .run
  | .setting .retryDelay, verb => verb == some .run

/-- The long names of options. -/
def longNames : List (String × Named) :=
  [("verbose", .switch .verbose),
   ("help", .switch .help),
   ("version", .switch .version),
   ("machine-readable", .switch .machineReadable),
   ("http-addr", .setting .httpAddr),
   ("retry-delay-ms", .setting .retryDelay)]

/-- The option of a long name, if the verb heeds it. -/
def named? (verb : Option Verb) (name : String) : Option Named :=
  (longNames.lookup name).filter fun n => n.heededBy verb

/-- The switch of a letter. -/
def switch? (letter : Char) : Option Switch :=
  match letter with
  | 'v' => some .verbose
  | 'h' => some .help
  | 'V' => some .version
  | _ => none

end RemoteProvision.Cli
