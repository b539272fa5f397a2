/-
The state of a running shell.

A shell is a program of its own process: it keeps variables, parameters,
functions and options, and asks the system for everything else.  What its
own commands print is held back until the command is over.

A shell stops what it is doing for one of three reasons: it said what is
wrong, it was told to exit, or its last command has run.
-/
import RemoteProvision.Kernel.Course
import RemoteProvision.Shell.Fields
import RemoteProvision.Shell.Token
import RemoteProvision.Text.Packed

namespace RemoteProvision.Shell

open RemoteProvision.Kernel (Act Call)
open RemoteProvision.Local (Ending)

-- =========================================================== types

/-- A variable, which may be marked before it has a value. -/
structure Variable where
  value : Option String := none
  exported : Bool := false
  readOnly : Bool := false

/-- A job: its number, its processes and how they ended. -/
structure Job where
  number : Nat
  members : List (Nat × Option Ending)
  /-- Whether somebody has waited for it. -/
  waited : Bool := false

/-- What a shell leaves out on its way. -/
inductive Skip where
  | nothing
  /-- So many loops end. -/
  | loops (count : Nat)
  /-- So many loops, the last of which goes on with its next round. -/
  | rounds (count : Nat)
  /-- A function or file ends, with a status of its own if asked. -/
  | body (withStatus : Bool)
deriving DecidableEq

/-- Why a shell stops what it is doing. -/
inductive Stop where
  /-- Something is wrong, and it has been said. -/
  | fault
  /-- It was told to exit. -/
  | exit
  /-- Its last command has run. -/
  | finished
deriving DecidableEq

/-- A running shell. -/
structure State where
  /-- The name of the shell or of its script. -/
  name : String
  /-- The command in whose name faults are reported. -/
  speaker : Option String := none
  line : Nat := 1
  /-- The line up to which the script has been read. -/
  reached : Nat := 1
  parameters : List String := []
  bindings : List (String × Variable) := []
  /-- What the variables of each function that runs were before. -/
  hidden : List (List (String × Option Variable)) := []
  functions : List (String × Command) := []
  aliases : List (String × String) := []
  /-- The texts that stand in the script, by number. -/
  texts : List (Nat × Word) := []
  nextText : Nat := 0
  status : Nat := 0
  /-- The status of the last output that was used in a command. -/
  outputStatus : Nat := 0
  /-- The status to exit with, or that of before a trap. -/
  savedStatus : Option Nat := none
  /-- The letters of the options that are set. -/
  options : List Char := []
  /-- What to do on a signal, or when the shell exits. -/
  traps : List (Nat × String) := []
  /-- Signals that were caught and not yet acted on. -/
  pending : List Nat := []
  /-- The jobs in the background, the oldest first. -/
  jobs : List Job := []
  lastChild : Option Nat := none
  /-- The process of the shell that others were split from. -/
  mainProcess : Nat := 0
  /-- Whether it was split from another shell. -/
  isChild : Bool := false
  loops : Nat := 0
  skip : Skip := .nothing
  /-- What its own commands printed, the last first. -/
  held : List String := []
  /-- Whether printing failed. -/
  unprinted : Bool := false
  /-- For each command that runs, the streams that it replaced, and
  where they are kept if they were open. -/
  kept : List (List (Nat × Option Nat)) := []
  /-- A number that no stream has. -/
  freeStream : Nat := 10
  /-- The word behind the last option that was taken, and where the
  letters of that one are read on; zero if it has no more. -/
  nextOption : Nat := 1
  letter : Nat := 0
  mask : Nat := 0o22

/-- What a shell does. -/
abbrev Sh (α : Type) := ExceptT Stop (Act State) α

instance {σ : Type} : MonadStateOf σ (Act σ) where
  get := Act.state
  set s := Act.update fun _ => s
  modifyGet f := fun s rest => rest (f s).1 (f s).2

/-- Asks the system. -/
def request (call : Call) : Sh call.Answer :=
  ExceptT.lift (Act.ask call)

-- ======================================================== printing

/-- Prints on a stream at once; says whether that worked. -/
def write (stream : Nat) (text : String) : Sh Bool := do
  match ← request (.write stream (Text.unpack text)) with
  | .ok _ => return true
  | .error _ => return false

/-- Prints as the output of a command of the shell. -/
def out (text : String) : Sh Unit :=
  modify fun s => { s with held := text :: s.held }

/-- Prints what was held back. -/
def flush : Sh Unit := do
  let s ← get
  if !s.held.isEmpty then
    set { s with held := [] }
    if !(← write 1 (String.join s.held.reverse)) then
      modify fun s => { s with unprinted := true }

/-- Says something in the name of the shell. -/
def warn (text : String) : Sh Unit := do
  let s ← get
  let speaker :=
    match s.speaker with
    | none => ""
    | some name => name ++ ": "
  let _ ← write 2
    (s.name ++ ": " ++ toString s.line ++ ": " ++ speaker ++ text ++ "\n")

/-- Says what is wrong and stops. -/
def faultWith {α : Type} (status : Nat) (text : String) : Sh α := do
  warn text
  modify fun s => { s with status := status }
  flush
  throw .fault

/-- Says what is wrong and stops. -/
def fault {α : Type} (text : String) : Sh α := faultWith 2 text

-- ======================================================= variables

/-- The value of a variable. -/
def State.binding? (s : State) (name : String) : Option String :=
  (s.bindings.lookup name).bind (·.value)

/-- The variables that programs see. -/
def State.environment (s : State) : List (String × String) :=
  s.bindings.filterMap fun b =>
    match b.2.exported, b.2.value with
    | true, some value => some (b.1, value)
    | _, _ => none

/-- A table with a value set. -/
def setEntry {α : Type} (name : String) (value : α) :
    List (String × α) → List (String × α)
  | [] => [(name, value)]
  | (n, v) :: rest =>
    if n = name then (name, value) :: rest
    else (n, v) :: setEntry name value rest

/-- Changes a variable. -/
def modifyVariable (name : String) (change : Variable → Variable) :
    Sh Unit :=
  modify fun s =>
    let old := (s.bindings.lookup name).getD {}
    { s with bindings := setEntry name (change old) s.bindings }

/-- Sets a variable; with option `a` programs see it. -/
def assign (name value : String) : Sh Unit := do
  let s ← get
  if (s.bindings.lookup name).any (·.readOnly) then
    fault (name ++ ": is read only")
  if name == "OPTIND" then
    modify fun s =>
      { s with nextOption := value.toNat?.getD 1, letter := 0 }
  modifyVariable name fun v =>
    { v with
      value := some value
      exported := v.exported || s.options.contains 'a' }

/-- Makes a variable local to the function that runs, or to one
command. -/
def hide (name : String) : Sh Unit :=
  modify fun s =>
    match s.hidden with
    | [] => s
    | top :: more =>
      if (top.lookup name).isSome then s
      else
        { s with
          hidden := ((name, s.bindings.lookup name) :: top) :: more }

/-- Brings back the variables of before. -/
def reveal : Sh Unit :=
  modify fun s =>
    match s.hidden with
    | [] => s
    | top :: more =>
      { s with
        hidden := more
        bindings := top.foldl
          (fun bindings v =>
            match v.2 with
            | some old => setEntry v.1 old bindings
            | none => bindings.filter (·.1 != v.1))
          s.bindings }

/-- The separators of fields. -/
def State.separators (s : State) : List Char :=
  match s.binding? "IFS" with
  | some text => text.toList
  | none => usualSeparators

/-- The order in which options are shown. -/
def optionOrder : List Char :=
  ['u', 'b', 'a', 'C', 'E', 'V', 'v', 'x', 's', 'n', 'm', 'i', 'I', 'f',
   'e']

/-- Whether an option is set. -/
def State.has (s : State) (option : Char) : Bool :=
  s.options.contains option

/-- The value of a parameter or variable. -/
def State.value? (s : State) (name : String) : Option String :=
  match name with
  | "#" => some (toString s.parameters.length)
  | "?" => some (toString s.status)
  | "$" => some (toString s.mainProcess)
  | "!" => s.lastChild.map toString
  | "-" => some (String.ofList (optionOrder.filter s.has))
  | "0" => some s.name
  | _ =>
    match name.toList.head? with
    | some c =>
      if c.isDigit then
        match name.toNat? with
        | some 0 => some s.name
        | some (n + 1) => s.parameters[n]?
        | none => none
      else s.binding? name
    | none => none

-- ========================================================= numbers

/-- The largest whole number that a word may be. -/
def wordLimit : Nat := 0x7FFFFFFF

/-- The whole number, not negative, that a word must be. -/
def number (word : String) : Sh Nat := do
  let cs := word.toList.dropWhile (· == ' ')
  let digits :=
    match cs with
    | '+' :: rest => rest
    | _ => cs
  match (String.ofList digits).toNat? with
  | some n =>
    if digits.all Char.isDigit && n ≤ wordLimit then return n
    fault ("Illegal number: " ++ word)
  | none => fault ("Illegal number: " ++ word)

-- ========================================================= signals

/-- How long the shell itself takes for a command, in microseconds. -/
def commandCost : Nat := 10

/-- Learns which signals were caught meanwhile. -/
def poll (cost : Nat) : Sh Unit := do
  let caught ← request (.pause cost)
  if !caught.isEmpty then
    modify fun s => { s with pending := s.pending ++ caught }

/-- Whether there is something to do on a signal or at the exit. -/
def State.hasTraps (s : State) : Bool :=
  s.traps.any (!·.2.isEmpty)

-- ========================================================= streams

/-- A stream number that nothing else has. -/
def newStream : Sh Nat := do
  let n := (← get).freeStream
  modify fun s => { s with freeStream := n + 1 }
  return n

end RemoteProvision.Shell
