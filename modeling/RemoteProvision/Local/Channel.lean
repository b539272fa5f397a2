/-
The channel to the local machine.

The machine that the program runs on is taken for the remote one.  An
upload writes a file, after making the folders above it; starting a
command splits it into words and runs a program.  References to
environment variables are expanded here, in paths and in each word after
the split, since no shell stands between.

A process has no input.  What it prints is passed on line by line when
it is waited for, first all of the standard output and then all of the
standard error stream.  Waiting lasts until the process has ended and
nobody can print on its streams any more, and meanwhile all processes
run; at other times nothing does.
-/
import RemoteProvision.Channel.Basic
import RemoteProvision.Kernel.Running
import RemoteProvision.Local.EnvRef
import RemoteProvision.Local.Words
import RemoteProvision.Shell.Running
import RemoteProvision.Text.Lines

namespace RemoteProvision.Local

open RemoteProvision.Kernel (System)
open RemoteProvision.Text (Bytes)

/-- The environment of the machine. -/
abbrev Environment := List (String × String)

/-- The value of a variable. -/
def valueIn (env : Environment) : Lookup := fun name => env.lookup name

-- ========================================================== upload

/-- Writes a source to a file. -/
def upload (env : Environment) (system : System) (disk : Disk)
    (path : String) (source : Source) : Uploaded System :=
  let target := expandRefs (valueIn env) path
  match disk.makeParents target with
  | (.error fault, disk) => ⟨.error (.io fault), 0, system, disk⟩
  | (.ok _, disk) =>
    match disk.startFile target with
    | .error fault => ⟨.error (.io fault), 0, system, disk⟩
    | .ok (place, disk) =>
      match source.read disk with
      | .error fault => ⟨.error (.io fault), 0, system, disk⟩
      | .ok content =>
        ⟨.ok (), content.length, system, disk.appendAt place content⟩

-- =========================================================== start

/-- Why a command cannot be started. -/
inductive StartFault where
  | openQuote (command : String)
  | noWords
  | notStarted (program : String) (fault : IoFault)

/-- The text of a fault. -/
def StartFault.message : StartFault → String
  | .openQuote command =>
    "failed to parse command '" ++ command ++ "': missing closing quote"
  | .noWords => "command is empty"
  | .notStarted program fault =>
    "failed to execute '" ++ program ++ "': " ++ fault.message

/-- The words of a command, with references expanded. -/
def commandWords (env : Environment) (command : String) :
    Except StartFault (String × List String) :=
  match splitWords command with
  | none => .error (.openQuote command)
  | some [] => .error .noWords
  | some (program :: arguments) =>
    let expand := expandRefs (valueIn env)
    .ok (expand program, arguments.map expand)

/-- Whether a word can be handed to the system. -/
def hasNul (word : String) : Bool := word.toList.contains '\x00'

/-- The program that a command names. -/
def commandProgram (env : Environment) (disk : Disk)
    (program : String) (arguments : List String) :
    Except StartFault Program :=
  if (program :: arguments).any hasNul then
    .error (.notStarted program .nulInArgument)
  else
    (findProgram disk (env.lookup "PATH") program).mapError
      (.notStarted program)

/-- Starts a command. -/
def start (env : Environment) (system : System) (disk : Disk)
    (command : String) : Started System Kernel.Started :=
  let found := do
    let (program, arguments) ← commandWords env command
    return (← commandProgram env disk program arguments, program, arguments)
  match found with
  | .error fault => ⟨.error (.remote fault.message), system, disk⟩
  | .ok (program, name, arguments) =>
    let course := Shell.course program (Text.packText name)
      (arguments.map Text.packText)
      (env.map fun v => (Text.packText v.1, Text.packText v.2))
    let (process, system) := system.start disk.home course
    ⟨.ok process, system, disk⟩

-- ============================================================ wait

/-- What a process printed, line by line. -/
def printed (out err : Bytes) : List Ui.Entry :=
  (Text.lossyLines out).map (Ui.Entry.mk .message)
    ++ (Text.lossyLines err).map (Ui.Entry.mk .error)

/-- The exit code of a process, unless a signal killed it. -/
def exitCode : Ending → Except ChannelFault Int
  | .exited code => .ok code
  | .killed signal =>
    .error (.remote ("process terminated without exit code ("
      ++ signalText signal ++ ")"))

/-- Waits for a process. -/
def wait (system : System) (disk : Disk) (process : Kernel.Started) :
    Waited System :=
  let (done, system, disk) := system.collect disk process
  ⟨exitCode done.ending, printed done.out done.err, system, disk⟩

/-- The channel to the local machine. -/
def channel (env : Environment) : Channel System Kernel.Started where
  upload system disk path source _ := upload env system disk path source
  start := start env
  wait := wait

end RemoteProvision.Local
