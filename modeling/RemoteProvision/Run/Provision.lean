/-
Provisioning.

A run takes the scripts of its settings one after the other: the script
files, and behind them one file staged from the inline commands.  Each
script is opened, its command line is rendered once, and then upload and
start are tried together within a window that opens for this script.
Every attempt offers the script from its first byte.  When the command
has started, the run waits for it and looks at its exit code.

The first failure ends the run.  Failed uploads are not reported on the
way; of failed starts the first one of each script is.  However the run
ends, the staged file is taken away.
-/
import RemoteProvision.Disk.Staging
import RemoteProvision.Run.Command
import RemoteProvision.Run.Plan

namespace RemoteProvision.Run

variable {σ τ π : Type}

-- =========================================================== types

/-- How a run, or a part of it, ends. -/
inductive Verdict where
  | done
  | failed (error : ProvisionError)
  /-- A script was tried as often as was looked at. -/
  | undecided

-- ========================================================= scripts

/-- What is staged for inline commands: each with a line feed. -/
def inlineChunks (commands : List String) : List Text.Bytes :=
  commands.flatMap fun c => [Text.toBytes c, [10]]

/-- The scripts of one run, and the file that was staged for it. -/
structure Scripts where
  paths : List String
  staged : Option Disk.Staged

/-- Collects the scripts of some settings. -/
def collect (settings : Settings) (disk : Disk) :
    Except ProvisionError (Scripts × Disk) :=
  if settings.inlineCommands = [] then
    .ok (⟨settings.scripts, none⟩, disk)
  else
    match disk.stage (inlineChunks settings.inlineCommands) with
    | .error reason => .error (.inlineScript reason)
    | .ok (staged, disk') =>
      .ok (⟨settings.scripts ++ [staged.path], some staged⟩, disk')

/-- Takes away what was staged. -/
def Scripts.discard (scripts : Scripts) (disk : Disk) : Disk :=
  match scripts.staged with
  | none => disk
  | some staged => disk.unstage staged

-- ======================================================== attempts

/-- What the attempts of one script share: whether a failed start was
reported, and how far the script was read. -/
structure Attempting (σ τ : Type) where
  state : State σ τ
  reported : Bool
  offset : Nat

/-- What is reported of a failed start. -/
def startFailure (timeout : Duration) (fault : ChannelFault) : String :=
  "Failed to start remote command, retrying for up to "
    ++ toString timeout.seconds ++ "s: " ++ fault.message

/-- Uploads a script from its first byte and starts its command. -/
def attempt (ch : Channel σ π) (settings : Settings) (place : Place)
    (command : String) (a : Attempting σ τ) :
    Except ProvisionError π × Attempting σ τ :=
  let a := { a with offset := 0 }
  match a.state.upload ch settings.remotePath
      (.file place a.offset) settings.binary with
  | ((.error fault, taken), s) =>
    (.error (.upload settings.remotePath fault),
      { a with state := s, offset := a.offset + taken })
  | ((.ok (), taken), s) =>
    let a := { a with state := s, offset := a.offset + taken }
    match a.state.start ch command with
    | (.ok process, s) => (.ok process, { a with state := s })
    | (.error fault, s) =>
      if a.reported then (.error (.start fault), { a with state := s })
      else
        (.error (.start fault),
          { a with
            reported := true
            state :=
              s.complain
                (startFailure settings.startRetryTimeout fault) })

/-- The clock of a run, for its attempts. -/
def Clock.attempting (clock : Clock τ) : Timed (Attempting σ τ) where
  read a :=
    let (now, s) := clock.timed.read a.state
    (now, { a with state := s })
  pause span a := { a with state := clock.timed.pause span a.state }

/-- Tries upload and start until the window closes. -/
def launch (ch : Channel σ π) (clock : Clock τ) (limit : Nat)
    (plan : Plan) (place : Place) (command : String)
    (s : State σ τ) : Tried π × State σ τ :=
  let (tried, a) := plan.window.run clock.attempting
    (attempt ch plan.settings place command) limit ⟨s, false, 0⟩
  (tried, a.state)

-- ====================================================== one script

/-- Waits for a process and looks at its exit code. -/
def finish (ch : Channel σ π) (settings : Settings) (process : π)
    (s : State σ τ) : Verdict × State σ τ :=
  match s.wait ch process with
  | (.error fault, s) => (.failed (.wait fault), s)
  | (.ok code, s) =>
    if settings.allows code then (.done, s)
    else (.failed (.nonZeroExit code settings.validExitCodes), s)

/-- Runs one script. -/
def runScript (ch : Channel σ π) (clock : Clock τ) (limit : Nat)
    (plan : Plan) (path : String) (s : State σ τ) :
    Verdict × State σ τ :=
  match s.disk.openAt path with
  | .error fault => (.failed (.scriptOpen path fault), s)
  | .ok place =>
    match renderCommand ch plan.settings s with
    | (.error e, s) => (.failed e, s)
    | (.ok command, s) =>
      match launch ch clock limit plan place command s with
      | (.undecided, s) => (.undecided, s)
      | (.gaveUp e, s) => (.failed e, s)
      | (.succeeded process, s) => finish ch plan.settings process s

-- ===================================================== all scripts

/-- What the user is told before a script. -/
def scriptLine (path : String) : String :=
  "Provisioning with powershell script: " ++ path

/-- Runs scripts up to the first that fails. -/
def runScripts (ch : Channel σ π) (clock : Clock τ) (limit : Nat)
    (plan : Plan) : List String → State σ τ → Verdict × State σ τ
  | [], s => (.done, s)
  | path :: rest, s =>
    match runScript ch clock limit plan path (s.say (scriptLine path)) with
    | (.done, s) => runScripts ch clock limit plan rest s
    | (verdict, s) => (verdict, s)

/-- What the user is told first. -/
def openingLine : String := "Provisioning with Powershell..."

/-- Runs all scripts of a plan. -/
def provision (ch : Channel σ π) (clock : Clock τ) (limit : Nat)
    (plan : Plan) (s : State σ τ) : Verdict × State σ τ :=
  let s := s.say openingLine
  match collect plan.settings s.disk with
  | .error e => (.failed e, s)
  | .ok (scripts, disk) =>
    let (verdict, s) := runScripts ch clock limit plan scripts.paths
      { s with disk := disk }
    (verdict, { s with disk := scripts.discard s.disk })

end RemoteProvision.Run
