/-
The recording channel.

A channel for dry runs and tests.  It keeps what is uploaded and started
and never leaves the memory.  Uploads and starts succeed unless they are
scripted to be rejected; a script is a list of outcomes, of which the
last one stays in force.  Commands end with scripted exit codes, bound
when they start, and with 0 when there are no more.

Every accepted or rejected call is one event, in the order of the calls.
An upload whose source cannot be read is no call: it leaves no event and
uses up no outcome.
-/
import RemoteProvision.Channel.Basic

namespace RemoteProvision

-- ========================================================== events

/-- Something that happened on a recording channel. -/
inductive Recorded where
  | upload (path content : String)
  | uploadRejected (path : String)
  | start (command : String)
  | startRejected (command : String)
  | exited (command : String) (code : Int)
deriving DecidableEq

/-- Whether a scripted call succeeds. -/
inductive Outcome where
  | reject
  | accept
deriving DecidableEq

/-- The state of a recording channel. -/
structure Recording where
  events : List Recorded := []
  uploadOutcomes : List Outcome := []
  startOutcomes : List Outcome := []
  rejectsAllStarts : Bool := false
  exitCodes : List Int := []
  output : List String := []
deriving DecidableEq

namespace Recording

-- ======================================================= scripting

/-- Rejects some calls and then accepts. -/
def thenAccept (count : Nat) : List Outcome :=
  List.replicate count .reject ++ [.accept]

/-- Rejects the next `count` uploads. -/
def rejectUploads (r : Recording) (count : Nat) : Recording :=
  { r with uploadOutcomes := r.uploadOutcomes ++ thenAccept count }

/-- Rejects the next `count` starts. -/
def rejectStarts (r : Recording) (count : Nat) : Recording :=
  { r with startOutcomes := r.startOutcomes ++ thenAccept count }

/-- Rejects every start. -/
def rejectAllStarts (r : Recording) : Recording :=
  { r with rejectsAllStarts := true }

/-- Gives the next commands these exit codes. -/
def exitWith (r : Recording) (codes : List Int) : Recording :=
  { r with exitCodes := r.exitCodes ++ codes }

/-- Makes every command print these lines. -/
def printing (r : Recording) (lines : List String) : Recording :=
  { r with output := lines }

-- =========================================================== views

/-- The paths of accepted uploads. -/
def uploadedPaths (r : Recording) : List String :=
  r.events.filterMap fun
    | .upload path _ => some path
    | _ => none

/-- The content of the last accepted upload to a path. -/
def uploadedContent (r : Recording) (path : String) : Option String :=
  r.events.reverse.findSome? fun
    | .upload p content => if p = path then some content else none
    | _ => none

/-- The commands that were started. -/
def startedCommands (r : Recording) : List String :=
  r.events.filterMap fun
    | .start command => some command
    | _ => none

/-- How many uploads were made, accepted or not. -/
def uploadCount (r : Recording) : Nat :=
  r.events.countP fun
    | .upload _ _ | .uploadRejected _ => true
    | _ => false

/-- How many starts were made, accepted or not. -/
def startCount (r : Recording) : Nat :=
  r.events.countP fun
    | .start _ | .startRejected _ => true
    | _ => false

-- =========================================================== calls

/-- The next outcome of a script, and the script behind it. -/
def nextOutcome : List Outcome → Outcome × List Outcome
  | [] => (.accept, [])
  | [last] => (last, [last])
  | next :: rest => (next, rest)

/-- One more event. -/
def record (r : Recording) (event : Recorded) : Recording :=
  { r with events := r.events ++ [event] }

/-- Uploads a source. -/
def upload (r : Recording) (disk : Disk) (path : String)
    (source : Source) : Uploaded Recording :=
  match source.read disk with
  | .error fault => ⟨.error (.io fault), 0, r, disk⟩
  | .ok content =>
    let (outcome, rest) := nextOutcome r.uploadOutcomes
    let r' := { r with uploadOutcomes := rest }
    match outcome with
    | .reject =>
      ⟨.error (.remote ("upload of '" ++ path ++ "' rejected")),
        content.length, r'.record (.uploadRejected path), disk⟩
    | .accept =>
      ⟨.ok (), content.length,
        r'.record (.upload path (Text.ofBytesLossy content)), disk⟩

/-- A command that was started: what it prints and how it ends. -/
structure Process where
  command : String
  code : Int
  output : List String
deriving DecidableEq

/-- The outcome of the next start, and the script behind it. -/
def startOutcome (r : Recording) : Outcome × List Outcome :=
  if r.rejectsAllStarts then (.reject, r.startOutcomes)
  else nextOutcome r.startOutcomes

/-- Starts a command. -/
def start (r : Recording) (disk : Disk) (command : String) :
    Started Recording Process :=
  let (outcome, rest) := r.startOutcome
  let r' := { r with startOutcomes := rest }
  match outcome with
  | .reject =>
    ⟨.error (.remote "connection refused: machine is restarting"),
      r'.record (.startRejected command), disk⟩
  | .accept =>
    ⟨.ok ⟨command, r.exitCodes.head?.getD 0, r.output⟩,
      { r' with exitCodes := r.exitCodes.tail }.record (.start command),
      disk⟩

/-- Waits for a command. -/
def wait (r : Recording) (disk : Disk) (p : Process) :
    Waited Recording :=
  ⟨.ok p.code, p.output.map (Ui.Entry.mk .message),
    r.record (.exited p.command p.code), disk⟩

/-- The recording channel. -/
def channel : Channel Recording Process where
  upload r disk path source _ := r.upload disk path source
  start r disk command := r.start disk command
  wait r disk p := r.wait disk p

end Recording

end RemoteProvision
