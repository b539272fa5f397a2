/-
A recording channel as it is seen from outside.

A recording channel is scripted by cues, and then it is used: files are
uploaded, commands started and waited for, in any order.  Inside it works
with queues, of which the last outcome stays.  From outside nothing of
that is seen.  What was scripted can be read off the cues as three lists,
and every call is answered from its number alone (`answer`): an upload
from how many before it could be read, a start from how many were tried,
a process from how many were started.
-/
import RemoteProvision.Channel.Recording

namespace RemoteProvision.Recording

open RemoteProvision.Text (Bytes)

-- ============================================================== cues

/-- One cue for a recording channel. -/
inductive Cue where
  | rejectUploads (count : Nat)
  | rejectStarts (count : Nat)
  | rejectAllStarts
  | exitWith (codes : List Int)
  | printing (lines : List String)

def Cue.give (r : Recording) : Cue → Recording
  | .rejectUploads count => r.rejectUploads count
  | .rejectStarts count => r.rejectStarts count
  | .rejectAllStarts => r.rejectAllStarts
  | .exitWith codes => r.exitWith codes
  | .printing lines => r.printing lines

/-- A fresh channel that was given some cues. -/
def scripted (cues : List Cue) : Recording :=
  cues.foldl Cue.give {}

/-- The outcomes of uploads: for each of their cues so many rejections
and one acceptance. -/
def uploadScript (cues : List Cue) : List Outcome :=
  cues.flatMap fun
    | .rejectUploads count => List.replicate count .reject ++ [.accept]
    | _ => []

/-- The outcomes of starts. -/
def startScript (cues : List Cue) : List Outcome :=
  cues.flatMap fun
    | .rejectStarts count => List.replicate count .reject ++ [.accept]
    | _ => []

/-- Whether a cue rejects all starts. -/
def rejectsAll (cues : List Cue) : Bool :=
  cues.any fun
    | .rejectAllStarts => true
    | _ => false

/-- The exit codes of processes. -/
def exitScript (cues : List Cue) : List Int :=
  cues.flatMap fun
    | .exitWith codes => codes
    | _ => []

/-- What every process prints: the lines of the last cue for it. -/
def printedLines (cues : List Cue) : List String :=
  (cues.filterMap fun
    | .printing lines => some lines
    | _ => none).getLast?.getD []

/-- A process by its number among those that are started. -/
def processAt (cues : List Cue) (number : Nat) (command : String) :
    Process :=
  ⟨command, (exitScript cues)[number]?.getD 0, printedLines cues⟩

-- =============================================================== use

/-- What can be asked of a channel. -/
inductive Act where
  | upload (path : String) (source : Source) (binary : Bool)
  | start (command : String)
  /-- To wait for a process, named by its number among those that were
  started. -/
  | wait (number : Nat)

/-- One call, with the local files as they are then. -/
structure Use where
  disk : Disk
  act : Act

/-- What a call is answered with. -/
inductive Reply where
  | uploaded (result : Except ChannelFault Unit)
  | started (result : Except ChannelFault Process)
  | waited (process : Process) (result : Except ChannelFault Int)
      (printed : List Ui.Entry)
  /-- There is no process of this number. -/
  | noProcess

/-- Calls and their replies, in the order of the calls. -/
abbrev Trace := List (Use × Reply)

/-- A channel in use, with the processes that it started. -/
structure Session where
  state : Recording
  processes : List Process
  trace : Trace

/-- One more call.  A caller may wait for a process more than once. -/
def Session.step (s : Session) : Use → Session
  | ⟨disk, .upload path source binary⟩ =>
    let done := channel.upload s.state disk path source binary
    ⟨done.state, s.processes, s.trace
      ++ [(⟨disk, .upload path source binary⟩, .uploaded done.result)]⟩
  | ⟨disk, .start command⟩ =>
    let done := channel.start s.state disk command
    ⟨done.state, s.processes ++ done.result.toOption.toList,
      s.trace ++ [(⟨disk, .start command⟩, .started done.result)]⟩
  | ⟨disk, .wait number⟩ =>
    match s.processes[number]? with
    | none =>
      { s with trace := s.trace ++ [(⟨disk, .wait number⟩, .noProcess)] }
    | some process =>
      let done := channel.wait s.state disk process
      ⟨done.state, s.processes, s.trace
        ++ [(⟨disk, .wait number⟩,
          .waited process done.result done.output)]⟩

/-- A scripted channel behind some calls. -/
def session (cues : List Cue) (uses : List Use) : Session :=
  uses.foldl Session.step ⟨scripted cues, [], []⟩

-- ============================================================ replies

/-- Whether a call is an upload of something that can be read. -/
def Use.readable : Use → Bool
  | ⟨disk, .upload _ source _⟩ => (source.read disk).toOption.isSome
  | _ => false

def Use.starts : Use → Bool
  | ⟨_, .start _⟩ => true
  | _ => false

/-- How many uploads could be read. -/
def readUploads (trace : Trace) : Nat :=
  trace.countP fun entry => entry.1.readable

/-- How many starts were tried. -/
def triedStarts (trace : Trace) : Nat :=
  trace.countP fun entry => entry.1.starts

/-- The commands that were started. -/
def commandsOf (trace : Trace) : List String :=
  trace.filterMap fun
    | (⟨_, .start command⟩, .started (.ok _)) => some command
    | _ => none

def uploadRefusal (path : String) : ChannelFault :=
  .remote ("upload of '" ++ path ++ "' rejected")

def startRefusal : ChannelFault :=
  .remote "connection refused: machine is restarting"

/-- What a call is answered with behind others.  An upload that cannot be
read is answered with the fault.  Any other upload is rejected if and
only if the script has a rejection at its number, and so is a start,
unless a cue rejects them all.  A process ends with the exit code at its
number, or with 0 behind the last. -/
def answer (cues : List Cue) (before : Trace) : Use → Reply
  | ⟨disk, .upload path source _⟩ =>
    .uploaded <|
      match source.read disk with
      | .error fault => .error (.io fault)
      | .ok _ =>
        if (uploadScript cues)[readUploads before]? = some .reject then
          .error (uploadRefusal path)
        else .ok ()
  | ⟨_, .start command⟩ =>
    .started <|
      if rejectsAll cues = true ∨
          (startScript cues)[triedStarts before]? = some .reject then
        .error startRefusal
      else .ok (processAt cues (commandsOf before).length command)
  | ⟨_, .wait number⟩ =>
    match (commandsOf before)[number]? with
    | none => .noProcess
    | some command =>
      .waited (processAt cues number command)
        (.ok ((exitScript cues)[number]?.getD 0))
        ((printedLines cues).map (Ui.Entry.mk .message))

-- ============================================================= events

/-- The event of an upload, from what there was to read and how it
ended. -/
def uploadEvent? (path : String) :
    Except IoFault Bytes → Except ChannelFault Unit → Option Recorded
  | .error _, _ => none
  | .ok _, .error _ => some (.uploadRejected path)
  | .ok content, .ok () => some (.upload path (Text.ofBytesLossy content))

/-- The event of a call.  An upload of what cannot be read has none, nor
has a wait for no process. -/
def logged? : Use × Reply → Option Recorded
  | (⟨disk, .upload path source _⟩, .uploaded result) =>
    uploadEvent? path (source.read disk) result
  | (⟨_, .start command⟩, .started (.error _)) =>
    some (.startRejected command)
  | (⟨_, .start command⟩, .started (.ok _)) => some (.start command)
  | (⟨_, .wait _⟩, .waited process (.ok code) _) =>
    some (.exited process.command code)
  | _ => none

theorem logged?_upload (disk : Disk) (path : String) (source : Source)
    (binary : Bool) (result : Except ChannelFault Unit) :
    logged? (⟨disk, .upload path source binary⟩, .uploaded result)
      = uploadEvent? path (source.read disk) result := rfl

/-- What was uploaded to a path by an accepted call. -/
def acceptedAt? (path : String) : Use × Reply → Option Bytes
  | (⟨disk, .upload p source _⟩, .uploaded (.ok ())) =>
    if p = path then (source.read disk).toOption else none
  | _ => none

end RemoteProvision.Recording
