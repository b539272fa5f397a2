/-
The scripted channel.

A channel whose every answer is fixed in advance, for trying a run
against any pattern of failures.  Each upload takes the next answer of
one list and each start the next of another; a start that succeeds takes
the next ending as well.  Past the end of a list everything succeeds.

An upload may be told to read only some bytes of its source.  What it
did read is kept with the call.
-/
import RemoteProvision.Channel.Basic

namespace RemoteProvision

open RemoteProvision.Text (Bytes)

-- ========================================================= answers

/-- The answer to an upload. -/
structure UploadAnswer where
  /-- How many bytes to read; `none` for all. -/
  reads : Option Nat := none
  fault : Option ChannelFault := none

/-- How a command ends. -/
structure Ending where
  out : List String := []
  err : List String := []
  fault : Option ChannelFault := none
  code : Int := 0

/-- A call that the channel has seen. -/
inductive Call where
  | upload (path : String) (binary ok : Bool) (content : Bytes)
  | start (command : String) (ok : Bool)
deriving DecidableEq

/-- The state of a scripted channel. -/
structure Scripted where
  uploads : List UploadAnswer := []
  starts : List (Option ChannelFault) := []
  endings : List Ending := []
  calls : List Call := []

namespace Scripted

-- =========================================================== calls

/-- The part of a source that is read. -/
def readPart (disk : Disk) (source : Source) :
    Option Nat → Except IoFault Bytes
  | none => source.read disk
  | some 0 => .ok []
  | some count => (source.read disk).map fun bs => bs.take count

/-- One more call. -/
def record (s : Scripted) (call : Call) : Scripted :=
  { s with calls := s.calls ++ [call] }

/-- A fault as a result. -/
def failing (fault : Option ChannelFault) : Except ChannelFault Unit :=
  match fault with
  | none => .ok ()
  | some f => .error f

/-- Uploads a source. -/
def upload (s : Scripted) (disk : Disk) (path : String)
    (source : Source) (binary : Bool) : Uploaded Scripted :=
  let answer := s.uploads.head?.getD {}
  let s' := { s with uploads := s.uploads.tail }
  match readPart disk source answer.reads with
  | .error fault => ⟨.error (.io fault), 0, s', disk⟩
  | .ok content =>
    ⟨failing answer.fault, content.length,
      s'.record (.upload path binary answer.fault.isNone content),
      disk⟩

/-- Starts a command. -/
def start (s : Scripted) (disk : Disk) (command : String) :
    Started Scripted Ending :=
  let s' := { s with starts := s.starts.tail }
  match s.starts.head?.join with
  | some fault =>
    ⟨.error fault, s'.record (.start command false), disk⟩
  | none =>
    ⟨.ok (s.endings.head?.getD {}),
      { s' with endings := s.endings.tail }.record
        (.start command true), disk⟩

/-- Waits for a command. -/
def wait (s : Scripted) (disk : Disk) (ending : Ending) :
    Waited Scripted :=
  ⟨(failing ending.fault).map fun _ => ending.code,
    ending.out.map (Ui.Entry.mk .message)
      ++ ending.err.map (Ui.Entry.mk .error), s, disk⟩

/-- The scripted channel. -/
def channel : Channel Scripted Ending where
  upload s disk path source binary := s.upload disk path source binary
  start s disk command := s.start disk command
  wait s disk ending := s.wait disk ending

end Scripted

end RemoteProvision
