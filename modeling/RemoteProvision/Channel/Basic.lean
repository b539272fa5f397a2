/-
Remote channels.

A channel uploads content to the remote machine, starts commands there
and waits for a started command to end.  It has a state of its own and
may change the local disk, as the channel to the local machine does.

Content is offered as a source that the channel reads while it uploads;
it may stop anywhere.  A file is read from the disk as it is at that
moment, from where the reading before it stopped.  A process is named by
a token that only its channel understands.
-/
import RemoteProvision.Disk.Files
import RemoteProvision.Error.Basic
import RemoteProvision.Ui.Basic

namespace RemoteProvision

open RemoteProvision.Text (Bytes)

-- ========================================================= sources

/-- What an upload reads from. -/
inductive Source where
  | bytes (content : Bytes)
  /-- A file of the disk, read from an offset on. -/
  | file (place : Place) (offset : Nat)
deriving DecidableEq

namespace Source

/-- A text as a source. -/
def ofText (text : String) : Source := .bytes (Text.toBytes text)

/-- What there is to read. -/
def read (disk : Disk) : Source → Except IoFault Bytes
  | .bytes content => .ok content
  | .file place offset =>
    (disk.bytesAt place).map fun content => content.drop offset

end Source

-- ======================================================== channels

/-- How an upload ended, and how much of its source was read. -/
structure Uploaded (σ : Type) where
  result : Except ChannelFault Unit
  taken : Nat
  state : σ
  disk : Disk

/-- How a start ended. -/
structure Started (σ π : Type) where
  result : Except ChannelFault π
  state : σ
  disk : Disk

/-- How a command ended, and what it printed. -/
structure Waited (σ : Type) where
  result : Except ChannelFault Int
  output : List Ui.Entry
  state : σ
  disk : Disk

/-- A channel with states `σ` and processes `π`. -/
structure Channel (σ π : Type) where
  /-- Writes a source to a path; the flag asks for no change of line
  ends. -/
  upload : σ → Disk → String → Source → Bool → Uploaded σ
  start : σ → Disk → String → Started σ π
  wait : σ → Disk → π → Waited σ

end RemoteProvision
