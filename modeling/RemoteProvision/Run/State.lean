/-
The state of a run.

A run acts through a channel and a clock.  It draws ids, asks for the
address of the file server, tells the user what happens, and leaves the
local disk as it is, but for a staged file that it takes away again.

Everything that a run does to the outside is written into a journal, in
order: what it tells the user, every call to the channel with what was
offered and how it ended, and every pause.
-/
import RemoteProvision.Channel.Basic
import RemoteProvision.Feed

namespace RemoteProvision.Run

open RemoteProvision.Text (Bytes)

-- =========================================================== clock

/-- A clock with states `τ`; times are nanoseconds. -/
structure Clock (τ : Type) where
  /-- The time now, and the state behind the reading. -/
  read : τ → Nat × τ
  pause : Duration → τ → τ

/-- A clock that goes on by a step whenever it is read, and otherwise
only in pauses. -/
def Clock.stepping (step : Nat) : Clock Nat where
  read now := (now, now + step)
  pause span now := now + span.nanos

-- ========================================================= journal

/-- One thing that a run did. -/
inductive Step where
  /-- The run told the user something. -/
  | told (entry : Ui.Entry)
  /-- A waited-for command printed something. -/
  | relayed (entry : Ui.Entry)
  /-- An upload: its path, what there was to read, the flag for no
  change of line ends, and how it ended. -/
  | upload (path : String) (offered : Except IoFault Bytes)
      (binary : Bool) (result : Except ChannelFault Unit)
  | start (command : String) (result : Except ChannelFault Unit)
  | wait (result : Except ChannelFault Int)
  | pause (span : Duration)

/-- What the user was told, from either side. -/
def Step.entry? : Step → Option Ui.Entry
  | .told entry => some entry
  | .relayed entry => some entry
  | _ => none

/-- The state of a run over a channel and a clock. -/
structure State (σ τ : Type) where
  channel : σ
  disk : Disk
  time : τ
  ids : Feed String
  /-- The addresses of the file server, one for each query. -/
  addresses : Feed (Option String)
  journal : List Step

-- ========================================================= actions

namespace State

variable {σ τ π : Type}

/-- One more step in the journal. -/
def note (s : State σ τ) (step : Step) : State σ τ :=
  { s with journal := s.journal ++ [step] }

/-- Tells the user how far the run has come. -/
def say (s : State σ τ) (text : String) : State σ τ :=
  s.note (.told ⟨.say, text⟩)

/-- Tells the user about an error. -/
def complain (s : State σ τ) (text : String) : State σ τ :=
  s.note (.told ⟨.error, text⟩)

/-- The next id. -/
def nextId (s : State σ τ) : String × State σ τ :=
  (s.ids.next.1, { s with ids := s.ids.next.2 })

/-- The address of the file server now. -/
def nextAddress (s : State σ τ) : Option String × State σ τ :=
  (s.addresses.next.1, { s with addresses := s.addresses.next.2 })

/-- Uploads a source; answers with the result and with how much of the
source was read. -/
def upload (ch : Channel σ π) (s : State σ τ) (path : String)
    (source : Source) (binary : Bool) :
    (Except ChannelFault Unit × Nat) × State σ τ :=
  let done := ch.upload s.channel s.disk path source binary
  ((done.result, done.taken),
    { s with channel := done.state, disk := done.disk }.note
      (.upload path (source.read s.disk) binary done.result))

/-- Starts a command. -/
def start (ch : Channel σ π) (s : State σ τ) (command : String) :
    Except ChannelFault π × State σ τ :=
  let done := ch.start s.channel s.disk command
  (done.result,
    { s with channel := done.state, disk := done.disk }.note
      (.start command (done.result.map fun _ => ())))

/-- Waits for a command and passes on what it printed. -/
def wait (ch : Channel σ π) (s : State σ τ) (process : π) :
    Except ChannelFault Int × State σ τ :=
  let done := ch.wait s.channel s.disk process
  (done.result,
    { s with
      channel := done.state
      disk := done.disk
      journal :=
        s.journal ++ done.output.map .relayed ++ [.wait done.result] })

/-- What the user was told so far. -/
def entries (s : State σ τ) : List Ui.Entry :=
  s.journal.filterMap Step.entry?

end State

end RemoteProvision.Run
