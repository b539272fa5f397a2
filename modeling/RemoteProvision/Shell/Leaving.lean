/-
Splitting off and stopping.

A shell splits off other shells and programs.  A shell that was split off
does not do what was asked for on signals, has no jobs, and ends when it
has done its part.

When a shell stops, it first does what was asked for at the exit, and
what counts then is the status from before.
-/
import RemoteProvision.Shell.Jobs
import RemoteProvision.Shell.Own.Signals
import RemoteProvision.Shell.Redirection

namespace RemoteProvision.Shell

open RemoteProvision.Kernel (Act Course)

-- ======================================================= signals

/-- Does what is asked for on the signals that were caught; `run` runs a
text. -/
def actOnSignals (run : String → Sh Nat) (last : Option Nat)
    (status : Nat) : List Nat → Sh Unit
  | [] => modify fun s => { s with savedStatus := last }
  | signal :: more => do
    let s ← get
    if s.skip != .nothing then
      modify fun s =>
        { s with savedStatus := last, pending := signal :: more }
    else
      match s.traps.lookup signal with
      | none => actOnSignals run last status more
      | some action =>
        let _ ← run action
        if (← get).skip != .body true then
          modify fun s => { s with status := status }
        actOnSignals run last status more

/-- Does what is asked for on the signals that were caught. -/
def heedSignals (run : String → Sh Nat) : Sh Unit := do
  let s ← get
  if !s.pending.isEmpty then
    let signals := (List.range signalCount).filter s.pending.contains
    let status := s.savedStatus.getD s.status
    set { s with pending := [], savedStatus := some status }
    actOnSignals run s.savedStatus status signals

-- ======================================================== stopping

/-- How many keepings of streams there are at most. -/
def keepingLimit : Nat := 1000000

/-- Settles the status when the shell stops. -/
def settle (stop : Stop) : Sh Unit := do
  unwindTo 0 keepingLimit
  modify fun s =>
    { s with
      status :=
        match s.savedStatus with
        | some status =>
          if stop = .exit ∨ s.skip = .body false then status else s.status
        | none => s.status
      savedStatus := none
      skip := .nothing
      loops := 0
      speaker := none }

/-- Stops the shell; `run` runs a text. -/
def leave (run : String → Sh Nat) (stop : Stop) : Sh Unit := do
  settle stop
  let s ← get
  match s.traps.lookup 0 with
  | some action =>
    set
      { s with
        savedStatus := some s.status
        traps := s.traps.filter (·.1 != 0) }
    match ← ExceptT.lift (run action).run with
    | .ok _ =>
      modify fun s => { s with skip := .body false }
      settle .finished
    | .error stop => settle stop
  | none => pure ()
  flush
  ExceptT.lift (Act.finish (.exited ((← get).status % 256)))

/-- The course of a shell that does something and then stops. -/
def courseOf {α : Type} (run : String → Sh Nat) (act : Sh α)
    (s : State) : Course :=
  let whole : Act State Unit := do
    let stop : Stop ←
      match ← act.run with
      | .ok _ => pure Stop.finished
      | .error stop => pure stop
    let _ ← (leave run stop).run
  whole.course s

-- ======================================================= splitting

/-- Makes the shell one that was split off. -/
def becomeChild : Sh Unit := do
  clearTraps
  modify fun s => { s with jobs := [], kept := [], isChild := true }

/-- Splits off a shell that does something. -/
def split {α : Type} (run : String → Sh Nat) (act : Sh α) : Sh Nat :=
  ExceptT.lift
    (Act.fork fun s => courseOf run (do becomeChild; act) s)

/-- What a process in the background does first: it leaves the input and
the keyboard's signals to others. -/
def enterBackground (isFirst : Bool) : Sh Unit := do
  handle 2 .ignored
  handle 3 .ignored
  if isFirst then
    request (.close 0)
    let _ ← request (.openFile 0 "/dev/null" { reads := true })

/-- Moves a stream to a number of its own. -/
def moveStream (source target : Nat) : Sh Unit := do
  let _ ← request (.copy source target)
  request (.close source)

end RemoteProvision.Shell
