/-
Running processes.

Of all processes the one whose call is due first goes next, unless its
call has to wait.  Running stops when nothing can go on, or when what
somebody outside waits for has come.

What is outside starts a process with an empty input and a pipe for each
of its two outputs, and may later take all that comes out of the pipes
until nobody can write to them any more and the process has ended.
-/
import RemoteProvision.Kernel.Serving

namespace RemoteProvision.Kernel

open RemoteProvision.Text (Bytes)
open RemoteProvision.Local (Ending)

namespace System

-- ======================================================= one call

/-- How long splitting takes, and how long it takes until a child makes
its first call. -/
def forkCost : Nat := 100
def childDelay : Nat := 350

/-- Goes on with a process, unless it has ended meanwhile. -/
def advance (s : System) (number due : Nat) (course : Course) :
    System :=
  s.modifyProcess number fun p =>
    match p.stage with
    | .ended _ => p
    | .running _ => { p with stage := .running course, due := due }

/-- Lets a process make its next call, unless it has to wait. -/
def step (s : System) (disk : Disk) (p : Process) :
    Option (System × Disk) :=
  let now := max s.now p.due
  match p.stage with
  | .ended _ => none
  | .running (.ended how) =>
    some ({ s with now := now }.finish p.number how, disk)
  | .running (.fork child next) =>
    let number := s.nextProcess
    let born : Process :=
      { p with
        number := number
        parent := p.number
        due := now + childDelay
        caught := []
        stage := .running child }
    let s :=
      { s with
        now := now
        processes := s.processes ++ [born]
        nextProcess := number + 1 }
    some (s.advance p.number (now + forkCost) (next number), disk)
  | .running (.ask call next) =>
    match { s with now := now }.serve disk p call with
    | none => none
    | some done =>
      some (done.system.advance p.number (now + done.cost)
        (next done.answer), done.disk)

-- ======================================================== all calls

/-- Lets the first process go on that can. -/
def round (s : System) (disk : Disk) : Option (System × Disk) :=
  let inOrder := s.processes.mergeSort fun a b => a.due ≤ b.due
  inOrder.findSome? fun p => s.step disk p

/-- Runs until a condition holds, or nothing goes on. -/
def runUntil (enough : System → Bool) :
    Nat → System → Disk → System × Disk
  | 0, s, disk => (s, disk)
  | limit + 1, s, disk =>
    if enough s then (s, disk)
    else
      match s.round disk with
      | none => (s, disk)
      | some (s, disk) => runUntil enough limit s disk

end System

-- ========================================================= outside

/-- A process that was started from outside. -/
structure Started where
  number : Nat
  out : Nat
  err : Nat

/-- What a process left that was waited for from outside. -/
structure Collected where
  out : Bytes
  err : Bytes
  ending : Ending

namespace System

/-- How long starting a program from outside takes. -/
def startCost : Nat := 500

/-- Starts a process from outside. -/
def start (s : System) (home : Place) (course : Course) :
    Started × System :=
  let (out, s) := s.addPipe true
  let (err, s) := s.addPipe true
  let (nothing, s) := s.addFile ⟨.nowhere, 0, { reads := true }⟩
  let (outFile, s) :=
    s.addFile ⟨.pipeOutput out, 0, { writes := true }⟩
  let (errFile, s) :=
    s.addFile ⟨.pipeOutput err, 0, { writes := true }⟩
  let p : Process :=
    { number := s.nextProcess, parent := 0
      streams := [(0, nothing), (1, outFile), (2, errFile)]
      home := home, due := s.now + startCost
      handlings := [], caught := [], stage := .running course }
  (⟨p.number, out, err⟩,
    { s with
      now := s.now + startCost
      processes := s.processes ++ [p]
      nextProcess := s.nextProcess + 1 })

/-- How a process ended. -/
def ending? (s : System) (number : Nat) : Option Ending :=
  (s.process? number).bind fun p =>
    match p.stage with
    | .ended how => some how
    | .running _ => none

/-- How many calls are served while somebody waits. -/
def callLimit : Nat := 5000000

/-- Waits for a process from outside: answers with what came out of it
and how it ended.  A process that never ends counts as killed. -/
def collect (s : System) (disk : Disk) (p : Started) :
    Collected × System × Disk :=
  let complete (s : System) : Bool :=
    (s.ending? p.number).isSome && !s.hasWriter p.out
      && !s.hasWriter p.err
  let (s, disk) := runUntil complete callLimit s disk
  let content (pipe : Nat) : Bytes :=
    ((s.pipes.lookup pipe).map (·.content.toList)).getD []
  (⟨content p.out, content p.err, (s.ending? p.number).getD (.killed 9)⟩,
    { s with
      processes := s.processes.filter (·.number != p.number)
      pipes := s.pipes.filter fun c => c.1 != p.out && c.1 != p.err },
    disk)

end System

end RemoteProvision.Kernel
