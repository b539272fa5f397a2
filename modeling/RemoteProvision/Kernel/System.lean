/-
Processes and what they share.

A process has streams, a folder that relative paths start from, ways to
handle signals, and the rest of its course.  Streams lead to open files,
which several processes may share, with one position in each; a file
that is taken away lives on for those who have it open.

A pipe keeps what was written until it is read.  It is at its end when
no process has its writing end open any more.
-/
import RemoteProvision.Kernel.Course

namespace RemoteProvision.Kernel

open RemoteProvision.Text (Bytes)
open RemoteProvision.Local (Ending)

-- ====================================================== open files

/-- Where an open file leads. -/
inductive Target where
  | item (place : Place)
  /-- A file that was taken away. -/
  | loose (bytes : Bytes)
  | pipeInput (pipe : Nat)
  | pipeOutput (pipe : Nat)
  | nowhere
  | zeros
  | full

/-- An open file. -/
structure OpenFile where
  target : Target
  offset : Nat
  mode : OpenMode

/-- A pipe. -/
structure Pipe where
  content : Array UInt8
  /-- Whether somebody outside takes all that is written. -/
  drained : Bool

/-- How much a pipe holds. -/
def pipeRoom : Nat := 65536

-- ======================================================= processes

/-- What is left of a process. -/
inductive Stage where
  | running (course : Course)
  | ended (how : Ending)

/-- A process. -/
structure Process where
  number : Nat
  parent : Nat
  /-- The open files of its streams. -/
  streams : List (Nat × Nat)
  home : Place
  /-- When its next call is due. -/
  due : Nat
  handlings : List (Nat × Handling)
  /-- Signals that it has not been told of. -/
  caught : List Nat
  stage : Stage

/-- The running system. -/
structure System where
  /-- Microseconds since the start. -/
  now : Nat
  processes : List Process
  files : List (Nat × OpenFile)
  pipes : List (Nat × Pipe)
  nextProcess : Nat
  nextFile : Nat
  nextPipe : Nat

namespace System

/-- A system without processes. -/
def empty : System := ⟨0, [], [], [], 4242, 0, 0⟩

-- ========================================================= look-ups

/-- The process of a number. -/
def process? (s : System) (number : Nat) : Option Process :=
  s.processes.find? (·.number == number)

/-- Changes the process of a number. -/
def modifyProcess (s : System) (number : Nat)
    (change : Process → Process) : System :=
  { s with
    processes := s.processes.map fun p =>
      if p.number == number then change p else p }

/-- Sets a value of a table. -/
def setAt {α : Type} (key : Nat) (value : α) (table : List (Nat × α)) :
    List (Nat × α) :=
  (key, value) :: table.filter (·.1 != key)

/-- Changes a pipe. -/
def modifyPipe (s : System) (pipe : Nat) (change : Pipe → Pipe) :
    System :=
  match s.pipes.lookup pipe with
  | none => s
  | some p => { s with pipes := setAt pipe (change p) s.pipes }

/-- Changes an open file. -/
def setFile (s : System) (file : Nat) (f : OpenFile) : System :=
  { s with files := setAt file f s.files }

/-- The files that some process has open. -/
def filesInUse (s : System) : List Nat :=
  s.processes.flatMap fun p => p.streams.map (·.2)

/-- Whether some process has an open file that leads to a target. -/
def leadsTo (s : System) (isIt : Target → Bool) : Bool :=
  let used := s.filesInUse
  s.files.any fun f => isIt f.2.target && used.contains f.1

/-- Whether a pipe can still be written to. -/
def hasWriter (s : System) (pipe : Nat) : Bool :=
  s.leadsTo fun
    | .pipeOutput n => n == pipe
    | _ => false

/-- Whether a pipe can still be read. -/
def hasReader (s : System) (pipe : Nat) : Bool :=
  (s.pipes.lookup pipe).any (·.drained)
    || s.leadsTo fun
      | .pipeInput n => n == pipe
      | _ => false

-- ========================================================= streams

/-- Adds an open file. -/
def addFile (s : System) (f : OpenFile) : Nat × System :=
  (s.nextFile,
    { s with
      files := (s.nextFile, f) :: s.files
      nextFile := s.nextFile + 1 })

/-- Adds an empty pipe. -/
def addPipe (s : System) (drained : Bool) : Nat × System :=
  (s.nextPipe,
    { s with
      pipes := (s.nextPipe, ⟨#[], drained⟩) :: s.pipes
      nextPipe := s.nextPipe + 1 })

/-- Gives a process an open file as a stream. -/
def setStream (s : System) (number stream file : Nat) : System :=
  s.modifyProcess number fun p =>
    { p with streams := setAt stream file p.streams }

/-- Forgets the open files that nobody has open, and the pipes that no
open file leads to. -/
def tidy (s : System) : System :=
  let used := s.filesInUse
  let files := s.files.filter fun f => used.contains f.1
  let pipes := s.pipes.filter fun p =>
    p.2.drained || files.any fun f =>
      match f.2.target with
      | .pipeInput n | .pipeOutput n => n == p.1
      | _ => false
  { s with files := files, pipes := pipes }

-- ========================================================= signals

/-- What a process does with a signal. -/
def handlingOf (p : Process) (signal : Nat) : Handling :=
  if signal == 9 || signal == 19 then .usual
  else (p.handlings.lookup signal).getD .usual

/-- The number of the process that takes children whose parent is
gone. -/
def orphanage : Nat := 1

/-- Ends a process: its streams are closed, and its children lose their
parent.  Those that have ended stand behind the others, in order. -/
def finish (s : System) (number : Nat) (how : Ending) : System :=
  let others := s.processes.filterMap fun p =>
    if p.number == number then none
    else if p.parent == number then
      match p.stage with
      | .ended _ => none
      | .running _ => some { p with parent := orphanage }
    else some p
  let left := (s.process? number).toList.filterMap fun p =>
    if p.parent == orphanage then none
    else some { p with stage := .ended how, streams := [] }
  { s with processes := others ++ left }.tidy

/-- How long it takes a process to learn of a signal. -/
def signalDelay : Nat := 200

/-- Sends a signal to a process. -/
def signal (s : System) (sender number signal : Nat) :
    Except IoFault System :=
  match s.process? number with
  | none => .error (.system 3)
  | some p =>
    match p.stage with
    | .ended _ => .ok s
    | .running _ =>
      match handlingOf p signal with
      | .ignored => .ok s
      | .caught =>
        .ok (s.modifyProcess number fun p =>
          if p.number == sender then
            { p with caught := p.caught ++ [signal] }
          else
            { p with
              caught := p.caught ++ [signal]
              due := max p.due (s.now + signalDelay) })
      | .usual =>
        if Local.ignoredSignals.contains signal then .ok s
        else .ok (s.finish number (.killed signal))

end System

end RemoteProvision.Kernel
