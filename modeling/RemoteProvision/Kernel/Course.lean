/-
What a program does, as the system sees it.

The course of a program is what it will ask of the system from some
moment on: a call, and for every answer the course behind it.  A program
may also split in two, and it ends by exiting.  Between two calls a
program does nothing that others could see, so the system may run many
courses at once by serving one call after the other.

A program is written as actions on a state of its own.  An action is
handed the rest of the program, as a function of its result, and answers
with the course of both.
-/
import RemoteProvision.Disk.Files
import RemoteProvision.Local.Ending

namespace RemoteProvision.Kernel

open RemoteProvision.Text (Bytes)
open RemoteProvision.Local (Ending)

-- =========================================================== calls

/-- How a file is opened. -/
structure OpenMode where
  reads : Bool := false
  writes : Bool := false
  /-- Makes the file if it is not there. -/
  creates : Bool := false
  empties : Bool := false
  /-- Writes behind all that is there. -/
  appends : Bool := false
  /-- Refuses a file that is there. -/
  refusesOld : Bool := false

/-- What a process does with a signal. -/
inductive Handling where
  | usual
  | ignored
  /-- The process is told of it, and nothing else happens. -/
  | caught
deriving DecidableEq

/-- What a program prints while it changes the disk, and how it ends. -/
structure Report where
  out : Bytes
  err : Bytes
  code : Nat

/-- How long a process waits for a child. -/
inductive Patience where
  /-- Until it has ended. -/
  | steady
  /-- Also until a signal is caught. -/
  | nervous
  /-- Not at all. -/
  | hasty
deriving DecidableEq

/-- What waiting for a child comes to. -/
inductive Awaited where
  | ended (child : Nat) (how : Ending)
  /-- A signal was caught meanwhile, or there is no waiting. -/
  | interrupted
  | noChild

/-- What a program can ask of the system.  Streams are known by their
numbers. -/
inductive Call where
  /-- Lets time pass; answers with the signals that were caught. -/
  | pause (micros : Nat)
  | read (stream most : Nat)
  | write (stream : Nat) (bytes : Bytes)
  /-- Opens a file as a stream. -/
  | openFile (stream : Nat) (path : String) (mode : OpenMode)
  | close (stream : Nat)
  /-- Makes a stream the same as another. -/
  | copy (source target : Nat)
  /-- Makes a pipe between two streams. -/
  | pipe (input output : Nat)
  /-- Where a stream is in its file, perhaps after it was moved, and how
  long the file is; nothing if it leads to none. -/
  | locate (stream : Nat) (move : Option Nat)
  /-- The disk as it is now. -/
  | look
  | change (how : Disk → Report × Disk)
  /-- Waits for a child, or for any of them. -/
  | await (child : Option Nat) (patience : Patience)
  | send (process signal : Nat)
  | handle (signal : Nat) (how : Handling)
  /-- Another program takes the place of this one. -/
  | become
  /-- The number of the process, and that of its parent. -/
  | identity

/-- The answers to a call. -/
abbrev Call.Answer : Call → Type
  | .pause _ => List Nat
  | .read _ _ => Except IoFault Bytes
  | .write _ _ => Except IoFault Unit
  | .openFile _ _ _ => Except IoFault Unit
  | .close _ => Unit
  | .copy _ _ => Except IoFault Unit
  | .pipe _ _ => Unit
  | .locate _ _ => Option (Nat × Nat)
  | .look => Disk
  | .change _ => Report
  | .await _ _ => Awaited
  | .send _ _ => Except IoFault Unit
  | .handle _ _ => Unit
  | .become => Unit
  | .identity => Nat × Nat

/-- The course of a program. -/
inductive Course where
  | ended (how : Ending)
  | ask (call : Call) (next : call.Answer → Course)
  /-- Splits; the course goes on with the number of the child. -/
  | fork (child : Course) (next : Nat → Course)

-- ========================================================= actions

/-- An action of a program with states `σ`. -/
def Act (σ α : Type) : Type := σ → (α → σ → Course) → Course

namespace Act

variable {σ α β : Type}

instance : Monad (Act σ) where
  pure a := fun s rest => rest a s
  bind act more := fun s rest => act s fun a s => more a s rest

/-- The state of the program. -/
def state : Act σ σ := fun s rest => rest s s

/-- Changes the state of the program. -/
def update (change : σ → σ) : Act σ Unit :=
  fun s rest => rest () (change s)

/-- Asks the system. -/
def ask (call : Call) : Act σ call.Answer :=
  fun s rest => .ask call fun a => rest a s

/-- Splits: the child takes a course of its own. -/
def fork (child : σ → Course) : Act σ Nat :=
  fun s rest => .fork (child s) fun n => rest n s

/-- Ends the program, whatever would come behind. -/
def finish (how : Ending) : Act σ α := fun _ _ => .ended how

/-- The course of an action that ends the program in any case. -/
def course (act : Act σ Unit) (s : σ) : Course :=
  act s fun _ _ => .ended (.exited 0)

end Act

end RemoteProvision.Kernel
