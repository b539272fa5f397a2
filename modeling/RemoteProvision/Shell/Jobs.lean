/-
Jobs.

A job is one or more processes that the shell has split off.  The shell
waits for a job in the foreground, whatever it learns meanwhile about
other children, and remembers the jobs in the background until somebody
asks for them.

The status of a job is that of its last process: the exit code, or 128
and the number of the signal that killed it.
-/
import RemoteProvision.Shell.State

namespace RemoteProvision.Shell

open RemoteProvision.Kernel (Awaited Patience)
open RemoteProvision.Local (Ending)

-- ======================================================== endings

/-- What signals are called. -/
def signalTexts : List (Nat × String) :=
  [(1, "Hangup"), (2, "Interrupt"), (3, "Quit"),
   (4, "Illegal instruction"), (5, "Trace/breakpoint trap"),
   (6, "Aborted"), (7, "Bus error"), (8, "Floating point exception"),
   (9, "Killed"), (10, "User defined signal 1"),
   (11, "Segmentation fault"), (12, "User defined signal 2"),
   (13, "Broken pipe"), (14, "Alarm clock"), (15, "Terminated"),
   (16, "Stack fault"), (17, "Child exited"), (18, "Continued"),
   (19, "Stopped (signal)"), (20, "Stopped"),
   (21, "Stopped (tty input)"), (22, "Stopped (tty output)"),
   (23, "Urgent I/O condition"), (24, "CPU time limit exceeded"),
   (25, "File size limit exceeded"), (26, "Virtual timer expired"),
   (27, "Profiling timer expired"), (28, "Window changed"),
   (29, "I/O possible"), (30, "Power failure"), (31, "Bad system call")]

/-- The text of a signal that ended a process. -/
def signalText (signal : Nat) : String :=
  (signalTexts.lookup signal).getD
    (if 34 ≤ signal && signal ≤ 64 then
      "Real-time signal " ++ toString (signal - 34)
    else "Unknown signal " ++ toString signal)

/-- The status that an ending makes. -/
def statusOf : Ending → Nat
  | .exited code => code
  | .killed signal => 128 + signal

/-- Tells of a process that a signal killed, unless that is usual. -/
def remark (how : Ending) : Sh Unit := do
  match how with
  | .exited _ => pure ()
  | .killed signal =>
    if signal != 2 && signal != 13 then
      let _ ← write 2 (signalText signal ++ "\n")

-- ========================================================== waiting

/-- Notes how a process ended. -/
def Job.note (j : Job) (child : Nat) (how : Ending) : Job :=
  { j with
    members := j.members.map fun m =>
      if m.1 == child then (child, some how) else m }

/-- Whether all processes of a job have ended. -/
def Job.isOver (j : Job) : Bool := j.members.all (·.2.isSome)

/-- The status of a job that is over. -/
def Job.status (j : Job) : Nat :=
  match j.members.getLast? with
  | some (_, some how) => statusOf how
  | _ => 0

/-- Whether a process belongs to a job. -/
def Job.has (j : Job) (child : Nat) : Bool :=
  j.members.any (·.1 == child)

/-- Notes how a process of a job in the background ended. -/
def noteEnding (child : Nat) (how : Ending) : Sh Unit :=
  modify fun s => { s with jobs := s.jobs.map (·.note child how) }

/-- Forgets the first job that is over and was waited for, so that its
number is free. -/
def freeNumber : Sh Unit :=
  modify fun s =>
    { s with jobs := s.jobs.eraseP fun j => j.isOver && j.waited }

/-- Notes a job in the background. -/
def addJob (children : List Nat) : Sh Unit := do
  freeNumber
  modify fun s =>
    let isFree (n : Nat) : Bool := !s.jobs.any (·.number == n)
    let number :=
      ((List.range' 1 (s.jobs.length + 1)).find? isFree).getD 1
    { s with
      jobs := s.jobs ++ [⟨number, children.map fun n => (n, none), false⟩]
      lastChild := children.getLast? }

/-- Notes that somebody has waited for some jobs. -/
def noteWaited (isIt : Job → Bool) : Sh Unit :=
  modify fun s =>
    { s with
      jobs := s.jobs.map fun j =>
        if isIt j then { j with waited := true } else j }

/-- How many children may end while the shell waits for one. -/
def waitLimit : Nat := 1000000

/-- Waits for a job in the foreground. -/
def waitForJob : Nat → Job → Sh Nat
  | 0, j => return j.status
  | fuel + 1, j => do
    if j.isOver then return j.status
    match ← request (.await none .steady) with
    | .ended child how =>
      if j.has child then
        remark how
        waitForJob fuel (j.note child how)
      else
        noteEnding child how
        waitForJob fuel j
    | _ => return j.status

/-- Waits for processes in the foreground. -/
def waitFor (children : List Nat) : Sh Nat := do
  freeNumber
  waitForJob waitLimit ⟨0, children.map fun c => (c, none), false⟩

/-- The number of the last signal that was caught. -/
def lastCaught : Sh Nat := do
  poll 0
  return (← get).pending.getLast?.getD 0

/-- Waits for all jobs in the background. -/
def waitForAll : Nat → Sh Nat
  | 0 => return 0
  | fuel + 1 => do
    noteWaited Job.isOver
    if (← get).jobs.all (·.isOver) then return 0
    match ← request (.await none .nervous) with
    | .ended child how =>
      noteEnding child how
      waitForAll fuel
    | .interrupted => return 128 + (← lastCaught)
    | .noChild => return 0

/-- Waits for the job in the background whose last process has a
number. -/
def waitForChild (child : Nat) : Nat → Sh Nat
  | 0 => return 127
  | fuel + 1 => do
    let isIt (j : Job) : Bool := j.members.getLast?.any (·.1 == child)
    match (← get).jobs.find? isIt with
    | none => return 127
    | some j =>
      if j.isOver then
        noteWaited isIt
        return j.status
      match ← request (.await none .nervous) with
      | .ended other how =>
        if j.has other then remark how
        noteEnding other how
        waitForChild child fuel
      | .interrupted => return 128 + (← lastCaught)
      | .noChild => return 127

/-- Learns which children have ended, without waiting. -/
def noteAll : Nat → Sh Unit
  | 0 => pure ()
  | fuel + 1 => do
    match ← request (.await none .hasty) with
    | .ended child how =>
      noteEnding child how
      noteAll fuel
    | _ => pure ()

/-- The job that a word names. -/
def jobOf (word : String) : Sh Job := do
  let jobs := (← get).jobs
  let found :=
    match (word.drop 1).toString with
    | "" | "%" | "+" => jobs.getLast?
    | "-" => jobs.dropLast.getLast?
    | name =>
      match name.toNat? with
      | some n => jobs.find? (·.number == n)
      | none => none
  match found with
  | some j => return j
  | none => fault ("No such job: " ++ word)

/-- Waits as the words of `wait` ask. -/
def waitWords (words : List String) : Sh Nat := do
  if words.isEmpty then waitForAll waitLimit
  else
    let mut code := 127
    for word in words do
      let child ←
        if word.startsWith "%" then
          pure (((← jobOf word).members.getLast?.map (·.1)).getD 0)
        else number word
      code ← waitForChild child waitLimit
      if 128 < code && !(← get).pending.isEmpty then return code
    return code

/-- What a job is doing. -/
def Job.state (j : Job) : String :=
  if !j.isOver then "Running"
  else
    match j.members.getLast? with
    | some (_, some (.killed signal)) => signalText signal
    | _ =>
      if j.status == 0 then "Done"
      else "Done(" ++ toString j.status ++ ")"

/-- Lists jobs, the youngest first; `ahead` jobs that still run have been
listed. -/
def showJobs (ahead : Nat) : List Job → Sh Unit
  | [] => pure ()
  | j :: older => do
    let mark := if ahead = 0 then "+" else if ahead = 1 then "-" else " "
    let text :=
      "[" ++ toString j.number ++ "] " ++ mark ++ " " ++ j.state
    out (text ++ String.ofList (List.replicate (33 - text.length) ' ')
      ++ "\n")
    showJobs (if j.isOver then ahead else ahead + 1) older

/-- Lists the jobs, and forgets those that are over. -/
def listJobs : Sh Nat := do
  noteAll waitLimit
  showJobs 0 (← get).jobs.reverse
  modify fun s => { s with jobs := s.jobs.filter (!·.isOver) }
  return 0

end RemoteProvision.Shell
