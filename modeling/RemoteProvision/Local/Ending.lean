/-
How a process ends.

A process ends with an exit code from 0 to 255, or because a signal
killed it.  A signal is known by its number and, for those that have
one, by its name.
-/

namespace RemoteProvision.Local

/-- How a process ended. -/
inductive Ending where
  | exited (code : Nat)
  | killed (signal : Nat)
deriving DecidableEq

/-- The names of signals on Linux, without what they all begin with. -/
def signalNames : List (Nat × String) :=
  [(1, "HUP"), (2, "INT"), (3, "QUIT"), (4, "ILL"), (5, "TRAP"),
   (6, "ABRT"), (7, "BUS"), (8, "FPE"), (9, "KILL"), (10, "USR1"),
   (11, "SEGV"), (12, "USR2"), (13, "PIPE"), (14, "ALRM"),
   (15, "TERM"), (16, "STKFLT"), (17, "CHLD"), (18, "CONT"),
   (19, "STOP"), (20, "TSTP"), (21, "TTIN"), (22, "TTOU"),
   (23, "URG"), (24, "XCPU"), (25, "XFSZ"), (26, "VTALRM"),
   (27, "PROF"), (28, "WINCH"), (29, "IO"), (30, "PWR"), (31, "SYS")]

/-- The signals that a process ignores unless it asks for them. -/
def ignoredSignals : List Nat := [0, 17, 18, 23, 28]

/-- The number of a signal given by number or name. -/
def signalOf? (text : String) : Option Nat :=
  let bare := if text.startsWith "SIG" then (text.drop 3).toString
    else text
  match text.toNat? with
  | some n => if n ≤ 64 then some n else none
  | none => (signalNames.find? (·.2 = bare)).map (·.1)

/-- The text of a signal that killed a process. -/
def signalText (signal : Nat) : String :=
  "signal: " ++ toString signal
    ++ match signalNames.lookup signal with
      | some name => " (SIG" ++ name ++ ")"
      | none => ""

end RemoteProvision.Local
