/-
Commands of the shell itself that deal with signals.

`trap` says what to do on a signal, or when the shell exits, which counts
as signal zero; `kill` sends signals to processes.
-/
import RemoteProvision.Shell.Jobs
import RemoteProvision.Shell.Own.Words

namespace RemoteProvision.Shell

open RemoteProvision.Kernel (Handling)

-- =========================================================== names

/-- How many signals there are. -/
def signalCount : Nat := 65

/-- The name of a signal. -/
def signalName (signal : Nat) : String :=
  if signal == 0 then "EXIT"
  else if signal == 16 then "16"
  else
    match Local.signalNames.lookup signal with
    | some name => name
    | none =>
      if signal == 34 then "RTMIN"
      else if signal == 64 then "RTMAX"
      else if 34 < signal && signal ≤ 49 then
        "RTMIN+" ++ toString (signal - 34)
      else if 49 < signal && signal < 64 then
        "RTMAX-" ++ toString (64 - signal)
      else toString signal

/-- The signal that a word names, by number or name. -/
def signalOf? (least : Nat) (word : String) : Option Nat :=
  if !word.isEmpty && word.toList.all Char.isDigit then
    word.toNat?.filter (· < signalCount)
  else
    (List.range signalCount).find? fun n =>
      least ≤ n && (signalName n).toLower == word.toLower

-- =========================================================== traps

/-- Tells the system what the shell does with a signal. -/
def handle (signal : Nat) (how : Handling) : Sh Unit :=
  request (.handle signal how)

/-- Sets or clears what to do on a signal. -/
def setTrap (signal : Nat) (action : Option String) : Sh Unit := do
  modify fun s =>
    { s with
      traps := s.traps.filter (·.1 != signal)
        ++ action.toList.map fun a => (signal, a) }
  if signal != 0 then
    handle signal
      (match action with
      | none => .usual
      | some a => if a.isEmpty then .ignored else .caught)

/-- Sets what to do on signals, or lists it. -/
def trapWords (words : List String) : Sh Nat := do
  let (_, words) ← options [] words
  match words with
  | [] =>
    let sorted := (← get).traps.mergeSort fun a b => a.1 ≤ b.1
    for t in sorted do
      out ("trap -- " ++ quoted t.2 ++ " " ++ signalName t.1 ++ "\n")
    return 0
  | first :: rest =>
    let isNumber :=
      !first.isEmpty && first.toList.all Char.isDigit
        && (signalOf? 0 first).isSome
    let (action, names) :=
      if rest.isEmpty || isNumber then (none, words)
      else (if first == "-" then none else some first, rest)
    for name in names do
      match signalOf? 0 name with
      | none =>
        let _ ← write 2 ("trap: " ++ name ++ ": bad trap\n")
        return 1
      | some signal => setTrap signal action
    return 0

/-- Forgets what a shell that this one was split from does on signals. -/
def clearTraps : Sh Unit := do
  for t in (← get).traps do
    if !t.2.isEmpty && t.1 != 0 then handle t.1 .usual
  modify fun s =>
    { s with traps := s.traps.filter (·.2.isEmpty), pending := [] }

-- ========================================================= sending

/-- How `kill` is used. -/
def killUsage : String :=
  "Usage: kill [-s sigspec | -signum | -sigspec] [pid | job]... or\n"
    ++ "kill -l [exitstatus]"

/-- Sends a signal to processes. -/
def sendTo (signal : Nat) (targets : List String) : Sh Nat := do
  let mut code := 0
  for target in targets do
    let process ←
      if target.startsWith "%" then
        pure (((← jobOf target).members.head?.map (·.1)).getD 0)
      else if target.startsWith "-" then
        number (target.drop 1).toString
      else number target
    match ← request (.send process signal) with
    | .ok _ => pure ()
    | .error problem =>
      warn (problem.bareMessage ++ "\n")
      code := 1
  return code

/-- Lists the names of signals, or shows one. -/
def listSignals (words : List String) : Sh Nat := do
  match words with
  | [] =>
    out "0\n"
    for n in List.range signalCount do
      if 0 < n then out (signalName n ++ "\n")
  | word :: _ =>
    let n ← number word
    let n := if 128 < n then n - 128 else n
    if 0 < n && n < signalCount then out (signalName n ++ "\n")
    else fault ("invalid signal number or exit status: " ++ word)
  return 0

/-- Sends signals, or lists their names. -/
def killWords (words : List String) : Sh Nat := do
  match words with
  | [] => fault killUsage
  | first :: rest =>
    let direct :=
      if first.startsWith "-" then
        signalOf? 1 (first.drop 1).toString
      else none
    match direct with
    | some signal =>
      if rest.isEmpty then fault killUsage else sendTo signal rest
    | none =>
      let (flags, targets) ← options [('l', false), ('s', true)] words
      let lists := flags.any (·.1 == 'l')
      let mut signal := 15
      for f in flags do
        if f.1 == 's' then
          match signalOf? 1 f.2 with
          | some n => signal := n
          | none =>
            fault ("invalid signal number or name: " ++ f.2)
      if lists then
        if flags.any (·.1 == 's') then fault killUsage
        listSignals targets
      else if targets.isEmpty then fault killUsage
      else sendTo signal targets

end RemoteProvision.Shell
