/-
Answers of the program.

Validating counts what a configuration would run.  Rendering makes a dry
run against a recording channel without any pause and then lists what was
sent.  Running provisions the local machine; the user follows it on the
console or as records.  Decoding prints a command.

An answer is an exit code and what was written to the two output streams.
An error is one line on the standard error stream, and its class is the
exit code.  What was written before the error stays.
-/
import RemoteProvision.Channel.Recording
import RemoteProvision.Cli.Request
import RemoteProvision.Command.Lines
import RemoteProvision.Config.Reading
import RemoteProvision.Ids
import RemoteProvision.Local.Channel
import RemoteProvision.Run.Provision
import RemoteProvision.Ui.Record

namespace RemoteProvision.Cli

open RemoteProvision.Run (Clock Plan State Verdict)

-- ========================================================== answers

/-- What the program leaves behind. -/
structure Answer where
  code : Nat
  out : String
  err : String
deriving DecidableEq

/-- The line for an error. -/
def errorLine (e : ProvisionError) : String :=
  "Error: " ++ e.message ++ "\n"

/-- The answer at the end of what was written so far. -/
def Answer.ofResult (out err : String)
    (result : Except ProvisionError Unit) : Answer :=
  match result with
  | .ok () => ⟨0, out, err⟩
  | .error e => ⟨e.exitCode, out, err ++ errorLine e⟩

/-- The answer if something fails before anything is written. -/
def Answer.ofError (e : ProvisionError) : Answer :=
  .ofResult "" "" (.error e)

-- ========================================================== machine

/-- What the program finds around it. -/
structure Machine where
  disk : Disk
  environment : Local.Environment
  /-- Milliseconds since the epoch, when the program begins. -/
  startMillis : Nat
  /-- The time that records carry. -/
  stamp : String
  /-- How many nanoseconds go by whenever the clock is read. -/
  clockStep : Nat

namespace Machine

/-- The ids of a run. -/
def ids (m : Machine) : Feed String := Ids.timeOrdered m.startMillis

/-- Runs a plan over a channel, asking for one and the same address. -/
def provision {σ π : Type} (m : Machine) (ch : Channel σ π) (state : σ)
    (plan : Plan) (ids : Feed String) (httpAddr : Option String) :
    Verdict × State σ Nat :=
  Run.provision ch (Clock.stepping m.clockStep)
    (plan.window.mostAttempts m.clockStep) plan
    ⟨state, m.disk, 0, ids, Feed.fresh fun _ => httpAddr, []⟩

/-- Loads a configuration and prepares it. -/
def prepare (m : Machine) (path : String) :
    Except ProvisionError (Settings × Feed String) := do
  let config ← Config.load m.disk path
  match config.resolve m.disk m.ids with
  | (.error e, _) => .error e
  | (.ok settings, ids) => .ok (settings, ids)

end Machine

-- ======================================================= validating

/-- What a configuration would run. -/
def sourcesText (config : Config) : String :=
  if config.inlineCommands = [] then
    toString config.scriptFiles.length ++ " script file(s)"
  else toString config.inlineCommands.length ++ " inline command(s)"

/-- As whom it would run it. -/
def modeText (config : Config) : String :=
  match nonEmpty config.elevatedUser with
  | some user => "elevated as '" ++ user ++ "'"
  | none => "not elevated"

/-- The line for a valid configuration. -/
def validLine (path : String) (config : Config) : String :=
  path ++ " is valid: " ++ sourcesText config ++ ", "
    ++ modeText config ++ "\n"

/-- Answers for a configuration. -/
def validate (m : Machine) (path : String) : Answer :=
  match Config.load m.disk path with
  | .error e => .ofError e
  | .ok config => ⟨0, validLine path config, ""⟩

-- ========================================================= decoding

/-- Answers with the command of an encoded argument. -/
def decode (argument : String) : Answer :=
  match Encoding.decodeCommand argument with
  | .error fault => .ofError (.encoding fault.message)
  | .ok command => ⟨0, command ++ "\n", ""⟩

-- ======================================================== rendering

/-- The encoded argument of a command line, if it has one. -/
def encodedArgument? (command : String) : Option String :=
  let start := Command.encodedStart.toList
  if start.isPrefixOf command.toList then
    some (String.ofList (command.toList.drop start.length))
  else none

/-- How one event of a dry run is listed. -/
def eventText : Recorded → Except ProvisionError String
  | .upload path content =>
    .ok ("upload  " ++ path ++ " ("
      ++ toString (Text.toBytes content).length ++ " bytes)\n")
  | .start command => do
    let line := "start   " ++ command ++ "\n"
    match encodedArgument? command with
    | none => return line
    | some argument =>
      match Encoding.decodeCommand argument with
      | .error fault => throw (.encoding fault.message)
      | .ok text => return line ++ "        # " ++ text ++ "\n"
  | _ => .ok ""

/-- The list of a dry run, which ends before an event that cannot be
listed. -/
def listEvents : List Recorded → String × Except ProvisionError Unit
  | [] => ("", .ok ())
  | event :: rest =>
    match eventText event with
    | .error e => ("", .error e)
    | .ok text =>
      let (behind, result) := listEvents rest
      (text ++ behind, result)

/-- Answers with the list of a dry run; `none` if it was not followed to
its end. -/
def render (m : Machine) (path : String) (httpAddr : Option String) :
    Option (Answer × Disk) :=
  match m.prepare path with
  | .error e => some (.ofError e, m.disk)
  | .ok (settings, ids) =>
    let (verdict, s) :=
      m.provision Recording.channel {} ⟨settings, .ofSeconds 0⟩ ids httpAddr
    let out := Ui.consoleOut s.entries
    let err := Ui.consoleErr s.entries
    match verdict with
    | .undecided => none
    | .failed e => some (.ofResult out err (.error e), s.disk)
    | .done =>
      let (list, result) := listEvents s.channel.events
      some (.ofResult (out ++ "\n" ++ list) err result, s.disk)

-- ========================================================== running

/-- What a run shows as records: the error it ends with is one of them. -/
def runRecords (stamp : String) (entries : List Ui.Entry)
    (result : Except ProvisionError Unit) : String :=
  Ui.recordLines stamp <|
    entries ++
      match result with
      | .ok () => []
      | .error e => [⟨.error, e.message⟩]

/-- Answers with a run on the local machine; `none` if it was not followed
to its end. -/
def run (m : Machine) (path : String) (machineReadable : Bool)
    (httpAddr : Option String) (retryDelay : Nat) :
    Option (Answer × Disk) :=
  match m.prepare path with
  | .error e => some (.ofError e, m.disk)
  | .ok (settings, ids) =>
    let (verdict, s) :=
      m.provision (Local.channel m.environment) .empty
        ⟨settings, .ofMillis retryDelay⟩ ids httpAddr
    let finish (result : Except ProvisionError Unit) : Answer :=
      if machineReadable then
        .ofResult (runRecords m.stamp s.entries result) "" result
      else
        .ofResult (Ui.consoleOut s.entries) (Ui.consoleErr s.entries) result
    match verdict with
    | .undecided => none
    | .failed e => some (finish (.error e), s.disk)
    | .done => some (finish (.ok ()), s.disk)

-- ========================================================= requests

/-- Answers a request. -/
def Request.answer (m : Machine) : Request → Option (Answer × Disk)
  | .validate path => some (Cli.validate m path, m.disk)
  | .render path httpAddr => Cli.render m path httpAddr
  | .run path machineReadable httpAddr retryDelay =>
    Cli.run m path machineReadable httpAddr retryDelay
  | .decode argument => some (Cli.decode argument, m.disk)

end RemoteProvision.Cli
