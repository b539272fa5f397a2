/-
The command line of a script.

A plain command is rendered from its template and carried by the command
line itself.  An elevated command needs two helper files on the remote
machine: one that sets the variables, since their text would not survive
the quoting inside a scheduled task, and the wrapper that registers the
task.  The command line then names the wrapper.

Each helper file and the task get an id of their own; the address of the
file server is asked for once.
-/
import RemoteProvision.Command.Elevated
import RemoteProvision.Command.Lines
import RemoteProvision.Config.Settings
import RemoteProvision.Run.State

namespace RemoteProvision.Run

open RemoteProvision.Command

variable {σ τ π : Type}

-- ========================================================= filling

/-- Fills a command template. -/
def fillCommand (template vars path : String) :
    Except ProvisionError String :=
  (Template.render template
    (Template.Fields.ofList [("Vars", vars), ("Path", path)])).mapError
      .template

/-- The plain command line, for an answer of the address source. -/
def plainLine (settings : Settings) (address : Option String) :
    Except ProvisionError String :=
  (fillCommand settings.executeCommand
    (settings.environment.assemble false address)
    settings.remotePath).map encodedLine

/-- The elevated command, for the path that its variables went to. -/
def fillElevated (settings : Settings) (path : String) :
    Except ProvisionError String :=
  fillCommand settings.elevatedExecuteCommand path settings.remotePath

/-- Renders the plain command line. -/
def renderPlain (settings : Settings) (s : State σ τ) :
    Except ProvisionError String × State σ τ :=
  let (address, s) := s.nextAddress
  (plainLine settings address, s)

-- ========================================================= helpers

/-- Uploads a helper file. -/
def uploadHelper (ch : Channel σ π) (s : State σ τ) (path text : String) :
    Except ProvisionError Unit × State σ τ :=
  let ((result, _), s) := s.upload ch path (.ofText text) false
  (result.mapError (.upload path), s)

/-- The task that runs a command elevated, for an id. -/
def taskOf (credentials : Credentials) (command id : String) :
    ElevatedTask where
  user := credentials.user
  password := credentials.password
  description := taskDescription
  name := "psprov-" ++ id
  encodedCommand := Encoding.encodeCommand command

/-- The wrapper file, for an id. -/
def wrapperFile (id : String) : RemoteFile :=
  .inTemp ("psprov-elevated-shell-" ++ id ++ ".ps1")

/-- The file that sets the variables, for an id. -/
def varsFile (id : String) : RemoteFile :=
  .inTemp ("psprov-env-vars-" ++ id ++ ".ps1")

/-- Uploads a wrapper that was filled and answers with its file. -/
def uploadFilled (ch : Channel σ π) (s : State σ τ) :
    Except Template.Fault String →
      Except ProvisionError RemoteFile × State σ τ
  | .error fault => (.error (.template fault), s)
  | .ok script =>
    let (fileId, s) := s.nextId
    let file := wrapperFile fileId
    let (result, s) := uploadHelper ch s file.uploadPath script
    (result.map fun _ => file, s)

/-- Uploads the wrapper of a command and answers with its file. -/
def uploadWrapper (ch : Channel σ π) (credentials : Credentials)
    (command : String) (s : State σ τ) :
    Except ProvisionError RemoteFile × State σ τ :=
  let (taskId, s) := s.nextId
  uploadFilled ch s (taskOf credentials command taskId).wrapper

/-- Uploads the variables of an elevated command and answers with the
path they went to. -/
def uploadVars (ch : Channel σ π) (settings : Settings)
    (s : State σ τ) : Except ProvisionError String × State σ τ :=
  let (address, s) := s.nextAddress
  let vars := settings.environment.assemble true address
  let (id, s) := s.nextId
  let path := (varsFile id).uploadPath
  let (result, s) := uploadHelper ch s path vars
  (result.map fun _ => path, s)

/-- Renders the elevated command line. -/
def renderElevated (ch : Channel σ π) (settings : Settings)
    (credentials : Credentials) (s : State σ τ) :
    Except ProvisionError String × State σ τ :=
  match uploadVars ch settings s with
  | (.error e, s) => (.error e, s)
  | (.ok path, s) =>
    match fillElevated settings path with
    | .error e => (.error e, s)
    | .ok command =>
      let done := uploadWrapper ch credentials command s
      (done.1.map fun file => fileLine file.shellPath, done.2)

/-- Renders the command line of a script. -/
def renderCommand (ch : Channel σ π) (settings : Settings)
    (s : State σ τ) : Except ProvisionError String × State σ τ :=
  match settings.elevated with
  | none => renderPlain settings s
  | some credentials => renderElevated ch settings credentials s

end RemoteProvision.Run
