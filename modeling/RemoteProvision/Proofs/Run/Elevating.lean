/-
What an elevated command uploads.

An elevated command goes to the remote machine in two files.  The first
sets the variables.  The second registers a task that runs the command,
which was filled with the path of the first; and the command line runs
the second.  When the channel accepts both, this is all that is asked of
it (`renderElevated_uploads`).

What the second file runs is read off its text, not off the values it
was made from: the command behind its mark, decoded, and the task's name
in the two places where it stands.  Three ids are drawn, one for each
file and one for the task.
-/
import RemoteProvision.Channel.Scripted
import RemoteProvision.Proofs.Command.Places
import RemoteProvision.Proofs.Encoding.Command
import RemoteProvision.Proofs.Run.Follows

namespace RemoteProvision

open RemoteProvision.Command
open RemoteProvision.Encoding
open RemoteProvision.Text (between)

variable {σ τ π : Type}

-- ======================================================= what is asked

/-- An upload is accepted, other calls are not looked at. -/
def Asked.Accepted : Asked π → Prop
  | .upload _ _ _ answer => answer = .ok ()
  | _ => True

namespace Run

/-- What an elevated command is filled to, for the path that its
variables went to. -/
def filledElevated (settings : Settings) (path : String) :
    Except Template.Fault String :=
  Template.render settings.elevatedExecuteCommand
    (Template.Fields.ofList
      [("Vars", path), ("Path", settings.remotePath)])

theorem fillElevated_filled {settings : Settings}
    {path command : String}
    (h : filledElevated settings path = .ok command) :
    fillElevated settings path = .ok command := by
  rw [fillElevated, fillCommand, ← filledElevated, h]
  rfl

/-- When both uploads are accepted and the template has no mistake, the
command line is rendered. -/
theorem Rendered.accepted {settings : Settings} {scene : Scene}
    {credentials : Credentials} {command : String}
    {calls : List (Asked π)} {result : Except ProvisionError String}
    (h : Rendered settings scene calls result)
    (helevated : settings.elevated = some credentials)
    (hfilled : filledElevated settings scene.varsPath = .ok command)
    (haccepted : ∀ call ∈ calls, call.Accepted) :
    calls = [varsCall settings scene (.ok ()),
      wrapperCall credentials command scene (.ok ())] ∧
    result = .ok (fileLine scene.wrapper.shellPath) := by
  have hfill := fillElevated_filled hfilled
  cases h with
  | plain hplain =>
      rw [helevated] at hplain
      cases hplain
  | varsRefused =>
      cases haccepted _ (List.mem_cons_self ..)
  | unfilled _ hunfilled =>
      rw [hfill] at hunfilled
      cases hunfilled
  | wrapperRefused =>
      cases haccepted _ (List.mem_cons_of_mem _ (List.mem_cons_self ..))
  | elevated hcredentials hcommand =>
      rw [helevated] at hcredentials
      rw [hfill] at hcommand
      cases hcredentials
      cases hcommand
      exact ⟨rfl, rfl⟩

-- ======================================================== what it says

/-- The name of a task is plain if its id is. -/
theorem plain_taskName (credentials : Credentials) (command : String)
    {id : String} (hid : Ids.Plain id) :
    Ids.Plain (taskOf credentials command id).name := by
  have hstem : Ids.Plain "psprov-" := by decide
  exact hstem.append hid

/-- The script of a task says which command it runs, and twice which
task it is. -/
theorem script_says (credentials : Credentials) (command : String)
    {id : String} (hid : Ids.Plain id) :
    let script := (taskOf credentials command id).script
    between "-EncodedCommand " " " script
      = some (encodeCommand command) ∧
    between "$name = '" "'" script = some ("psprov-" ++ id) ∧
    between "%TEMP%\\" ".out" script = some ("psprov-" ++ id) := by
  have hname := plain_taskName credentials command hid
  have hspace : ' ' ∉ (encodeCommand command).toList :=
    notMem_encodeCommand (by decide +kernel) command
  have hpercent : '%' ∉ (encodeCommand command).toList :=
    notMem_encodeCommand (by decide +kernel) command
  exact ⟨ElevatedTask.between_argument hname rfl hspace,
    ElevatedTask.between_name hname rfl,
    ElevatedTask.between_log hname rfl hpercent⟩

/-- The line that runs the wrapper names its file. -/
theorem fileLine_wrapper (id : String) :
    fileLine (wrapperFile id).shellPath
      = "powershell -executionpolicy bypass -file \"%TEMP%\\"
        ++ ("psprov-elevated-shell-" ++ id ++ ".ps1") ++ "\"" := by
  unfold fileLine wrapperFile RemoteFile.inTemp
  rw [← String.append_assoc]
  congr 2

-- ========================================================= the theorem

/-- Over any settings with credentials, addresses, ids of letters,
digits and hyphens, and any channel that accepts the uploads: when the
template has no mistake, exactly two files are uploaded.  The first is
the text of the variables.  The second carries the command that was
filled with the path of the first, and names its task twice.  The
command line runs the second, and three ids are drawn. -/
theorem renderElevated_uploads (ch : Channel σ π) {settings : Settings}
    {credentials : Credentials} {command : String} (s : State σ τ)
    (helevated : settings.elevated = some credentials)
    (hids : ∀ n, Ids.Plain (s.ids.answer n))
    (hfilled : filledElevated settings s.scene.varsPath = .ok command)
    (haccepted : ∀ x ∈ (renderElevated ch.watched settings credentials
      s.watched).2.log, x.call.Accepted) :
    let rendered :=
      renderElevated ch.watched settings credentials s.watched
    let varsName := "psprov-env-vars-" ++ s.scene.id 0 ++ ".ps1"
    let taskName := "psprov-" ++ s.scene.id 1
    let wrapperName := "psprov-elevated-shell-" ++ s.scene.id 2 ++ ".ps1"
    renderCommand ch settings s = unwatch rendered ∧
    s.scene.varsPath = "$\x7benv:TEMP\x7d\\" ++ varsName ∧
    (∃ script argument,
      rendered.2.log.map Exchange.call
        = [.upload s.scene.varsPath
            (.ofText
              (settings.environment.assemble true s.scene.address))
            false (.ok ()),
          .upload ("$\x7benv:TEMP\x7d\\" ++ wrapperName)
            (.ofText script) false (.ok ())] ∧
      between "-EncodedCommand " " " script = some argument ∧
      decodeCommand argument = .ok command ∧
      between "$name = '" "'" script = some taskName ∧
      between "%TEMP%\\" ".out" script = some taskName) ∧
    rendered.1
      = .ok ("powershell -executionpolicy bypass -file \"%TEMP%\\"
          ++ wrapperName ++ "\"") ∧
    rendered.2.ids = s.ids.skip 3 := by
  have hcommand : renderCommand ch.watched settings s.watched
      = renderElevated ch.watched settings credentials s.watched := by
    simp only [renderCommand, helevated]
  have hunwatched := renderCommand_unwatched ch settings s.watched
  obtain ⟨calls, ids, hrendered, hleg, hdrawn⟩ :=
    renderCommand_rendered ch settings s.watched
  rw [hcommand] at hunwatched hrendered hleg hdrawn
  obtain ⟨xs, hlog, hcalls, -, -, hids', -⟩ := hleg
  have hlog : (renderElevated ch.watched settings credentials
      s.watched).2.log = xs := hlog
  rw [hlog] at haccepted
  obtain ⟨rfl, hresult⟩ := hrendered.accepted helevated hfilled
    (by rw [← hcalls]; exact List.forall_mem_map.2 haccepted)
  have hthree : ids = 3 := by
    rw [hdrawn (by rw [hresult]; rfl), idsDrawn, helevated]
    rfl
  obtain ⟨hargument, hname, hname'⟩ :=
    script_says credentials command (hids (s.ids.taken + 1))
  refine ⟨hunwatched, rfl, ⟨_, encodeCommand command, ?_, hargument,
    decodeCommand_encodeCommand command, hname, hname'⟩, ?_, ?_⟩
  · rw [hlog, hcalls]
    rfl
  · rw [hresult]
    exact congrArg _ (fileLine_wrapper _)
  · rw [hids', hthree]
    rfl

/-- Credentials that hold the marks of the script. -/
def markedCredentials : Credentials :=
  ⟨"$name = 'x'", "-EncodedCommand %TEMP%\\.out"⟩

/-- A command that runs its variables. -/
def markedSettings : Settings where
  identity := ⟨"box", "virtualbox"⟩
  binary := false
  scripts := ["setup.ps1"]
  inlineCommands := []
  environmentVars := ["X=\x7b\x7b.Path\x7d\x7d"]
  remotePath := "c:/script.ps1"
  executeCommand := ""
  elevatedExecuteCommand :=
    ". '\x7b\x7b.Vars\x7d\x7d'; & '\x7b\x7b.Path\x7d\x7d'"
  startRetryTimeout := .ofSeconds 1
  envVarFormat := ""
  elevatedEnvVarFormat := "$env:%s='%s'; "
  elevated := some markedCredentials
  validExitCodes := [0]

/-- A run that has not begun, with ids that count up. -/
def markedState : State Scripted Nat where
  channel := {}
  disk := { items := [], home := [], staging := "/", spare := none }
  time := 0
  ids := Ids.counting "id"
  addresses := Feed.fresh fun _ => none
  journal := []

/-- The command with its slots filled. -/
def markedCommand : String :=
  ". '$\x7benv:TEMP\x7d\\psprov-env-vars-id1.ps1'; & 'c:/script.ps1'"

private theorem marked_filled :
    filledElevated markedSettings markedState.scene.varsPath
      = .ok markedCommand := by
  have hparts : Template.segments markedSettings.elevatedExecuteCommand
      = [.literal ". '".toList, .action 3 (.field "Vars"),
          .literal "'; & '".toList, .action 18 (.field "Path"),
          .literal ['\x27']] := by
    decide +kernel
  rw [filledElevated, Template.render, hparts]
  rfl

private theorem marked_accepted :
    ∀ x ∈ (renderElevated Scripted.channel.watched markedSettings
      markedCredentials markedState.watched).2.log, x.call.Accepted := by
  have hcommand : renderElevated Scripted.channel.watched markedSettings
      markedCredentials markedState.watched
    = renderCommand Scripted.channel.watched markedSettings
        markedState.watched := rfl
  have hvars : uploadVars Scripted.channel.watched markedSettings
      markedState.watched
    = (.ok markedState.scene.varsPath,
        (uploadVars Scripted.channel.watched markedSettings
          markedState.watched).2) := rfl
  rw [hcommand, renderCommand_filled rfl hvars
    (fillElevated_filled marked_filled), uploadWrapper_eq, uploadFilled_ok]
  refine List.forall_mem_cons.2 ⟨?_, List.forall_mem_singleton.2 ?_⟩
  · rfl
  · rfl

/-- The marks in the credentials are not taken for the script's. -/
theorem marked_uploads :
    let rendered := renderElevated Scripted.channel.watched
      markedSettings markedCredentials markedState.watched
    markedSettings.elevated = some markedCredentials ∧
    (∀ n, Ids.Plain (markedState.ids.answer n)) ∧
    filledElevated markedSettings markedState.scene.varsPath
      = .ok markedCommand ∧
    (∀ x ∈ rendered.2.log, x.call.Accepted) ∧
    (∃ script argument,
      rendered.2.log.map Exchange.call
        = [.upload "$\x7benv:TEMP\x7d\\psprov-env-vars-id1.ps1"
            (.ofText (markedSettings.environment.assemble true none))
            false (.ok ()),
          .upload "$\x7benv:TEMP\x7d\\psprov-elevated-shell-id3.ps1"
            (.ofText script) false (.ok ())] ∧
      between "-EncodedCommand " " " script = some argument ∧
      decodeCommand argument = .ok markedCommand ∧
      between "$name = '" "'" script = some "psprov-id2" ∧
      between "%TEMP%\\" ".out" script = some "psprov-id2") ∧
    rendered.1
      = .ok ("powershell -executionpolicy bypass -file "
          ++ "\"%TEMP%\\psprov-elevated-shell-id3.ps1\"") := by
  have hplain : Ids.Plain "id" := by decide
  obtain ⟨-, -, huploads, hline, -⟩ :=
    renderElevated_uploads Scripted.channel markedState
      (show markedSettings.elevated = some markedCredentials from rfl)
      (Ids.plain_counting hplain) marked_filled marked_accepted
  exact ⟨rfl, Ids.plain_counting hplain, marked_filled, marked_accepted,
    huploads, hline⟩

end Run

end RemoteProvision
