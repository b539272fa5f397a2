/-
The cases of a run.

The functions that make up a run branch on what the channel answers.
For each of them the branches are stated here as equations, under the
answers that lead to them.  What is proved of runs is proved from these
equations, so a change to one of the functions ends here.

The wrapper is always filled (`ElevatedTask.wrapper_eq`), so uploading
it has no branch but the answer of the channel.
-/
import RemoteProvision.Proofs.Command.Wrapper
import RemoteProvision.Run.Provision

namespace RemoteProvision.Run

open RemoteProvision.Command

variable {σ τ π : Type} {ch : Channel σ π} {clock : Clock τ}
  {limit : Nat} {settings : Settings} {plan : Plan}
  {s s' s'' : State σ τ}

-- ======================================================= rendering

section Rendering

variable {credentials : Credentials} {path command : String}
  {e : ProvisionError}

/-- The variables are a helper upload, behind the address and an id. -/
theorem uploadVars_eq :
    uploadVars ch settings s
      = ((uploadHelper ch s.nextAddress.2.nextId.2
            (varsFile s.nextAddress.2.nextId.1).uploadPath
            (settings.environment.assemble true s.nextAddress.1)).1.map
          fun _ => (varsFile s.nextAddress.2.nextId.1).uploadPath,
        (uploadHelper ch s.nextAddress.2.nextId.2
          (varsFile s.nextAddress.2.nextId.1).uploadPath
          (settings.environment.assemble true s.nextAddress.1)).2) := rfl

/-- A wrapper that was filled is a helper upload, behind its id. -/
theorem uploadFilled_ok {script : String} :
    uploadFilled ch s (.ok script)
      = ((uploadHelper ch s.nextId.2
            (wrapperFile s.nextId.1).uploadPath script).1.map
          fun _ => wrapperFile s.nextId.1,
        (uploadHelper ch s.nextId.2
          (wrapperFile s.nextId.1).uploadPath script).2) := rfl

/-- Uploading a wrapper is uploading the script of its task, under the
second of two ids. -/
theorem uploadWrapper_eq :
    uploadWrapper ch credentials command s
      = uploadFilled ch s.nextId.2
          (.ok (taskOf credentials command s.nextId.1).script) := by
  show uploadFilled ch s.nextId.2
    (taskOf credentials command s.nextId.1).wrapper = _
  exact congrArg _ (ElevatedTask.wrapper_eq _)

theorem renderCommand_plain (h : settings.elevated = none) :
    renderCommand ch settings s
      = (plainLine settings s.nextAddress.1, s.nextAddress.2) := by
  simp only [renderCommand, h, renderPlain]

theorem renderCommand_varsRefused
    (h : settings.elevated = some credentials)
    (hvars : uploadVars ch settings s = (.error e, s')) :
    renderCommand ch settings s = (.error e, s') := by
  simp only [renderCommand, h, renderElevated, hvars]

theorem renderCommand_unfilled
    (h : settings.elevated = some credentials)
    (hvars : uploadVars ch settings s = (.ok path, s'))
    (hfill : fillElevated settings path = .error e) :
    renderCommand ch settings s = (.error e, s') := by
  simp only [renderCommand, h, renderElevated, hvars, hfill]

theorem renderCommand_filled
    (h : settings.elevated = some credentials)
    (hvars : uploadVars ch settings s = (.ok path, s'))
    (hfill : fillElevated settings path = .ok command) :
    renderCommand ch settings s
      = ((uploadWrapper ch credentials command s').1.map
            fun file => fileLine file.shellPath,
          (uploadWrapper ch credentials command s').2) := by
  simp only [renderCommand, h, renderElevated, hvars, hfill]

end Rendering

-- ======================================================== attempts

section Attempts

variable {place : Place} {command : String}
  {a : Attempting σ τ} {taken : Nat} {fault : ChannelFault}

theorem attempt_refused
    (h : a.state.upload ch settings.remotePath (.file place 0)
      settings.binary = ((.error fault, taken), s)) :
    attempt ch settings place command a
      = (.error (.upload settings.remotePath fault),
          ⟨s, a.reported, taken⟩) := by
  simp only [attempt, h, Nat.zero_add]

theorem attempt_started {process : π}
    (h : a.state.upload ch settings.remotePath (.file place 0)
      settings.binary = ((.ok (), taken), s))
    (hstart : s.start ch command = (.ok process, s')) :
    attempt ch settings place command a
      = (.ok process, ⟨s', a.reported, taken⟩) := by
  simp only [attempt, h, hstart, Nat.zero_add]

/-- A start that fails is reported unless one was reported before. -/
theorem attempt_unstarted
    (h : a.state.upload ch settings.remotePath (.file place 0)
      settings.binary = ((.ok (), taken), s))
    (hstart : s.start ch command = (.error fault, s')) :
    attempt ch settings place command a
      = (.error (.start fault),
          ⟨if a.reported then s' else
            s'.complain (startFailure settings.startRetryTimeout fault),
            true, taken⟩) := by
  simp only [attempt, h, hstart, Nat.zero_add]
  cases hreported : a.reported with
  | false => simp
  | true => simp

end Attempts

-- ========================================================= scripts

section Scripts

variable {place : Place} {path command : String} {process : π}
  {e : ProvisionError} {fault : ChannelFault} {code : Int}

theorem finish_unwaited
    (h : s.wait ch process = (.error fault, s')) :
    finish ch settings process s = (.failed (.wait fault), s') := by
  simp only [finish, h]

theorem finish_waited
    (h : s.wait ch process = (.ok code, s')) :
    finish ch settings process s
      = (if settings.allows code then .done
          else .failed (.nonZeroExit code settings.validExitCodes),
        s') := by
  simp only [finish, h]
  cases hallows : settings.allows code with
  | false => simp
  | true => simp

theorem runScript_unopened {fault : IoFault}
    (h : s.disk.openAt path = .error fault) :
    runScript ch clock limit plan path s
      = (.failed (.scriptOpen path fault), s) := by
  simp only [runScript, h]

theorem runScript_unrendered
    (h : s.disk.openAt path = .ok place)
    (hrender : renderCommand ch plan.settings s = (.error e, s')) :
    runScript ch clock limit plan path s = (.failed e, s') := by
  simp only [runScript, h, hrender]

theorem runScript_undecided
    (h : s.disk.openAt path = .ok place)
    (hrender : renderCommand ch plan.settings s = (.ok command, s'))
    (hlaunch : launch ch clock limit plan place command s'
      = (.undecided, s'')) :
    runScript ch clock limit plan path s = (.undecided, s'') := by
  simp only [runScript, h, hrender, hlaunch]

theorem runScript_gaveUp
    (h : s.disk.openAt path = .ok place)
    (hrender : renderCommand ch plan.settings s = (.ok command, s'))
    (hlaunch : launch ch clock limit plan place command s'
      = (.gaveUp e, s'')) :
    runScript ch clock limit plan path s = (.failed e, s'') := by
  simp only [runScript, h, hrender, hlaunch]

theorem runScript_launched
    (h : s.disk.openAt path = .ok place)
    (hrender : renderCommand ch plan.settings s = (.ok command, s'))
    (hlaunch : launch ch clock limit plan place command s'
      = (.succeeded process, s'')) :
    runScript ch clock limit plan path s
      = finish ch plan.settings process s'' := by
  simp only [runScript, h, hrender, hlaunch]

/-- Behind a script that is done come the others. -/
theorem runScripts_done {rest : List String}
    (h : runScript ch clock limit plan path (s.say (scriptLine path))
      = (.done, s')) :
    runScripts ch clock limit plan (path :: rest) s
      = runScripts ch clock limit plan rest s' := by
  simp only [runScripts, h]

/-- A script that is not done is the last. -/
theorem runScripts_stopped {rest : List String} {verdict : Verdict}
    (h : runScript ch clock limit plan path (s.say (scriptLine path))
      = (verdict, s'))
    (hverdict : verdict ≠ .done) :
    runScripts ch clock limit plan (path :: rest) s
      = (verdict, s') := by
  cases verdict with
  | done => exact absurd rfl hverdict
  | failed e => simp only [runScripts, h]
  | undecided => simp only [runScripts, h]

theorem provision_unstaged
    (h : collect plan.settings s.disk = .error e) :
    provision ch clock limit plan s
      = (.failed e, s.say openingLine) := by
  have h : collect plan.settings (s.say openingLine).disk = .error e := h
  simp only [provision, h]

theorem provision_staged {scripts : Scripts} {disk : Disk}
    {verdict : Verdict}
    (h : collect plan.settings s.disk = .ok (scripts, disk))
    (hrun : runScripts ch clock limit plan scripts.paths
      { s.say openingLine with disk := disk } = (verdict, s')) :
    provision ch clock limit plan s
      = (verdict, { s' with disk := scripts.discard s'.disk }) := by
  have h : collect plan.settings (s.say openingLine).disk
      = .ok (scripts, disk) := h
  simp only [provision, h, hrun]

end Scripts

end RemoteProvision.Run
