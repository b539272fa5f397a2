/-
Mistakes in templates, and what is uploaded before they are seen.

A plain command line is filled without the channel, so a mistake in its
template is found before anything is uploaded.  An elevated one is
filled with the path of a file that is there by then: its variables are
uploaded first, and a mistake in the template is found behind that
(`renderCommand_silent_iff`).  The wrapper is no part of this.  It comes
behind the filling, and its own template has no mistakes.
-/
import RemoteProvision.Channel.Scripted
import RemoteProvision.Proofs.Run.Verdicts

namespace RemoteProvision.Run

open RemoteProvision.Command

variable {σ τ π : Type} {ch : Channel σ π} {settings : Settings}
  {s : State σ τ}

-- ======================================================= the variables

/-- What a channel answers when it is offered the variables. -/
def varsAnswer (ch : Channel σ π) (settings : Settings)
    (s : State σ τ) : Except ChannelFault Unit :=
  (ch.upload s.channel s.disk s.scene.varsPath
    (.ofText (settings.environment.assemble true s.scene.address))
    false).result

/-- Uploading the variables is one call, with the answer of the
channel. -/
theorem uploadVars_watched (ch : Channel σ π) (settings : Settings)
    (s : State σ τ) :
    (uploadVars ch.watched settings s.watched).1
      = ((varsAnswer ch settings s).mapError
          (.upload s.scene.varsPath)).map (fun _ => s.scene.varsPath) ∧
    (uploadVars ch.watched settings s.watched).2.log.map Exchange.call
      = [varsCall settings s.scene (varsAnswer ch settings s)] :=
  ⟨rfl, rfl⟩

/-- Behind a command that was filled no template is to blame. -/
theorem uploadWrapper_ne_template {credentials : Credentials}
    {command : String} (s : State (σ × List (Exchange π)) τ)
    (fault : Template.Fault) :
    ((uploadWrapper ch.watched credentials command s).1.map
      fun file => fileLine file.shellPath)
      ≠ .error (.template fault) := by
  rw [uploadWrapper_eq, uploadFilled_ok]
  obtain ⟨answer, hanswer, -⟩ :=
    Leg.uploadHelper ch s.nextId.2.nextId.2
      (wrapperFile s.nextId.2.nextId.1).uploadPath
      (taskOf credentials command s.nextId.1).script
  rw [hanswer]
  cases answer with
  | error e => exact nofun
  | ok => exact nofun

-- ======================================================= the theorem

/-- Over any settings, ids, addresses and channel: a mistake in the
template comes without an upload exactly when the command is plain, or
the channel refuses the variables, or the elevated template has no
mistake.  Otherwise one file was uploaded before it: the variables. -/
theorem renderCommand_silent_iff (ch : Channel σ π)
    (settings : Settings) (s : State σ τ) :
    let rendered := renderCommand ch.watched settings s.watched
    renderCommand ch settings s = unwatch rendered ∧
    ((∀ fault, rendered.1 = .error (.template fault) →
        rendered.2.log = []) ↔
      settings.elevated = none ∨
      (∃ fault, varsAnswer ch settings s = .error fault) ∨
      ∃ command,
        fillElevated settings s.scene.varsPath = .ok command) ∧
    ∀ fault, rendered.1 = .error (.template fault) →
      settings.elevated.isSome →
      rendered.2.log.map Exchange.call
        = [varsCall settings s.scene (.ok ())] := by
  refine ⟨renderCommand_unwatched ch settings s.watched, ?_⟩
  cases helevated : settings.elevated with
  | none =>
      rw [renderCommand_plain helevated]
      exact ⟨⟨fun _ => .inl rfl, fun _ _ _ => rfl⟩, nofun⟩
  | some credentials =>
      obtain ⟨hresult, hlog⟩ :=
        uploadVars_watched ch settings s
      rcases hvars : uploadVars ch.watched settings s.watched
        with ⟨result, s'⟩
      rw [hvars] at hresult hlog
      cases hanswer : varsAnswer ch settings s with
      | error refusal =>
          rw [hanswer] at hresult
          cases hresult
          rw [renderCommand_varsRefused helevated hvars]
          exact ⟨⟨fun _ => .inr (.inl ⟨refusal, rfl⟩), nofun⟩, nofun⟩
      | ok =>
          rw [hanswer] at hresult hlog
          cases hresult
          cases hfill : fillElevated settings s.scene.varsPath with
          | ok command =>
              rw [renderCommand_filled helevated hvars hfill]
              have hne : ∀ fault,
                  ((uploadWrapper ch.watched credentials command s').1.map
                    fun file => fileLine file.shellPath)
                  ≠ .error (.template fault) :=
                uploadWrapper_ne_template s'
              generalize uploadWrapper ch.watched credentials command s'
                = done at hne ⊢
              refine ⟨⟨fun _ => .inr (.inr ⟨command, rfl⟩), ?_⟩, ?_⟩
              · exact fun _ fault h => absurd h (hne fault)
              · exact fun fault h => absurd h (hne fault)
          | error e =>
              obtain ⟨fault, rfl⟩ := fillCommand_error hfill
              rw [renderCommand_unfilled helevated hvars hfill]
              refine ⟨⟨fun hsilent => ?_, ?_⟩, fun _ _ _ => hlog⟩
              · have hnil : s'.log = [] := hsilent fault rfl
                rw [hnil] at hlog
                cases hlog
              · rintro (h | ⟨refusal, h⟩ | ⟨command, h⟩)
                · cases h
                · cases h
                · cases h

/-- An elevated command whose template names a field that there is
not. -/
def typoSettings : Settings where
  identity := ⟨"box", "virtualbox"⟩
  binary := false
  scripts := []
  inlineCommands := ["dir"]
  environmentVars := []
  remotePath := "c:/script.ps1"
  executeCommand := ""
  elevatedExecuteCommand := "\x7b\x7b.Typo\x7d\x7d"
  startRetryTimeout := .ofSeconds 1
  envVarFormat := ""
  elevatedEnvVarFormat := ""
  elevated := some ⟨"admin", "secret"⟩
  validExitCodes := [0]

/-- A channel that accepts everything. -/
def typoState : State Scripted Nat where
  channel := {}
  disk := { items := [], home := [], staging := "/", spare := none }
  time := 0
  ids := Feed.fresh toString
  addresses := Feed.fresh fun _ => none
  journal := []

/-- The mistake is found behind an upload. -/
theorem typo_uploads :
    ¬ ∀ fault : Template.Fault,
      (renderCommand Scripted.channel.watched typoSettings
        typoState.watched).1 = .error (.template fault) →
      (renderCommand Scripted.channel.watched typoSettings
        typoState.watched).2.log = [] := by
  have hparts : Template.segments typoSettings.elevatedExecuteCommand
      = [.action 0 (.field "Typo")] := by
    decide +kernel
  have hfill : fillElevated typoSettings typoState.scene.varsPath
      = .error (.template (.undefinedField "Typo" 0)) := by
    rw [fillElevated, fillCommand, Template.render, hparts]
    rfl
  obtain ⟨hresult, hlog⟩ :=
    uploadVars_watched Scripted.channel typoSettings typoState
  rcases hvars : uploadVars Scripted.channel.watched typoSettings
    typoState.watched with ⟨result, s'⟩
  rw [hvars] at hresult hlog
  cases hresult
  rw [renderCommand_unfilled rfl hvars hfill]
  intro hsilent
  have hnil : s'.log = [] := hsilent _ rfl
  rw [hnil] at hlog
  cases hlog

end RemoteProvision.Run
