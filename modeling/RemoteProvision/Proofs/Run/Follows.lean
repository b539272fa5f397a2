/-
The parts of a run follow its course.

The relations of a course are met by the functions of a run: rendering
and attempts here, each of which is a leg as its relation says, and what
comes behind the window of a script.  All of it is a distinction of the
cases in which the functions branch.  The window itself and the scripts
in their order use the clock as well; they are put together from these
parts in `Rounds`.
-/
import RemoteProvision.Proofs.Run.Naming

namespace RemoteProvision.Run

open RemoteProvision.Command

variable {σ τ π : Type} {ch : Channel σ π} {clock : Clock τ}
  {limit : Nat} {settings : Settings} {plan : Plan}
  {s s' : State (σ × List (Exchange π)) τ}

/-- What the next script finds in a state. -/
def State.scene {σ τ : Type} (s : State σ τ) : Scene :=
  ⟨s.disk, s.ids, s.addresses⟩

-- ======================================================= rendering

/-- The variables go to their path, or the channel's fault is passed
on. -/
theorem uploadVars_leg (ch : Channel σ π) (settings : Settings)
    (s : State (σ × List (Exchange π)) τ) :
    ∃ answer : Except ChannelFault Unit,
      (uploadVars ch.watched settings s).1
        = (answer.mapError (.upload s.scene.varsPath)).map
            (fun _ => s.scene.varsPath) ∧
      Leg ch s [varsCall settings s.scene answer] 1 1
        (uploadVars ch.watched settings s).2 := by
  obtain ⟨answer, hanswer, hleg⟩ :=
    Leg.uploadHelper ch s.nextAddress.2.nextId.2 s.scene.varsPath
      (settings.environment.assemble true s.scene.address)
  refine ⟨answer, ?_, ?_⟩
  · rw [← hanswer]
    rfl
  · exact Leg.nextAddress.trans (Leg.nextId.trans hleg)

theorem uploadWrapper_leg (ch : Channel σ π) (credentials : Credentials)
    (command : String) (s : State (σ × List (Exchange π)) τ)
    (scene : Scene) (hid : s.nextId.1 = scene.id 1)
    (hfile : s.nextId.2.nextId.1 = scene.id 2) :
    ∃ answer : Except ChannelFault Unit,
      (uploadWrapper ch.watched credentials command s).1
        = (answer.mapError (.upload scene.wrapper.uploadPath)).map
            (fun _ => scene.wrapper) ∧
      Leg ch s [wrapperCall credentials command scene answer] 2 0
        (uploadWrapper ch.watched credentials command s).2 := by
  rw [uploadWrapper_eq, uploadFilled_ok, hid, hfile]
  obtain ⟨answer, hanswer, hleg⟩ :=
    Leg.uploadHelper ch s.nextId.2.nextId.2 scene.wrapper.uploadPath
      (taskOf credentials command (scene.id 1)).script
  refine ⟨answer, ?_, ?_⟩
  · rw [← hanswer]
    rfl
  · exact Leg.nextId.trans (Leg.nextId.trans hleg)

/-- Rendering a command line is a leg as its relation says, and the ids
that it draws stand in its calls.  They are at most those of the
settings, and all of those when a command line comes of it. -/
theorem renderCommand_leg (ch : Channel σ π) (settings : Settings)
    (s : State (σ × List (Exchange π)) τ) :
    ∃ calls uses,
      Rendered settings s.scene calls
        (renderCommand ch.watched settings s).1 ∧
      Naming settings s.ids calls uses ∧
      Leg ch s calls uses.length 1
        (renderCommand ch.watched settings s).2 ∧
      uses.length ≤ idsDrawn settings ∧
      ((renderCommand ch.watched settings s).1.isOk →
        uses.length = idsDrawn settings) := by
  cases helevated : settings.elevated with
  | none =>
      rw [renderCommand_plain helevated]
      refine ⟨[], [], .plain helevated, .none, .nextAddress,
        Nat.zero_le _, fun _ => ?_⟩
      simp [idsDrawn, helevated]
  | some credentials =>
      have hthree : idsDrawn settings = 3 := by
        rw [idsDrawn, helevated]
        rfl
      rw [hthree]
      obtain ⟨answer, hanswer, hleg⟩ := uploadVars_leg ch settings s
      rcases hvars : uploadVars ch.watched settings s with ⟨result, s'⟩
      rw [hvars] at hanswer hleg
      cases answer with
      | error fault =>
          cases hanswer
          rw [renderCommand_varsRefused helevated hvars]
          exact ⟨_, _, .varsRefused helevated,
            s.scene.naming_vars _, hleg, (by decide : 1 ≤ 3), nofun⟩
      | ok =>
          cases hanswer
          cases hfill : fillElevated settings s.scene.varsPath with
          | error e =>
              rw [renderCommand_unfilled helevated hvars hfill]
              exact ⟨_, _, .unfilled helevated hfill,
                s.scene.naming_vars _, hleg, (by decide : 1 ≤ 3), nofun⟩
          | ok command =>
              rw [renderCommand_filled helevated hvars hfill]
              have hids : s'.ids = s.ids.skip 1 := by
                obtain ⟨_, _, _, _, _, hids, _⟩ := hleg
                exact hids
              obtain ⟨answer, hanswer, hleg'⟩ :=
                uploadWrapper_leg ch credentials command s' s.scene
                  (by rw [State.nextId, hids]; rfl)
                  (by rw [State.nextId, State.nextId, hids]; rfl)
              generalize uploadWrapper ch.watched credentials command s'
                = done at hanswer hleg' ⊢
              obtain ⟨file, s''⟩ := done
              cases answer with
              | error fault =>
                  cases hanswer
                  exact ⟨_, _, .wrapperRefused helevated hfill,
                    s.scene.naming_wrapper credentials command _ _,
                    hleg.trans hleg', Nat.le_refl 3, nofun⟩
              | ok =>
                  cases hanswer
                  exact ⟨_, _, .elevated helevated hfill,
                    s.scene.naming_wrapper credentials command _ _,
                    hleg.trans hleg', Nat.le_refl 3, fun _ => rfl⟩

/-- When a command line comes of it, the number of ids is that of the
settings. -/
theorem renderCommand_rendered (ch : Channel σ π) (settings : Settings)
    (s : State (σ × List (Exchange π)) τ) :
    ∃ calls ids,
      Rendered settings s.scene calls
        (renderCommand ch.watched settings s).1 ∧
      Leg ch s calls ids 1 (renderCommand ch.watched settings s).2 ∧
      ((renderCommand ch.watched settings s).1.isOk →
        ids = idsDrawn settings) := by
  obtain ⟨calls, uses, hrendered, -, hleg, -, hdrawn⟩ :=
    renderCommand_leg ch settings s
  exact ⟨calls, uses.length, hrendered, hleg, hdrawn⟩

-- ======================================================== attempts

section Attempts

variable {place : Place} {command : String}
  {a a' : Attempting (σ × List (Exchange π)) τ}

/-- An attempt that fails is a refusal. -/
theorem attempt_refusal {e : ProvisionError}
    (h : attempt ch.watched settings place command a = (.error e, a')) :
    ∃ calls, Refusal settings place command calls e ∧
      Leg ch a.state calls 0 0 a'.state := by
  rcases hupload : a.state.upload ch.watched settings.remotePath
    (.file place 0) settings.binary with ⟨⟨result, taken⟩, s⟩
  cases result with
  | error fault =>
      rw [attempt_refused hupload] at h
      cases h
      exact ⟨_, .upload fault, .upload hupload⟩
  | ok =>
      rcases hstart : s.start ch.watched command with ⟨result, s'⟩
      cases result with
      | ok process =>
          rw [attempt_started hupload hstart] at h
          cases h
      | error fault =>
          rw [attempt_unstarted hupload hstart] at h
          cases h
          refine ⟨_, .start fault, (Leg.upload hupload).call ?_⟩
          cases a.reported with
          | true => exact .start hstart
          | false => exact (Leg.start hstart).rest (.complain _)

/-- One that succeeds is an upload and a start. -/
theorem attempt_success {process : π}
    (h : attempt ch.watched settings place command a
      = (.ok process, a')) :
    Leg ch a.state
      [scriptCall settings place (.ok ()),
        .start command (.ok process)] 0 0 a'.state := by
  rcases hupload : a.state.upload ch.watched settings.remotePath
    (.file place 0) settings.binary with ⟨⟨result, taken⟩, s⟩
  cases result with
  | error fault =>
      rw [attempt_refused hupload] at h
      cases h
  | ok =>
      rcases hstart : s.start ch.watched command with ⟨result, s'⟩
      cases result with
      | error fault =>
          rw [attempt_unstarted hupload hstart] at h
          cases h
      | ok started =>
          rw [attempt_started hupload hstart] at h
          cases h
          exact (Leg.upload hupload).call (.start hstart)

/-- One more refusal at the end of a row. -/
theorem Refusals.snoc {calls last : List (Asked π)}
    {errors : List ProvisionError} {e : ProvisionError}
    (h : Refusals settings place command calls errors)
    (he : Refusal settings place command last e) :
    Refusals settings place command (calls ++ last) (errors ++ [e]) := by
  induction h with
  | none =>
      have hrow := Refusals.more he .none
      rw [List.append_nil] at hrow
      exact hrow
  | more hfirst _ ih =>
      rw [List.append_assoc]
      exact .more hfirst ih

end Attempts

-- ========================================================= scripts

/-- What follows on a window is a leg as its relation says. -/
theorem runScript_finished {path command : String} {place : Place}
    {s rendered launched : State (σ × List (Exchange π)) τ}
    {tried : Tried π}
    (hopen : s.disk.openAt path = .ok place)
    (hrender : renderCommand ch.watched plan.settings s
      = (.ok command, rendered))
    (hlaunch : launch ch.watched clock limit plan place command rendered
      = (tried, launched)) :
    ∃ rest,
      Finished plan.settings tried rest
        (runScript ch.watched clock limit plan path s).1 ∧
      Leg ch launched rest 0 0
        (runScript ch.watched clock limit plan path s).2 := by
  cases tried with
  | undecided =>
      rw [runScript_undecided hopen hrender hlaunch]
      exact ⟨[], .undecided, .still rfl rfl rfl rfl⟩
  | gaveUp e =>
      rw [runScript_gaveUp hopen hrender hlaunch]
      exact ⟨[], .gaveUp e, .still rfl rfl rfl rfl⟩
  | succeeded process =>
      rw [runScript_launched hopen hrender hlaunch]
      rcases hwait : launched.wait ch.watched process
        with ⟨answer, waited⟩
      cases answer with
      | error fault =>
          rw [finish_unwaited hwait]
          exact ⟨_, .unwaited process fault, .wait hwait⟩
      | ok code =>
          rw [finish_waited hwait]
          cases hallows : plan.settings.allows code with
          | true => exact ⟨_, .done process hallows, .wait hwait⟩
          | false => exact ⟨_, .exited process hallows, .wait hwait⟩

-- ==================================================== the whole run

/-- What the first script finds, for the local files that staging
left. -/
def State.opening {σ τ : Type} (s : State σ τ) (disk : Disk) : Scene :=
  ⟨disk, s.ids, s.addresses⟩

/-- When staging fails, that is all there is of the run. -/
theorem provision_unstaged_watched (ch : Channel σ π)
    (clock : Clock τ) (limit : Nat) (plan : Plan) (s : State σ τ)
    {e : ProvisionError} (h : collect plan.settings s.disk = .error e) :
    provision ch.watched clock limit plan s.watched
      = (.failed e, s.watched.say openingLine) := by
  have hcollect : collect plan.settings
    (s.watched : State (σ × List (Exchange π)) τ).disk = .error e := h
  exact provision_unstaged hcollect

/-- So nothing is asked of the channel. -/
theorem provision_unstaged_log (ch : Channel σ π) (clock : Clock τ)
    (limit : Nat) (plan : Plan) (s : State σ τ) {e : ProvisionError}
    (h : collect plan.settings s.disk = .error e) :
    (provision ch.watched clock limit plan s.watched).1 = .failed e ∧
    (provision ch.watched clock limit plan s.watched).2.log = [] := by
  rw [provision_unstaged_watched ch clock limit plan s h]
  exact ⟨rfl, rfl⟩

end RemoteProvision.Run
