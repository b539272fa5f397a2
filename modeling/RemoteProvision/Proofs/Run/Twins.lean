/-
Two runs side by side.

A run knows its channel only by its answers.  So if two channels answer
alike (`Channel.Twins`), two runs over them go the same way: they reach
the same verdict, and what they leave behind differs in nothing but the
states of their channels and in what the channels were offered
(`provision_agree`).

Three relations are left open.  One is between the states of the
channels, one says which sources the channels take for each other, and
one says which steps of the journals count as the same.  The runs may
then be for different credentials, as long as their wrappers are taken
for each other (`Exchangeable`); nothing else in the settings is read by
one run and not by the other.

Each function of the run keeps the states alike, and the proofs follow
its cases.
-/
import Mathlib.Data.List.Forall2
import RemoteProvision.Proofs.Run.Cases
import RemoteProvision.Proofs.Run.Tries

namespace RemoteProvision

open RemoteProvision.Command

variable {σ σ' τ π : Type}

/-- Channels that answer alike: in related states, and for sources that
are taken for each other, with the same results, prints and local files.
Every source is taken for itself. -/
structure Channel.Twins (ch : Channel σ π) (ch' : Channel σ' π)
    (Offers : Source → Source → Prop) (R : σ → σ' → Prop) : Prop where
  own (source : Source) : Offers source source
  upload {c : σ} {c' : σ'} {source source' : Source} (disk : Disk)
      (path : String) (binary : Bool) :
    R c c' → Offers source source' →
    (ch.upload c disk path source binary).result
        = (ch'.upload c' disk path source' binary).result ∧
      (ch.upload c disk path source binary).disk
        = (ch'.upload c' disk path source' binary).disk ∧
      R (ch.upload c disk path source binary).state
        (ch'.upload c' disk path source' binary).state
  start {c : σ} {c' : σ'} (disk : Disk) (command : String) :
    R c c' →
    (ch.start c disk command).result = (ch'.start c' disk command).result ∧
      (ch.start c disk command).disk = (ch'.start c' disk command).disk ∧
      R (ch.start c disk command).state (ch'.start c' disk command).state
  wait {c : σ} {c' : σ'} (disk : Disk) (process : π) :
    R c c' →
    (ch.wait c disk process).result = (ch'.wait c' disk process).result ∧
      (ch.wait c disk process).output = (ch'.wait c' disk process).output ∧
      (ch.wait c disk process).disk = (ch'.wait c' disk process).disk ∧
      R (ch.wait c disk process).state (ch'.wait c' disk process).state

/-- The same settings for another user. -/
def Settings.runAs (settings : Settings) (elevated : Option Credentials) :
    Settings :=
  { settings with elevated := elevated }

namespace Run

/-- The same plan for another user. -/
def Plan.runAs (plan : Plan) (elevated : Option Credentials) : Plan :=
  { plan with settings := plan.settings.runAs elevated }

-- ============================================================ states

/-- States that differ in what their channels know and in steps that
count as the same. -/
structure State.Alike (R : σ → σ' → Prop) (Steps : Step → Step → Prop)
    (s : State σ τ) (s' : State σ' τ) : Prop where
  channel : R s.channel s'.channel
  disk : s.disk = s'.disk
  time : s.time = s'.time
  ids : s.ids = s'.ids
  addresses : s.addresses = s'.addresses
  journal : List.Forall₂ Steps s.journal s'.journal

/-- Credentials whose wrappers are taken for each other, and whose
uploads count as the same step. -/
structure Exchangeable (Offers : Source → Source → Prop)
    (Steps : Step → Step → Prop) (credentials credentials' : Credentials) :
    Prop where
  offer (command taskId : String) :
    Offers (.ofText (taskOf credentials command taskId).script)
      (.ofText (taskOf credentials' command taskId).script)
  step (command taskId fileId : String)
      (result : Except ChannelFault Unit) :
    Steps
      (.upload (wrapperFile fileId).uploadPath
        (.ok (Text.toBytes (taskOf credentials command taskId).script))
        false result)
      (.upload (wrapperFile fileId).uploadPath
        (.ok (Text.toBytes (taskOf credentials' command taskId).script))
        false result)

variable {ch : Channel σ π} {ch' : Channel σ' π}
  {Offers : Source → Source → Prop} {R : σ → σ' → Prop}
  {Steps : Step → Step → Prop} {s : State σ τ} {s' : State σ' τ}

namespace State.Alike

theorem note {step step' : Step} (h : s.Alike R Steps s')
    (hstep : Steps step step') :
    (s.note step).Alike R Steps (s'.note step') where
  channel := h.channel
  disk := h.disk
  time := h.time
  ids := h.ids
  addresses := h.addresses
  journal := List.rel_append h.journal (.cons hstep .nil)

theorem nextId (h : s.Alike R Steps s') :
    Agree (State.Alike R Steps) s.nextId s'.nextId := by
  unfold State.nextId
  rw [← h.ids]
  exact ⟨rfl, h.channel, h.disk, h.time, rfl, h.addresses, h.journal⟩

theorem nextAddress (h : s.Alike R Steps s') :
    Agree (State.Alike R Steps) s.nextAddress s'.nextAddress := by
  unfold State.nextAddress
  rw [← h.addresses]
  exact ⟨rfl, h.channel, h.disk, h.time, h.ids, rfl, h.journal⟩

/-- What a call leaves behind. -/
theorem moved {c : σ} {c' : σ'} {disk disk' : Disk} (hchannel : R c c')
    (hdisk : disk = disk') (h : s.Alike R Steps s') :
    State.Alike R Steps { s with channel := c, disk := disk }
      { s' with channel := c', disk := disk' } :=
  ⟨hchannel, hdisk, h.time, h.ids, h.addresses, h.journal⟩

variable (htwins : ch.Twins ch' Offers R)

include htwins

/-- How much of a source was read is left out: twins may stop at
different places. -/
theorem upload (h : s.Alike R Steps s') (path : String)
    {source source' : Source} (binary : Bool)
    (hoffers : Offers source source')
    (hstep : ∀ result,
      Steps (.upload path (source.read s.disk) binary result)
        (.upload path (source'.read s.disk) binary result)) :
    (s.upload ch path source binary).1.1
        = (s'.upload ch' path source' binary).1.1 ∧
      (s.upload ch path source binary).2.Alike R Steps
        (s'.upload ch' path source' binary).2 := by
  obtain ⟨hresult, hdisk, hstate⟩ :=
    htwins.upload s.disk path binary h.channel hoffers
  unfold State.upload
  rw [← h.disk]
  refine ⟨hresult, (h.moved hstate hdisk).note ?_⟩
  rw [← hresult]
  exact hstep _

variable (hsame : ∀ step, Steps step step)

include hsame

theorem start (h : s.Alike R Steps s') (command : String) :
    Agree (State.Alike R Steps) (s.start ch command)
      (s'.start ch' command) := by
  obtain ⟨hresult, hdisk, hstate⟩ := htwins.start s.disk command h.channel
  unfold State.start
  rw [← h.disk]
  refine ⟨hresult, (h.moved hstate hdisk).note ?_⟩
  rw [← hresult]
  exact hsame _

theorem wait (h : s.Alike R Steps s') (process : π) :
    Agree (State.Alike R Steps) (s.wait ch process)
      (s'.wait ch' process) := by
  obtain ⟨hresult, houtput, hdisk, hstate⟩ :=
    htwins.wait s.disk process h.channel
  unfold State.wait
  rw [← h.disk]
  refine ⟨hresult, hstate, hdisk, h.time, h.ids, h.addresses, ?_⟩
  simp only [← hresult, ← houtput]
  have hself : ∀ steps : List Step, List.Forall₂ Steps steps steps :=
    fun steps => List.forall₂_same.2 fun step _ => hsame step
  exact List.rel_append (List.rel_append h.journal (hself _)) (hself _)

end State.Alike

-- ========================================================= rendering

variable {settings : Settings} {credentials credentials' : Credentials}
  {elevated : Option Credentials} {plan : Plan} {path text text' : String}
  (htwins : ch.Twins ch' Offers R)

include htwins

theorem uploadHelper_agree (h : s.Alike R Steps s')
    (hoffers : Offers (.ofText text) (.ofText text'))
    (hstep : ∀ result, Steps (.upload path (.ok (Text.toBytes text)) false
      result) (.upload path (.ok (Text.toBytes text')) false result)) :
    Agree (State.Alike R Steps) (uploadHelper ch s path text)
      (uploadHelper ch' s' path text') := by
  obtain ⟨hresult, halike⟩ := h.upload htwins path false hoffers hstep
  exact ⟨congrArg (Except.mapError (ProvisionError.upload path)) hresult,
    halike⟩

/-- A wrapper is uploaded alike for credentials that are exchangeable. -/
theorem uploadWrapper_agree
    (hcredentials : Exchangeable Offers Steps credentials credentials')
    (h : s.Alike R Steps s') (command : String) :
    Agree (State.Alike R Steps) (uploadWrapper ch credentials command s)
      (uploadWrapper ch' credentials' command s') := by
  obtain ⟨htask, halike⟩ := h.nextId
  obtain ⟨hfile, halike⟩ := halike.nextId
  rw [uploadWrapper_eq, uploadWrapper_eq, uploadFilled_ok,
    uploadFilled_ok, ← htask, ← hfile]
  exact (uploadHelper_agree htwins halike (hcredentials.offer command _)
    (hcredentials.step command _ _)).map _

variable (hsame : ∀ step, Steps step step)

include hsame

theorem uploadVars_agree (h : s.Alike R Steps s') :
    Agree (State.Alike R Steps) (uploadVars ch settings s)
      (uploadVars ch' settings s') := by
  obtain ⟨haddress, halike⟩ := h.nextAddress
  obtain ⟨hid, halike⟩ := halike.nextId
  rw [uploadVars_eq, uploadVars_eq, ← haddress, ← hid]
  exact (uploadHelper_agree htwins halike (htwins.own _)
    fun result => hsame _).map _

theorem renderCommand_agree
    (helevated : Option.Rel (Exchangeable Offers Steps) settings.elevated
      elevated) (h : s.Alike R Steps s') :
    Agree (State.Alike R Steps) (renderCommand ch settings s)
      (renderCommand ch' (settings.runAs elevated) s') := by
  generalize hown : settings.elevated = own at helevated
  cases helevated with
  | none =>
      obtain ⟨haddress, halike⟩ := h.nextAddress
      have hother : (settings.runAs none).elevated = none := rfl
      rw [renderCommand_plain hown, renderCommand_plain hother, ← haddress]
      exact ⟨rfl, halike⟩
  | @some credentials credentials' hcredentials =>
      have hother : (settings.runAs (some credentials')).elevated
        = some credentials' := rfl
      have hvars : Agree (State.Alike R Steps) (uploadVars ch settings s)
          (uploadVars ch' settings s') := uploadVars_agree htwins hsame h
      obtain ⟨result, t, t', hvars, hvars', halike⟩ := hvars.split
      have hvars' : uploadVars ch' (settings.runAs (some credentials')) s'
        = (result, t') := hvars'
      cases result with
      | error e =>
          rw [renderCommand_varsRefused hown hvars,
            renderCommand_varsRefused hother hvars']
          exact ⟨rfl, halike⟩
      | ok path =>
          have hfills : fillElevated (settings.runAs (some credentials'))
            path = fillElevated settings path := rfl
          cases hfill : fillElevated settings path with
          | error e =>
              rw [renderCommand_unfilled hown hvars hfill,
                renderCommand_unfilled hother hvars' (hfills.trans hfill)]
              exact ⟨rfl, halike⟩
          | ok command =>
              rw [renderCommand_filled hown hvars hfill,
                renderCommand_filled hother hvars' (hfills.trans hfill)]
              exact (uploadWrapper_agree htwins hcredentials halike
                command).map _

-- ========================================================== attempts

/-- What the attempts of two scripts share. -/
def Attempting.Alike (R : σ → σ' → Prop) (Steps : Step → Step → Prop)
    (a : Attempting σ τ) (a' : Attempting σ' τ) : Prop :=
  a.state.Alike R Steps a'.state ∧ a.reported = a'.reported

theorem attempt_agree (settings : Settings)
    (place : Place) (command : String) {a : Attempting σ τ}
    {a' : Attempting σ' τ} (h : a.Alike R Steps a') :
    Agree (Attempting.Alike R Steps) (attempt ch settings place command a)
      (attempt ch' settings place command a') := by
  obtain ⟨hstate, hreported⟩ := h
  obtain ⟨hresult, halike⟩ := hstate.upload htwins settings.remotePath
    settings.binary (htwins.own (.file place 0)) fun result => hsame _
  rcases hupload : a.state.upload ch settings.remotePath (.file place 0)
    settings.binary with ⟨⟨result, taken⟩, t⟩
  rcases hupload' : a'.state.upload ch' settings.remotePath
    (.file place 0) settings.binary with ⟨⟨result', taken'⟩, t'⟩
  rw [hupload, hupload'] at hresult halike
  cases hresult
  cases result with
  | error fault =>
      rw [attempt_refused hupload, attempt_refused hupload']
      exact ⟨rfl, halike, hreported⟩
  | ok =>
      obtain ⟨result, u, u', hstart, hstart', hstarted⟩ :=
        (halike.start htwins hsame command).split
      cases result with
      | ok process =>
          rw [attempt_started hupload hstart,
            attempt_started hupload' hstart']
          exact ⟨rfl, hstarted, hreported⟩
      | error fault =>
          rw [attempt_unstarted hupload hstart,
            attempt_unstarted hupload' hstart', ← hreported]
          refine ⟨rfl, ?_, rfl⟩
          cases a.reported with
          | true => exact hstarted
          | false => exact hstarted.note (hsame _)

theorem launch_agree (clock : Clock τ) (limit : Nat)
    (plan : Plan) (place : Place) (command : String)
    (h : s.Alike R Steps s') :
    Agree (State.Alike R Steps) (launch ch clock limit plan place command s)
      (launch ch' clock limit plan place command s') := by
  have hread : ∀ (a : Attempting σ τ) (a' : Attempting σ' τ),
      a.Alike R Steps a' → Agree (Attempting.Alike R Steps)
        (clock.attempting.read a) (clock.attempting.read a') := by
    rintro a a' ⟨hstate, hreported⟩
    have htime : clock.read a.state.time = clock.read a'.state.time :=
      congrArg clock.read hstate.time
    refine ⟨congrArg Prod.fst htime, ⟨?_, hreported⟩⟩
    exact ⟨hstate.channel, hstate.disk, congrArg Prod.snd htime,
      hstate.ids, hstate.addresses, hstate.journal⟩
  have hpause : ∀ span (a : Attempting σ τ) (a' : Attempting σ' τ),
      a.Alike R Steps a' → (clock.attempting.pause span a).Alike R Steps
        (clock.attempting.pause span a') := by
    rintro span a a' ⟨hstate, hreported⟩
    have hlater : State.Alike R Steps
        { a.state with time := clock.pause span a.state.time }
        { a'.state with time := clock.pause span a'.state.time } :=
      ⟨hstate.channel, hstate.disk, congrArg (clock.pause span) hstate.time,
        hstate.ids, hstate.addresses, hstate.journal⟩
    exact ⟨hlater.note (hsame _), hreported⟩
  have hbegin : Attempting.Alike R Steps ⟨s, false, 0⟩ ⟨s', false, 0⟩ :=
    ⟨h, rfl⟩
  obtain ⟨htried, hstate, -⟩ := plan.window.run_agree limit
    (fun a a' => attempt_agree htwins hsame plan.settings place command)
    hread hpause hbegin
  exact ⟨htried, hstate⟩

-- =========================================================== scripts

theorem finish_agree (settings : Settings) (process : π)
    (h : s.Alike R Steps s') :
    Agree (State.Alike R Steps) (finish ch settings process s)
      (finish ch' settings process s') := by
  obtain ⟨result, t, t', hwait, hwait', halike⟩ :=
    (h.wait htwins hsame process).split
  cases result with
  | error fault =>
      rw [finish_unwaited hwait, finish_unwaited hwait']
      exact ⟨rfl, halike⟩
  | ok code =>
      rw [finish_waited hwait, finish_waited hwait']
      exact ⟨rfl, halike⟩

theorem runScript_agree
    (helevated : Option.Rel (Exchangeable Offers Steps)
      plan.settings.elevated elevated)
    (clock : Clock τ) (limit : Nat) (path : String)
    (h : s.Alike R Steps s') :
    Agree (State.Alike R Steps) (runScript ch clock limit plan path s)
      (runScript ch' clock limit (plan.runAs elevated) path s') := by
  have hopen' : s'.disk.openAt path = s.disk.openAt path := by
    rw [h.disk]
  cases hopen : s.disk.openAt path with
  | error fault =>
      rw [hopen] at hopen'
      rw [runScript_unopened hopen, runScript_unopened hopen']
      exact ⟨rfl, h⟩
  | ok place =>
      rw [hopen] at hopen'
      obtain ⟨result, t, t', hrender, hrender', halike⟩ :=
        (renderCommand_agree htwins hsame helevated h).split
      cases result with
      | error e =>
          rw [runScript_unrendered hopen hrender,
            runScript_unrendered hopen' hrender']
          exact ⟨rfl, halike⟩
      | ok command =>
          obtain ⟨tried, u, u', hlaunch, hlaunch', halike⟩ :=
            (launch_agree htwins hsame clock limit plan place command
              halike).split
          have hlaunch' : launch ch' clock limit (plan.runAs elevated)
            place command t' = (tried, u') := hlaunch'
          cases tried with
          | undecided =>
              rw [runScript_undecided hopen hrender hlaunch,
                runScript_undecided hopen' hrender' hlaunch']
              exact ⟨rfl, halike⟩
          | gaveUp e =>
              rw [runScript_gaveUp hopen hrender hlaunch,
                runScript_gaveUp hopen' hrender' hlaunch']
              exact ⟨rfl, halike⟩
          | succeeded process =>
              rw [runScript_launched hopen hrender hlaunch,
                runScript_launched hopen' hrender' hlaunch']
              exact finish_agree htwins hsame plan.settings process halike

theorem runScripts_agree
    (helevated : Option.Rel (Exchangeable Offers Steps)
      plan.settings.elevated elevated)
    (clock : Clock τ) (limit : Nat) (paths : List String)
    (h : s.Alike R Steps s') :
    Agree (State.Alike R Steps) (runScripts ch clock limit plan paths s)
      (runScripts ch' clock limit (plan.runAs elevated) paths s') := by
  induction paths generalizing s s' with
  | nil => exact ⟨rfl, h⟩
  | cons path rest ih =>
      have hsaid : (s.say (scriptLine path)).Alike R Steps
          (s'.say (scriptLine path)) := h.note (hsame _)
      obtain ⟨verdict, t, t', hrun, hrun', halike⟩ :=
        (runScript_agree htwins hsame helevated clock limit path
          hsaid).split
      by_cases hverdict : verdict = .done
      · subst hverdict
        rw [runScripts_done hrun, runScripts_done hrun']
        exact ih halike
      · rw [runScripts_stopped hrun hverdict,
          runScripts_stopped hrun' hverdict]
        exact ⟨rfl, halike⟩

/-- Two runs over twins go the same way. -/
theorem provision_agree
    (helevated : Option.Rel (Exchangeable Offers Steps)
      plan.settings.elevated elevated)
    (clock : Clock τ) (limit : Nat) (h : s.Alike R Steps s') :
    Agree (State.Alike R Steps) (provision ch clock limit plan s)
      (provision ch' clock limit (plan.runAs elevated) s') := by
  have hsaid : (s.say openingLine).Alike R Steps (s'.say openingLine) :=
    h.note (hsame _)
  have hcollected : collect (plan.runAs elevated).settings s'.disk
      = collect plan.settings s.disk := by
    rw [← h.disk]
    rfl
  cases hcollect : collect plan.settings s.disk with
  | error e =>
      rw [provision_unstaged hcollect,
        provision_unstaged (hcollected.trans hcollect)]
      exact ⟨rfl, hsaid⟩
  | ok collected =>
      obtain ⟨scripts, disk⟩ := collected
      have hstaged : State.Alike R Steps
          { s.say openingLine with disk := disk }
          { s'.say openingLine with disk := disk } :=
        ⟨hsaid.channel, rfl, hsaid.time, hsaid.ids, hsaid.addresses,
          hsaid.journal⟩
      obtain ⟨verdict, t, t', hrun, hrun', halike⟩ :=
        (runScripts_agree htwins hsame helevated clock limit scripts.paths
          hstaged).split
      rw [provision_staged hcollect hrun,
        provision_staged (hcollected.trans hcollect) hrun']
      exact ⟨rfl, halike.channel, congrArg scripts.discard halike.disk,
        halike.time, halike.ids, halike.addresses, halike.journal⟩

end Run

end RemoteProvision
