/-
Dry runs.

A configuration that was loaded brings script files that are there.  A
dry run of it can be followed to its end if they can be read, a file can
be staged for inline commands, and the template in force can be filled
(`Rehearsable`).  Whether a template can be filled does not depend on
what its slots are filled with, so it can then be filled for every
script (`Fillable.line`).

One thing more decides, which has nothing to do with a dry run: commands
that are never run count as ended with 0, and that code may not be
allowed.  Then there is no list, and the answer is that of a run whose
script failed (`render_rehearses`).
-/
import RemoteProvision.Proofs.Cli.Listing
import RemoteProvision.Proofs.Config.Resolving
import RemoteProvision.Proofs.Run.Offered
import RemoteProvision.Proofs.Template.Filling

namespace RemoteProvision

namespace Run

-- ========================================================= templates

/-- The template in force. -/
def templateInForce (settings : Settings) : String :=
  match settings.elevated with
  | none => settings.executeCommand
  | some _ => settings.elevatedExecuteCommand

/-- The template in force can be filled. -/
def Fillable (settings : Settings) : Prop :=
  ∃ vars path command,
    fillCommand (templateInForce settings) vars path = .ok command

/-- A template without slots is its own command. -/
theorem fillCommand_plain {template : String}
    (h : Template.cutAtDouble '\x7b' template.toList = none)
    (vars path : String) : fillCommand template vars path = .ok template := by
  unfold fillCommand
  rw [Template.render_of_fills (Template.Fills.plain h),
    String.ofList_toList]
  rfl

theorem fillCommand_ok {template vars path command : String}
    (h : fillCommand template vars path = .ok command)
    (vars' path' : String) :
    ∃ other, fillCommand template vars' path' = .ok other := by
  unfold fillCommand at h ⊢
  cases hfilled : Template.render template
    (Template.Fields.ofList [("Vars", vars), ("Path", path)]) with
  | error fault =>
      rw [hfilled] at h
      cases h
  | ok text =>
      have hsame : ∀ name,
          (Template.Fields.ofList [("Vars", vars), ("Path", path)]
            name).isSome →
          (Template.Fields.ofList [("Vars", vars'), ("Path", path')]
            name).isSome := by
        intro name
        unfold Template.Fields.ofList
        rw [List.lookup_cons, List.lookup_cons, List.lookup_cons,
          List.lookup_cons]
        cases name == "Vars" <;> cases name == "Path" <;> exact id
      obtain ⟨other, hother⟩ := Template.render_ok hsame hfilled
      rw [hother]
      exact ⟨other, rfl⟩

/-- Then every script has a command line. -/
theorem Fillable.line {settings : Settings} (h : Fillable settings)
    (scene : Scene) : ∃ line, scene.line settings = .ok line := by
  obtain ⟨vars, path, command, hfill⟩ := h
  unfold Scene.line
  unfold templateInForce at hfill
  cases helevated : settings.elevated with
  | none =>
      simp only [helevated] at hfill
      obtain ⟨other, hother⟩ := fillCommand_ok hfill
        (settings.environment.assemble false scene.address)
        settings.remotePath
      exact ⟨Command.encodedLine other, by
        simp only [plainLine, hother]
        rfl⟩
  | some credentials =>
      simp only [helevated] at hfill
      obtain ⟨other, hother⟩ :=
        fillCommand_ok hfill scene.varsPath settings.remotePath
      exact ⟨_, by
        simp only [fillElevated, hother]
        rfl⟩

end Run

namespace Cli

open RemoteProvision.Run

variable {settings : Settings} {path : String}

-- ========================================================== what is found

/-- The settings of a configuration. -/
def Machine.settingsOf (m : Machine) (config : Config) : Settings :=
  config.settingsAt (config.uploadPath m.ids).1

/-- What the first script of a run finds when its files are staged. -/
def Machine.sceneOf (m : Machine) (config : Config)
    (httpAddr : Option String) (disk : Disk) : Scene :=
  ⟨disk, (config.uploadPath m.ids).2, Feed.fresh fun _ => httpAddr⟩

variable {m : Machine} {config : Config} {scripts : Scripts} {disk : Disk}

/-- A configuration that was loaded has no problems. -/
theorem clean_of_load (h : Config.load disk path = .ok config) :
    config.issues disk = [] := by
  unfold Config.load at h
  cases hread : disk.readText path with
  | error fault =>
      rw [hread] at h
      cases h
  | ok text =>
      rw [hread] at h
      exact Config.clean_of_ofYaml h

theorem prepare_loaded (h : Config.load m.disk path = .ok config) :
    m.prepare path
      = .ok (m.settingsOf config, (config.uploadPath m.ids).2) := by
  unfold Machine.prepare
  rw [h]
  have hresolve : config.resolve m.disk m.ids = _ :=
    Config.resolve_clean (clean_of_load h)
  simp only [bind, Except.bind, hresolve]
  rfl

/-- What was collected can be read: the script files as before, and the
staged one. -/
theorem readable_collected {start : Disk}
    (hcollect : collect settings start = .ok (scripts, disk))
    (hread : ∀ path ∈ settings.scripts,
      ∃ content, start.readBytes path = .ok content) :
    ∀ path ∈ scripts.paths,
      ∃ content, disk.readBytes path = .ok content := by
  have hcollected := collect_ok hcollect
  have hnamed : ∀ path ∈ settings.scripts,
      ∃ content, disk.readBytes path = .ok content := by
    intro path hpath
    obtain ⟨content, hcontent⟩ := hread path hpath
    obtain ⟨place, hopen, -⟩ := openAt_of_readBytes hcontent
    exact ⟨content, (hcollected.kept path place hopen).2.trans hcontent⟩
  by_cases hinline : settings.inlineCommands = []
  · rw [hcollected.named hinline]
    exact hnamed
  · obtain ⟨staged, hpaths, hstaged⟩ := hcollected.staged hinline
    rw [hpaths]
    exact List.forall_mem_append.2
      ⟨hnamed, List.forall_mem_singleton.2 ⟨_, hstaged⟩⟩

-- ======================================================= the theorem

/-- What the user is told of some scripts. -/
def toldOf (paths : List String) : List Ui.Entry :=
  ⟨.say, openingLine⟩ :: paths.map scriptEntry

theorem consoleErr_toldOf (paths : List String) :
    Ui.consoleErr (toldOf paths) = "" := by
  have hnone : (toldOf paths).filter (·.kind = .error) = [] := by
    rw [List.filter_eq_nil_iff]
    refine List.forall_mem_cons.2 ⟨by decide, ?_⟩
    intro entry hentry
    obtain ⟨path, -, rfl⟩ := List.mem_map.1 hentry
    exact (by decide : ¬ decide (Ui.Kind.say = Ui.Kind.error) = true)
  rw [Ui.consoleErr, hnone]
  rfl

/-- The plan of a dry run: there are no pauses. -/
def dryPlan (settings : Settings) : Plan := ⟨settings, .ofSeconds 0⟩

/-- The state in which the first script of a dry run is told of. -/
def Machine.stagedState (ids : Feed String) (httpAddr : Option String)
    (disk : Disk) : State Recording Nat :=
  ⟨{}, disk, 0, ids, Feed.fresh fun _ => httpAddr,
    [.told ⟨.say, openingLine⟩]⟩

section Runs

variable (ids : Feed String) (httpAddr : Option String) {first : String}
  {rest : List String}
  (hcollect : collect settings m.disk = .ok (scripts, disk))
  (hready : AllReady settings disk scripts.paths)

include hcollect hready

/-- If 0 is allowed, a dry run is done, and the channel has the events of
all scripts. -/
theorem provision_rehearsed (hallows : settings.allows 0 = true) :
    ∃ s', m.provision Recording.channel {} (dryPlan settings) ids httpAddr
        = (.done, s') ∧
      s'.disk = scripts.discard disk ∧
      s'.entries = toldOf scripts.paths ∧
      s'.channel.events
        = Scene.rehearsals settings
            ⟨disk, ids, Feed.fresh fun _ => httpAddr⟩ scripts.paths := by
  have hcalm : Calm (Machine.stagedState ids httpAddr disk) := rfl
  obtain ⟨s', hrun, hs'⟩ := runScripts_rehearsed
    (Clock.stepping m.clockStep) (dryPlan settings) hcalm
    (Nat.succ_pos _) hallows hready
  have hcollect : collect (dryPlan settings).settings m.disk
    = .ok (scripts, disk) := hcollect
  refine ⟨_, provision_staged hcollect hrun, ?_, hs'.entries, ?_⟩
  · exact congrArg scripts.discard hs'.disk
  · exact congrArg Recording.events hs'.channel

/-- If it is not, the first script ends the run. -/
theorem provision_refused (hpaths : scripts.paths = first :: rest)
    (hallows : settings.allows 0 = false) :
    ∃ s', m.provision Recording.channel {} (dryPlan settings) ids httpAddr
        = (.failed (.nonZeroExit 0 settings.validExitCodes), s') ∧
      s'.disk = scripts.discard disk ∧
      s'.entries = toldOf [first] := by
  rw [hpaths] at hready
  have hcalm : Calm (Machine.stagedState ids httpAddr disk) := rfl
  obtain ⟨s', hrun, hs'⟩ := runScripts_refused
    (Clock.stepping m.clockStep) (dryPlan settings) hcalm
    (Nat.succ_pos _) hallows hready
  rw [← hpaths] at hrun
  have hcollect : collect (dryPlan settings).settings m.disk
    = .ok (scripts, disk) := hcollect
  refine ⟨_, provision_staged hcollect hrun, ?_, hs'.entries⟩
  exact congrArg scripts.discard hs'.disk

end Runs

/-- What a dry run needs: a configuration that can be loaded, a file that
can be staged for inline commands, script files that can be read, and a
template that can be filled. -/
structure Rehearsable (m : Machine) (path : String) (config : Config)
    (scripts : Scripts) (disk : Disk) : Prop where
  loaded : Config.load m.disk path = .ok config
  collected : collect (m.settingsOf config) m.disk = .ok (scripts, disk)
  readable : ∀ script ∈ config.scriptFiles,
    ∃ content, m.disk.readBytes script = .ok content
  fillable : Fillable (m.settingsOf config)

theorem Rehearsable.ready
    (h : Rehearsable m path config scripts disk) :
    AllReady (m.settingsOf config) disk scripts.paths :=
  ⟨readable_collected h.collected h.readable, h.fillable.line⟩

/-- If 0 is allowed, all scripts are listed. -/
theorem render_listed (h : Rehearsable m path config scripts disk)
    (httpAddr : Option String)
    (hallows : (m.settingsOf config).allows 0 = true) :
    render m path httpAddr
      = some (⟨0, Ui.consoleOut (toldOf scripts.paths) ++ "\n"
          ++ scriptsText (m.settingsOf config)
            (m.sceneOf config httpAddr disk) scripts.paths, ""⟩,
        scripts.discard disk) := by
  obtain ⟨s', hrun, hdisk, hentries, hevents⟩ := provision_rehearsed
    (config.uploadPath m.ids).2 httpAddr h.collected h.ready hallows
  have hlisted : Listed s'.channel.events
      (scriptsText (m.settingsOf config) (m.sceneOf config httpAddr disk)
        scripts.paths) := by
    rw [hevents]
    exact listed_scripts h.ready
  unfold Listed at hlisted
  unfold dryPlan at hrun
  simp only [render, prepare_loaded h.loaded, hrun, hlisted, hentries,
    hdisk, consoleErr_toldOf, Answer.ofResult]

/-- If it is not, the run counts as one whose first script failed. -/
theorem render_refused (h : Rehearsable m path config scripts disk)
    (httpAddr : Option String)
    (hallows : (m.settingsOf config).allows 0 = false) :
    render m path httpAddr
      = some (⟨4, Ui.consoleOut (toldOf (scripts.paths.take 1)),
          errorLine
            (.nonZeroExit 0 (m.settingsOf config).validExitCodes)⟩,
        scripts.discard disk) := by
  have hpaths : scripts.paths ≠ [] :=
    (Config.resolved_of_clean (clean_of_load h.loaded) m.ids).runs _ _ _
      h.collected
  obtain ⟨first, rest, hpaths⟩ := List.exists_cons_of_ne_nil hpaths
  obtain ⟨s', hrun, hdisk, hentries⟩ := provision_refused
    (config.uploadPath m.ids).2 httpAddr h.collected h.ready hpaths hallows
  unfold dryPlan at hrun
  simp only [render, prepare_loaded h.loaded, hrun, hentries, hdisk,
    consoleErr_toldOf, Answer.ofResult, String.empty_append, hpaths]
  rfl

/-- The answer to a dry run that can be followed to its end.  When 0 is
an allowed code, it is a list of all scripts in their order: of the
helper files of each, the script itself and the command line that was
rendered for it, with the command that a plain one carries below it.
When it is not, there is no list but the error of a script that ended
with 0, though nothing was run. -/
theorem render_rehearses (h : Rehearsable m path config scripts disk)
    (httpAddr : Option String) :
    render m path httpAddr
      = some (if (m.settingsOf config).allows 0 then
            ⟨0, Ui.consoleOut (toldOf scripts.paths) ++ "\n"
              ++ scriptsText (m.settingsOf config)
                (m.sceneOf config httpAddr disk) scripts.paths, ""⟩
          else
            ⟨4, Ui.consoleOut (toldOf (scripts.paths.take 1)),
              errorLine
                (.nonZeroExit 0 (m.settingsOf config).validExitCodes)⟩,
        scripts.discard disk) := by
  cases hallows : (m.settingsOf config).allows 0 with
  | true => exact render_listed h httpAddr hallows
  | false => exact render_refused h httpAddr hallows

-- ---------------------------------------- a script that asks to reboot

/-- A machine with a script of one byte and a configuration. -/
def machineWith (text : String) : Machine where
  disk :=
    { items :=
        [(["c.yaml"], .file (Text.toBytes text) false),
          (["s.ps1"], .file [120] false)]
      home := []
      staging := "/"
      spare := none }
  environment := []
  startMillis := 0
  stamp := ""
  clockStep := 1

/-- A configuration for that script, with the codes that it may end
with. -/
def configWith (codes : List Int) : Config where
  script := some "s.ps1"
  remotePath := some "c:/s.ps1"
  executeCommand := "run"
  validExitCodes := codes

/-- The configuration as it is written. -/
def textWith (codes : String) : String :=
  "script: s.ps1\nremote_path: c:/s.ps1\nexecute_command: run\n"
    ++ "valid_exit_codes: [" ++ codes ++ "]\n"

/-- If the configuration is read from its text, the dry run can be
followed. -/
theorem rehearsable_with {text : String} {codes : List Int}
    (hload : (match Config.load (machineWith text).disk "c.yaml" with
      | .ok config => config == configWith codes
      | .error _ => false) = true) :
    Rehearsable (machineWith text) "c.yaml" (configWith codes)
      ⟨["s.ps1"], none⟩ (machineWith text).disk where
  loaded := by
    cases hconfig : Config.load (machineWith text).disk "c.yaml" with
    | error e =>
        rw [hconfig] at hload
        cases hload
    | ok config =>
        rw [hconfig] at hload
        rw [eq_of_beq hload]
  collected := rfl
  readable := by
    have hscript : (machineWith text).disk.readBytes "s.ps1"
        = .ok [120] := rfl
    exact List.forall_mem_singleton.2 ⟨_, hscript⟩
  fillable := by
    have hplain : Template.cutAtDouble '\x7b' "run".toList = none := by
      decide +kernel
    exact ⟨"", "", "run", fillCommand_plain hplain "" ""⟩

/-- A script that may end with 0, or with the code for a reboot, is
listed. -/
theorem reboot_listed :
    Rehearsable (machineWith (textWith "0, 3010")) "c.yaml"
      (configWith [0, 3010]) ⟨["s.ps1"], none⟩
      (machineWith (textWith "0, 3010")).disk ∧
    ∃ out, (render (machineWith (textWith "0, 3010")) "c.yaml" none).map
      Prod.fst = some ⟨0, out, ""⟩ := by
  have h : Rehearsable (machineWith (textWith "0, 3010")) "c.yaml"
      (configWith [0, 3010]) ⟨["s.ps1"], none⟩
      (machineWith (textWith "0, 3010")).disk :=
    rehearsable_with (by decide +kernel)
  have hallows : ((machineWith (textWith "0, 3010")).settingsOf
      (configWith [0, 3010])).allows 0 = true := rfl
  have hanswer := render_rehearses h none
  rw [if_pos hallows] at hanswer
  rw [hanswer]
  exact ⟨h, _, rfl⟩

/-- One that has to end with the code for a reboot is not, though the
dry run never runs it. -/
theorem reboot_unlisted :
    Rehearsable (machineWith (textWith "3010")) "c.yaml"
      (configWith [3010]) ⟨["s.ps1"], none⟩
      (machineWith (textWith "3010")).disk ∧
    ¬ ∃ out, (render (machineWith (textWith "3010")) "c.yaml" none).map
      Prod.fst = some ⟨0, out, ""⟩ := by
  have h : Rehearsable (machineWith (textWith "3010")) "c.yaml"
      (configWith [3010]) ⟨["s.ps1"], none⟩
      (machineWith (textWith "3010")).disk :=
    rehearsable_with (by decide +kernel)
  refine ⟨h, ?_⟩
  rintro ⟨out, hout⟩
  rw [render_refused h none rfl, Option.map_some] at hout
  injection hout with hanswer
  injection hanswer with hcode
  cases hcode

end Cli

end RemoteProvision
