/-
Rehearsals.

A run over a recording channel for which nothing was scripted meets no
refusal: every upload of what can be read is accepted, every start
succeeds, and every command ends with 0.  So the first attempt of each
script is its last, and what the run leaves in the channel is known from
what it finds: for each script its helper files, the script, and its
command line (`Scene.rehearsal`).

Each action of a run adds its events to those that are there and leaves
the local files alone (`Rehearsed`); actions that follow each other add
up.  Only the code that every command ends with has to be allowed, or
the first script is the last (`runScripts_refused`).
-/
import RemoteProvision.Channel.Recording
import RemoteProvision.Proofs.Run.Independence

namespace RemoteProvision.Run

open RemoteProvision.Text (Bytes)

variable {τ : Type} {s s' s'' : State Recording τ}

-- ====================================================== what is added

/-- Nothing was scripted for the channel of a state. -/
def Calm (s : State Recording τ) : Prop :=
  s.channel = { events := s.channel.events }

/-- What lies between two states of a rehearsal: the events on the
channel, what the user was told, and how many ids and addresses were
drawn. -/
structure Rehearsed (s : State Recording τ) (events : List Recorded)
    (told : List Ui.Entry) (ids addresses : Nat)
    (s' : State Recording τ) : Prop where
  channel : s'.channel = { events := s.channel.events ++ events }
  disk : s'.disk = s.disk
  entries : s'.entries = s.entries ++ told
  ids : s'.ids = s.ids.skip ids
  addresses : s'.addresses = s.addresses.skip addresses

section Rehearsed

variable {events events' : List Recorded} {told told' : List Ui.Entry}
  {ids ids' addresses addresses' : Nat}

theorem Rehearsed.calm (h : Rehearsed s events told ids addresses s') :
    Calm s' := by
  rw [Calm, h.channel]

theorem Rehearsed.trans (h : Rehearsed s events told ids addresses s')
    (h' : Rehearsed s' events' told' ids' addresses' s'') :
    Rehearsed s (events ++ events') (told ++ told') (ids + ids')
      (addresses + addresses') s'' where
  channel := by rw [h'.channel, h.channel, List.append_assoc]
  disk := h'.disk.trans h.disk
  entries := by rw [h'.entries, h.entries, List.append_assoc]
  ids := by rw [h'.ids, h.ids, Feed.skip_skip]
  addresses := by rw [h'.addresses, h.addresses, Feed.skip_skip]

/-- One more step in the journal adds nothing if the user is not told. -/
theorem entries_note (s : State Recording τ) (step : Step) :
    (s.note step).entries = s.entries ++ step.entry?.toList := by
  show List.filterMap _ (s.journal ++ [step]) = _
  rw [List.filterMap_append, List.filterMap_cons]
  cases step.entry? <;> rfl

/-- An action that only the channel sees. -/
theorem Rehearsed.silent (hchannel :
      s'.channel = { events := s.channel.events ++ events })
    (hdisk : s'.disk = s.disk) (hentries : s'.entries = s.entries)
    (hids : s'.ids = s.ids) (haddresses : s'.addresses = s.addresses) :
    Rehearsed s events [] 0 0 s' :=
  ⟨hchannel, hdisk, by rw [hentries, List.append_nil], hids, haddresses⟩

theorem Rehearsed.still (h : Calm s) : Rehearsed s [] [] 0 0 s :=
  .silent (by rw [List.append_nil]; exact h) rfl rfl rfl rfl

theorem Rehearsed.say (h : Calm s) (text : String) :
    Rehearsed s [] [⟨.say, text⟩] 0 0 (s.say text) where
  channel := by
    rw [List.append_nil]
    exact h
  disk := rfl
  entries := entries_note s _
  ids := rfl
  addresses := rfl

theorem Rehearsed.nextId (h : Calm s) :
    Rehearsed s [] [] 1 0 s.nextId.2 where
  channel := by
    rw [List.append_nil]
    exact h
  disk := rfl
  entries := (List.append_nil _).symm
  ids := rfl
  addresses := rfl

theorem Rehearsed.nextAddress (h : Calm s) :
    Rehearsed s [] [] 0 1 s.nextAddress.2 where
  channel := by
    rw [List.append_nil]
    exact h
  disk := rfl
  entries := (List.append_nil _).symm
  ids := rfl
  addresses := rfl

end Rehearsed

-- ============================================================= calls

/-- What can be read is accepted. -/
theorem upload_rehearsed (hcalm : Calm s) {source : Source}
    {content : Bytes} (hread : source.read s.disk = .ok content)
    (path : String) (binary : Bool) :
    ∃ s', s.upload Recording.channel path source binary
        = ((.ok (), content.length), s') ∧
      Rehearsed s [.upload path (Text.ofBytesLossy content)] [] 0 0
        s' := by
  have hdone :
      Recording.channel.upload s.channel s.disk path source binary
        = ⟨.ok (), content.length,
            { events := s.channel.events ++
                [.upload path (Text.ofBytesLossy content)] }, s.disk⟩ := by
    show s.channel.upload s.disk path source = _
    rw [hcalm, Recording.upload, hread]
    rfl
  rw [State.upload, hdone]
  exact ⟨_, rfl, .silent rfl rfl
    ((entries_note _ _).trans (List.append_nil _)) rfl rfl⟩

/-- A helper file is a text, which can always be read. -/
theorem uploadHelper_rehearsed (hcalm : Calm s) (path text : String) :
    ∃ s', uploadHelper Recording.channel s path text = (.ok (), s') ∧
      Rehearsed s
        [.upload path (Text.ofBytesLossy (Text.toBytes text))] [] 0 0
        s' := by
  have hread : (Source.ofText text).read s.disk
      = .ok (Text.toBytes text) := rfl
  obtain ⟨s', hupload, hs'⟩ := upload_rehearsed hcalm hread path false
  rw [uploadHelper, hupload]
  exact ⟨s', rfl, hs'⟩

/-- A command that was started ends with 0. -/
def calmProcess (command : String) : Recording.Process :=
  ⟨command, 0, []⟩

theorem start_rehearsed (hcalm : Calm s) (command : String) :
    ∃ s', s.start Recording.channel command
        = (.ok (calmProcess command), s') ∧
      Rehearsed s [.start command] [] 0 0 s' := by
  have hdone : Recording.channel.start s.channel s.disk command
      = ⟨.ok (calmProcess command),
          { events := s.channel.events ++ [.start command] },
          s.disk⟩ := by
    show s.channel.start s.disk command = _
    rw [hcalm]
    rfl
  rw [State.start, hdone]
  exact ⟨_, rfl, .silent rfl rfl
    ((entries_note _ _).trans (List.append_nil _)) rfl rfl⟩

theorem wait_rehearsed (hcalm : Calm s) (command : String) :
    ∃ s', s.wait Recording.channel (calmProcess command)
        = (.ok 0, s') ∧
      Rehearsed s [.exited command 0] [] 0 0 s' := by
  have hdone : Recording.channel.wait s.channel s.disk
        (calmProcess command)
      = ⟨.ok 0, [],
          { events := s.channel.events ++ [.exited command 0] },
          s.disk⟩ := by
    show s.channel.wait s.disk (calmProcess command) = _
    rw [hcalm]
    rfl
  rw [State.wait, hdone]
  refine ⟨_, rfl, .silent rfl rfl ?_ rfl rfl⟩
  show List.filterMap _ (s.journal ++ [] ++ [_]) = _
  rw [List.append_nil, List.filterMap_append]
  exact List.append_nil _

-- ======================================================== one script

variable {limit : Nat} {settings : Settings} {path line : String}
  {place : Place} {content : Bytes}

/-- The events of helper files. -/
def helperEvents (helpers : List (String × Bytes)) : List Recorded :=
  helpers.map fun helper =>
    .upload helper.1 (Text.ofBytesLossy helper.2)

/-- A command line that can be filled is rendered. -/
theorem renderCommand_rehearsed (hcalm : Calm s)
    (hline : s.scene.line settings = .ok line) :
    ∃ s', renderCommand Recording.channel settings s = (.ok line, s') ∧
      Rehearsed s (helperEvents (s.scene.helpers settings)) []
        (idsDrawn settings) 1 s' := by
  cases helevated : settings.elevated with
  | none =>
      simp only [Scene.line, helevated] at hline
      rw [renderCommand_plain helevated]
      refine ⟨_, Prod.ext hline rfl, ?_⟩
      simp only [idsDrawn, Scene.helpers, helevated]
      exact .nextAddress hcalm
  | some credentials =>
      simp only [Scene.line, helevated] at hline
      cases hfill : fillElevated settings s.scene.varsPath with
      | error e =>
          rw [hfill] at hline
          cases hline
      | ok command =>
          rw [hfill] at hline
          cases hline
          have haddress := Rehearsed.nextAddress hcalm
          have hid := Rehearsed.nextId haddress.calm
          obtain ⟨s₁, hvars, hs₁⟩ := uploadHelper_rehearsed hid.calm
            s.scene.varsPath
            (settings.environment.assemble true s.scene.address)
          have hvars : uploadVars Recording.channel settings s
              = (.ok s.scene.varsPath, s₁) := by
            have huploaded := congrArg
              (fun done : Except ProvisionError Unit × _ =>
                (done.1.map fun _ => s.scene.varsPath, done.2)) hvars
            exact huploaded
          have hs₁ := haddress.trans (hid.trans hs₁)
          have htask := Rehearsed.nextId hs₁.calm
          have hfile := Rehearsed.nextId htask.calm
          obtain ⟨s₂, hwrapper, hs₂⟩ := uploadHelper_rehearsed hfile.calm
            s.scene.wrapper.uploadPath
            (taskOf credentials command (s.scene.id 1)).script
          have hs₂ := hs₁.trans (htask.trans (hfile.trans hs₂))
          have htaskId : s₁.nextId.1 = s.scene.id 1 := by
            rw [State.nextId, hs₁.ids]
            rfl
          have hfileId : s₁.nextId.2.nextId.1 = s.scene.id 2 := by
            rw [State.nextId, State.nextId, hs₁.ids]
            rfl
          rw [renderCommand_filled helevated hvars hfill,
            uploadWrapper_eq, uploadFilled_ok, htaskId, hfileId]
          refine ⟨s₂, ?_, ?_⟩
          · show (((uploadHelper _ _ s.scene.wrapper.uploadPath _).1.map
              _).map _, (uploadHelper _ _ s.scene.wrapper.uploadPath _).2)
                = _
            rw [hwrapper]
            rfl
          · simp only [idsDrawn, Scene.helpers, helevated, hfill]
            exact hs₂

variable (clock : Clock τ) (plan : Plan)

/-- The first attempt of a script that can be read succeeds. -/
theorem launch_rehearsed (command : String) (hcalm : Calm s)
    (hread : s.disk.bytesAt place = .ok content) (hlimit : 0 < limit) :
    ∃ s', launch Recording.channel clock limit plan place command s
        = (.succeeded (calmProcess command), s') ∧
      Rehearsed s
        [.upload plan.settings.remotePath (Text.ofBytesLossy content),
          .start command] [] 0 0 s' := by
  obtain ⟨more, rfl⟩ := Nat.exists_eq_add_of_lt hlimit
  have hopened : Rehearsed s [] [] 0 0 (clock.timed.read s).2 :=
    .silent (by rw [List.append_nil]; exact hcalm) rfl rfl rfl rfl
  have hsource : (Source.file place 0).read (clock.timed.read s).2.disk
      = .ok content := by
    show (s.disk.bytesAt place).map _ = _
    rw [hread]
    rfl
  obtain ⟨s₁, hupload, hs₁⟩ := upload_rehearsed hopened.calm hsource
    plan.settings.remotePath plan.settings.binary
  obtain ⟨s₂, hstart, hs₂⟩ := start_rehearsed hs₁.calm command
  have hattempt : attempt Recording.channel plan.settings place command
        ⟨(clock.timed.read s).2, false, 0⟩
      = (.ok (calmProcess command), ⟨s₂, false, content.length⟩) :=
    attempt_started hupload hstart
  have hrun : plan.window.run clock.attempting
        (attempt Recording.channel plan.settings place command)
        (0 + more + 1) ⟨s, false, 0⟩
      = (.succeeded (calmProcess command), ⟨s₂, false, content.length⟩) := by
    show plan.window.attempts clock.attempting _ _ (0 + more + 1)
      ⟨(clock.timed.read s).2, false, 0⟩ = _
    exact Window.attempts_ok hattempt
  rw [launch, hrun]
  exact ⟨s₂, rfl, hopened.trans (hs₁.trans hs₂)⟩

/-- The verdict on a script that ends with 0. -/
def calmVerdict (settings : Settings) : Verdict :=
  if settings.allows 0 then .done
  else .failed (.nonZeroExit 0 settings.validExitCodes)

/-- The events of the next script: its helper files, the script itself
and its command line. -/
def Scene.rehearsal (scene : Scene) (settings : Settings)
    (path : String) : List Recorded :=
  helperEvents (scene.helpers settings) ++
    match scene.disk.readBytes path, scene.line settings with
    | .ok content, .ok line =>
      [.upload settings.remotePath (Text.ofBytesLossy content),
        .start line, .exited line 0]
    | _, _ => []

/-- What the next script needs: its file can be read, and its template
can be filled. -/
structure Scene.Ready (scene : Scene) (settings : Settings)
    (path : String) : Prop where
  readable : ∃ content, scene.disk.readBytes path = .ok content
  filled : ∃ line, scene.line settings = .ok line

/-- A path that can be read can be opened. -/
theorem openAt_of_readBytes {disk : Disk}
    (h : disk.readBytes path = .ok content) :
    ∃ place, disk.openAt path = .ok place ∧
      disk.bytesAt place = .ok content := by
  unfold Disk.readBytes at h
  cases hopen : disk.openAt path with
  | error fault =>
      rw [hopen] at h
      cases h
  | ok place =>
      rw [hopen] at h
      exact ⟨place, rfl, h⟩

theorem runScript_rehearsed (hcalm : Calm s) (hlimit : 0 < limit)
    (h : s.scene.Ready plan.settings path) :
    ∃ s', runScript Recording.channel clock limit plan path s
        = (calmVerdict plan.settings, s') ∧
      Rehearsed s (s.scene.rehearsal plan.settings path) []
        (idsDrawn plan.settings) 1 s' := by
  obtain ⟨⟨content, hread⟩, line, hline⟩ := h
  obtain ⟨place, hopen, hbytes⟩ := openAt_of_readBytes hread
  obtain ⟨s₁, hrender, hs₁⟩ := renderCommand_rehearsed hcalm hline
  have hbytes : s₁.disk.bytesAt place = .ok content := by
    rw [hs₁.disk]
    exact hbytes
  obtain ⟨s₂, hlaunch, hs₂⟩ :=
    launch_rehearsed clock plan line hs₁.calm hbytes hlimit
  obtain ⟨s₃, hwait, hs₃⟩ := wait_rehearsed hs₂.calm line
  rw [runScript_launched hopen hrender hlaunch, finish_waited hwait,
    calmVerdict, Scene.rehearsal, hread, hline]
  have hs₃ := hs₁.trans (hs₂.trans hs₃)
  cases plan.settings.allows 0 with
  | true => exact ⟨s₃, rfl, hs₃⟩
  | false => exact ⟨s₃, rfl, hs₃⟩

-- ======================================================= all scripts

/-- The events of scripts in their order. -/
def Scene.rehearsals (settings : Settings) :
    Scene → List String → List Recorded
  | _, [] => []
  | scene, path :: rest =>
    scene.rehearsal settings path
      ++ (scene.next settings scene.disk).rehearsals settings rest

/-- What the user is told of a script. -/
def scriptEntry (path : String) : Ui.Entry := ⟨.say, scriptLine path⟩

/-- Where the files of scripts can be read, and no template hinders, all
scripts are ready. -/
def AllReady (settings : Settings) (disk : Disk) (paths : List String) :
    Prop :=
  (∀ path ∈ paths, ∃ content, disk.readBytes path = .ok content) ∧
  ∀ scene : Scene, ∃ line, scene.line settings = .ok line

/-- A script is run behind the line about it. -/
theorem runScript_told (hcalm : Calm s) (hlimit : 0 < limit)
    (h : s.scene.Ready plan.settings path) :
    ∃ s', runScript Recording.channel clock limit plan path
          (s.say (scriptLine path)) = (calmVerdict plan.settings, s') ∧
      Rehearsed s (s.scene.rehearsal plan.settings path)
        [scriptEntry path] (idsDrawn plan.settings) 1 s' := by
  have hsaid := Rehearsed.say hcalm (scriptLine path)
  obtain ⟨s', hrun, hs'⟩ := runScript_rehearsed clock plan hsaid.calm
    hlimit (show (s.say _).scene.Ready _ _ from h)
  have hboth := hsaid.trans hs'
  rw [Nat.zero_add, Nat.zero_add] at hboth
  exact ⟨s', hrun, hboth⟩

/-- If 0 is allowed, all scripts are run. -/
theorem runScripts_rehearsed {paths : List String} (hcalm : Calm s)
    (hlimit : 0 < limit) (hallows : plan.settings.allows 0 = true)
    (h : AllReady plan.settings s.disk paths) :
    ∃ s', runScripts Recording.channel clock limit plan paths s
        = (.done, s') ∧
      Rehearsed s (s.scene.rehearsals plan.settings paths)
        (paths.map scriptEntry) (paths.length * idsDrawn plan.settings)
        paths.length s' := by
  induction paths generalizing s with
  | nil =>
      refine ⟨s, rfl, ?_⟩
      rw [List.length_nil, Nat.zero_mul]
      exact .still hcalm
  | cons path rest ih =>
      obtain ⟨hread, hrest⟩ := List.forall_mem_cons.1 h.1
      have hready : s.scene.Ready plan.settings path :=
        ⟨hread, h.2 s.scene⟩
      obtain ⟨s₁, hrun, hs₁⟩ := runScript_told clock plan hcalm hlimit
        hready
      rw [calmVerdict, if_pos hallows] at hrun
      rw [runScripts_done hrun]
      obtain ⟨s₂, hrun', hs₂⟩ := ih hs₁.calm
        ⟨fun p hp => by rw [hs₁.disk]; exact hrest p hp, h.2⟩
      have hscene : s₁.scene = s.scene.next plan.settings s.scene.disk := by
        rw [State.scene, hs₁.disk, hs₁.ids, hs₁.addresses]
        rfl
      rw [hscene] at hs₂
      refine ⟨s₂, hrun', ?_⟩
      have hboth := hs₁.trans hs₂
      rw [List.length_cons, Nat.succ_mul, Nat.add_comm (_ * _),
        Nat.add_comm rest.length]
      exact hboth

/-- If it is not, the first script is the last. -/
theorem runScripts_refused {paths : List String} (hcalm : Calm s)
    (hlimit : 0 < limit) (hallows : plan.settings.allows 0 = false)
    (h : AllReady plan.settings s.disk (path :: paths)) :
    ∃ s', runScripts Recording.channel clock limit plan (path :: paths) s
        = (.failed (.nonZeroExit 0 plan.settings.validExitCodes), s') ∧
      Rehearsed s (s.scene.rehearsal plan.settings path)
        [scriptEntry path] (idsDrawn plan.settings) 1 s' := by
  obtain ⟨hread, -⟩ := List.forall_mem_cons.1 h.1
  have hready : s.scene.Ready plan.settings path := ⟨hread, h.2 s.scene⟩
  obtain ⟨s', hrun, hs'⟩ := runScript_told clock plan hcalm hlimit hready
  rw [calmVerdict, hallows] at hrun
  rw [runScripts_stopped hrun nofun]
  exact ⟨s', rfl, hs'⟩

end RemoteProvision.Run
