/-
What is offered for upload.

A channel may read any part of what it is offered, and it may fail
behind that.  Still every attempt offers its script whole: it names the
file from its first byte on, not from where the reading before it
stopped.  So as long as no call changes the file, each attempt offers
the bytes that the file had when the run began, or that were staged for
the inline commands (`provision_offers`).  What is offered before the
attempts are the helpers of the script's own command line, and nothing
else (`OffersScript`).

That nothing changes a file is said call by call (`SameFile` between the
local files before and behind), and carried along the linked exchanges
of a run.
-/
import RemoteProvision.Channel.Scripted
import RemoteProvision.Proofs.Disk.Staging
import RemoteProvision.Proofs.Run.Verdicts

namespace RemoteProvision.Run

open RemoteProvision.Text (Bytes)

variable {π : Type} {settings : Settings} {limit : Nat} {scene : Scene}
  {place : Place} {path command : String} {calls : List (Asked π)}
  {disk mid last : Disk} {log segment : List (Exchange π)}

-- ========================================================= same file

/-- A path leads to the same file, and the file holds the same. -/
def SameFile (path : String) (disk disk' : Disk) : Prop :=
  disk'.openAt path = disk.openAt path ∧
  disk'.readBytes path = disk.readBytes path

theorem SameFile.refl (path : String) (disk : Disk) :
    SameFile path disk disk := ⟨rfl, rfl⟩

theorem SameFile.trans (h : SameFile path disk mid)
    (h' : SameFile path mid last) : SameFile path disk last :=
  ⟨h'.1.trans h.1, h'.2.trans h.2⟩

/-- When no call changes a file, it is the same at every call. -/
theorem SameFile.along (hlinked : Linked mid log last)
    (hcalls : ∀ x ∈ log, SameFile path x.before x.behind)
    (h : SameFile path disk mid) :
    (∀ x ∈ log, SameFile path disk x.before) ∧
    SameFile path disk last := by
  induction hlinked with
  | nil => exact ⟨nofun, h⟩
  | @cons x rest last _ ih =>
      obtain ⟨hfirst, hrest⟩ := List.forall_mem_cons.1 hcalls
      obtain ⟨hbefore, hlast⟩ := ih hrest (h.trans hfirst)
      exact ⟨List.forall_mem_cons.2 ⟨h, hbefore⟩, hlast⟩

/-- A place that a path led to holds what the path holds. -/
theorem bytesAt_of_openAt (h : disk.openAt path = .ok place) :
    disk.bytesAt place = disk.readBytes path := by
  unfold Disk.readBytes
  rw [h]
  rfl

-- ==================================================== whole scripts

/-- An exchange that uploads nothing, or a script from its first byte:
what there is to read is what the path holds. -/
def OffersWhole (settings : Settings) (disk : Disk) (path : String)
    (x : Exchange π) : Prop :=
  ∀ target source binary answer,
    x.call = .upload target source binary answer →
    target = settings.remotePath ∧ binary = settings.binary ∧
    source.read x.before = disk.readBytes path

/-- What is offered for a script, in a scene where its file is as it
was.  The helpers are those that its command line is rendered with, in
number, paths, texts and flags: none for a plain one.  Behind them come
its attempts, each of which begins with an upload of the file, and the
file is offered whole. -/
inductive OffersScript (settings : Settings) (limit : Nat)
    (scene : Scene) (path : String) : List (Exchange π) → Prop
  | unopened {fault : IoFault} :
      scene.disk.openAt path = .error fault →
      OffersScript settings limit scene path []
  | unrendered {place : Place} {helpers : List (Exchange π)}
      {e : ProvisionError} :
      scene.disk.openAt path = .ok place →
      Rendered settings scene (helpers.map Exchange.call) (.error e) →
      OffersScript settings limit scene path helpers
  | attempted {helpers tries rest : List (Exchange π)} {place : Place}
      {command : String} {tried : Tried π} {verdict : Verdict} :
      scene.disk.openAt path = .ok place →
      Rendered settings scene (helpers.map Exchange.call)
        (.ok command) →
      Launched settings limit place command (tries.map Exchange.call)
        tried →
      (∀ x ∈ tries, OffersWhole settings scene.disk path x) →
      Finished settings tried (rest.map Exchange.call) verdict →
      OffersScript settings limit scene path
        (helpers ++ (tries ++ rest))

theorem IsAttempt.offersWhole {x : Exchange π}
    (h : IsAttempt settings mid path x.call)
    (hmid : SameFile path disk mid)
    (hbefore : SameFile path disk x.before) :
    OffersWhole settings disk path x := by
  intro target source binary answer hcall
  obtain ⟨htarget, hbinary, place, rfl, hopen⟩ := h _ _ _ _ hcall
  refine ⟨htarget, hbinary, ?_⟩
  have hplace : x.before.openAt path = .ok place := by
    rw [hbefore.1, ← hmid.1, hopen]
  rw [Source.read, bytesAt_of_openAt hplace, hbefore.2]
  cases disk.readBytes path with
  | error fault => rfl
  | ok bytes => rfl

/-- Helpers are rendered without a look at the local files. -/
theorem Rendered.elsewhere {result : Except ProvisionError String}
    (h : Rendered settings scene calls result) (disk : Disk) :
    Rendered settings { scene with disk := disk } calls result := by
  cases h with
  | plain helevated => exact .plain helevated
  | varsRefused helevated => exact .varsRefused helevated
  | unfilled helevated hfill => exact .unfilled helevated hfill
  | wrapperRefused helevated hfill =>
      exact .wrapperRefused helevated hfill
  | elevated helevated hfill => exact .elevated helevated hfill

/-- A script offers its helpers and its file, and the file whole, as long
as no call changes it. -/
theorem Course.offersScript {verdict : Verdict}
    (h : Course settings limit scene path (segment.map Exchange.call)
      verdict)
    (hlinked : Linked scene.disk segment last)
    (hcalls : ∀ x ∈ segment, SameFile path x.before x.behind)
    (hscene : SameFile path disk scene.disk) :
    OffersScript settings limit { scene with disk := disk } path
      segment := by
  generalize hsegment : segment.map Exchange.call = calls at h
  cases h with
  | unopened hopen =>
      rw [List.map_eq_nil_iff.1 hsegment]
      exact .unopened (hscene.1.symm.trans hopen)
  | unrendered hopen hrendered =>
      subst hsegment
      exact .unrendered (hscene.1.symm.trans hopen)
        (hrendered.elsewhere disk)
  | launched hopen hrendered hlaunched hfinished =>
      obtain ⟨helpers, attempts, rfl, rfl, hattempts⟩ :=
        List.map_eq_append_iff.1 hsegment
      obtain ⟨tries, rest, rfl, rfl, rfl⟩ :=
        List.map_eq_append_iff.1 hattempts
      refine .attempted (hscene.1.symm.trans hopen)
        (hrendered.elsewhere disk) hlaunched (fun x hx => ?_) hfinished
      have hbefore := (SameFile.along hlinked hcalls hscene).1 x
        (List.mem_append_right _ (List.mem_append_left _ hx))
      exact (hlaunched.areAttempts hopen _
        (List.mem_map_of_mem hx)).offersWhole hscene hbefore

section Scripts

variable {paths : List String} {segments : List (List (Exchange π))}
  {verdict : Verdict} {i : Nat}

/-- At most all scripts are begun. -/
theorem Courses.length_le
    (h : Courses settings limit scene paths segments verdict) :
    segments.length ≤ paths.length := by
  induction h with
  | none => exact Nat.le_refl _
  | stopped _ _ _ => exact Nat.succ_le_succ (Nat.zero_le _)
  | next _ _ _ ih => exact Nat.succ_le_succ ih

/-- A segment is the course of its script, in what the segments before it
left behind. -/
theorem Courses.courseOf
    (h : Courses settings limit scene paths segments verdict)
    (hpath : paths[i]? = some path)
    (hsegment : segments[i]? = some segment) :
    ∃ mid last verdict',
      Linked scene.disk (segments.take i).flatten mid ∧
      Linked mid segment last ∧
      Course settings limit (scene.behind settings i mid) path
        (segment.map Exchange.call) verdict' := by
  induction h generalizing i with
  | none => cases hpath
  | @stopped scene _ _ _ disk verdict hcourse _ hlinked =>
      cases i with
      | succ i => cases hsegment
      | zero =>
          cases hpath
          cases hsegment
          refine ⟨scene.disk, disk, verdict, .nil, hlinked, ?_⟩
          rw [Scene.behind_zero]
          exact hcourse
  | @next scene _ _ _ disk _ _ hcourse hlinked _ ih =>
      cases i with
      | zero =>
          cases hpath
          cases hsegment
          refine ⟨scene.disk, disk, .done, .nil, hlinked, ?_⟩
          rw [Scene.behind_zero]
          exact hcourse
      | succ i =>
          obtain ⟨mid, last, verdict', hfront, hown, hcourse'⟩ :=
            ih hpath hsegment
          rw [Scene.behind_next] at hcourse'
          exact ⟨mid, last, verdict', hlinked.append hfront, hown,
            hcourse'⟩

/-- So every script that is begun offers its helpers and its file, with
the ids and the address that are left to it. -/
theorem Courses.offersScript
    (h : Courses settings limit scene paths segments verdict)
    (hcalls : ∀ x ∈ segments.flatten, SameFile path x.before x.behind)
    (hscene : SameFile path disk scene.disk)
    (hpath : paths[i]? = some path)
    (hsegment : segments[i]? = some segment) :
    OffersScript settings limit (scene.behind settings i disk) path
      segment := by
  obtain ⟨mid, last, verdict', hfront, hown, hcourse⟩ :=
    h.courseOf hpath hsegment
  have hbefore : ∀ x ∈ (segments.take i).flatten,
      SameFile path x.before x.behind := by
    intro x hx
    obtain ⟨other, hother, hx⟩ := List.mem_flatten.1 hx
    exact hcalls x
      (List.mem_flatten_of_mem (List.mem_of_mem_take hother) hx)
  have hmid : SameFile path disk mid :=
    (SameFile.along hfront hbefore hscene).2
  refine hcourse.offersScript hown (fun x hx => hcalls x ?_) hmid
  exact List.mem_flatten_of_mem (List.mem_of_getElem? hsegment) hx

end Scripts

-- ==================================================== what is staged

/-- The script made of inline commands: each with a line feed. -/
def inlineScript (commands : List String) : Bytes :=
  commands.flatMap fun c => Text.toBytes c ++ [10]

theorem flatten_inlineChunks (commands : List String) :
    (inlineChunks commands).flatten = inlineScript commands := by
  induction commands with
  | nil => rfl
  | cons c rest ih =>
      rw [inlineChunks, List.flatMap_cons, List.flatten_append]
      rw [inlineChunks] at ih
      rw [ih, inlineScript, inlineScript, List.flatMap_cons]
      simp only [List.flatten_cons, List.flatten_nil, List.append_nil]

/-- The scripts of a run and what they hold: the files that were named
hold what they held, and the staged one holds the inline commands. -/
structure Collected (settings : Settings) (start : Disk)
    (paths : List String) (disk : Disk) : Prop where
  kept : ∀ path place, start.openAt path = .ok place →
    SameFile path start disk
  named : settings.inlineCommands = [] → paths = settings.scripts
  staged : settings.inlineCommands ≠ [] →
    ∃ path, paths = settings.scripts ++ [path] ∧
      disk.readBytes path
        = .ok (inlineScript settings.inlineCommands)

/-- Collecting either leaves the files alone, or it stages one more, which
is the last of the scripts. -/
theorem collect_cases {start : Disk} {scripts : Scripts}
    (h : collect settings start = .ok (scripts, disk)) :
    (settings.inlineCommands = [] ∧
      scripts = ⟨settings.scripts, none⟩ ∧ disk = start) ∨
    (settings.inlineCommands ≠ [] ∧ ∃ staged : Disk.Staged,
      scripts = ⟨settings.scripts ++ [staged.path], some staged⟩ ∧
      Disk.Adds start staged.place
        (.file (inlineScript settings.inlineCommands) false) disk ∧
      disk.openAt staged.path = .ok staged.place) := by
  unfold collect at h
  by_cases hinline : settings.inlineCommands = []
  · rw [if_pos hinline] at h
    cases h
    exact .inl ⟨hinline, rfl, rfl⟩
  · rw [if_neg hinline] at h
    cases hstage : start.stage
      (inlineChunks settings.inlineCommands) with
    | error reason =>
        rw [hstage] at h
        cases h
    | ok done =>
        obtain ⟨staged, disk'⟩ := done
        rw [hstage] at h
        cases h
        obtain ⟨hadds, hopen⟩ := Disk.stage_ok hstage
        rw [flatten_inlineChunks] at hadds
        exact .inr ⟨hinline, staged, rfl, hadds, hopen⟩

theorem collect_ok {start : Disk} {scripts : Scripts}
    (h : collect settings start = .ok (scripts, disk)) :
    Collected settings start scripts.paths disk := by
  rcases collect_cases h with
    ⟨hinline, rfl, rfl⟩ | ⟨hinline, staged, rfl, hadds, hopen⟩
  · exact ⟨fun path _ _ => .refl path _, fun _ => rfl,
      fun hne => absurd hinline hne⟩
  · refine ⟨fun path place hplace => ?_,
      fun hnil => absurd hnil hinline, fun _ => ?_⟩
    · exact ⟨(hadds.openAt hplace).trans hplace.symm,
        hadds.readBytes hplace⟩
    · refine ⟨staged.path, rfl, ?_⟩
      rw [← bytesAt_of_openAt hopen, Disk.bytesAt, hadds.there]

-- ======================================================= the theorem

variable {σ τ : Type}

/-- What a run offers for upload, from what its first script finds. -/
structure Offers (settings : Settings) (limit : Nat) (start : Disk)
    (paths : List String) (opening : Scene) (log : List (Exchange π)) :
    Prop where
  /-- What the scripts hold when the first of them is opened. -/
  collected : Collected settings start paths opening.disk
  /-- Each script that was begun offers its own helpers and then that,
  whole, again and again. -/
  whole : ∃ segments : List (List (Exchange π)),
    log = segments.flatten ∧ segments.length ≤ paths.length ∧
    ∀ (i : Nat) path segment,
      paths[i]? = some path → segments[i]? = some segment →
      OffersScript settings limit
        (opening.behind settings i opening.disk) path segment

/-- Every attempt of a run offers its script from the first byte to the
last, with the flag of the settings, whatever the attempts before it
read.  Before the attempts of an elevated script its two helpers are
offered, without the flag; before those of a plain one, nothing.  All
that is asked is that no call changes a script file. -/
theorem provision_offers (ch : Channel σ π) (clock : Clock τ)
    (limit : Nat) (plan : Plan) (s : State σ τ) {scripts : Scripts}
    {disk : Disk}
    (hcollect : collect plan.settings s.disk = .ok (scripts, disk))
    (hsame : ∀ path ∈ scripts.paths,
      ∀ x ∈ (provision ch.watched clock limit plan s.watched).2.log,
        SameFile path x.before x.behind) :
    provision ch clock limit plan s
      = unwatch (provision ch.watched clock limit plan s.watched) ∧
    Offers plan.settings limit s.disk scripts.paths (s.opening disk)
      (provision ch.watched clock limit plan s.watched).2.log := by
  refine ⟨provision_unwatched ch clock limit plan s.watched,
    collect_ok hcollect, ?_⟩
  obtain ⟨segments, hlog, -, hcourses⟩ :=
    provision_courses ch clock limit plan s hcollect
  rw [hlog] at hsame
  refine ⟨segments, hlog, hcourses.length_le, ?_⟩
  intro i path segment hpath hsegment
  exact hcourses.offersScript
    (hsame path (List.mem_of_getElem? hpath)) (.refl path disk) hpath
    hsegment

-- ------------------------------------------- a run that is offered

/-- The scripted channel changes no files. -/
theorem sameFile_of_scripted {x : Exchange Ending}
    (h : Scripted.channel.Played x) (path : String) :
    SameFile path x.before x.behind := by
  have hdisk : x.behind = x.before := by
    obtain ⟨before, call, behind⟩ := x
    cases call with
    | upload target source binary answer =>
        obtain ⟨w, -, hbehind⟩ := h
        refine hbehind.symm.trans ?_
        show (w.upload before target source binary).disk = before
        unfold Scripted.upload
        dsimp only
        split
        · rfl
        · rfl
    | start command answer =>
        obtain ⟨w, -, hbehind⟩ := h
        refine hbehind.symm.trans ?_
        show (w.start before command).disk = before
        unfold Scripted.start
        dsimp only
        split
        · rfl
        · rfl
    | wait process answer =>
        obtain ⟨w, -, hbehind⟩ := h
        exact hbehind.symm
  rw [hdisk]
  exact .refl path _

/-- One script that is there, and one inline command. -/
def trialSettings : Settings where
  identity := ⟨"box", "virtualbox"⟩
  binary := true
  scripts := ["setup.ps1"]
  inlineCommands := ["dir"]
  environmentVars := []
  remotePath := "c:/script.ps1"
  executeCommand := "powershell c:/script.ps1"
  elevatedExecuteCommand := ""
  startRetryTimeout := .ofSeconds 1
  envVarFormat := ""
  elevatedEnvVarFormat := ""
  elevated := none
  validExitCodes := [0]

/-- A channel that reads one byte and fails, then two, and refuses the
first start. -/
def trialState : State Scripted Nat where
  channel :=
    { uploads :=
        [{ reads := some 1, fault := some (.remote "gone") },
          { reads := some 2 }]
      starts := [some (.remote "busy")] }
  disk :=
    { items := [(["setup.ps1"], .file [65, 66, 67] false)]
      home := []
      staging := "/"
      spare := none }
  time := 0
  ids := Feed.fresh toString
  addresses := Feed.fresh fun _ => none
  journal := []

/-- The files of the trial when its command is staged. -/
def trialDisk : Disk where
  items :=
    [(["setup.ps1"], .file [65, 66, 67] false),
      (["psprov-inline-000000.ps1"], .file [100, 105, 114, 10] false)]
  home := []
  staging := "/"
  spare := none

/-- The trial with credentials. -/
def elevatedTrial : Settings :=
  { trialSettings with elevated := some ⟨"admin", "secret"⟩ }

/-- The channel of the trial behind two uploads that it accepts. -/
def elevatedStart : State Scripted Nat :=
  { trialState with
    channel :=
      { trialState.channel with
        uploads := {} :: {} :: trialState.channel.uploads } }

/-- With credentials, the trial offers two helpers, then three bytes,
three times, and then the same for the command. -/
theorem trial_offers :
    collect elevatedTrial elevatedStart.disk
      = .ok (⟨["setup.ps1", "/psprov-inline-000000.ps1"],
          some ⟨"/psprov-inline-000000.ps1",
            ["psprov-inline-000000.ps1"]⟩⟩, trialDisk) ∧
    Offers elevatedTrial 9 elevatedStart.disk
      ["setup.ps1", "/psprov-inline-000000.ps1"]
      (elevatedStart.opening trialDisk)
      (provision Scripted.channel.watched (Clock.stepping 1) 9
        ⟨elevatedTrial, .ofMillis 5⟩ elevatedStart.watched).2.log := by
  have hcollect : collect elevatedTrial elevatedStart.disk
      = .ok (⟨["setup.ps1", "/psprov-inline-000000.ps1"],
          some ⟨"/psprov-inline-000000.ps1",
            ["psprov-inline-000000.ps1"]⟩⟩, trialDisk) := rfl
  refine ⟨hcollect, (provision_offers Scripted.channel (Clock.stepping 1)
    9 ⟨elevatedTrial, .ofMillis 5⟩ elevatedStart hcollect ?_).2⟩
  obtain ⟨segments, hlog, hplayed, -⟩ :=
    provision_courses Scripted.channel (Clock.stepping 1) 9
      ⟨elevatedTrial, .ofMillis 5⟩ elevatedStart hcollect
  intro path _ x hx
  rw [hlog] at hx
  exact sameFile_of_scripted (hplayed x hx) path

end RemoteProvision.Run
