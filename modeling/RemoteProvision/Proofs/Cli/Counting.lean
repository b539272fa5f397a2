/-
What the list of a dry run counts.

Behind each upload the list of a dry run has a number of bytes.  It is
counted on the text that the recording channel made of what it was
handed, not on the bytes (`uploadLine`).  Helper files are texts, so for
them this is the same.  A script is any bytes, and in the text of it each
broken part stands as U+FFFD, with three bytes.  So a script is counted
right just when every broken part of it has three bytes, and in any
other case there are more bytes in the list than were handed over
(`Counted`).

All this is said of every dry run that ends with a list: what its channel
was asked is known from a watched run, and the list goes along with it,
script by script (`Reported`).
-/
import RemoteProvision.Proofs.Cli.DryRun
import RemoteProvision.Proofs.Run.Recorded
import RemoteProvision.Proofs.Text.Widening

namespace RemoteProvision.Cli

open RemoteProvision.Recording (Process)
open RemoteProvision.Run
open RemoteProvision.Text (Bytes Torn lenientLength)

-- ============================================================ counts

/-- The line for an upload with some number of bytes. -/
def countedLine (path : String) (count : Nat) : String :=
  "upload  " ++ path ++ " (" ++ toString count ++ " bytes)\n"

/-- How the number in the list stands to the bytes that were handed over
and to what is broken in them. -/
structure Counted (handed : Bytes) (parts : List Bytes) (count : Nat) :
    Prop where
  /-- These are the broken parts; there is one way to find them. -/
  torn : ∀ others, Torn handed others ↔ others = parts
  /-- Each is counted with three bytes in place of its own. -/
  balance :
    count + parts.flatten.length = handed.length + 3 * parts.length
  /-- No byte is left out. -/
  least : handed.length ≤ count
  /-- The number is right just when no part is shorter than that. -/
  exact_iff : count = handed.length ↔ ∀ part ∈ parts, part.length = 3
  /-- So it is for the bytes of a text. -/
  text : ∀ text, handed = Text.toBytes text → count = handed.length

theorem exists_counted (handed : Bytes) :
    ∃ parts, Counted handed parts (lenientLength handed) := by
  obtain ⟨parts, htorn⟩ := Text.exists_torn handed
  exact ⟨parts, {
    torn := fun others =>
      ⟨fun hothers => hothers.unique htorn, fun hsame => hsame ▸ htorn⟩
    balance := htorn.balance
    least := htorn.length_le
    exact_iff := htorn.exact_iff
    text := fun text htext => htext ▸ Text.lenientLength_toBytes text }⟩

-- =========================================================== reports

variable {settings : Settings} {disk : Disk} {path text : String}
  {calls : List (Asked Process)}

/-- The lines for helper files, which are texts: each with the number of
bytes that it has. -/
def helperLines (helpers : List (String × String)) : String :=
  String.join (helpers.map fun helper =>
    countedLine helper.1 (Text.toBytes helper.2).length)

/-- What a dry run asks of its channel for one script, and how it is
listed: the helper files, the script with what was read of its file, its
start, and its end, which is not listed. -/
inductive Reported (settings : Settings) (disk : Disk) (path : String) :
    List (Exchange Process) → String → Prop
  | script {place : Place} {handed : Bytes} {parts : List Bytes}
      {count : Nat} {command line : String}
      (helpers : List (String × String)) :
      disk.openAt path = .ok place →
      (Source.file place 0).read disk = .ok handed →
      Counted handed parts count →
      eventText (.start command) = .ok line →
      Reported settings disk path
        ((scriptCalls settings helpers place command).map (still disk))
        (helperLines helpers
          ++ (countedLine settings.remotePath count ++ line))

/-- The events of helper files. -/
theorem listed_helperCalls (helpers : List (String × String)) :
    Listed (((helpers.map helperCall).map (still disk)).filterMap
      recorded?) (helperLines helpers) := by
  induction helpers with
  | nil => exact .nil
  | cons helper helpers ih =>
      have hline : eventText (.upload helper.1
            (Text.ofBytesLossy (Text.toBytes helper.2)))
          = .ok (countedLine helper.1 (Text.toBytes helper.2).length) := by
        rw [← Text.lenientLength_toBytes]
        rfl
      have hlines : helperLines (helper :: helpers)
          = countedLine helper.1 (Text.toBytes helper.2).length
            ++ helperLines helpers := by
        unfold helperLines
        rw [List.map_cons, String.join_cons]
      rw [hlines]
      exact .cons hline ih

/-- The events of a script, behind those of its helper files. -/
theorem recorded_scriptCalls {place : Place} {handed : Bytes}
    (hread : (Source.file place 0).read disk = .ok handed)
    (helpers : List (String × String)) (command : String) :
    ((scriptCalls settings helpers place command).map
        (still disk)).filterMap recorded?
      = ((helpers.map helperCall).map (still disk)).filterMap recorded?
        ++ [.upload settings.remotePath (Text.ofBytesLossy handed),
          .start command, .exited command 0] := by
  have hupload : recorded? (still disk
        (scriptCall settings place (.ok ())))
      = some (.upload settings.remotePath (Text.ofBytesLossy handed)) := by
    show Recording.uploadEvent? settings.remotePath
      ((Source.file place 0).read disk) (.ok ()) = _
    rw [hread]
    rfl
  rw [scriptCalls, List.map_append, List.filterMap_append]
  congr 1
  rw [List.map_cons, List.filterMap_cons, hupload]
  rfl

/-- The list of a script goes along with its calls. -/
theorem reported_script (h : ScriptCalls settings disk path calls)
    (hlisted : Listed ((calls.map (still disk)).filterMap recorded?)
      text) :
    Reported settings disk path (calls.map (still disk)) text := by
  cases h with
  | @intro place handed helpers command hopen hread =>
      rw [recorded_scriptCalls hread] at hlisted
      obtain ⟨front, behind, hfront, hbehind, rfl⟩ := hlisted.of_append
      obtain ⟨upload, rest, hupload, hrest, rfl⟩ := hbehind.of_cons
      obtain ⟨line, last, hline, hlast, rfl⟩ := hrest.of_cons
      cases hupload
      have hend : last = "" := hlast.unique
        (.cons (show eventText (.exited command 0) = .ok "" from rfl)
          .nil)
      obtain ⟨parts, hcounted⟩ := exists_counted handed
      rw [hend, String.append_empty,
        hfront.unique (listed_helperCalls helpers)]
      exact .script helpers hopen hread hcounted hline

/-- So does the list of all scripts. -/
theorem reported_scripts {paths : List String}
    {segments : List (List (Exchange Process))}
    (h : List.Forall₂
      (fun path segment => ∃ calls,
        ScriptCalls settings disk path calls ∧
        segment = calls.map (still disk))
      paths segments)
    (hlisted : Listed (segments.flatten.filterMap recorded?) text) :
    ∃ reports : List (List (Exchange Process) × String),
      segments = reports.map Prod.fst ∧
      text = String.join (reports.map Prod.snd) ∧
      List.Forall₂
        (fun path report => Reported settings disk path report.1 report.2)
        paths reports := by
  induction h generalizing text with
  | nil => exact ⟨[], rfl, Listed.unique hlisted .nil, .nil⟩
  | @cons path segment paths segments hfirst _ ih =>
      obtain ⟨calls, hcalls, rfl⟩ := hfirst
      rw [List.flatten_cons, List.filterMap_append] at hlisted
      obtain ⟨front, behind, hfront, hbehind, rfl⟩ := hlisted.of_append
      obtain ⟨reports, rfl, rfl, hreports⟩ := ih hbehind
      refine ⟨(_, front) :: reports, rfl, ?_,
        .cons (reported_script hcalls hfront) hreports⟩
      rw [List.map_cons, String.join_cons]

-- ======================================================= the theorem

theorem exitCode_ne_zero (e : ProvisionError) : e.exitCode ≠ 0 := by
  cases e <;> exact nofun

/-- An answer with code 0 is not that of an error. -/
theorem accepted_of_ofResult {out err out' err' : String}
    {result : Except ProvisionError Unit} {disk last : Disk}
    (h : some (Answer.ofResult out err result, disk)
      = some (⟨0, out', err'⟩, last)) :
    result = .ok () ∧ out = out' := by
  injection h with h
  injection h with hanswer
  cases result with
  | error e =>
      injection hanswer with hcode
      exact absurd hcode (exitCode_ne_zero e)
  | ok =>
      injection hanswer with _ hout
      exact ⟨rfl, hout⟩

variable {m : Machine} {httpAddr : Option String} {ids : Feed String}
  {out err : String} {last : Disk}

/-- A dry run over a channel that is watched. -/
def Machine.dryRun (m : Machine) (settings : Settings)
    (ids : Feed String) (httpAddr : Option String) :
    Verdict × State (Recording × List (Exchange Process)) Nat :=
  m.provision Recording.channel.watched ({}, []) (dryPlan settings) ids
    httpAddr

/-- A dry run that is accepted was done, and its events are listed. -/
theorem render_accepted
    (h : render m path httpAddr = some (⟨0, out, err⟩, last)) :
    ∃ settings ids s list,
      m.prepare path = .ok (settings, ids) ∧
      m.provision Recording.channel {} (dryPlan settings) ids httpAddr
        = (.done, s) ∧
      Listed s.channel.events list ∧
      out = Ui.consoleOut s.entries ++ "\n" ++ list := by
  unfold render at h
  cases hprepare : m.prepare path with
  | error e =>
      rw [hprepare] at h
      have h : some (Answer.ofResult "" "" (.error e), m.disk)
        = some (⟨0, out, err⟩, last) := h
      cases (accepted_of_ofResult h).1
  | ok prepared =>
      obtain ⟨settings, ids⟩ := prepared
      rw [hprepare] at h
      rcases hrun : m.provision Recording.channel {} (dryPlan settings) ids
        httpAddr with ⟨verdict, s⟩
      have hrun' : m.provision Recording.channel {}
        ⟨settings, .ofSeconds 0⟩ ids httpAddr = (verdict, s) := hrun
      simp only [hrun'] at h
      cases verdict with
      | undecided => cases h
      | failed e => cases (accepted_of_ofResult h).1
      | done =>
          rcases hlist : listEvents s.channel.events with ⟨list, result⟩
          simp only [hlist] at h
          obtain ⟨rfl, hout⟩ := accepted_of_ofResult h
          exact ⟨settings, ids, s, list, rfl, hrun, hlist, hout.symm⟩

/-- A dry run that was done is reported script by script. -/
theorem reported_dryRun {s : State Recording Nat}
    (hrun : m.provision Recording.channel {} (dryPlan settings) ids
      httpAddr = (.done, s))
    (hlisted : Listed s.channel.events text) :
    ∃ scripts disk,
      ∃ reports : List (List (Exchange Process) × String),
        collect settings m.disk = .ok (scripts, disk) ∧
        (m.dryRun settings ids httpAddr).2.log
          = reports.flatMap Prod.fst ∧
        (m.dryRun settings ids httpAddr).2.entries = s.entries ∧
        text = String.join (reports.map Prod.snd) ∧
        List.Forall₂
          (fun script report =>
            Reported settings disk script report.1 report.2)
          scripts.paths reports := by
  obtain ⟨scripts, disk, segments, hcollect, hlog, hlast, hevents,
      hscripts⟩ :=
    provision_eased (Clock.stepping m.clockStep)
      ((dryPlan settings).window.mostAttempts m.clockStep)
      (dryPlan settings)
      ⟨{}, m.disk, 0, ids, Feed.fresh fun _ => httpAddr, []⟩ rfl hrun
  rw [hevents] at hlisted
  obtain ⟨reports, rfl, htext, hreports⟩ :=
    reported_scripts hscripts hlisted
  rw [← List.flatMap_def] at hlog
  exact ⟨scripts, disk, reports, hcollect, hlog,
    congrArg State.entries hlast, htext, hreports⟩

/-- What a dry run wrote stands to what its channel was asked: there is
a report for each script, in their order; the calls are those of the
reports, and behind what the user was told come their lines. -/
def Accounted (m : Machine) (path : String) (httpAddr : Option String)
    (out : String) : Prop :=
  ∃ settings ids scripts disk,
    ∃ reports : List (List (Exchange Process) × String),
      m.prepare path = .ok (settings, ids) ∧
      collect settings m.disk = .ok (scripts, disk) ∧
      List.Forall₂
        (fun script report =>
          Reported settings disk script report.1 report.2)
        scripts.paths reports ∧
      (m.dryRun settings ids httpAddr).2.log
        = reports.flatMap Prod.fst ∧
      out = Ui.consoleOut (m.dryRun settings ids httpAddr).2.entries
        ++ "\n" ++ String.join (reports.map Prod.snd)

/-- Every accepted dry run can be accounted for.  Each upload that its
channel was asked for has a line in the list.  The number of a helper
file is that of its bytes.  The number of a script is that of the bytes
handed over just when no broken part of them is shorter than three
bytes, and in any other case it is greater. -/
theorem render_counts
    (h : render m path httpAddr = some (⟨0, out, err⟩, last)) :
    Accounted m path httpAddr out := by
  obtain ⟨settings, ids, s, list, hprepare, hrun, hlisted, rfl⟩ :=
    render_accepted h
  obtain ⟨scripts, disk, reports, hcollect, hlog, hentries, rfl,
    hreports⟩ := reported_dryRun hrun hlisted
  refine ⟨settings, ids, scripts, disk, reports, hprepare, hcollect,
    hreports, hlog, ?_⟩
  rw [hentries]

-- ------------------------------------------ a script that is not UTF-8

/-- A machine with a script and a configuration for it. -/
def machineHolding (content : Bytes) : Machine where
  disk :=
    { items :=
        [(["c.yaml"], .file (Text.toBytes
            "script: s.ps1\nremote_path: c:/s.ps1\nexecute_command: run\n")
            false),
          (["s.ps1"], .file content false)]
      home := []
      staging := "/"
      spare := none }
  environment := []
  startMillis := 0
  stamp := ""
  clockStep := 1

/-- The answer to a dry run on it, with a number for the script. -/
def answerCounting (count : Nat) : Answer where
  code := 0
  out :=
    "==> Provisioning with Powershell...\n"
      ++ "==> Provisioning with powershell script: s.ps1\n\n"
      ++ countedLine "c:/s.ps1" count
      ++ "start   powershell -executionpolicy bypass "
      ++ "-encodedCommand cgB1AG4A\n        # run\n"
  err := ""

/-- The first three bytes of a character with four are one broken part,
and are counted right. -/
theorem threeBytes_accounted :
    ∃ last,
      render (machineHolding [0xF0, 0x9F, 0x92]) "c.yaml" none
        = some (answerCounting 3, last) ∧
      Accounted (machineHolding [0xF0, 0x9F, 0x92]) "c.yaml" none
        (answerCounting 3).out := by
  have hanswer : (render (machineHolding [0xF0, 0x9F, 0x92]) "c.yaml"
      none).map Prod.fst = some (answerCounting 3) := by
    decide +kernel
  obtain ⟨⟨answer, last⟩, hrender, rfl⟩ :=
    Option.map_eq_some_iff.1 hanswer
  exact ⟨last, hrender, render_counts hrender⟩

/-- Whether a dry run handed over some bytes for a path. -/
def handedOver (m : Machine) (path : String) (httpAddr : Option String)
    (target : String) (handed : Bytes) : Bool :=
  match m.prepare path with
  | .error _ => false
  | .ok (settings, ids) =>
    (m.dryRun settings ids httpAddr).2.log.any fun x =>
      match x.call with
      | .upload p source _ (.ok ()) =>
        p == target && (source.read x.before).toOption == some handed
      | _ => false

/-- One byte that begins no character is counted as three. -/
theorem loneByte_miscounted :
    (render (machineHolding [0xFF]) "c.yaml" none).map Prod.fst
      = some (answerCounting 3) ∧
    ¬ ∀ answer handed,
      (render (machineHolding [0xFF]) "c.yaml" none).map Prod.fst
        = some answer →
      handedOver (machineHolding [0xFF]) "c.yaml" none "c:/s.ps1" handed
        = true →
      (countedLine "c:/s.ps1" handed.length).toList
        <:+: answer.out.toList := by
  have hanswer : (render (machineHolding [0xFF]) "c.yaml" none).map
      Prod.fst = some (answerCounting 3) := by
    decide +kernel
  have hhanded : handedOver (machineHolding [0xFF]) "c.yaml" none
      "c:/s.ps1" [0xFF] = true := by
    decide +kernel
  have hnot : ¬ (countedLine "c:/s.ps1" ([0xFF] : Bytes).length).toList
      <:+: (answerCounting 3).out.toList := by
    decide +kernel
  refine ⟨hanswer, fun h => hnot ?_⟩
  exact h (answerCounting 3) [0xFF] hanswer hhanded

end RemoteProvision.Cli
