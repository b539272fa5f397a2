/-
What a recording channel keeps of a run.

A watched channel keeps its calls, and a recording channel keeps events.
When nothing was scripted for it, every call ends well (`Eased`): what
can be read is accepted, a command is started, and it ends with 0; and no
call changes a local file.  The events are then those of the calls, one
by one (`provision_kept`).

So no script is tried twice, and a script that is done has few calls: its
helper files, the script itself, its start and its end (`ScriptCalls`).
They are all made with the same local files before and behind them
(`Courses.eased`).
-/
import RemoteProvision.Proofs.Channel.Recording
import RemoteProvision.Proofs.Run.Rehearsal
import RemoteProvision.Proofs.Run.Rounds

namespace RemoteProvision.Run

open RemoteProvision.Recording (Process uploadEvent?)
open RemoteProvision.Text (Bytes)

-- =========================================================== one call

/-- The event of a call. -/
def recorded? (x : Exchange Process) : Option Recorded :=
  match x.call with
  | .upload path source _ result =>
    uploadEvent? path (source.read x.before) result
  | .start command _ => some (.start command)
  | .wait process _ => some (.exited process.command process.code)

/-- How an upload ends when nothing was scripted. -/
def easedUpload : Except IoFault Bytes → Except ChannelFault Unit
  | .ok _ => .ok ()
  | .error fault => .error (.io fault)

/-- A call that a recording channel answers when nothing was scripted. -/
structure Eased (x : Exchange Process) : Prop where
  files : x.behind = x.before
  answer : match x.call with
    | .upload _ source _ result =>
      result = easedUpload (source.read x.before)
    | .start command result => result = .ok (calmProcess command)
    | .wait process result => result = .ok process.code

/-- A watched recording channel for which nothing was scripted has the
events of its calls, and all of them ended well. -/
structure Kept (w : Recording × List (Exchange Process)) : Prop where
  channel : w.1 = { events := w.2.filterMap recorded? }
  eased : ∀ x ∈ w.2, Eased x

variable {w : Recording × List (Exchange Process)}

/-- One more call is kept. -/
theorem Kept.snoc (h : Kept w) {x : Exchange Process} {r : Recording}
    (hx : Eased x)
    (hr : r = { events := w.1.events ++ (recorded? x).toList }) :
    Kept (r, w.2 ++ [x]) where
  channel := by
    have hone : [x].filterMap recorded? = (recorded? x).toList := by
      rw [List.filterMap_cons]
      cases recorded? x <;> rfl
    rw [hr, h.channel, List.filterMap_append, hone]
  eased := List.forall_mem_append.2
    ⟨h.eased, List.forall_mem_singleton.2 hx⟩

/-- How a channel for which nothing was scripted does an upload. -/
theorem upload_eased (events : List Recorded) (disk : Disk)
    (path : String) (source : Source) :
    let done :=
      Recording.upload { events := events } disk path source
    let result := easedUpload (source.read disk)
    done.result = result ∧ done.disk = disk ∧
      done.state = { events := events
        ++ (uploadEvent? path (source.read disk) result).toList } := by
  unfold Recording.upload
  cases source.read disk with
  | error fault =>
      refine ⟨rfl, rfl, ?_⟩
      show ({ events := events } : Recording) = { events := events ++ [] }
      rw [List.append_nil]
  | ok content => exact ⟨rfl, rfl, rfl⟩

theorem Kept.upload (h : Kept w) (disk : Disk) (path : String)
    (source : Source) (binary : Bool) :
    Kept (Recording.channel.watched.upload w disk path source
      binary).state := by
  obtain ⟨hresult, hfiles, hstate⟩ :=
    upload_eased (w.2.filterMap recorded?) disk path source
  rw [← h.channel] at hresult hfiles hstate
  refine h.snoc ⟨hfiles, hresult⟩ ?_
  have hevents : w.1.events = w.2.filterMap recorded? :=
    congrArg Recording.events h.channel
  show (w.1.upload disk path source).state
    = { events := w.1.events ++ (uploadEvent? path (source.read disk)
          (w.1.upload disk path source).result).toList }
  rw [hresult, hevents]
  exact hstate

theorem Kept.start (h : Kept w) (disk : Disk) (command : String) :
    Kept (Recording.channel.watched.start w disk command).state := by
  have hcalm := h.channel
  have hdone : Recording.channel.start w.1 disk command
      = ⟨.ok (calmProcess command),
          { events := w.1.events ++ [.start command] }, disk⟩ := by
    show w.1.start disk command = _
    rw [hcalm]
    rfl
  show Kept ((Recording.channel.start w.1 disk command).state,
    w.2 ++ [⟨disk, .start command
      (Recording.channel.start w.1 disk command).result,
      (Recording.channel.start w.1 disk command).disk⟩])
  rw [hdone]
  exact h.snoc ⟨rfl, rfl⟩ rfl

theorem Kept.wait (h : Kept w) (disk : Disk) (process : Process) :
    Kept (Recording.channel.watched.wait w disk process).state := by
  have hcalm := h.channel
  have hstate : (Recording.channel.wait w.1 disk process).state
      = { events := w.1.events
            ++ [.exited process.command process.code] } := by
    show w.1.record _ = _
    rw [hcalm]
    rfl
  show Kept ((Recording.channel.wait w.1 disk process).state,
    w.2 ++ [⟨disk, .wait process (.ok process.code), disk⟩])
  rw [hstate]
  exact h.snoc ⟨rfl, rfl⟩ rfl

-- ============================================================ all calls

/-- Nothing that a run asks of its channel is not kept. -/
theorem kept_twins :
    Recording.channel.watched.Twins Recording.channel Eq
      fun w r => w.1 = r ∧ Kept w where
  own _ := rfl
  upload := by
    rintro w _ source _ disk path binary ⟨rfl, hkept⟩ rfl
    exact ⟨rfl, rfl, rfl, hkept.upload disk path source binary⟩
  start := by
    rintro w _ disk command ⟨rfl, hkept⟩
    exact ⟨rfl, rfl, rfl, hkept.start disk command⟩
  wait := by
    rintro w _ disk process ⟨rfl, hkept⟩
    exact ⟨rfl, rfl, rfl, rfl, hkept.wait disk process⟩

variable {τ : Type}

/-- The calls of a run over a fresh recording channel all end well, and
the channel has their events. -/
theorem provision_kept (clock : Clock τ) (limit : Nat) (plan : Plan)
    (s : State Recording τ) (h : s.channel = {}) :
    Kept (provision Recording.channel.watched clock limit plan
      s.watched).2.channel := by
  have hkept : Kept (s.channel, []) := ⟨h, nofun⟩
  have halike : (s.watched : State (Recording × List (Exchange Process))
      τ).Alike (fun w r => w.1 = r ∧ Kept w) Eq s :=
    ⟨⟨rfl, hkept⟩, rfl, rfl, rfl, rfl,
      List.forall₂_same.2 fun _ _ => rfl⟩
  exact (provision_agree kept_twins (fun _ => rfl)
    (exchangeable_self plan.settings.elevated) clock limit
    halike).2.channel.2

-- ========================================================== one script

variable {settings : Settings} {limit : Nat} {scene : Scene}
  {disk last : Disk} {path : String} {calls : List (Asked Process)}

/-- A call that leaves the local files as they were. -/
def still {π : Type} (disk : Disk) (call : Asked π) : Exchange π :=
  ⟨disk, call, disk⟩

/-- Where no call changes the local files, all calls find the same. -/
theorem still_of_linked {π : Type} {xs : List (Exchange π)}
    (hlinked : Linked disk xs last)
    (h : ∀ x ∈ xs, x.behind = x.before) :
    xs = (xs.map Exchange.call).map (still disk) ∧ last = disk := by
  induction hlinked with
  | nil => exact ⟨rfl, rfl⟩
  | @cons x rest last _ ih =>
      obtain ⟨hfirst, hrest⟩ := List.forall_mem_cons.1 h
      obtain ⟨before, call, behind⟩ := x
      cases hfirst
      obtain ⟨hsame, hlast⟩ := ih hrest
      exact ⟨congrArg (_ :: ·) hsame, hlast⟩

/-- The upload of a helper file, which is a text. -/
def helperCall {π : Type} (helper : String × String) : Asked π :=
  .upload helper.1 (.ofText helper.2) false (.ok ())

/-- The calls for a script that goes well: its helper files, the script
itself, its start and its end. -/
def scriptCalls (settings : Settings) (helpers : List (String × String))
    (place : Place) (command : String) : List (Asked Process) :=
  helpers.map helperCall ++
    [scriptCall settings place (.ok ()),
      .start command (.ok (calmProcess command)),
      .wait (calmProcess command) (.ok 0)]

/-- The calls for a script that is done, when nothing was scripted, with
what is read of its file. -/
inductive ScriptCalls (settings : Settings) (disk : Disk)
    (path : String) : List (Asked Process) → Prop
  | intro {place : Place} {handed : Bytes}
      (helpers : List (String × String)) (command : String) :
      disk.openAt path = .ok place →
      (Source.file place 0).read disk = .ok handed →
      ScriptCalls settings disk path
        (scriptCalls settings helpers place command)

/-- When a command line is rendered, its helper files were accepted. -/
theorem Rendered.helperCalls {π : Type} {helpers : List (Asked π)}
    {result : Except ProvisionError String}
    (h : Rendered settings scene helpers result) {command : String}
    (hresult : result = .ok command) :
    ∃ files : List (String × String), helpers = files.map helperCall := by
  cases h with
  | plain => exact ⟨[], rfl⟩
  | elevated => exact ⟨[(_, _), (_, _)], rfl⟩
  | varsRefused => cases hresult
  | unfilled => cases hresult
  | wrapperRefused => cases hresult

/-- A script whose upload ended well could be read. -/
theorem Eased.read {place : Place}
    (h : Eased (still disk (scriptCall settings place (.ok ())))) :
    ∃ handed, (Source.file place 0).read disk = .ok handed := by
  have hanswer : Except.ok ()
      = easedUpload ((Source.file place 0).read disk) := h.answer
  cases hread : (Source.file place 0).read disk with
  | error fault =>
      rw [hread] at hanswer
      cases hanswer
  | ok handed => exact ⟨handed, rfl⟩

/-- A script that can be read is not tried in vain. -/
theorem Refusals.eased {place : Place} {command : String}
    {errors : List ProvisionError} {handed : Bytes}
    (h : Refusals settings place command calls errors)
    (hread : (Source.file place 0).read disk = .ok handed)
    (hcalls : ∀ call ∈ calls, Eased (still disk call)) : calls = [] := by
  cases h with
  | none => rfl
  | more hfirst _ =>
      cases hfirst with
      | upload fault =>
          have hanswer : Except.error fault
              = easedUpload ((Source.file place 0).read disk) :=
            (hcalls _ (List.mem_cons_self ..)).answer
          rw [hread] at hanswer
          cases hanswer
      | start fault =>
          cases (hcalls _
            (List.mem_cons_of_mem _ (List.mem_cons_self ..))).answer

/-- The calls for a script that is done. -/
theorem Course.eased {verdict : Verdict}
    (h : Course settings limit scene path calls verdict)
    (hdone : verdict = .done)
    (hcalls : ∀ call ∈ calls, Eased (still scene.disk call)) :
    ScriptCalls settings scene.disk path calls := by
  cases h with
  | unopened => cases hdone
  | unrendered => cases hdone
  | @launched place helpers tries rest command tried _ hopen hrendered
      hlaunched hfinished =>
      obtain ⟨files, rfl⟩ := hrendered.helperCalls rfl
      obtain ⟨-, hbehind⟩ := List.forall_mem_append.1 hcalls
      obtain ⟨htries, hrest⟩ := List.forall_mem_append.1 hbehind
      cases hfinished with
      | gaveUp => cases hdone
      | undecided => cases hdone
      | unwaited => cases hdone
      | exited => cases hdone
      | done process hallows =>
          cases hlaunched with
          | succeeded hrefusals _ =>
              obtain ⟨hvain, hlast⟩ := List.forall_mem_append.1 htries
              obtain ⟨hupload, hlast⟩ := List.forall_mem_cons.1 hlast
              obtain ⟨handed, hread⟩ := hupload.read
              have hnone := hrefusals.eased hread hvain
              subst hnone
              cases (List.forall_mem_singleton.1 hlast).answer
              cases (List.forall_mem_singleton.1 hrest).answer
              exact .intro files command hopen hread

/-- Scripts that are done have their calls, in their order, all with the
local files that the first of them found. -/
theorem Courses.eased {paths : List String}
    {segments : List (List (Exchange Process))} {verdict : Verdict}
    (h : Courses settings limit scene paths segments verdict)
    (hdone : verdict = .done) (heased : ∀ x ∈ segments.flatten, Eased x) :
    List.Forall₂
      (fun path segment => ∃ calls,
        ScriptCalls settings scene.disk path calls ∧
        segment = calls.map (still scene.disk))
      paths segments := by
  induction h with
  | none => exact .nil
  | stopped _ hverdict => exact absurd hdone hverdict
  | @next scene path rest segment mid segments _ hcourse hlinked _ ih =>
      obtain ⟨hfirst, hrest⟩ := List.forall_mem_append.1 heased
      obtain ⟨hsegment, rfl⟩ :=
        still_of_linked hlinked fun x hx => (hfirst x hx).files
      refine .cons ⟨segment.map Exchange.call, ?_, hsegment⟩
        (ih hdone hrest)
      refine hcourse.eased rfl fun call hcall => hfirst _ ?_
      rw [hsegment]
      exact List.mem_map_of_mem hcall

-- ============================================================ all scripts

/-- A run over a fresh recording channel that is done: it is the watched
run, it asked for its scripts in their order, and it has the events of
what it asked. -/
theorem provision_eased (clock : Clock τ) (limit : Nat) (plan : Plan)
    (s : State Recording τ) (h : s.channel = {}) {s' : State Recording τ}
    (hdone : provision Recording.channel clock limit plan s
      = (.done, s')) :
    ∃ scripts disk segments,
      collect plan.settings s.disk = .ok (scripts, disk) ∧
      (provision Recording.channel.watched clock limit plan
        s.watched).2.log = segments.flatten ∧
      (provision Recording.channel.watched clock limit plan
        s.watched).2.unwatched = s' ∧
      s'.channel.events = segments.flatten.filterMap recorded? ∧
      List.Forall₂
        (fun path segment => ∃ calls,
          ScriptCalls plan.settings disk path calls ∧
          segment = calls.map (still disk))
        scripts.paths segments := by
  have hsame : provision Recording.channel clock limit plan s
      = unwatch (provision Recording.channel.watched clock limit plan
          s.watched) :=
    provision_unwatched Recording.channel clock limit plan s.watched
  have hkept := provision_kept clock limit plan s h
  cases hcollect : collect plan.settings s.disk with
  | error e =>
      rw [provision_unstaged hcollect] at hdone
      cases hdone
  | ok collected =>
      obtain ⟨scripts, disk⟩ := collected
      obtain ⟨segments, hlog, -, hcourses⟩ :=
        provision_courses Recording.channel clock limit plan s hcollect
      rw [hdone] at hsame
      rcases hrun : provision Recording.channel.watched clock limit plan
        s.watched with ⟨verdict, last⟩
      rw [hrun] at hsame hkept hlog hcourses
      cases hsame
      have heased : ∀ x ∈ segments.flatten, Eased x := by
        rw [← hlog]
        exact hkept.eased
      refine ⟨scripts, disk, segments, rfl, hlog, rfl, ?_,
        hcourses.eased rfl heased⟩
      rw [← hlog]
      exact congrArg Recording.events hkept.channel

end RemoteProvision.Run
