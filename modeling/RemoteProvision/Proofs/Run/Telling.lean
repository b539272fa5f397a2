/-
What a run tells.

The journal of a run holds what the user was told between the calls to
the channel, so when something was told can be read off it.  It begins
with the opening line.  Then comes a passage for each script that was
begun: the line about the script, and behind it all that was done for it
(`Passage`).  A script that is not done is the last (`Passages`).

Within a passage the run tells of the first failed start, right behind
it, and of nothing else (`ReportedOnce`).  Along the tries of a window
this is an invariant with a flag for what was reported before
(`Reports`); the flag of the run is that one (`attempt_reports`), and
each script begins with it unset.
-/
import RemoteProvision.Proofs.Run.Offered
import RemoteProvision.Proofs.Run.Tries

namespace RemoteProvision

variable {σ τ π : Type}

/-- A channel whose waits pass on what a command printed and say nothing
of how far the run has come. -/
def Channel.SaysNothing (ch : Channel σ π) : Prop :=
  ∀ state disk process,
    ∀ entry ∈ (ch.wait state disk process).output, entry.kind ≠ .say

theorem Ui.ofKind_append (kind : Ui.Kind) (entries rest : List Ui.Entry) :
    Ui.ofKind kind (entries ++ rest)
      = Ui.ofKind kind entries ++ Ui.ofKind kind rest := by
  simp only [Ui.ofKind, List.filter_append, List.map_append]

namespace Run

-- ============================================================ steps

/-- Whether the run itself told the user something. -/
def Step.isTold : Step → Bool
  | .told _ => true
  | _ => false

/-- Whether a step is a start that failed. -/
def Step.failedStart : Step → Bool
  | .start _ (.error _) => true
  | _ => false

def Step.isWait : Step → Bool
  | .wait _ => true
  | _ => false

/-- Whether a step belongs to a wait. -/
def Step.ofWait : Step → Bool
  | .relayed _ => true
  | .wait _ => true
  | _ => false

theorem Step.isWait_of_ofWait {step : Step} (h : step.ofWait = false) :
    step.isWait = false := by
  cases step with
  | wait _ => exact h
  | _ => rfl

/-- A step that is not told and no reason to tell anything. -/
def Step.Quiet (step : Step) : Prop :=
  step.isTold = false ∧ step.failedStart = false

/-- The report of a failed start: the time for retries in whole seconds,
and why the start failed. -/
def failureEntry (timeout : Duration) (fault : ChannelFault) : Ui.Entry :=
  ⟨.error, "Failed to start remote command, retrying for up to "
    ++ toString (timeout.nanos / 1000000000) ++ "s: " ++ fault.message⟩

/-- Nothing is told while no start fails.  When starts fail, the first of
them is told of, right behind it, and nothing else is told. -/
inductive ReportedOnce (timeout : Duration) (steps : List Step) : Prop
  | silent : (∀ step ∈ steps, step.Quiet) → ReportedOnce timeout steps
  | once {front rest : List Step} {command : String}
      {fault : ChannelFault} :
      steps = front ++ .start command (.error fault)
        :: .told (failureEntry timeout fault) :: rest →
      (∀ step ∈ front, step.Quiet) →
      (∀ step ∈ rest, step.isTold = false) →
      ReportedOnce timeout steps

-- ==================================================== the invariant

/-- Steps in which the first failed start is reported.  The flags say
whether one was reported before them, and whether one is behind them. -/
inductive Reports (timeout : Duration) : Bool → List Step → Bool → Prop
  | none {reported : Bool} : Reports timeout reported [] reported
  | quiet {reported last : Bool} {step : Step} {rest : List Step} :
      step.Quiet → step.ofWait = false →
      Reports timeout reported rest last →
      Reports timeout reported (step :: rest) last
  | first {last : Bool} {command : String} {fault : ChannelFault}
      {rest : List Step} :
      Reports timeout true rest last →
      Reports timeout false (.start command (.error fault)
        :: .told (failureEntry timeout fault) :: rest) last
  | again {last : Bool} {command : String} {fault : ChannelFault}
      {rest : List Step} :
      Reports timeout true rest last →
      Reports timeout true (.start command (.error fault) :: rest) last

section Reports

variable {timeout : Duration} {reported mid last : Bool}
  {steps steps' : List Step}

theorem Reports.append (h : Reports timeout reported steps mid)
    (h' : Reports timeout mid steps' last) :
    Reports timeout reported (steps ++ steps') last := by
  induction h with
  | none => exact h'
  | quiet hquiet hwait _ ih => exact .quiet hquiet hwait (ih h')
  | first _ ih => exact .first (ih h')
  | again _ ih => exact .again (ih h')

/-- One more quiet step changes no flag. -/
theorem Reports.snoc {step : Step}
    (h : Reports timeout reported steps last) (hquiet : step.Quiet)
    (hwait : step.ofWait = false) :
    Reports timeout reported (steps ++ [step]) last :=
  h.append (.quiet hquiet hwait .none)

/-- There is no wait among them. -/
theorem Reports.unwaited (h : Reports timeout reported steps last) :
    ∀ step ∈ steps, step.ofWait = false := by
  induction h with
  | none => exact fun _ => nofun
  | quiet _ hwait _ ih => exact List.forall_mem_cons.2 ⟨hwait, ih⟩
  | first _ ih =>
      exact List.forall_mem_cons.2
        ⟨rfl, List.forall_mem_cons.2 ⟨rfl, ih⟩⟩
  | again _ ih => exact List.forall_mem_cons.2 ⟨rfl, ih⟩

/-- Behind a report nothing is told. -/
theorem Reports.untold (h : Reports timeout true steps last) :
    ∀ step ∈ steps, step.isTold = false := by
  generalize hreported : true = reported at h
  induction h with
  | none => exact fun _ => nofun
  | quiet hquiet _ _ ih =>
      exact List.forall_mem_cons.2 ⟨hquiet.1, ih hreported⟩
  | first _ _ => cases hreported
  | again _ ih => exact List.forall_mem_cons.2 ⟨rfl, ih rfl⟩

/-- Quiet steps in front of others. -/
theorem ReportedOnce.cons {step : Step} (hquiet : step.Quiet)
    (h : ReportedOnce timeout steps) :
    ReportedOnce timeout (step :: steps) := by
  cases h with
  | silent hsteps => exact .silent (List.forall_mem_cons.2 ⟨hquiet, hsteps⟩)
  | once hsteps hfront hrest =>
      subst hsteps
      exact .once (List.cons_append ..).symm
        (List.forall_mem_cons.2 ⟨hquiet, hfront⟩) hrest

/-- Quiet steps behind others. -/
theorem ReportedOnce.append (h : ReportedOnce timeout steps)
    (hquiet : ∀ step ∈ steps', step.Quiet) :
    ReportedOnce timeout (steps ++ steps') := by
  cases h with
  | silent hsteps =>
      exact .silent (List.forall_mem_append.2 ⟨hsteps, hquiet⟩)
  | once hsteps hfront hrest =>
      subst hsteps
      rw [List.append_assoc]
      exact .once rfl hfront (List.forall_mem_append.2
        ⟨hrest, fun step hstep => (hquiet step hstep).1⟩)

/-- From the flag unset, there is one report at most, and it is of the
first failed start. -/
theorem Reports.once (h : Reports timeout false steps last) :
    ReportedOnce timeout steps := by
  generalize hreported : false = reported at h
  induction h with
  | none => exact .silent fun _ => nofun
  | quiet hquiet _ _ ih => exact (ih hreported).cons hquiet
  | first hrest _ =>
      exact .once (List.nil_append _).symm (fun _ => nofun) hrest.untold
  | again _ _ => cases hreported

end Reports

-- ============================================================ tries

variable {ch : Channel σ π} {clock : Clock τ} {limit : Nat}
  {settings : Settings} {plan : Plan} {place : Place} {command : String}

/-- Between two states of a run, these steps were written. -/
def Wrote (s : State σ τ) (steps : List Step) (s' : State σ τ) : Prop :=
  s'.journal = s.journal ++ steps

theorem Wrote.trans {s s' s'' : State σ τ} {steps steps' : List Step}
    (h : Wrote s steps s') (h' : Wrote s' steps' s'') :
    Wrote s (steps ++ steps') s'' := by
  unfold Wrote at *
  rw [h', h, List.append_assoc]

theorem Wrote.rfl {s : State σ τ} : Wrote s [] s :=
  (List.append_nil _).symm

/-- An attempt writes what it did and reports a failed start, unless one
was reported before. -/
theorem attempt_reports (ch : Channel σ π) (settings : Settings)
    (place : Place) (command : String) (a : Attempting σ τ) :
    ∃ steps,
      Wrote a.state steps (attempt ch settings place command a).2.state ∧
      Reports settings.startRetryTimeout a.reported steps
        (attempt ch settings place command a).2.reported := by
  obtain ⟨offered, result, hwrote⟩ : ∃ offered result,
      Wrote a.state
        [.upload settings.remotePath offered settings.binary result]
        (a.state.upload ch settings.remotePath (.file place 0)
          settings.binary).2 := ⟨_, _, rfl⟩
  have hupload : ∀ reported,
      Reports settings.startRetryTimeout reported
        [.upload settings.remotePath offered settings.binary result]
        reported :=
    fun _ => .quiet ⟨rfl, rfl⟩ rfl .none
  rcases huploaded : a.state.upload ch settings.remotePath
    (.file place 0) settings.binary with ⟨⟨answer, taken⟩, s⟩
  rw [huploaded] at hwrote
  cases answer with
  | error fault =>
      rw [attempt_refused huploaded]
      exact ⟨_, hwrote, hupload _⟩
  | ok =>
      have hstarted : Wrote s
          [.start command ((s.start ch command).1.map fun _ => ())]
          (s.start ch command).2 := rfl
      rcases hstart : s.start ch command with ⟨answer, s'⟩
      rw [hstart] at hstarted
      cases answer with
      | ok process =>
          rw [attempt_started huploaded hstart]
          exact ⟨_, hwrote.trans hstarted,
            (hupload _).snoc ⟨rfl, rfl⟩ rfl⟩
      | error fault =>
          rw [attempt_unstarted huploaded hstart]
          cases hreported : a.reported with
          | true =>
              exact ⟨_, hwrote.trans hstarted,
                (hupload true).append (.again .none)⟩
          | false =>
              have htold : Wrote s'
                  [.told (failureEntry settings.startRetryTimeout fault)]
                  (s'.complain
                    (startFailure settings.startRetryTimeout fault)) := rfl
              exact ⟨_, hwrote.trans (hstarted.trans htold),
                (hupload false).append (.first .none)⟩

/-- So do failed tries one behind the other, with a pause behind each. -/
theorem FailedTries.reports {deadline : Nat}
    {errors : List ProvisionError} {a a' : Attempting σ τ}
    (h : FailedTries plan.window clock.attempting
      (attempt ch plan.settings place command) deadline a errors a') :
    ∃ steps, Wrote a.state steps a'.state ∧
      Reports plan.settings.startRetryTimeout a.reported steps
        a'.reported := by
  induction h with
  | none => exact ⟨[], .rfl, .none⟩
  | @more a failed read last e errors now hattempt hread _ _ ih =>
      obtain ⟨tried, hwrote, htried⟩ :=
        attempt_reports ch plan.settings place command a
      -- The flag that this attempt leaves is the one the others find.
      obtain ⟨rest, hbehind, hrest⟩ := ih
      rw [hattempt] at hwrote htried
      cases hread
      have hpaused : Wrote failed.state [.pause plan.delay]
          (clock.attempting.pause plan.delay
            (clock.attempting.read failed).2).state := rfl
      exact ⟨_, (hwrote.trans hpaused).trans hbehind,
        (htried.snoc ⟨rfl, rfl⟩ rfl).append hrest⟩

/-- The window of a script begins with nothing reported. -/
theorem launch_reports (ch : Channel σ π) (clock : Clock τ)
    (limit : Nat) (plan : Plan) (place : Place) (command : String)
    (s : State σ τ) :
    ∃ steps last,
      Wrote s steps (launch ch clock limit plan place command s).2 ∧
      Reports plan.settings.startRetryTimeout false steps last := by
  obtain ⟨errors, mid, hrow, hends⟩ :=
    plan.window.run_ends clock.attempting
      (attempt ch plan.settings place command) limit ⟨s, false, 0⟩
  obtain ⟨front, hfront, hreports⟩ := hrow.reports
  have hfront : Wrote s front mid.state := hfront
  obtain ⟨tail, htail, hlast⟩ :=
    attempt_reports ch plan.settings place command mid
  rcases hlaunch : plan.window.run clock.attempting
    (attempt ch plan.settings place command) limit ⟨s, false, 0⟩
    with ⟨tried, behind⟩
  rw [hlaunch] at hends
  rw [launch, hlaunch]
  cases tried with
  | succeeded process =>
      obtain ⟨-, hattempt⟩ := hends
      rw [hattempt] at htail hlast
      exact ⟨_, _, hfront.trans htail, hreports.append hlast⟩
  | gaveUp error =>
      obtain ⟨-, e, failed, now, hattempt, hread, -, -⟩ := hends
      rw [hattempt] at htail hlast
      cases hread
      exact ⟨_, _, hfront.trans htail, hreports.append hlast⟩
  | undecided =>
      obtain ⟨-, rfl⟩ := hends
      exact ⟨_, _, hfront, hreports⟩

/-- Rendering a command line writes the helper uploads, if any. -/
theorem renderCommand_reports (ch : Channel σ π) (settings : Settings)
    (timeout : Duration) (s : State σ τ) :
    ∃ steps, Wrote s steps (renderCommand ch settings s).2 ∧
      ∀ reported, Reports timeout reported steps reported := by
  have hhelper : ∀ (s : State σ τ) (path text : String),
      ∃ step : Step, Wrote s [step] (uploadHelper ch s path text).2 ∧
        ∀ reported, Reports timeout reported [step] reported :=
    fun s path text =>
      ⟨.upload path _ false _, rfl, fun _ => .quiet ⟨rfl, rfl⟩ rfl .none⟩
  cases helevated : settings.elevated with
  | none =>
      rw [renderCommand_plain helevated]
      exact ⟨[], .rfl, fun _ => .none⟩
  | some credentials =>
      obtain ⟨step, hwrote, hreports⟩ : ∃ step : Step,
          Wrote s [step] (uploadVars ch settings s).2 ∧
          ∀ reported, Reports timeout reported [step] reported := by
        rw [uploadVars_eq]
        exact hhelper s.nextAddress.2.nextId.2 _ _
      rcases hvars : uploadVars ch settings s with ⟨result, s'⟩
      rw [hvars] at hwrote
      cases result with
      | error e =>
          rw [renderCommand_varsRefused helevated hvars]
          exact ⟨_, hwrote, hreports⟩
      | ok path =>
          cases hfill : fillElevated settings path with
          | error e =>
              rw [renderCommand_unfilled helevated hvars hfill]
              exact ⟨_, hwrote, hreports⟩
          | ok line =>
              rw [renderCommand_filled helevated hvars hfill,
                uploadWrapper_eq, uploadFilled_ok]
              obtain ⟨step', hwrote', hreports'⟩ :=
                hhelper s'.nextId.2.nextId.2
                  (wrapperFile s'.nextId.2.nextId.1).uploadPath
                  (taskOf credentials line s'.nextId.1).script
              have hids : Wrote s' [step']
                  (uploadHelper ch s'.nextId.2.nextId.2
                    (wrapperFile s'.nextId.2.nextId.1).uploadPath
                    (taskOf credentials line s'.nextId.1).script).2 :=
                hwrote'
              exact ⟨_, hwrote.trans hids,
                fun reported => (hreports reported).append
                  (hreports' reported)⟩

-- ========================================================= passages

/-- What the journal holds of one script: the steps behind its line. -/
structure Passage where
  path : String
  steps : List Step

namespace Passage

/-- The line about a script, and its steps. -/
def written (p : Passage) : List Step :=
  .told ⟨.say, scriptLine p.path⟩ :: p.steps

/-- The wait for the script brought an allowed code. -/
def Done (settings : Settings) (p : Passage) : Prop :=
  ∃ front code, p.steps = front ++ [.wait (.ok code)] ∧
    settings.allows code = true

/-- What is told in a passage, and where it ends: with the wait for the
script, if there is one. -/
structure Lawful (ch : Channel σ π) (settings : Settings) (p : Passage) :
    Prop where
  reported : ReportedOnce settings.startRetryTimeout p.steps
  waited : ∀ step ∈ p.steps.dropLast, step.isWait = false
  /-- What is passed on comes from a wait. -/
  relayed : ∀ entry, .relayed entry ∈ p.steps →
    ∃ state disk process, entry ∈ (ch.wait state disk process).output

end Passage

/-- The passages of scripts in their order, one for each script that was
begun, and the verdict.  A script is begun when those before it are
done. -/
inductive Passages (ch : Channel σ π) (settings : Settings) :
    List String → List Passage → Verdict → Prop
  | none : Passages ch settings [] [] .done
  | stopped {p : Passage} {rest : List String} {verdict : Verdict} :
      p.Lawful ch settings → ¬ p.Done settings → verdict ≠ .done →
      Passages ch settings (p.path :: rest) [p] verdict
  | next {p : Passage} {rest : List String} {passages : List Passage}
      {verdict : Verdict} :
      p.Lawful ch settings → p.Done settings →
      Passages ch settings rest passages verdict →
      Passages ch settings (p.path :: rest) (p :: passages) verdict

/-- Steps without a wait make a passage that is not done. -/
theorem Passage.unwaited (ch : Channel σ π) (path : String)
    {steps : List Step} {last : Bool}
    (h : Reports settings.startRetryTimeout false steps last) :
    Lawful ch settings ⟨path, steps⟩ ∧ ¬ Done settings ⟨path, steps⟩ := by
  refine ⟨⟨h.once, fun step hstep => ?_, fun entry hentry => ?_⟩, ?_⟩
  · exact Step.isWait_of_ofWait
      (h.unwaited step (List.dropLast_subset _ hstep))
  · exact absurd (h.unwaited _ hentry) (by simp [Step.ofWait])
  · intro hdone
    obtain ⟨front, code, hsteps, -⟩ := hdone
    have hsteps : steps = front ++ [.wait (.ok code)] := hsteps
    have hmem : Step.wait (.ok code) ∈ steps := by simp [hsteps]
    exact absurd (h.unwaited _ hmem) (by simp [Step.ofWait])

/-- Steps and a wait behind them make a passage that ends with it. -/
theorem Passage.waited {path : String} {steps : List Step} {last : Bool}
    (h : Reports settings.startRetryTimeout false steps last)
    (state : σ) (disk : Disk) (process : π)
    (answer : Except ChannelFault Int) :
    Lawful ch settings
      ⟨path, steps ++ ((ch.wait state disk process).output.map .relayed
        ++ [.wait answer])⟩ := by
  refine ⟨h.once.append fun step hstep => ?_, fun step hstep => ?_,
    fun entry hentry => ?_⟩
  · rcases List.mem_append.1 hstep with hstep | hstep
    · obtain ⟨entry, -, rfl⟩ := List.mem_map.1 hstep
      exact ⟨rfl, rfl⟩
    · rw [List.mem_singleton.1 hstep]
      exact ⟨rfl, rfl⟩
  · have hstep : step ∈ steps
        ++ (ch.wait state disk process).output.map .relayed := by
      rw [← List.append_assoc, List.dropLast_concat] at hstep
      exact hstep
    rcases List.mem_append.1 hstep with hstep | hstep
    · exact Step.isWait_of_ofWait (h.unwaited step hstep)
    · obtain ⟨entry, -, rfl⟩ := List.mem_map.1 hstep
      rfl
  · refine ⟨state, disk, process, ?_⟩
    rcases List.mem_append.1 hentry with hentry | hentry
    · exact absurd (h.unwaited _ hentry) (by simp [Step.ofWait])
    · simpa using hentry

/-- Whether it is done is the answer of the wait. -/
theorem Passage.done_waited {path : String} {steps : List Step}
    {output : List Ui.Entry} {answer : Except ChannelFault Int} :
    Done settings
        ⟨path, steps ++ (output.map .relayed ++ [.wait answer])⟩ ↔
      ∃ code, answer = .ok code ∧ settings.allows code = true := by
  constructor
  · intro hdone
    obtain ⟨front, code, hsteps, hallows⟩ := hdone
    have hlast := congrArg List.getLast? hsteps
    simp only [← List.append_assoc, List.getLast?_concat] at hlast
    cases hlast
    exact ⟨code, rfl, hallows⟩
  · intro hanswer
    obtain ⟨code, rfl, hallows⟩ := hanswer
    exact ⟨steps ++ output.map .relayed, code,
      (List.append_assoc _ _ _).symm, hallows⟩

/-- From a state a script writes its passage, and is done when that
is. -/
def WritesPassage (ch : Channel σ π) (settings : Settings) (path : String)
    (s : State σ τ) (outcome : Verdict × State σ τ) : Prop :=
  ∃ steps, Wrote s steps outcome.2 ∧
    Passage.Lawful ch settings ⟨path, steps⟩ ∧
    (outcome.1 = .done ↔ Passage.Done settings ⟨path, steps⟩)

/-- It does when it fails with no wait behind it. -/
theorem WritesPassage.unwaited {path : String} {s s' : State σ τ}
    {steps : List Step} {last : Bool} {verdict : Verdict}
    (hwrote : Wrote s steps s')
    (h : Reports settings.startRetryTimeout false steps last)
    (hverdict : verdict ≠ .done) :
    WritesPassage ch settings path s (verdict, s') := by
  obtain ⟨hlawful, hdone⟩ := Passage.unwaited ch path h
  exact ⟨steps, hwrote, hlawful, iff_of_false hverdict hdone⟩

/-- It does when it waits for its process. -/
theorem WritesPassage.waited {path : String} {s s' : State σ τ}
    {steps : List Step} {last : Bool} (hwrote : Wrote s steps s')
    (h : Reports settings.startRetryTimeout false steps last)
    (process : π) :
    WritesPassage ch settings path s (finish ch settings process s') := by
  have hwaited : Wrote s'
      ((ch.wait s'.channel s'.disk process).output.map .relayed
        ++ [.wait (ch.wait s'.channel s'.disk process).result])
      (s'.wait ch process).2 := List.append_assoc _ _ _
  have hanswer : (s'.wait ch process).1
      = (ch.wait s'.channel s'.disk process).result := rfl
  rcases hwait : s'.wait ch process with ⟨answer, s''⟩
  rw [hwait] at hwaited hanswer
  rw [← hanswer] at hwaited
  refine ⟨_, ?_, Passage.waited h s'.channel s'.disk process answer, ?_⟩
  · cases answer with
    | error fault =>
        rw [finish_unwaited hwait]
        exact hwrote.trans hwaited
    | ok code =>
        rw [finish_waited hwait]
        exact hwrote.trans hwaited
  · rw [Passage.done_waited]
    cases answer with
    | error fault =>
        rw [finish_unwaited hwait]
        exact iff_of_false nofun nofun
    | ok code =>
        rw [finish_waited hwait]
        by_cases hallows : settings.allows code = true
        · simp [hallows]
        · simp [hallows]

/-- A script writes its passage on every way out. -/
theorem runScript_passage (ch : Channel σ π) (clock : Clock τ)
    (limit : Nat) (plan : Plan) (path : String) (s : State σ τ) :
    WritesPassage ch plan.settings path s
      (runScript ch clock limit plan path s) := by
  cases hopen : s.disk.openAt path with
  | error fault =>
      rw [runScript_unopened hopen]
      exact .unwaited .rfl (.none : Reports _ false [] false) nofun
  | ok place =>
      obtain ⟨helpers, hrendered, hhelpers⟩ :=
        renderCommand_reports ch plan.settings
          plan.settings.startRetryTimeout s
      rcases hrender : renderCommand ch plan.settings s with ⟨result, s'⟩
      rw [hrender] at hrendered
      cases result with
      | error e =>
          rw [runScript_unrendered hopen hrender]
          exact .unwaited hrendered (hhelpers false) nofun
      | ok command =>
          obtain ⟨tries, last, hlaunched, htries⟩ :=
            launch_reports ch clock limit plan place command s'
          rcases hlaunch : launch ch clock limit plan place command s'
            with ⟨tried, s''⟩
          rw [hlaunch] at hlaunched
          have hwrote := hrendered.trans hlaunched
          have hreports := (hhelpers false).append htries
          cases tried with
          | undecided =>
              rw [runScript_undecided hopen hrender hlaunch]
              exact .unwaited hwrote hreports nofun
          | gaveUp e =>
              rw [runScript_gaveUp hopen hrender hlaunch]
              exact .unwaited hwrote hreports nofun
          | succeeded process =>
              rw [runScript_launched hopen hrender hlaunch]
              exact .waited hwrote hreports process

/-- Scripts in their order write their passages, each behind its line. -/
theorem runScripts_passages (ch : Channel σ π) (clock : Clock τ)
    (limit : Nat) (plan : Plan) (paths : List String) (s : State σ τ) :
    ∃ passages : List Passage,
      Wrote s (passages.flatMap Passage.written)
        (runScripts ch clock limit plan paths s).2 ∧
      Passages ch plan.settings paths passages
        (runScripts ch clock limit plan paths s).1 := by
  induction paths generalizing s with
  | nil => exact ⟨[], .rfl, .none⟩
  | cons path rest ih =>
      have hsaid : Wrote s [.told ⟨.say, scriptLine path⟩]
          (s.say (scriptLine path)) := rfl
      obtain ⟨steps, hwrote, hlawful, hdone⟩ :=
        runScript_passage ch clock limit plan path
          (s.say (scriptLine path))
      rcases hrun : runScript ch clock limit plan path
        (s.say (scriptLine path)) with ⟨verdict, s'⟩
      rw [hrun] at hwrote hdone
      have hpassage : Wrote s (Passage.written ⟨path, steps⟩) s' :=
        hsaid.trans hwrote
      by_cases hverdict : verdict = .done
      · subst hverdict
        rw [runScripts_done hrun]
        obtain ⟨passages, hbehind, hpassages⟩ := ih s'
        refine ⟨⟨path, steps⟩ :: passages, ?_,
          .next hlawful (hdone.1 rfl) hpassages⟩
        rw [List.flatMap_cons]
        exact hpassage.trans hbehind
      · rw [runScripts_stopped hrun hverdict]
        refine ⟨[⟨path, steps⟩], ?_,
          .stopped hlawful (fun h => hverdict (hdone.2 h)) hverdict⟩
        rw [List.flatMap_singleton]
        exact hpassage

-- ======================================================= the theorem

/-- What a silent or once reporting row of steps tells is the report of a
failed start. -/
theorem ReportedOnce.told {timeout : Duration} {steps : List Step}
    (h : ReportedOnce timeout steps) {entry : Ui.Entry}
    (hentry : .told entry ∈ steps) :
    ∃ fault, entry = failureEntry timeout fault := by
  cases h with
  | silent hsteps => cases (hsteps _ hentry).1
  | @once front rest command fault hsteps hfront hrest =>
      subst hsteps
      simp only [List.mem_append, List.mem_cons, reduceCtorEq,
        false_or, Step.told.injEq] at hentry
      rcases hentry with hentry | hentry | hentry
      · cases (hfront _ hentry).1
      · exact ⟨fault, hentry⟩
      · cases hrest _ hentry

/-- Of the entries of a passage only its line says how far the run has
come, if waits do not. -/
theorem Passage.Lawful.says {p : Passage} (h : p.Lawful ch settings)
    (hsilent : ch.SaysNothing) :
    Ui.ofKind .say (p.written.filterMap Step.entry?)
      = [scriptLine p.path] := by
  have hnone : ∀ entry ∈ p.steps.filterMap Step.entry?,
      ¬ (entry.kind = .say) := by
    intro entry hentry
    obtain ⟨step, hstep, hof⟩ := List.mem_filterMap.1 hentry
    cases step with
    | told told =>
        cases hof
        obtain ⟨fault, rfl⟩ := h.reported.told hstep
        exact nofun
    | relayed relayed =>
        cases hof
        obtain ⟨state, disk, process, houtput⟩ := h.relayed _ hstep
        exact hsilent state disk process _ houtput
    | _ => cases hof
  have hfilter : (p.steps.filterMap Step.entry?).filter
      (fun entry => entry.kind = .say) = [] :=
    List.filter_eq_nil_iff.2 fun entry hentry => by
      simpa using hnone entry hentry
  simp [Passage.written, Ui.ofKind, Step.entry?, hfilter]

/-- So passages say their lines and nothing else. -/
theorem Passages.says {paths : List String} {passages : List Passage}
    {verdict : Verdict}
    (h : Passages ch settings paths passages verdict)
    (hsilent : ch.SaysNothing) :
    Ui.ofKind .say ((passages.flatMap Passage.written).filterMap
        Step.entry?)
      = passages.map fun p => scriptLine p.path := by
  induction h with
  | none => rfl
  | stopped hlawful _ _ =>
      rw [List.flatMap_singleton, hlawful.says hsilent]
      rfl
  | next hlawful _ _ ih =>
      rw [List.flatMap_cons, List.filterMap_append, Ui.ofKind_append,
        hlawful.says hsilent, ih]
      rfl

/-- What was told between two states are the entries of the steps that
were written. -/
theorem Wrote.told {s s' : State σ τ} {steps : List Step}
    (h : Wrote s steps s') (kind : Ui.Kind) :
    Ui.ofKind kind s'.entries = Ui.ofKind kind s.entries
      ++ Ui.ofKind kind (steps.filterMap Step.entry?) := by
  unfold Wrote at h
  rw [State.entries, h, List.filterMap_append, Ui.ofKind_append]
  rfl

/-- A run writes the opening line and then a passage for each script that
was begun.  In a passage the first failed start is reported, once, with
the time for retries and its own reason.  When waits say nothing, the
lines said are the opening line and the lines about the scripts. -/
theorem provision_tells (ch : Channel σ π) (clock : Clock τ)
    (limit : Nat) (plan : Plan) (s : State σ τ) :
    ∃ passages : List Passage,
      Wrote s (.told ⟨.say, openingLine⟩
          :: passages.flatMap Passage.written)
        (provision ch clock limit plan s).2 ∧
      (match collect plan.settings s.disk with
        | .error e =>
          passages = [] ∧ (provision ch clock limit plan s).1 = .failed e
        | .ok (scripts, _) =>
          Passages ch plan.settings scripts.paths passages
            (provision ch clock limit plan s).1) ∧
      (ch.SaysNothing →
        Ui.ofKind .say (provision ch clock limit plan s).2.entries
          = Ui.ofKind .say s.entries
            ++ openingLine :: passages.map fun p => scriptLine p.path) := by
  have hopening : ∀ steps,
      Ui.ofKind .say ((.told ⟨.say, openingLine⟩ :: steps).filterMap
        Step.entry?)
      = openingLine :: Ui.ofKind .say (steps.filterMap Step.entry?) :=
    fun _ => rfl
  cases hcollect : collect plan.settings s.disk with
  | error e =>
      rw [provision_unstaged hcollect]
      have hwrote : Wrote s [.told ⟨.say, openingLine⟩]
          (s.say openingLine) := rfl
      exact ⟨[], hwrote, ⟨rfl, rfl⟩, fun _ => hwrote.told .say⟩
  | ok staged =>
      obtain ⟨scripts, disk⟩ := staged
      obtain ⟨passages, hwrote, hpassages⟩ :=
        runScripts_passages ch clock limit plan scripts.paths
          { s.say openingLine with disk := disk }
      rcases hrun : runScripts ch clock limit plan scripts.paths
        { s.say openingLine with disk := disk } with ⟨verdict, s'⟩
      rw [hrun] at hwrote hpassages
      rw [provision_staged hcollect hrun]
      have hopened : Wrote s [.told ⟨.say, openingLine⟩]
          { s.say openingLine with disk := disk } := rfl
      have hall : Wrote s (.told ⟨.say, openingLine⟩
          :: passages.flatMap Passage.written)
          { s' with disk := scripts.discard s'.disk } :=
        hopened.trans hwrote
      refine ⟨passages, hall, hpassages, fun hsilent => ?_⟩
      rw [hall.told .say, hopening, hpassages.says hsilent]

/-- What a scripted command prints are messages and errors. -/
theorem scripted_saysNothing : Scripted.channel.SaysNothing := by
  intro state disk ending entry hentry
  rcases List.mem_append.1 hentry with hentry | hentry
  · obtain ⟨line, -, rfl⟩ := List.mem_map.1 hentry
    exact nofun
  · obtain ⟨line, -, rfl⟩ := List.mem_map.1 hentry
    exact nofun

/-- The trial tells of its two scripts, each in its passage. -/
theorem trial_tells :
    Scripted.channel.SaysNothing ∧
    ∃ passages : List Passage,
      Passages Scripted.channel trialSettings
        ["setup.ps1", "/psprov-inline-000000.ps1"] passages
        (provision Scripted.channel (Clock.stepping 1) 9
          ⟨trialSettings, .ofMillis 5⟩ trialState).1 ∧
      Ui.ofKind .say (provision Scripted.channel (Clock.stepping 1) 9
          ⟨trialSettings, .ofMillis 5⟩ trialState).2.entries
        = openingLine :: passages.map fun p => scriptLine p.path := by
  have hcollect : collect trialSettings trialState.disk
      = .ok (⟨["setup.ps1", "/psprov-inline-000000.ps1"],
          some ⟨"/psprov-inline-000000.ps1",
            ["psprov-inline-000000.ps1"]⟩⟩, trialDisk) := rfl
  obtain ⟨passages, -, hpassages, hsays⟩ :=
    provision_tells Scripted.channel (Clock.stepping 1) 9
      ⟨trialSettings, .ofMillis 5⟩ trialState
  rw [hcollect] at hpassages
  exact ⟨scripted_saysNothing, passages, hpassages,
    hsays scripted_saysNothing⟩

/-- The upload that failed is not told of; the start that failed is. -/
example : (provision Scripted.channel (Clock.stepping 1) 9
      ⟨trialSettings, .ofMillis 5⟩ trialState).2.entries
    = [⟨.say, openingLine⟩, ⟨.say, scriptLine "setup.ps1"⟩,
        ⟨.error,
          "Failed to start remote command, retrying for up to 1s: busy"⟩,
        ⟨.say, scriptLine "/psprov-inline-000000.ps1"⟩] := by
  decide +kernel

end Run

end RemoteProvision
