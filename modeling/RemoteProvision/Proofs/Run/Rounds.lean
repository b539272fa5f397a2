/-
The rounds of a run.

A run reads its clock and pauses on it in its windows only.  What it does
to the clock is a list of ticks (`Ticking`), one stretch for each script
that was begun: nothing for a script that is not tried, and otherwise the
reading that opens its window and then the readings and pauses of its
tries (`OwnWindow`).  So the deadline of a script is reckoned from a
reading of its own, which no other script has a part in.

A round is all that becomes of one script: its calls, its ticks and the
verdict (`Round`).  For the window the row of failed tries is walked
through once (`FailedTries.timely`); a run is then one round behind the
other (`provision_rounds`).  Where time does not matter, rounds are
courses (`provision_courses`).
-/
import RemoteProvision.Proofs.Run.Follows
import RemoteProvision.Proofs.Run.Tries

namespace RemoteProvision.Run

variable {σ τ π : Type}

-- ============================================================= ticks

/-- What is done to a clock. -/
inductive Tick where
  /-- It was read, and showed a time. -/
  | looked (now : Nat)
  | slept (span : Duration)

/-- A clock goes from one state to another while some things are done to
it. -/
inductive Ticking (clock : Clock τ) : τ → List Tick → τ → Prop
  | none {time : τ} : Ticking clock time [] time
  | looked {time last : τ} {ticks : List Tick} :
      Ticking clock (clock.read time).2 ticks last →
      Ticking clock time (.looked (clock.read time).1 :: ticks) last
  | slept {time last : τ} {span : Duration} {ticks : List Tick} :
      Ticking clock (clock.pause span time) ticks last →
      Ticking clock time (.slept span :: ticks) last

theorem Ticking.append {clock : Clock τ} {time mid last : τ}
    {ticks ticks' : List Tick} (h : Ticking clock time ticks mid)
    (h' : Ticking clock mid ticks' last) :
    Ticking clock time (ticks ++ ticks') last := by
  induction h with
  | none => exact h'
  | looked _ ih => exact .looked (ih h')
  | slept _ ih => exact .slept (ih h')

-- ================================================= untouched clocks

variable {ch : Channel σ π} {clock : Clock τ} {limit : Nat}
  {plan : Plan}

/-- Rendering leaves the clock alone. -/
theorem renderCommand_time (ch : Channel σ π) (settings : Settings)
    (s : State σ τ) :
    (renderCommand ch settings s).2.time = s.time := by
  cases helevated : settings.elevated with
  | none =>
      rw [renderCommand_plain helevated]
      rfl
  | some credentials =>
      have htime : (uploadVars ch settings s).2.time = s.time := rfl
      rcases hvars : uploadVars ch settings s with ⟨result, s'⟩
      rw [hvars] at htime
      cases result with
      | error e =>
          rw [renderCommand_varsRefused helevated hvars]
          exact htime
      | ok path =>
          cases hfill : fillElevated settings path with
          | error e =>
              rw [renderCommand_unfilled helevated hvars hfill]
              exact htime
          | ok command =>
              rw [renderCommand_filled helevated hvars hfill,
                uploadWrapper_eq, uploadFilled_ok]
              exact htime

/-- So does an attempt; the clock is read behind it. -/
theorem attempt_time (ch : Channel σ π) (settings : Settings)
    (place : Place) (command : String) (a : Attempting σ τ) :
    (attempt ch settings place command a).2.state.time
      = a.state.time := by
  have htime : (a.state.upload ch settings.remotePath (.file place 0)
    settings.binary).2.time = a.state.time := rfl
  rcases hupload : a.state.upload ch settings.remotePath
    (.file place 0) settings.binary with ⟨⟨result, taken⟩, s⟩
  rw [hupload] at htime
  cases result with
  | error fault =>
      rw [attempt_refused hupload]
      exact htime
  | ok =>
      have htime' : (s.start ch command).2.time = s.time := rfl
      rcases hstart : s.start ch command with ⟨result, s'⟩
      rw [hstart] at htime'
      cases result with
      | ok process =>
          rw [attempt_started hupload hstart]
          exact htime'.trans htime
      | error fault =>
          rw [attempt_unstarted hupload hstart]
          cases a.reported with
          | true => exact htime'.trans htime
          | false => exact htime'.trans htime

theorem finish_time (ch : Channel σ π) (settings : Settings)
    (process : π) (s : State σ τ) :
    (finish ch settings process s).2.time = s.time := by
  have htime : (s.wait ch process).2.time = s.time := rfl
  rcases hwait : s.wait ch process with ⟨answer, s'⟩
  rw [hwait] at htime
  cases answer with
  | error fault =>
      rw [finish_unwaited hwait]
      exact htime
  | ok code =>
      rw [finish_waited hwait]
      cases settings.allows code with
      | true => exact htime
      | false => exact htime

/-- What follows on a window leaves the clock alone as well. -/
theorem runScript_finish_time {path command : String} {place : Place}
    {s rendered launched : State σ τ} {tried : Tried π}
    (hopen : s.disk.openAt path = .ok place)
    (hrender : renderCommand ch plan.settings s
      = (.ok command, rendered))
    (hlaunch : launch ch clock limit plan place command rendered
      = (tried, launched)) :
    (runScript ch clock limit plan path s).2.time = launched.time := by
  cases tried with
  | undecided => rw [runScript_undecided hopen hrender hlaunch]
  | gaveUp e => rw [runScript_gaveUp hopen hrender hlaunch]
  | succeeded process =>
      rw [runScript_launched hopen hrender hlaunch, finish_time]

-- ============================================================= tries

section Tries

variable {settings : Settings} {place : Place} {command : String}
  {calls rest : List (Asked π)} {ticks : List Tick}
  {errors : List ProvisionError}

/-- Attempts that failed one behind the other, each before a deadline:
their calls, what was done to the clock, and their errors. -/
inductive TimelyRefusals (plan : Plan) (place : Place)
    (command : String) (deadline : Nat) :
    List (Asked π) → List Tick → List ProvisionError → Prop
  | none : TimelyRefusals plan place command deadline [] [] []
  | more {calls rest : List (Asked π)} {ticks : List Tick}
      {errors : List ProvisionError} {e : ProvisionError} {now : Nat} :
      Refusal plan.settings place command calls e →
      now < deadline →
      TimelyRefusals plan place command deadline rest ticks errors →
      TimelyRefusals plan place command deadline (calls ++ rest)
        (.looked now :: .slept plan.delay :: ticks) (e :: errors)

/-- The window of a script: its calls, what was done to the clock, and
how it ended.  The first thing is a reading, and the deadline is
reckoned from it; at most `limit` attempts are looked at. -/
inductive OwnWindow (plan : Plan) (limit : Nat) (place : Place)
    (command : String) : List (Asked π) → List Tick → Tried π → Prop
  | succeeded {calls : List (Asked π)} {ticks : List Tick}
      {errors : List ProvisionError} {opened : Nat} {process : π} :
      TimelyRefusals plan place command
        (opened + plan.settings.startRetryTimeout.nanos) calls ticks
        errors →
      errors.length < limit →
      OwnWindow plan limit place command
        (calls ++ [scriptCall plan.settings place (.ok ()),
          .start command (.ok process)])
        (.looked opened :: ticks) (.succeeded process)
  | gaveUp {calls final : List (Asked π)} {ticks : List Tick}
      {errors : List ProvisionError} {opened now : Nat}
      {last : ProvisionError} :
      TimelyRefusals plan place command
        (opened + plan.settings.startRetryTimeout.nanos) calls ticks
        errors →
      Refusal plan.settings place command final last →
      opened + plan.settings.startRetryTimeout.nanos ≤ now →
      errors.length < limit →
      OwnWindow plan limit place command (calls ++ final)
        (.looked opened :: (ticks ++ [.looked now]))
        (.gaveUp (.retriesExhausted plan.settings.startRetryTimeout last))
  | undecided {calls : List (Asked π)} {ticks : List Tick}
      {errors : List ProvisionError} {opened : Nat} :
      TimelyRefusals plan place command
        (opened + plan.settings.startRetryTimeout.nanos) calls ticks
        errors →
      errors.length = limit →
      OwnWindow plan limit place command calls
        (.looked opened :: ticks) .undecided

theorem TimelyRefusals.refusals {deadline : Nat}
    (h : TimelyRefusals plan place command deadline calls ticks
      errors) :
    Refusals plan.settings place command calls errors := by
  induction h with
  | none => exact .none
  | more hfirst _ _ ih => exact .more hfirst ih

/-- Without its ticks, the window of a script is as was said of it. -/
theorem OwnWindow.launched {tried : Tried π}
    (h : OwnWindow plan limit place command calls ticks tried) :
    Launched plan.settings limit place command calls tried := by
  cases h with
  | succeeded htries hcount =>
      exact .succeeded htries.refusals hcount
  | gaveUp htries hlast _ hcount =>
      exact .gaveUp (htries.refusals.snoc hlast) hcount
  | undecided htries hcount => exact .undecided htries.refusals hcount

variable {a a' : Attempting (σ × List (Exchange π)) τ}

/-- A row of failed tries is a row of timely refusals. -/
theorem FailedTries.timely {deadline : Nat}
    (h : FailedTries plan.window clock.attempting
      (attempt ch.watched plan.settings place command) deadline a errors
      a') :
    ∃ calls ticks,
      TimelyRefusals plan place command deadline calls ticks errors ∧
      Leg ch a.state calls 0 0 a'.state ∧
      Ticking clock a.state.time ticks a'.state.time := by
  induction h with
  | none => exact ⟨[], [], .none, .still rfl rfl rfl rfl, .none⟩
  | @more world failed read last e errors now hattempt hread hnow
      hrow ih =>
      obtain ⟨calls, hrefusal, hleg⟩ := attempt_refusal hattempt
      obtain ⟨rest, ticks, htries, hleg', hticking⟩ := ih
      have htime : failed.state.time = world.state.time := by
        have htime := attempt_time ch.watched plan.settings place
          command world
        rw [hattempt] at htime
        exact htime
      cases hread
      refine ⟨calls ++ rest, _, .more hrefusal hnow htries,
        hleg.call ((Leg.read.call (.pause _)).call hleg'), ?_⟩
      rw [← htime]
      exact .looked (.slept hticking)

/-- Trying a script is a leg, and as its window says. -/
theorem launch_ownWindow (ch : Channel σ π) (clock : Clock τ)
    (limit : Nat) (plan : Plan) (place : Place) (command : String)
    (s : State (σ × List (Exchange π)) τ) :
    ∃ calls ticks,
      OwnWindow plan limit place command calls ticks
        (launch ch.watched clock limit plan place command s).1 ∧
      Leg ch s calls 0 0
        (launch ch.watched clock limit plan place command s).2 ∧
      Ticking clock s.time ticks
        (launch ch.watched clock limit plan place command s).2.time := by
  obtain ⟨errors, mid, hrow, hends⟩ :=
    plan.window.run_ends clock.attempting
      (attempt ch.watched plan.settings place command) limit
      ⟨s, false, 0⟩
  obtain ⟨calls, ticks, htries, hleg, hticking⟩ := hrow.timely
  have hleg : Leg ch s calls 0 0 mid.state :=
    Leg.read.call hleg
  have hmid := attempt_time ch.watched plan.settings place command mid
  rcases hlaunch : plan.window.run clock.attempting
    (attempt ch.watched plan.settings place command) limit
    ⟨s, false, 0⟩ with ⟨tried, last⟩
  rw [hlaunch] at hends
  rw [launch, hlaunch]
  cases tried with
  | succeeded process =>
      obtain ⟨hcount, hattempt⟩ := hends
      rw [hattempt] at hmid
      refine ⟨_, _, .succeeded htries hcount,
        hleg.call (attempt_success hattempt), .looked ?_⟩
      show Ticking clock _ ticks last.state.time
      rw [hmid]
      exact hticking
  | gaveUp error =>
      obtain ⟨hcount, e, failed, now, hattempt, hread, hlate, rfl⟩ :=
        hends
      obtain ⟨final, hrefusal, hleg'⟩ := attempt_refusal hattempt
      rw [hattempt] at hmid
      cases hread
      refine ⟨_, _, .gaveUp htries hrefusal hlate hcount,
        hleg.call (hleg'.rest .read), .looked (hticking.append ?_)⟩
      rw [← hmid]
      exact .looked .none
  | undecided =>
      obtain ⟨hcount, rfl⟩ := hends
      exact ⟨_, _, .undecided htries hcount, hleg, .looked hticking⟩

end Tries

-- ============================================================ rounds

/-- The calls of one script, what was done to the clock, and the
verdict.  The clock is used in the window of the script only. -/
inductive Round (plan : Plan) (limit : Nat) (scene : Scene)
    (path : String) : List (Asked π) → List Tick → Verdict → Prop
  | unopened {fault : IoFault} :
      scene.disk.openAt path = .error fault →
      Round plan limit scene path [] []
        (.failed (.scriptOpen path fault))
  | unrendered {place : Place} {helpers : List (Asked π)}
      {e : ProvisionError} :
      scene.disk.openAt path = .ok place →
      Rendered plan.settings scene helpers (.error e) →
      Round plan limit scene path helpers [] (.failed e)
  | launched {place : Place} {helpers calls rest : List (Asked π)}
      {ticks : List Tick} {command : String} {tried : Tried π}
      {verdict : Verdict} :
      scene.disk.openAt path = .ok place →
      Rendered plan.settings scene helpers (.ok command) →
      OwnWindow plan limit place command calls ticks tried →
      Finished plan.settings tried rest verdict →
      Round plan limit scene path (helpers ++ (calls ++ rest)) ticks
        verdict

/-- The rounds of scripts in their order, one for each script that was
begun, and the verdict: that of the first script that is not done. -/
inductive Rounds (plan : Plan) (limit : Nat) :
    Scene → List String → List (List (Exchange π) × List Tick) →
      Verdict → Prop
  | none {scene : Scene} : Rounds plan limit scene [] [] .done
  | stopped {scene : Scene} {path : String} {rest : List String}
      {segment : List (Exchange π)} {ticks : List Tick} {disk : Disk}
      {verdict : Verdict} :
      Round plan limit scene path (segment.map Exchange.call) ticks
        verdict →
      verdict ≠ .done →
      Linked scene.disk segment disk →
      Rounds plan limit scene (path :: rest) [(segment, ticks)] verdict
  | next {scene : Scene} {path : String} {rest : List String}
      {segment : List (Exchange π)} {ticks : List Tick} {disk : Disk}
      {rounds : List (List (Exchange π) × List Tick)}
      {verdict : Verdict} :
      Round plan limit scene path (segment.map Exchange.call) ticks
        .done →
      Linked scene.disk segment disk →
      Rounds plan limit (scene.next plan.settings disk) rest rounds
        verdict →
      Rounds plan limit scene (path :: rest)
        ((segment, ticks) :: rounds) verdict

/-- Without its ticks, a round is a course. -/
theorem Round.course {scene : Scene} {path : String}
    {calls : List (Asked π)} {ticks : List Tick} {verdict : Verdict}
    (h : Round plan limit scene path calls ticks verdict) :
    Course plan.settings limit scene path calls verdict := by
  cases h with
  | unopened hopen => exact .unopened hopen
  | unrendered hopen hrendered => exact .unrendered hopen hrendered
  | launched hopen hrendered hwindow hfinished =>
      exact .launched hopen hrendered hwindow.launched hfinished

/-- What some scripts have drawn when each of them was tried. -/
def Drawn (settings : Settings) (count : Nat) (s s' : State σ τ) :
    Prop :=
  s'.ids = s.ids.skip (count * idsDrawn settings) ∧
  s'.addresses = s.addresses.skip count

/-- A script is a round, and the ids that it draws stand in its calls.
When it is tried, however often, it has drawn an address and the ids of
its helpers. -/
theorem runScript_round (ch : Channel σ π) (clock : Clock τ)
    (limit : Nat) (plan : Plan) (path : String)
    (s : State (σ × List (Exchange π)) τ) :
    ∃ calls ticks uses addresses,
      Round plan limit s.scene path calls ticks
        (runScript ch.watched clock limit plan path s).1 ∧
      Naming plan.settings s.ids calls uses ∧
      Leg ch s calls uses.length addresses
        (runScript ch.watched clock limit plan path s).2 ∧
      Ticking clock s.time ticks
        (runScript ch.watched clock limit plan path s).2.time ∧
      uses.length ≤ idsDrawn plan.settings ∧
      (ticks ≠ [] →
        uses.length = idsDrawn plan.settings ∧ addresses = 1) := by
  cases hopen : s.disk.openAt path with
  | error fault =>
      rw [runScript_unopened hopen]
      exact ⟨[], [], [], 0, .unopened hopen, .none,
        .still rfl rfl rfl rfl, .none, Nat.zero_le _,
        fun hticks => absurd rfl hticks⟩
  | ok place =>
      obtain ⟨helpers, uses, hrendered, hnaming, hhelpers, hmost,
          hdrawn⟩ :=
        renderCommand_leg ch plan.settings s
      have htime := renderCommand_time ch.watched plan.settings s
      rcases hrender : renderCommand ch.watched plan.settings s
        with ⟨result, rendered⟩
      rw [hrender] at hrendered hhelpers hdrawn htime
      cases result with
      | error e =>
          rw [runScript_unrendered hopen hrender]
          refine ⟨_, [], _, _, .unrendered hopen hrendered, hnaming,
            hhelpers, ?_, hmost, fun hticks => absurd rfl hticks⟩
          rw [← htime]
          exact .none
      | ok command =>
          obtain ⟨calls, ticks, hwindow, hcalls, hticking⟩ :=
            launch_ownWindow ch clock limit plan place command rendered
          rcases hlaunch : launch ch.watched clock limit plan place
            command rendered with ⟨tried, launched⟩
          rw [hlaunch] at hwindow hcalls hticking
          obtain ⟨rest, hfinished, hrest⟩ :=
            runScript_finished hopen hrender hlaunch
          have hattempts : ∀ call ∈ calls ++ rest,
              IsAttempt plan.settings s.disk path call :=
            List.forall_mem_append.2
              ⟨hwindow.launched.areAttempts hopen,
                hfinished.areAttempts⟩
          have hnaming := hnaming.append (.of_attempts hattempts)
          rw [List.append_nil] at hnaming
          refine ⟨_, _, _, _,
            .launched hopen hrendered hwindow hfinished, hnaming,
            hhelpers.call (hcalls.call hrest), ?_, hmost,
            fun _ => ⟨hdrawn rfl, rfl⟩⟩
          rw [runScript_finish_time hopen hrender hlaunch, ← htime]
          exact hticking

/-- A script that is done was tried. -/
theorem Round.ticks_of_done {scene : Scene} {path : String}
    {calls : List (Asked π)} {ticks : List Tick}
    (h : Round plan limit scene path calls ticks .done) :
    ticks ≠ [] := by
  cases h with
  | launched _ _ hwindow _ => cases hwindow <;> exact nofun

/-- Scripts are rounds, one behind the other. -/
theorem runScripts_rounds (ch : Channel σ π) (clock : Clock τ)
    (limit : Nat) (plan : Plan) (paths : List String)
    (s : State (σ × List (Exchange π)) τ) :
    ∃ rounds : List (List (Exchange π) × List Tick),
      (runScripts ch.watched clock limit plan paths s).2.log
        = s.log ++ rounds.flatMap Prod.fst ∧
      (∀ x ∈ rounds.flatMap Prod.fst, ch.Played x) ∧
      Ticking clock s.time (rounds.flatMap Prod.snd)
        (runScripts ch.watched clock limit plan paths s).2.time ∧
      Rounds plan limit s.scene paths rounds
        (runScripts ch.watched clock limit plan paths s).1 ∧
      ((∀ round ∈ rounds, round.2 ≠ []) →
        Drawn plan.settings rounds.length s
          (runScripts ch.watched clock limit plan paths s).2) := by
  induction paths generalizing s with
  | nil =>
      refine ⟨[], (List.append_nil _).symm, nofun, .none, .none,
        fun _ => ?_⟩
      rw [Drawn, List.length_nil, Nat.zero_mul]
      exact ⟨rfl, rfl⟩
  | cons path rest ih =>
      obtain ⟨calls, ticks, uses, addresses, hround, -, hleg, hticking,
          -, hdrawn⟩ :=
        runScript_round ch clock limit plan path
          (s.say (scriptLine path))
      rcases hrun : runScript ch.watched clock limit plan path
        (s.say (scriptLine path)) with ⟨verdict, s'⟩
      rw [hrun] at hround hleg hticking
      obtain ⟨segment, hlog, rfl, hlinked, hplayed, hids, haddresses⟩ :=
        hleg
      by_cases hverdict : verdict = .done
      · subst hverdict
        rw [runScripts_done hrun]
        obtain ⟨hlength, rfl⟩ := hdrawn hround.ticks_of_done
        rw [hlength] at hids
        have hscene : s'.scene
            = s.scene.next plan.settings s'.disk := by
          rw [State.scene, hids, haddresses]
          rfl
        obtain ⟨rounds, hlog', hplayed', hticking', hrounds, hdrawn'⟩ :=
          ih s'
        rw [hscene] at hrounds
        refine ⟨(segment, ticks) :: rounds, ?_, ?_, ?_,
          .next hround hlinked hrounds, fun hall => ?_⟩
        · rw [hlog', hlog, List.append_assoc]
          rfl
        · exact List.forall_mem_append.2 ⟨hplayed, hplayed'⟩
        · exact hticking.append hticking'
        · obtain ⟨hids', haddresses'⟩ :=
            hdrawn' fun round hround' =>
              hall round (List.mem_cons_of_mem _ hround')
          refine ⟨?_, ?_⟩
          · rw [hids', hids, Feed.skip_skip, List.length_cons,
              Nat.succ_mul, Nat.add_comm (idsDrawn _)]
            rfl
          · rw [haddresses', haddresses, Feed.skip_skip,
              List.length_cons, Nat.add_comm 1]
            rfl
      · rw [runScripts_stopped hrun hverdict]
        refine ⟨[(segment, ticks)], ?_, ?_, ?_,
          .stopped hround hverdict hlinked, fun hall => ?_⟩
        · rw [List.flatMap_singleton]
          exact hlog
        · rw [List.flatMap_singleton]
          exact hplayed
        · rw [List.flatMap_singleton]
          exact hticking
        · obtain ⟨hlength, rfl⟩ :=
            hdrawn (hall _ (List.mem_singleton_self _))
          rw [hlength] at hids
          rw [Drawn, List.length_singleton, Nat.one_mul]
          exact ⟨hids, haddresses⟩

/-- When its scripts are collected, a run is rounds. -/
theorem provision_rounds (ch : Channel σ π) (clock : Clock τ)
    (limit : Nat) (plan : Plan) (s : State σ τ) {scripts : Scripts}
    {disk : Disk}
    (h : collect plan.settings s.disk = .ok (scripts, disk)) :
    ∃ rounds : List (List (Exchange π) × List Tick),
      (provision ch.watched clock limit plan s.watched).2.log
        = rounds.flatMap Prod.fst ∧
      (∀ x ∈ rounds.flatMap Prod.fst, ch.Played x) ∧
      Ticking clock s.time (rounds.flatMap Prod.snd)
        (provision ch.watched clock limit plan s.watched).2.time ∧
      Rounds plan limit (s.opening disk) scripts.paths rounds
        (provision ch.watched clock limit plan s.watched).1 ∧
      ((∀ round ∈ rounds, round.2 ≠ []) →
        Drawn plan.settings rounds.length s.watched
          (provision ch.watched clock limit plan s.watched).2) := by
  have hcollect : collect plan.settings
      (s.watched : State (σ × List (Exchange π)) τ).disk
    = .ok (scripts, disk) := h
  obtain ⟨rounds, hlog, hplayed, hticking, hrounds, hdrawn⟩ :=
    runScripts_rounds ch clock limit plan scripts.paths
      { s.watched.say openingLine with disk := disk }
  rcases hrun : runScripts ch.watched clock limit plan scripts.paths
    { s.watched.say openingLine with disk := disk } with ⟨verdict, s'⟩
  rw [hrun] at hlog hticking hrounds hdrawn
  rw [provision_staged hcollect hrun]
  exact ⟨rounds, hlog, hplayed, hticking, hrounds, hdrawn⟩

-- ====================================================== whole legs

/-- Scripts in their order are a leg, and the ids that they draw stand in
their calls: those of the settings for each script at most. -/
theorem runScripts_leg (ch : Channel σ π) (clock : Clock τ)
    (limit : Nat) (plan : Plan) (paths : List String)
    (s : State (σ × List (Exchange π)) τ) :
    ∃ calls uses addresses,
      Naming plan.settings s.ids calls uses ∧
      Leg ch s calls uses.length addresses
        (runScripts ch.watched clock limit plan paths s).2 ∧
      uses.length ≤ paths.length * idsDrawn plan.settings := by
  induction paths generalizing s with
  | nil =>
      exact ⟨[], [], 0, .none, .still rfl rfl rfl rfl, Nat.zero_le _⟩
  | cons path rest ih =>
      obtain ⟨calls, ticks, uses, addresses, -, hnaming, hleg, -, hmost,
          -⟩ :=
        runScript_round ch clock limit plan path
          (s.say (scriptLine path))
      rcases hrun : runScript ch.watched clock limit plan path
        (s.say (scriptLine path)) with ⟨verdict, s'⟩
      rw [hrun] at hleg
      have hfirst : Leg ch s calls uses.length addresses s' := by
        have htold := (Leg.say (scriptLine path)).trans hleg
        rw [List.nil_append, Nat.zero_add, Nat.zero_add] at htold
        exact htold
      rw [List.length_cons, Nat.succ_mul]
      by_cases hverdict : verdict = .done
      · subst hverdict
        rw [runScripts_done hrun]
        obtain ⟨calls', uses', addresses', hnaming', hleg', hmost'⟩ :=
          ih s'
        have hids : s'.ids = s.ids.skip uses.length := by
          obtain ⟨_, _, _, _, _, hids, _⟩ := hleg
          exact hids
        rw [hids] at hnaming'
        have hwhole := hfirst.trans hleg'
        rw [← List.length_append] at hwhole
        refine ⟨_, _, _, hnaming.append hnaming', hwhole, ?_⟩
        rw [List.length_append]
        omega
      · rw [runScripts_stopped hrun hverdict]
        exact ⟨_, _, _, hnaming, hfirst, by omega⟩

/-- When its scripts are collected, a run leads from the files that were
collected, exchange by exchange, to files from which only what was staged
is taken away; and the ids that it draws stand in its calls. -/
theorem provision_leg (ch : Channel σ π) (clock : Clock τ)
    (limit : Nat) (plan : Plan) (s : State σ τ) {scripts : Scripts}
    {disk : Disk}
    (h : collect plan.settings s.disk = .ok (scripts, disk)) :
    ∃ uses last,
      Linked disk
        (provision ch.watched clock limit plan s.watched).2.log last ∧
      (provision ch.watched clock limit plan s.watched).2.disk
        = scripts.discard last ∧
      Naming plan.settings s.ids
        ((provision ch.watched clock limit plan s.watched).2.log.map
          Exchange.call) uses ∧
      (provision ch.watched clock limit plan s.watched).2.ids
        = s.ids.skip uses.length ∧
      uses.length ≤ scripts.paths.length * idsDrawn plan.settings := by
  have hcollect : collect plan.settings
      (s.watched : State (σ × List (Exchange π)) τ).disk
    = .ok (scripts, disk) := h
  obtain ⟨calls, uses, addresses, hnaming, hleg, hmost⟩ :=
    runScripts_leg ch clock limit plan scripts.paths
      { s.watched.say openingLine with disk := disk }
  rcases hrun : runScripts ch.watched clock limit plan scripts.paths
    { s.watched.say openingLine with disk := disk } with ⟨verdict, s'⟩
  rw [hrun] at hleg
  obtain ⟨xs, hlog, rfl, hlinked, -, hids, -⟩ := hleg
  have hlog : s'.log = xs := hlog
  rw [provision_staged hcollect hrun]
  rw [← hlog] at hlinked hnaming
  exact ⟨uses, s'.disk, hlinked, rfl, hnaming, hids, hmost⟩

-- ============================================================ courses

/-- Without their ticks, rounds are courses. -/
theorem Rounds.courses {scene : Scene} {paths : List String}
    {rounds : List (List (Exchange π) × List Tick)} {verdict : Verdict}
    (h : Rounds plan limit scene paths rounds verdict) :
    Courses plan.settings limit scene paths (rounds.map Prod.fst)
      verdict := by
  induction h with
  | none => exact .none
  | stopped hround hverdict hlinked =>
      exact .stopped hround.course hverdict hlinked
  | next hround hlinked _ ih => exact .next hround.course hlinked ih

/-- A run over a watched channel follows courses from its first
script. -/
theorem provision_courses (ch : Channel σ π) (clock : Clock τ)
    (limit : Nat) (plan : Plan) (s : State σ τ) {scripts : Scripts}
    {disk : Disk}
    (h : collect plan.settings s.disk = .ok (scripts, disk)) :
    ∃ segments : List (List (Exchange π)),
      (provision ch.watched clock limit plan s.watched).2.log
        = segments.flatten ∧
      (∀ x ∈ segments.flatten, ch.Played x) ∧
      Courses plan.settings limit (s.opening disk) scripts.paths segments
        (provision ch.watched clock limit plan s.watched).1 := by
  obtain ⟨rounds, hlog, hplayed, -, hrounds, -⟩ :=
    provision_rounds ch clock limit plan s h
  rw [List.flatMap_def] at hlog hplayed
  exact ⟨rounds.map Prod.fst, hlog, hplayed, hrounds.courses⟩

end RemoteProvision.Run
