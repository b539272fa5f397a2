/-
What does not depend on failures.

A script draws its ids and its address before it is tried, and trying it
draws nothing.  So each script that is done has drawn as many ids as
every other, and one address; and what the next script asks for is known
from its number: its helper files (`Scene.helpers`) and the command line
of all its starts (`Scene.line`).  Neither the answers of the channel
nor the clock have a part in it, so two runs that begin with the same
ids and addresses ask for the same (`provision_independent`).

The calls of each script are found in the log of a run alone: a script
that another one follows has waited, and has done so with its last call
only (`perScript`).
-/
import RemoteProvision.Proofs.Run.Verdicts

namespace RemoteProvision

open RemoteProvision.Text (Bytes)

variable {π : Type}

-- ======================================================== asked for

/-- The path and the content of a helper file; the file of a script is
not offered as bytes. -/
def Asked.helper? : Asked π → Option (String × Bytes)
  | .upload path (.bytes content) _ _ => some (path, content)
  | _ => none

/-- The command line of a start, whether it succeeded or not. -/
def Asked.command? : Asked π → Option String
  | .start command _ => some command
  | _ => none

namespace Run

/-- The helper files that some calls upload. -/
def helpersIn (calls : List (Asked π)) : List (String × Bytes) :=
  calls.filterMap Asked.helper?

/-- The command lines that some calls start. -/
def commandsIn (calls : List (Asked π)) : List String :=
  calls.filterMap Asked.command?

theorem helpersIn_append (calls calls' : List (Asked π)) :
    helpersIn (calls ++ calls') = helpersIn calls ++ helpersIn calls' :=
  List.filterMap_append

theorem commandsIn_append (calls calls' : List (Asked π)) :
    commandsIn (calls ++ calls') = commandsIn calls ++ commandsIn calls' :=
  List.filterMap_append

/-- The calls of a log, script by script: a script ends with a wait. -/
def perScript : List (Asked π) → List (List (Asked π))
  | [] => []
  | call :: rest =>
    if call.waits then [call] :: perScript rest
    else
      match perScript rest with
      | [] => [[call]]
      | first :: others => (call :: first) :: others

-- ================================================ what a script asks

/-- The helper files of the next script. -/
def Scene.helpers (scene : Scene) (settings : Settings) :
    List (String × Bytes) :=
  match settings.elevated with
  | none => []
  | some credentials =>
    (scene.varsPath,
        Text.toBytes (settings.environment.assemble true scene.address))
      :: match fillElevated settings scene.varsPath with
        | .error _ => []
        | .ok command =>
          [(scene.wrapper.uploadPath,
            Text.toBytes (taskOf credentials command (scene.id 1)).script)]

/-- The command line of the next script, if its template can be
filled. -/
def Scene.line (scene : Scene) (settings : Settings) :
    Except ProvisionError String :=
  match settings.elevated with
  | none => plainLine settings scene.address
  | some _ =>
    (fillElevated settings scene.varsPath).map fun _ =>
      Command.fileLine scene.wrapper.shellPath

variable {settings : Settings} {limit : Nat} {scene : Scene}
  {place : Place} {path command : String} {calls rest : List (Asked π)}
  {verdict : Verdict} {tried : Tried π}

/-- Rendering starts nothing. -/
theorem Rendered.startsNothing {result : Except ProvisionError String}
    (h : Rendered settings scene calls result) : commandsIn calls = [] := by
  cases h <;> rfl

/-- A command line that was rendered is that of the scene, and so are
the helper files. -/
theorem Rendered.asks (h : Rendered settings scene calls (.ok command)) :
    helpersIn calls = scene.helpers settings ∧
    scene.line settings = .ok command := by
  generalize hresult : Except.ok command = result at h
  cases h with
  | plain hplain =>
      simp [helpersIn, Scene.helpers, Scene.line, hplain]
  | varsRefused _ => cases hresult
  | unfilled _ _ => cases hresult
  | wrapperRefused _ _ => cases hresult
  | elevated helevated hfill =>
      simp [helpersIn, Scene.helpers, Scene.line, helevated, hfill,
        varsCall, wrapperCall, Asked.helper?, Source.ofText, Except.map]

/-- Attempts ask for no helper file, and start one command line only. -/
theorem Refusals.asks {errors : List ProvisionError}
    (h : Refusals settings place command calls errors) :
    helpersIn calls = [] ∧ ∀ c ∈ commandsIn calls, c = command := by
  induction h with
  | none => exact ⟨rfl, nofun⟩
  | more hfirst _ ih =>
      rw [helpersIn_append, commandsIn_append]
      cases hfirst with
      | upload fault => exact ih
      | start fault =>
          exact ⟨ih.1, List.forall_mem_cons.2 ⟨rfl, ih.2⟩⟩

theorem Launched.asks
    (h : Launched settings limit place command calls tried) :
    helpersIn calls = [] ∧ ∀ c ∈ commandsIn calls, c = command := by
  cases h with
  | succeeded hrefusals _ =>
      rw [helpersIn_append, commandsIn_append, hrefusals.asks.1]
      exact ⟨rfl, List.forall_mem_append.2
        ⟨hrefusals.asks.2, List.forall_mem_singleton.2 rfl⟩⟩
  | gaveUp hrefusals _ => exact hrefusals.asks
  | undecided hrefusals _ => exact hrefusals.asks

theorem Finished.asks (h : Finished settings tried rest verdict) :
    helpersIn rest = [] ∧ commandsIn rest = [] := by
  cases h <;> exact ⟨rfl, rfl⟩

/-- A script that is started, or tried to be, has asked for the helper
files of its scene, and each of its starts is of the command line. -/
theorem Course.asks (h : Course settings limit scene path calls verdict)
    (hstarts : commandsIn calls ≠ []) :
    helpersIn calls = scene.helpers settings ∧
    ∀ c ∈ commandsIn calls, scene.line settings = .ok c := by
  cases h with
  | unopened _ => exact absurd rfl hstarts
  | unrendered _ hrendered => exact absurd hrendered.startsNothing hstarts
  | launched _ hrendered hlaunched hfinished =>
      obtain ⟨hhelpers, hline⟩ := hrendered.asks
      have hnone := hrendered.startsNothing
      obtain ⟨hnoHelpers, hcommands⟩ := hlaunched.asks
      obtain ⟨hnoHelpers', hnone'⟩ := hfinished.asks
      simp only [helpersIn_append, commandsIn_append, hhelpers,
        hnoHelpers, hnoHelpers', hnone, hnone', List.append_nil,
        List.nil_append]
      refine ⟨trivial, fun c hc => ?_⟩
      rw [hcommands c hc]
      exact hline

-- =================================================== script by script

theorem perScript_waited {front : List (Asked π)} {last : Asked π}
    (hfront : ∀ call ∈ front, call.waits = false)
    (hlast : last.waits = true) (rest : List (Asked π)) :
    perScript (front ++ last :: rest)
      = (front ++ [last]) :: perScript rest := by
  induction front with
  | nil =>
      rw [List.nil_append, perScript, if_pos hlast]
      rfl
  | cons call front ih =>
      obtain ⟨hcall, hfront⟩ := List.forall_mem_cons.1 hfront
      rw [List.cons_append, perScript, hcall, ih hfront]
      rfl

theorem perScript_unwaited (h : ∀ call ∈ calls, call.waits = false)
    (hcalls : calls ≠ []) : perScript calls = [calls] := by
  induction calls with
  | nil => exact absurd rfl hcalls
  | cons call calls ih =>
      obtain ⟨hcall, hrest⟩ := List.forall_mem_cons.1 h
      rw [perScript, hcall]
      cases calls with
      | nil => rfl
      | cons next calls =>
          rw [ih hrest (List.cons_ne_nil _ _)]
          rfl

example :
    let first : List (Asked Unit) := [.start "a" (.ok ()), .wait () (.ok 0)]
    let second : List (Asked Unit) := [.start "b" (.ok ())]
    perScript (first ++ second) = [first, second] :=
  rfl

theorem Launched.unwaited
    (h : Launched settings limit place command calls tried) :
    ∀ call ∈ calls, call.waits = false := by
  have hrow : ∀ {calls : List (Asked π)} {errors},
      Refusals settings place command calls errors →
      ∀ call ∈ calls, call.waits = false :=
    fun h call hmem => (h.idle call hmem).2
  cases h with
  | succeeded hrefusals _ =>
      refine List.forall_mem_append.2 ⟨hrow hrefusals, ?_⟩
      exact List.forall_mem_cons.2 ⟨rfl, List.forall_mem_singleton.2 rfl⟩
  | gaveUp hrefusals _ => exact hrow hrefusals
  | undecided hrefusals _ => exact hrow hrefusals

/-- A script waits with its last call, or not at all; then it is not
done. -/
theorem Course.waits
    (h : Course settings limit scene path calls verdict) :
    (verdict ≠ .done ∧ ∀ call ∈ calls, call.waits = false) ∨
    ∃ front last, calls = front ++ [last] ∧
      (∀ call ∈ front, call.waits = false) ∧ last.waits = true := by
  cases h with
  | unopened _ => exact .inl ⟨nofun, nofun⟩
  | unrendered _ hrendered =>
      exact .inl ⟨nofun, fun call hmem => (hrendered.idle call hmem).2⟩
  | @launched place helpers calls rest _ _ _ _ hrendered hlaunched
      hfinished =>
      have hfront : ∀ call ∈ helpers ++ calls, call.waits = false :=
        List.forall_mem_append.2
          ⟨fun call hmem => (hrendered.idle call hmem).2,
            hlaunched.unwaited⟩
      rw [← List.append_assoc]
      cases hfinished with
      | gaveUp e =>
          rw [List.append_nil]
          exact .inl ⟨nofun, hfront⟩
      | undecided =>
          rw [List.append_nil]
          exact .inl ⟨nofun, hfront⟩
      | unwaited process fault => exact .inr ⟨_, _, rfl, hfront, rfl⟩
      | exited process _ => exact .inr ⟨_, _, rfl, hfront, rfl⟩
      | done process _ => exact .inr ⟨_, _, rfl, hfront, rfl⟩

variable {plan : Plan} {paths : List String}
  {rounds : List (List (Exchange π) × List Tick)}

/-- The calls of rounds, one behind the other. -/
def callsOf (rounds : List (List (Exchange π) × List Tick)) :
    List (Asked π) :=
  (rounds.flatMap Prod.fst).map Exchange.call

theorem callsOf_cons (round : List (Exchange π) × List Tick)
    (rounds : List (List (Exchange π) × List Tick)) :
    callsOf (round :: rounds)
      = round.1.map Exchange.call ++ callsOf rounds := by
  rw [callsOf, List.flatMap_cons, List.map_append]
  rfl

/-- What the log holds of a script is its round. -/
theorem Rounds.roundOf
    (h : Rounds plan limit scene paths rounds verdict) {k : Nat}
    (hk : (perScript (callsOf rounds))[k]? = some calls) :
    ∃ round, rounds[k]? = some round ∧
      round.1.map Exchange.call = calls := by
  induction h generalizing k with
  | none => cases hk
  | @stopped scene path rest segment ticks disk verdict hround _ _ =>
      rw [callsOf_cons, show callsOf ([] : List (_ × List Tick)) = []
        from rfl, List.append_nil] at hk
      have honly : perScript (segment.map Exchange.call) = [] ∨
          perScript (segment.map Exchange.call)
            = [segment.map Exchange.call] := by
        rcases hround.course.waits with
          ⟨-, hunwaited⟩ | ⟨front, last, hcalls, hfront, hlast⟩
        · by_cases hnil : segment.map Exchange.call = []
          · rw [hnil]
            exact .inl rfl
          · exact .inr (perScript_unwaited hunwaited hnil)
        · rw [hcalls, perScript_waited hfront hlast]
          exact .inr rfl
      rcases honly with hnil | hone
      · rw [hnil] at hk
        cases hk
      · rw [hone] at hk
        cases k with
        | zero =>
            cases hk
            exact ⟨_, rfl, rfl⟩
        | succ k => cases hk
  | @next scene path rest segment ticks disk rounds verdict hround _ _
      ih =>
      rcases hround.course.waits with
        ⟨hverdict, -⟩ | ⟨front, last, hcalls, hfront, hlast⟩
      · exact absurd rfl hverdict
      · rw [callsOf_cons, hcalls, List.append_assoc, List.singleton_append,
          perScript_waited hfront hlast, ← hcalls] at hk
        cases k with
        | zero =>
            cases hk
            exact ⟨_, rfl, rfl⟩
        | succ k => exact ih hk

/-- The round of a script finds what as many scripts as were before it
left, wherever the files are by then. -/
theorem Rounds.round
    (h : Rounds plan limit scene paths rounds verdict) {k : Nat}
    {round : List (Exchange π) × List Tick}
    (hk : rounds[k]? = some round) :
    ∃ path disk verdict',
      Round plan limit (scene.behind plan.settings k disk) path
        (round.1.map Exchange.call) round.2 verdict' := by
  induction h generalizing k with
  | none => cases hk
  | @stopped scene path rest segment ticks disk verdict hround _ _ =>
      cases k with
      | zero =>
          cases hk
          refine ⟨path, scene.disk, verdict, ?_⟩
          rw [Scene.behind_zero]
          exact hround
      | succ k => cases hk
  | @next scene path rest segment ticks mid rounds verdict hround _ _
      ih =>
      cases k with
      | zero =>
          cases hk
          refine ⟨path, scene.disk, .done, ?_⟩
          rw [Scene.behind_zero]
          exact hround
      | succ k =>
          obtain ⟨path, disk, verdict', hround'⟩ := ih hk
          rw [Scene.behind_next] at hround'
          exact ⟨path, disk, verdict', hround'⟩

/-- When the last script of all was tried, each of them was. -/
theorem Rounds.allTried
    (h : Rounds plan limit scene paths rounds verdict)
    {round : List (Exchange π) × List Tick}
    (hlast : rounds[paths.length - 1]? = some round)
    (htried : round.2 ≠ []) :
    rounds.length = paths.length ∧ ∀ r ∈ rounds, r.2 ≠ [] := by
  induction h with
  | none => cases hlast
  | @stopped scene path rest segment ticks disk verdict _ _ _ =>
      cases rest with
      | nil =>
          cases hlast
          exact ⟨rfl, List.forall_mem_singleton.2 htried⟩
      | cons next rest => cases hlast
  | @next scene path rest segment ticks mid rounds verdict hround _ hrest
      ih =>
      cases rest with
      | nil =>
          cases hrest
          exact ⟨rfl, List.forall_mem_singleton.2 hround.ticks_of_done⟩
      | cons next rest =>
          obtain ⟨hlength, hall⟩ := ih hlast
          exact ⟨congrArg (· + 1) hlength,
            List.forall_mem_cons.2 ⟨hround.ticks_of_done, hall⟩⟩

/-- A script with a start was tried. -/
theorem Round.ticks_of_start {ticks : List Tick}
    (h : Round plan limit scene path calls ticks verdict)
    (hstarts : commandsIn calls ≠ []) : ticks ≠ [] := by
  cases h with
  | unopened _ => exact absurd rfl hstarts
  | unrendered _ hrendered => exact absurd hrendered.startsNothing hstarts
  | launched _ _ hwindow _ => cases hwindow <;> exact nofun

-- ======================================================= the theorem

/-- What a log asks for each script that is started, or tried to be: the
helper files and the command line that are known from its number and
from what the first script finds. -/
def AsksInTurn (settings : Settings) (scene : Scene)
    (log : List (Asked π)) : Prop :=
  ∀ k calls, (perScript log)[k]? = some calls →
    commandsIn calls ≠ [] →
    helpersIn calls
      = (scene.behind settings k scene.disk).helpers settings ∧
    ∀ command ∈ commandsIn calls,
      (scene.behind settings k scene.disk).line settings = .ok command

variable {σ τ σ' τ' π' : Type}

/-- Two logs ask for the same for each script that both of them start,
or try to: the same helper files, and one command line. -/
def AskAlike (log : List (Asked π)) (log' : List (Asked π')) : Prop :=
  ∀ (k : Nat) (calls : List (Asked π)) (calls' : List (Asked π')),
    (perScript log)[k]? = some calls →
    (perScript log')[k]? = some calls' →
    commandsIn calls ≠ [] → commandsIn calls' ≠ [] →
    helpersIn calls = helpersIn calls' ∧
    ∃ command, (∀ c ∈ commandsIn calls, c = command) ∧
      ∀ c ∈ commandsIn calls', c = command

theorem AsksInTurn.alike {log : List (Asked π)} {log' : List (Asked π')}
    (h : AsksInTurn settings scene log)
    (h' : AsksInTurn settings scene log') : AskAlike log log' := by
  intro k calls calls' hk hk' hstarts hstarts'
  obtain ⟨hhelpers, hline⟩ := h k calls hk hstarts
  obtain ⟨hhelpers', hline'⟩ := h' k calls' hk' hstarts'
  refine ⟨hhelpers.trans hhelpers'.symm, ?_⟩
  obtain ⟨command, hcommand⟩ := List.exists_mem_of_ne_nil _ hstarts
  have hok := hline command hcommand
  refine ⟨command, fun c hc => ?_, fun c hc => ?_⟩
  · exact Except.ok.inj ((hline c hc).symm.trans hok)
  · exact Except.ok.inj ((hline' c hc).symm.trans hok)

/-- Rounds ask in turn. -/
theorem Rounds.asksInTurn
    (h : Rounds plan limit scene paths rounds verdict) :
    AsksInTurn plan.settings scene (callsOf rounds) := by
  intro k calls hk hstarts
  obtain ⟨round, hround, rfl⟩ := h.roundOf hk
  obtain ⟨path, disk, verdict', hround'⟩ := h.round hround
  exact hround'.course.asks hstarts

/-- A state with other ids and addresses. -/
def State.fed (s : State σ τ) (ids : Feed String)
    (addresses : Feed (Option String)) : State σ τ :=
  { s with ids := ids, addresses := addresses }

/-- What a run asks for, and what it has drawn when its last script was
started, or tried to be. -/
structure InTurn (plan : Plan) (s : State σ τ)
    (watched : Verdict × State (σ × List (Exchange π)) τ) : Prop where
  asks : AsksInTurn plan.settings s.scene
    (watched.2.log.map Exchange.call)
  draws : ∀ scripts disk calls,
    collect plan.settings s.disk = .ok (scripts, disk) →
    (perScript (watched.2.log.map Exchange.call))[
      scripts.paths.length - 1]? = some calls →
    commandsIn calls ≠ [] →
    Drawn plan.settings scripts.paths.length s.watched watched.2

theorem provision_inTurn (ch : Channel σ π) (clock : Clock τ)
    (limit : Nat) (plan : Plan) (s : State σ τ) :
    InTurn plan s (provision ch.watched clock limit plan s.watched) := by
  cases hcollect : collect plan.settings s.disk with
  | error e =>
      have hlog :=
        (provision_unstaged_log ch clock limit plan s hcollect).2
      refine ⟨?_, fun scripts disk calls h => ?_⟩
      · rw [hlog]
        intro k calls hk
        cases hk
      · rw [hcollect] at h
        cases h
  | ok collected =>
      obtain ⟨rounds, hlog, -, -, hrounds, hdrawn⟩ :=
        provision_rounds ch clock limit plan s hcollect
      refine ⟨?_, fun scripts disk calls h hlast hstarts => ?_⟩
      · rw [hlog]
        exact hrounds.asksInTurn
      · rw [hcollect] at h
        cases h
        rw [hlog] at hlast
        obtain ⟨round, hround, rfl⟩ := hrounds.roundOf hlast
        obtain ⟨_, _, _, hround'⟩ := hrounds.round hround
        obtain ⟨hlength, hall⟩ :=
          hrounds.allTried hround (hround'.ticks_of_start hstarts)
        rw [← hlength]
        exact hdrawn hall

/-- Two runs of a plan over any two channels, clocks and local files,
with the same ids and addresses: each script that both of them start, or
try to, has the same helper files and the same command line in both, and
in every attempt.  Both are known from the number of the script alone,
for what a script draws does not depend on how often it is tried.

What is said is said of the watched channels; but for their logs, the
runs over those are the runs. -/
theorem provision_independent (plan : Plan) (ids : Feed String)
    (addresses : Feed (Option String)) (ch : Channel σ π)
    (ch' : Channel σ' π') (clock : Clock τ) (clock' : Clock τ')
    (limit limit' : Nat) (s : State σ τ) (s' : State σ' τ') :
    let s := s.fed ids addresses
    let s' := s'.fed ids addresses
    let watched := provision ch.watched clock limit plan s.watched
    let watched' := provision ch'.watched clock' limit' plan s'.watched
    provision ch clock limit plan s = unwatch watched ∧
    provision ch' clock' limit' plan s' = unwatch watched' ∧
    AskAlike (watched.2.log.map Exchange.call)
      (watched'.2.log.map Exchange.call) ∧
    InTurn plan s watched ∧ InTurn plan s' watched' := by
  intro s s' watched watched'
  have h := provision_inTurn ch clock limit plan s
  have h' := provision_inTurn ch' clock' limit' plan s'
  exact ⟨provision_unwatched ch clock limit plan s.watched,
    provision_unwatched ch' clock' limit' plan s'.watched,
    h.asks.alike h'.asks, h, h'⟩

end Run

end RemoteProvision
