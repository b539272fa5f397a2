/-
Names over many runs.

A configuration is resolved once and may be run any number of times, one
run after the other, over channels that do what they like.  The upload
path may be named by an id, and whatever the runs name for themselves is
named by the ids behind it (`Naming`), none of them twice.  So what holds
of one run is carried along a row of runs (`Runs.naming`), through every
way in which one can fail.

Ids that count up are different as long as their counter has not begun
again.  Then all names are different (`runs_named_apart`): no two helper
files have one path and no two tasks one name, in one run or in several.
The scripts are the exception, by intention: each of them goes to the one
path that was fixed when the configuration was resolved.
-/
import RemoteProvision.Proofs.Config.Resolving
import RemoteProvision.Proofs.Ids
import RemoteProvision.Proofs.Run.Offered

namespace RemoteProvision.Run

variable {π : Type} {c : Config} {settings : Settings} {plan : Plan}
  {disk : Disk} {ids left last : Feed String} {uses : List Use}
  {logs : List (List (Exchange π))}

-- ======================================================== preparing

/-- The upload path is given, or an id is drawn for it. -/
inductive Prepared (c : Config) (settings : Settings) :
    List Use → Prop
  | given :
      nonEmpty c.remotePath = some settings.remotePath →
      Prepared c settings []
  | named {use : Use} :
      nonEmpty c.remotePath = none →
      use.kind = .remotePath →
      settings.remotePath = use.name →
      Prepared c settings [use]

/-- Resolving draws an id for the upload path or none. -/
theorem prepared_of_resolve
    (h : c.resolve disk ids = (.ok settings, left)) :
    ∃ uses, Prepared c settings uses ∧
      uses.map Use.id = ids.drawn uses.length ∧
      left = ids.skip uses.length := by
  obtain ⟨-, rfl, rfl⟩ := Config.resolve_ok h
  cases hpath : nonEmpty c.remotePath with
  | some path =>
      have hupload : c.uploadPath ids = (path, ids) := by
        rw [Config.uploadPath, hpath]
      rw [hupload]
      exact ⟨[], .given hpath, rfl, rfl⟩
  | none =>
      have hupload : c.uploadPath ids
          = (Defaults.remotePath ids.next.1, ids.next.2) := by
        rw [Config.uploadPath, hpath]
      rw [hupload]
      exact ⟨[⟨.remotePath, ids.next.1⟩], .named hpath rfl rfl, rfl, rfl⟩

-- ============================================================= runs

/-- The scripts of a run are the files that were named, and at most one
more. -/
theorem length_collected {scripts : Scripts} {disk' : Disk}
    (h : collect settings disk = .ok (scripts, disk')) :
    scripts.paths.length ≤ settings.scripts.length + 1 := by
  rcases collect_cases h with ⟨-, rfl, -⟩ | ⟨-, staged, rfl, -⟩
  · exact Nat.le_succ _
  · exact Nat.le_of_eq List.length_append

/-- As many ids as a run draws at most. -/
def idsPerRun (settings : Settings) : Nat :=
  (settings.scripts.length + 1) * idsDrawn settings

/-- The ids that a run draws stand in its calls, also when nothing is
asked because staging fails. -/
theorem provision_naming {σ τ : Type} (ch : Channel σ π)
    (clock : Clock τ) (limit : Nat) (plan : Plan) (s : State σ τ) :
    ∃ uses,
      Naming plan.settings s.ids
        ((provision ch.watched clock limit plan s.watched).2.log.map
          Exchange.call) uses ∧
      (provision ch clock limit plan s).2.ids
        = s.ids.skip uses.length ∧
      uses.length ≤ idsPerRun plan.settings := by
  have hwatched : (provision ch clock limit plan s).2.ids
      = (provision ch.watched clock limit plan s.watched).2.ids :=
    congrArg (fun done => done.2.ids)
      (provision_unwatched ch clock limit plan s.watched)
  rw [hwatched]
  cases hcollect : collect plan.settings s.disk with
  | error e =>
      rw [provision_unstaged_watched ch clock limit plan s hcollect]
      exact ⟨[], .none, rfl, Nat.zero_le _⟩
  | ok done =>
      obtain ⟨scripts, disk⟩ := done
      obtain ⟨uses, last, -, -, hnaming, hids, hmost⟩ :=
        provision_leg ch clock limit plan s hcollect
      refine ⟨uses, hnaming, hids, Nat.le_trans hmost ?_⟩
      exact Nat.mul_le_mul_right _ (length_collected hcollect)

/-- Runs of a plan, one after the other, and what their channels heard.
Each draws from the ids that the ones before it left; its channel, its
clock and the local files are its own. -/
inductive Runs (plan : Plan) :
    Feed String → List (List (Exchange π)) → Feed String → Prop
  | none {ids : Feed String} : Runs plan ids [] ids
  | next {σ τ : Type} (ch : Channel σ π) (clock : Clock τ)
      (limit : Nat) (s : State σ τ) {ids last : Feed String}
      {logs : List (List (Exchange π))} :
      s.ids = ids →
      Runs plan (provision ch clock limit plan s).2.ids logs last →
      Runs plan ids
        ((provision ch.watched clock limit plan s.watched).2.log :: logs)
        last

/-- The ids that runs draw stand in their calls, one run behind the
other. -/
theorem Runs.naming (h : Runs plan ids logs last) :
    ∃ uses,
      Naming plan.settings ids (logs.flatten.map Exchange.call) uses ∧
      last = ids.skip uses.length ∧
      uses.length ≤ logs.length * idsPerRun plan.settings := by
  induction h with
  | none => exact ⟨[], .none, rfl, Nat.zero_le _⟩
  | next ch clock limit s hs _ ih =>
      subst hs
      obtain ⟨uses, hnaming, hids, hmost⟩ :=
        provision_naming ch clock limit plan s
      obtain ⟨uses', hnaming', rfl, hmost'⟩ := ih
      rw [hids] at hnaming' ⊢
      refine ⟨uses ++ uses', ?_, ?_, ?_⟩
      · rw [List.flatten_cons, List.map_append]
        exact hnaming.append hnaming'
      · rw [Feed.skip_skip, List.length_append]
      · rw [List.length_append, List.length_cons, Nat.succ_mul]
        omega

-- ====================================================== the theorem

/-- All ids are different, and so is whatever they name; but every script
goes to the upload path. -/
structure NamedApart (settings : Settings) (uses : List Use)
    (calls : List (Asked π)) : Prop where
  ids : (uses.map Use.id).Nodup
  names : (uses.map Use.name).Nodup
  /-- No path is that of two helper files. -/
  helpers : (calls.filterMap helperPath?).Nodup
  /-- Whatever else is uploaded goes to one path. -/
  scripts : ∀ target place offset binary answer,
    .upload target (.file place offset) binary answer ∈ calls →
    target = settings.remotePath

/-- Different ids name different things. -/
theorem nodup_names (h : (uses.map Use.id).Nodup) :
    (uses.map Use.name).Nodup := by
  rw [List.Nodup, List.pairwise_map] at h ⊢
  exact h.imp fun hne heq => hne (congrArg Use.id (Use.name_inj heq))

/-- Over any stem, configuration and number of runs, whatever the
channels answer: as long as the counter of the ids has not begun again,
the id of the upload path, if it has one, and those of all variables
files, tasks and wrappers are different, and they are all the ids that
were drawn. -/
theorem runs_named_apart (stem : String) (used : Nat)
    (delay : Duration)
    (hresolve : c.resolve disk ((Ids.counting stem).skip used)
      = (.ok settings, left))
    (hruns : Runs ⟨settings, delay⟩ left logs last)
    (hfew : last.taken < Ids.counterValues) :
    ∃ front uses,
      Prepared c settings front ∧
      Naming settings left (logs.flatten.map Exchange.call) uses ∧
      (front ++ uses).map Use.id
        = ((Ids.counting stem).skip used).drawn (front ++ uses).length ∧
      last.taken = used + (front ++ uses).length ∧
      NamedApart settings (front ++ uses)
        (logs.flatten.map Exchange.call) := by
  obtain ⟨front, hprepared, hfront, rfl⟩ := prepared_of_resolve hresolve
  obtain ⟨uses, hnaming, rfl, -⟩ := hruns.naming
  have hdrawn : (front ++ uses).map Use.id
      = ((Ids.counting stem).skip used).drawn
          (front ++ uses).length := by
    rw [List.map_append, hfront, hnaming.drawn, List.length_append,
      Feed.drawn_add]
  have htaken : ((((Ids.counting stem).skip used).skip
      front.length).skip uses.length).taken
        = used + (front ++ uses).length := by
    rw [Feed.skip_skip, ← List.length_append]
    show 0 + used + _ = _
    rw [Nat.zero_add]
  rw [htaken] at hfew
  have hids : ((front ++ uses).map Use.id).Nodup := by
    rw [hdrawn]
    refine Feed.nodup_drawn (Ids.counterValues - 1) ?_ _ ?_
    · intro m n hm hn
      exact Ids.counting_inj (by omega) (by omega)
    · show 0 + used + _ ≤ _
      omega
  refine ⟨front, uses, hprepared, hnaming, hdrawn, htaken, hids,
    nodup_names hids, ?_, hnaming.scripts⟩
  rw [hnaming.helpers]
  refine (nodup_names hids).sublist (List.Sublist.map _ ?_)
  exact List.filter_sublist.trans (List.sublist_append_right _ _)

-- ---------------------------------------------- two runs, both refused

/-- One script, run elevated; its upload path is not given. -/
def twiceConfig : Config where
  script := some "setup.ps1"
  startRetryTimeout := ""
  elevatedUser := some "root"
  elevatedPassword := some "pw"

/-- A disk with the script. -/
def twiceDisk : Disk where
  items := [(["setup.ps1"], .file [65] false)]
  home := []
  staging := "/"
  spare := none

/-- What it is resolved to, with the first id. -/
def twicePlan : Plan :=
  ⟨twiceConfig.settingsAt "c:/Windows/Temp/script-id1.ps1", .ofMillis 5⟩

/-- The first run: the wrapper is refused. -/
def firstState : State Scripted Nat where
  channel := { uploads := [{}, { fault := some (.remote "full") }] }
  disk := twiceDisk
  time := 0
  ids := (Ids.counting "id").skip 1
  addresses := Feed.fresh fun _ => none
  journal := []

/-- The second run, with the ids that the first one left: the first start
is refused. -/
def secondState (ids : Feed String) : State Scripted Nat where
  channel := { starts := [some (.remote "busy")] }
  disk := twiceDisk
  time := 0
  ids := ids
  addresses := Feed.fresh fun _ => none
  journal := []

theorem secondState_ids (ids : Feed String) :
    (secondState ids).ids = ids := rfl

/-- What a channel heard in a run of the plan. -/
def twiceLog (s : State Scripted Nat) : List (Exchange Ending) :=
  (provision Scripted.channel.watched (Clock.stepping 1) 9 twicePlan
    s.watched).2.log

/-- The ids that a run of the plan left. -/
def twiceLeft (s : State Scripted Nat) : Feed String :=
  (provision Scripted.channel (Clock.stepping 1) 9 twicePlan s).2.ids

/-- A run of the plan in front of others. -/
theorem Runs.twice (s : State Scripted Nat)
    {logs : List (List (Exchange Ending))}
    (h : Runs twicePlan (twiceLeft s) logs last) :
    Runs twicePlan s.ids (twiceLog s :: logs) last := by
  unfold twiceLeft at h
  unfold twiceLog
  exact .next Scripted.channel (Clock.stepping 1) 9 s rfl h

/-- What is named in the two runs is named apart. -/
theorem twice_named_apart :
    let second := secondState (twiceLeft firstState)
    let calls :=
      [twiceLog firstState, twiceLog second].flatten.map Exchange.call
    twiceConfig.resolve twiceDisk ((Ids.counting "id").skip 0)
        = (.ok twicePlan.settings, firstState.ids) ∧
    Runs twicePlan firstState.ids
      [twiceLog firstState, twiceLog second] (twiceLeft second) ∧
    (twiceLeft second).taken < Ids.counterValues ∧
    ∃ front uses,
      Prepared twiceConfig twicePlan.settings front ∧
      Naming twicePlan.settings firstState.ids calls uses ∧
      NamedApart twicePlan.settings (front ++ uses) calls := by
  have hresolve : twiceConfig.resolve twiceDisk
      ((Ids.counting "id").skip 0)
    = (.ok twicePlan.settings, firstState.ids) := by
    have hclean : twiceConfig.issues twiceDisk = [] := by decide
    rw [Config.resolve_clean hclean]
    rfl
  have hruns : Runs twicePlan firstState.ids
      [twiceLog firstState, twiceLog (secondState (twiceLeft firstState))]
      (twiceLeft (secondState (twiceLeft firstState))) := by
    have hsecond := Runs.twice (secondState (twiceLeft firstState)) .none
    rw [secondState_ids] at hsecond
    exact Runs.twice firstState hsecond
  have hfew : (twiceLeft (secondState (twiceLeft firstState))).taken
      < Ids.counterValues := by
    obtain ⟨uses, -, hlast, hmost⟩ := hruns.naming
    have hmost : uses.length ≤ 12 := hmost
    rw [hlast]
    show 1 + uses.length < 18446744073709551616
    omega
  obtain ⟨front, uses, hprepared, hnaming, -, -, hapart⟩ :=
    runs_named_apart "id" 0 (.ofMillis 5) hresolve hruns hfew
  exact ⟨hresolve, hruns, hfew, front, uses, hprepared, hnaming, hapart⟩

end RemoteProvision.Run
