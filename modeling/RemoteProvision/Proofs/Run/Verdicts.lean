/-
Verdicts.

The verdict on a run is that on its first script which is not done
(`provision_verdict`).  What is not in the calls lies in what that
script found: a path that leads to no file, a template that cannot be
filled (`Finds`).  The scripts before it were served: each was started
once, and its wait brought an allowed code (`Served`).
-/
import RemoteProvision.Proofs.Run.Reading

namespace RemoteProvision.Run

variable {π : Type} {settings : Settings} {limit : Nat} {scene : Scene}
  {place : Place} {path command : String}
  {calls calls' : List (Asked π)} {verdict : Verdict}

-- ====================================== what the last script found

/-- A command line that cannot be filled: the plain one, or the elevated
one behind its variables. -/
def Unfilled (settings : Settings) (scene : Scene)
    (calls : List (Asked π)) (fault : Template.Fault) : Prop :=
  (settings.elevated = none ∧ calls = [] ∧
    plainLine settings scene.address = .error (.template fault)) ∨
  (settings.elevated.isSome ∧
    calls = [varsCall settings scene (.ok ())] ∧
    fillElevated settings scene.varsPath = .error (.template fault))

/-- How a verdict lies in what its script found. -/
structure Finds (settings : Settings) (limit : Nat) (scene : Scene)
    (path : String) (calls : List (Asked π)) (verdict : Verdict) :
    Prop where
  opened : ∀ p fault,
    verdict = .failed (.scriptOpen p fault) ↔
      p = path ∧ scene.disk.openAt path = .error fault
  /-- For a file that cannot be opened nothing is asked. -/
  unasked : ∀ fault, scene.disk.openAt path = .error fault → calls = []
  filled : ∀ fault,
    verdict = .failed (.template fault) ↔
      (∃ place, scene.disk.openAt path = .ok place) ∧
      Unfilled settings scene calls fault
  /-- A script is left open only behind all attempts that are looked
  at. -/
  undecided : verdict = .undecided →
    ∃ helpers refused place command errors,
      calls = helpers ++ refused ∧
      Refusals settings place command refused errors ∧
      errors.length = limit

/-- A command line that was rendered was filled. -/
theorem Rendered.filled
    (h : Rendered settings scene calls (.ok command))
    (fault : Template.Fault) :
    ¬ Unfilled settings scene calls' fault := by
  generalize hresult : Except.ok command = result at h
  rintro (⟨hplain, -, hline⟩ | ⟨helevated, -, hline⟩)
  · cases h with
    | plain _ =>
        rw [hline] at hresult
        cases hresult
    | varsRefused _ => cases hresult
    | unfilled _ _ => cases hresult
    | wrapperRefused _ _ => cases hresult
    | elevated helevated _ =>
        rw [hplain] at helevated
        cases helevated
  · cases h with
    | plain hplain =>
        rw [hplain] at helevated
        cases helevated
    | varsRefused _ => cases hresult
    | unfilled _ _ => cases hresult
    | wrapperRefused _ _ => cases hresult
    | elevated _ hfill =>
        rw [hline] at hfill
        cases hfill

/-- One that was not was not filled, or a helper was refused. -/
theorem Rendered.unfilled_iff {e : ProvisionError}
    (h : Rendered settings scene calls (.error e))
    (fault : Template.Fault) :
    e = .template fault ↔ Unfilled settings scene calls fault := by
  generalize hresult : Except.error e = result at h
  cases h with
  | plain hplain =>
      refine ⟨fun he => .inl ⟨hplain, rfl, he ▸ hresult.symm⟩, ?_⟩
      rintro (⟨-, -, hline⟩ | ⟨helevated, -, -⟩)
      · rw [hline] at hresult
        cases hresult
        rfl
      · rw [hplain] at helevated
        cases helevated
  | varsRefused helevated =>
      cases hresult
      refine ⟨nofun, ?_⟩
      rintro (⟨hplain, -, -⟩ | ⟨-, hcalls, -⟩)
      · rw [hplain] at helevated
        cases helevated
      · simp [varsCall] at hcalls
  | unfilled helevated hfill =>
      cases hresult
      constructor
      · rintro rfl
        exact .inr ⟨helevated ▸ rfl, rfl, hfill⟩
      · rintro (⟨hplain, -, -⟩ | ⟨-, -, hline⟩)
        · rw [hplain] at helevated
          cases helevated
        · rw [hline] at hfill
          cases hfill
          rfl
  | wrapperRefused helevated hfill =>
      cases hresult
      refine ⟨nofun, ?_⟩
      rintro (⟨hplain, -, -⟩ | ⟨-, -, hline⟩)
      · rw [hplain] at helevated
        cases helevated
      · rw [hline] at hfill
        cases hfill
  | elevated _ _ => cases hresult

/-- It is never the script file that cannot be opened. -/
theorem Rendered.error_ne_scriptOpen {e : ProvisionError}
    (h : Rendered settings scene calls (.error e)) (p : String)
    (fault : IoFault) : e ≠ .scriptOpen p fault := by
  generalize hresult : Except.error e = result at h
  cases h with
  | plain _ =>
      obtain ⟨_, rfl⟩ := plainLine_error hresult.symm
      exact nofun
  | varsRefused _ =>
      cases hresult
      exact nofun
  | unfilled _ hfill =>
      cases hresult
      obtain ⟨_, rfl⟩ := fillCommand_error hfill
      exact nofun
  | wrapperRefused _ _ =>
      cases hresult
      exact nofun
  | elevated _ _ => cases hresult

/-- What a verdict lies in when the file was opened and the command line
rendered. -/
theorem Finds.rendered {helpers : List (Asked π)}
    (hopen : scene.disk.openAt path = .ok place)
    (hrendered : Rendered settings scene helpers (.ok command))
    (hscript : ∀ p fault, verdict ≠ .failed (.scriptOpen p fault))
    (htemplate : ∀ fault, verdict ≠ .failed (.template fault))
    (hundecided : verdict = .undecided →
      ∃ helpers refused place command errors,
        calls = helpers ++ refused ∧
        Refusals settings place command refused errors ∧
        errors.length = limit) :
    Finds settings limit scene path calls verdict := by
  refine ⟨fun p fault => ?_, fun fault hfault => ?_, fun fault => ?_,
    hundecided⟩
  · refine ⟨fun h => absurd h (hscript p fault), fun h => ?_⟩
    rw [hopen] at h
    cases h.2
  · rw [hopen] at hfault
    cases hfault
  · exact ⟨fun h => absurd h (htemplate fault),
      fun h => absurd h.2 (hrendered.filled fault)⟩

/-- The verdict on a script lies in what the script found. -/
theorem Course.finds
    (h : Course settings limit scene path calls verdict) :
    Finds settings limit scene path calls verdict := by
  cases h with
  | unopened hopen =>
      refine ⟨fun p fault => ?_, fun _ _ => rfl, fun fault => ?_, nofun⟩
      · rw [hopen]
        constructor
        · rintro ⟨⟩
          exact ⟨rfl, rfl⟩
        · rintro ⟨rfl, ⟨⟩⟩
          rfl
      · refine ⟨nofun, fun ⟨⟨place, hplace⟩, _⟩ => ?_⟩
        rw [hopen] at hplace
        cases hplace
  | @unrendered _ _ e hopen hrendered =>
      refine ⟨fun p fault => ?_, fun fault hfault => ?_, fun fault => ?_,
        nofun⟩
      · refine ⟨fun he => ?_, fun h => ?_⟩
        · injection he with he
          exact absurd he (hrendered.error_ne_scriptOpen p fault)
        · rw [hopen] at h
          cases h.2
      · rw [hopen] at hfault
        cases hfault
      · rw [← hrendered.unfilled_iff fault]
        constructor
        · rintro ⟨⟩
          exact ⟨⟨_, hopen⟩, rfl⟩
        · rintro ⟨-, rfl⟩
          rfl
  | launched hopen hrendered hlaunched hfinished =>
      cases hfinished with
      | gaveUp e =>
          cases hlaunched with
          | gaveUp _ _ =>
              exact .rendered hopen hrendered nofun nofun nofun
      | undecided =>
          cases hlaunched with
          | undecided hrefusals hcount =>
              rw [List.append_nil]
              exact .rendered hopen hrendered nofun nofun
                fun _ => ⟨_, _, _, _, _, rfl, hrefusals, hcount⟩
      | unwaited process fault =>
          exact .rendered hopen hrendered nofun nofun nofun
      | exited process _ =>
          exact .rendered hopen hrendered nofun nofun nofun
      | done process _ =>
          exact .rendered hopen hrendered nofun nofun nofun

-- ==================================================== served scripts

/-- Calls that start no process and wait for none. -/
def Idle (calls : List (Asked π)) : Prop :=
  ∀ call ∈ calls, call.started = false ∧ call.waits = false

/-- The calls of a script that was served: the one start that succeeded,
right behind an upload of the file that its path leads to, and a wait
for the process that brought an allowed code. -/
def Served (settings : Settings) (disk : Disk) (path : String)
    (calls : List (Asked π)) : Prop :=
  ∃ front place command process code,
    disk.openAt path = .ok place ∧
    calls = front ++ [scriptCall settings place (.ok ()),
      .start command (.ok process), .wait process (.ok code)] ∧
    (∀ call ∈ front, call.started = false) ∧ settings.allows code

theorem Idle.append (h : Idle calls) (h' : Idle calls') :
    Idle (calls ++ calls') := by
  intro call hmem
  rcases List.mem_append.1 hmem with hmem | hmem
  · exact h call hmem
  · exact h' call hmem

theorem Rendered.idle {result : Except ProvisionError String}
    (h : Rendered settings scene calls result) : Idle calls := by
  cases h <;> simp [Idle, varsCall, wrapperCall, Asked.started, Asked.waits]

theorem Refusals.idle {errors : List ProvisionError}
    (h : Refusals settings place command calls errors) :
    Idle calls := by
  induction h with
  | none => exact fun _ => nofun
  | more hfirst _ ih =>
      refine Idle.append ?_ ih
      cases hfirst <;> simp [Idle, scriptCall, Asked.started, Asked.waits]

/-- Without a wait a script is not served. -/
theorem Idle.not_served (h : Idle calls) :
    ¬ Served settings scene.disk path calls := by
  rintro ⟨front, place, command, process, code, -, rfl, -, -⟩
  have hwait := (h (.wait process (.ok code)) (by simp)).2
  cases hwait

/-- A script that is served has waited for an allowed code. -/
theorem Served.answer {process : π} {answer : Except ChannelFault Int}
    (h : Served settings scene.disk path
      (calls ++ [.wait process answer])) :
    ∃ code, answer = .ok code ∧ settings.allows code := by
  obtain ⟨front, place, command, process', code, -, heq, -, hallows⟩ := h
  have hlast := congrArg List.getLast? heq
  simp only [List.getLast?_append, List.getLast?_singleton,
    List.getLast?_cons_cons, Option.some_or] at hlast
  cases hlast
  exact ⟨code, rfl, hallows⟩

/-- One that was launched and brought an allowed code is served. -/
theorem Launched.served {helpers : List (Asked π)} {process : π}
    {code : Int} (hopen : scene.disk.openAt path = .ok place)
    (hrendered : Rendered settings scene helpers (.ok command))
    (h : Launched settings limit place command calls
      (.succeeded process)) (hallows : settings.allows code) :
    Served settings scene.disk path
      (helpers ++ (calls ++ [.wait process (.ok code)])) := by
  cases h with
  | @succeeded refused _ _ hrefusals _ =>
      refine ⟨helpers ++ refused, place, command, process, code, hopen,
        ?_, ?_, hallows⟩
      · simp only [List.append_assoc, List.cons_append, List.nil_append]
      · intro call hmem
        exact ((hrendered.idle.append hrefusals.idle) call hmem).1

/-- A script is served exactly when it is done. -/
theorem Course.served_iff
    (h : Course settings limit scene path calls verdict) :
    verdict = .done ↔ Served settings scene.disk path calls := by
  cases h with
  | unopened _ =>
      exact ⟨nofun, fun h => absurd h (Idle.not_served fun _ => nofun)⟩
  | unrendered _ hrendered =>
      exact ⟨nofun, fun h => absurd h hrendered.idle.not_served⟩
  | launched hopen hrendered hlaunched hfinished =>
      cases hfinished with
      | gaveUp e =>
          cases hlaunched with
          | gaveUp hrefusals _ =>
              rw [List.append_nil]
              exact ⟨nofun, fun h => absurd h
                (hrendered.idle.append hrefusals.idle).not_served⟩
      | undecided =>
          cases hlaunched with
          | undecided hrefusals _ =>
              rw [List.append_nil]
              exact ⟨nofun, fun h => absurd h
                (hrendered.idle.append hrefusals.idle).not_served⟩
      | unwaited process fault =>
          refine ⟨nofun, fun h => ?_⟩
          rw [← List.append_assoc] at h
          obtain ⟨code, hcode, -⟩ := h.answer
          cases hcode
      | exited process hallows =>
          refine ⟨nofun, fun h => ?_⟩
          rw [← List.append_assoc] at h
          obtain ⟨code, hcode, hallowed⟩ := h.answer
          cases hcode
          rw [hallows] at hallowed
          cases hallowed
      | done process hallows =>
          exact ⟨fun _ => hlaunched.served hopen hrendered hallows,
            fun _ => rfl⟩

-- ==================================================== all scripts

variable {paths : List String} {segments : List (List (Exchange π))}

/-- What a script finds behind a number of scripts that were served. -/
def Scene.behind (scene : Scene) (settings : Settings) (count : Nat)
    (disk : Disk) : Scene :=
  ⟨disk, scene.ids.skip (count * idsDrawn settings),
    scene.addresses.skip count⟩

theorem Scene.behind_zero (scene : Scene) (settings : Settings)
    (disk : Disk) :
    scene.behind settings 0 disk = { scene with disk := disk } := by
  rw [behind, Nat.zero_mul]
  rfl

theorem Scene.behind_next (scene : Scene) (settings : Settings)
    (count : Nat) (mid disk : Disk) :
    (scene.next settings mid).behind settings count disk
      = scene.behind settings (count + 1) disk := by
  rw [behind, behind, next, Feed.skip_skip, Feed.skip_skip,
    Nat.succ_mul, Nat.add_comm (count * _), Nat.add_comm count]

/-- Scripts that were all served, one behind the other: each opened with
the local files that the one before it left behind. -/
def AllServed (settings : Settings) :
    Disk → List String → List (List (Exchange π)) → Prop
  | _, _, [] => True
  | _, [], _ :: _ => False
  | disk, path :: paths, segment :: segments =>
    Served settings disk path (segment.map Exchange.call) ∧
    AllServed settings (filesBehind disk segment) paths segments

/-- A run is done exactly when each of its scripts was served. -/
theorem Courses.done_iff
    (h : Courses settings limit scene paths segments verdict) :
    verdict = .done ↔
      segments.length = paths.length ∧
      AllServed settings scene.disk paths segments := by
  induction h with
  | none => exact ⟨fun _ => ⟨rfl, trivial⟩, fun _ => rfl⟩
  | stopped hcourse hverdict _ =>
      refine ⟨fun h => absurd h hverdict, fun h => ?_⟩
      exact hcourse.served_iff.2 h.2.1
  | next hcourse hlinked _ ih =>
      have hserved := hcourse.served_iff.1 rfl
      rw [ih, List.length_cons, List.length_cons,
        Nat.add_right_cancel_iff, AllServed, hlinked.files]
      exact ⟨fun h => ⟨h.1, hserved, h.2⟩, fun h => ⟨h.1, h.2.2⟩⟩

/-- A run that is not done has a first script that is not: those before
it were served, and the verdict is the verdict on it. -/
theorem Courses.last
    (h : Courses settings limit scene paths segments verdict)
    (hverdict : verdict ≠ .done) :
    ∃ done last path,
      segments = done ++ [last] ∧ paths[done.length]? = some path ∧
      AllServed settings scene.disk paths done ∧
      Course settings limit
        (scene.behind settings done.length
          (filesBehind scene.disk done.flatten))
        path (last.map Exchange.call) verdict := by
  induction h with
  | none => exact absurd rfl hverdict
  | @stopped scene path rest segment _ _ hcourse _ _ =>
      refine ⟨[], segment, path, rfl, rfl, trivial, ?_⟩
      rw [List.length_nil, List.flatten_nil, filesBehind,
        Scene.behind_zero]
      exact hcourse
  | @next scene path rest segment mid segments _ hcourse hlinked _ ih =>
      obtain ⟨done, last, path', rfl, hpath, hserved, hlast⟩ :=
        ih hverdict
      refine ⟨segment :: done, last, path', rfl, hpath, ?_, ?_⟩
      · rw [AllServed, hlinked.files]
        exact ⟨hcourse.served_iff.1 rfl, hserved⟩
      · rw [Scene.behind_next] at hlast
        rw [List.flatten_cons, filesBehind_append, hlinked.files]
        exact hlast

-- ======================================================= the theorem

variable {σ τ : Type}

theorem collect_error {disk : Disk} {e : ProvisionError}
    (h : collect settings disk = .error e) :
    ∃ reason, settings.inlineCommands ≠ [] ∧
      disk.stage (inlineChunks settings.inlineCommands)
        = .error reason ∧
      e = .inlineScript reason := by
  unfold collect at h
  split at h
  · cases h
  · next hinline =>
    split at h
    · next reason hstage =>
      cases h
      exact ⟨reason, hinline, hstage, rfl⟩
    · cases h

/-- The verdict on a run, over any channel, clock and local files.  If
no file can be staged for the inline commands, that is it, and the
channel was not asked.  Otherwise the run is done exactly when each of
its scripts was served; and if not, the verdict is that on the first
script that was not, as it is read off the calls and lies in what the
script found. -/
theorem provision_verdict (ch : Channel σ π) (clock : Clock τ)
    (limit : Nat) (plan : Plan) (s : State σ τ) :
    let watched := provision ch.watched clock limit plan s.watched
    provision ch clock limit plan s = unwatch watched ∧
    match collect plan.settings s.disk with
    | .error e =>
      (∃ reason, plan.settings.inlineCommands ≠ [] ∧
        s.disk.stage (inlineChunks plan.settings.inlineCommands)
          = .error reason ∧
        e = .inlineScript reason) ∧
      watched.1 = .failed e ∧ watched.2.log = []
    | .ok (scripts, disk) =>
      ∃ segments : List (List (Exchange π)),
        watched.2.log = segments.flatten ∧
        (watched.1 = .done ↔
          segments.length = scripts.paths.length ∧
          AllServed plan.settings disk scripts.paths segments) ∧
        (watched.1 ≠ .done →
          ∃ done last path,
            segments = done ++ [last] ∧
            scripts.paths[done.length]? = some path ∧
            AllServed plan.settings disk scripts.paths done ∧
            Finds plan.settings limit
              ((s.opening disk).behind plan.settings done.length
                (filesBehind disk done.flatten))
              path (last.map Exchange.call) watched.1 ∧
            Reads plan.settings (last.map Exchange.call) watched.1) ∧
        Reads plan.settings (watched.2.log.map Exchange.call)
          watched.1 := by
  refine ⟨provision_unwatched ch clock limit plan s.watched, ?_⟩
  cases hcollect : collect plan.settings s.disk with
  | error e =>
      exact ⟨collect_error hcollect,
        provision_unstaged_log ch clock limit plan s hcollect⟩
  | ok collected =>
      obtain ⟨segments, hlog, -, hcourses⟩ :=
        provision_courses ch clock limit plan s hcollect
      refine ⟨segments, hlog, hcourses.done_iff, fun hverdict => ?_, ?_⟩
      · obtain ⟨done, last, path, hsegments, hpath, hserved, hcourse⟩ :=
          hcourses.last hverdict
        exact ⟨done, last, path, hsegments, hpath, hserved,
          hcourse.finds, hcourse.reads⟩
      · rw [hlog]
        exact hcourses.reads

end RemoteProvision.Run
