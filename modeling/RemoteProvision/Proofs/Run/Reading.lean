/-
Verdicts read off calls.

Most of a verdict can be read off the calls of a run: a refused helper,
a wait that failed or brought another code, the attempt that was the
last (`Reads`).

Calls are read part by part.  A part that decides nothing reads as done,
and in front of another part it changes nothing (`Reads.append`); so the
helpers, the attempts and the wait of a script are read one by one
(`Course.reads`), and so are the scripts of a run (`Courses.reads`).
-/
import RemoteProvision.Proofs.Run.Rounds

namespace RemoteProvision.Run

variable {π : Type} {settings : Settings} {limit : Nat} {scene : Scene}
  {place : Place} {path command : String}
  {calls calls' : List (Asked π)} {verdict : Verdict}

-- ============================================ what the calls tell

/-- The error of an attempt that was the last. -/
def LastAttempt (settings : Settings) (calls : List (Asked π))
    (e : ProvisionError) : Prop :=
  ∃ front place fault,
    (calls = front ++ [scriptCall settings place (.error fault)] ∧
      e = .upload settings.remotePath fault) ∨
    (∃ command,
      calls = front ++ [scriptCall settings place (.ok ()),
        .start command (.error fault)] ∧
      e = .start fault)

/-- How a verdict is read off calls. -/
structure Reads (settings : Settings) (calls : List (Asked π))
    (verdict : Verdict) : Prop where
  /-- An upload is to blame exactly when a helper was refused; it is
  named by the helper's path. -/
  upload : ∀ path fault,
    verdict = .failed (.upload path fault) ↔
      ∃ text, .upload path (.ofText text) false (.error fault) ∈ calls
  wait : ∀ fault,
    verdict = .failed (.wait fault) ↔
      ∃ process, .wait process (.error fault) ∈ calls
  /-- A code is to blame exactly when it is not allowed. -/
  exit : ∀ code allowed,
    verdict = .failed (.nonZeroExit code allowed) ↔
      allowed = settings.validExitCodes ∧ ∃ process,
        .wait process (.ok code) ∈ calls ∧ settings.allows code = false
  /-- When the window is over, the error of the last attempt is kept. -/
  exhausted : ∀ timeout e,
    verdict = .failed (.retriesExhausted timeout e) →
      timeout = settings.startRetryTimeout ∧
      LastAttempt settings calls e
  /-- There is no other error. -/
  kinds : ∀ e, verdict = .failed e →
    (∃ path fault, e = .scriptOpen path fault) ∨
    (∃ fault, e = .template fault) ∨
    (∃ path fault, e = .upload path fault) ∨
    (∃ timeout last, e = .retriesExhausted timeout last) ∨
    (∃ fault, e = .wait fault) ∨
    ∃ code allowed, e = .nonZeroExit code allowed

theorem LastAttempt.append {e : ProvisionError}
    (h : LastAttempt settings calls' e) :
    LastAttempt settings (calls ++ calls') e := by
  obtain ⟨front, place, fault, h⟩ := h
  refine ⟨calls ++ front, place, fault, ?_⟩
  rcases h with ⟨rfl, he⟩ | ⟨command, rfl, he⟩
  · exact .inl ⟨(List.append_assoc _ _ _).symm, he⟩
  · exact .inr ⟨command, (List.append_assoc _ _ _).symm, he⟩

/-- Calls that decide nothing, in front of others. -/
theorem Reads.append (h : Reads settings calls .done)
    (h' : Reads settings calls' verdict) :
    Reads settings (calls ++ calls') verdict := by
  refine ⟨fun path fault => ?_, fun fault => ?_, fun code allowed => ?_,
    fun timeout e he => ?_, h'.kinds⟩
  · rw [h'.upload]
    refine ⟨fun ⟨text, hmem⟩ => ⟨text, List.mem_append_right _ hmem⟩, ?_⟩
    rintro ⟨text, hmem⟩
    rcases List.mem_append.1 hmem with hmem | hmem
    · exact absurd ((h.upload _ _).2 ⟨text, hmem⟩) nofun
    · exact ⟨text, hmem⟩
  · rw [h'.wait]
    refine ⟨fun ⟨p, hmem⟩ => ⟨p, List.mem_append_right _ hmem⟩, ?_⟩
    rintro ⟨process, hmem⟩
    rcases List.mem_append.1 hmem with hmem | hmem
    · exact absurd ((h.wait _).2 ⟨process, hmem⟩) nofun
    · exact ⟨process, hmem⟩
  · rw [h'.exit]
    refine and_congr_right fun hallowed => ?_
    refine ⟨fun ⟨p, hmem⟩ => ⟨p, List.mem_append_right _ hmem.1, hmem.2⟩,
      ?_⟩
    rintro ⟨process, hmem, hcode⟩
    rcases List.mem_append.1 hmem with hmem | hmem
    · exact absurd ((h.exit _ _).2 ⟨rfl, process, hmem, hcode⟩) nofun
    · exact ⟨process, hmem, hcode⟩
  · obtain ⟨htimeout, hlast⟩ := h'.exhausted timeout e he
    exact ⟨htimeout, hlast.append⟩

-- ------------------------------------------------------- the parts

/-- No call decides a verdict that has another reason. -/
theorem Reads.silent
    (h : verdict = .done ∨ verdict = .undecided ∨
      (∃ path fault, verdict = .failed (.scriptOpen path fault)) ∨
      ∃ fault, verdict = .failed (.template fault)) :
    Reads settings ([] : List (Asked π)) verdict := by
  rcases h with rfl | rfl | ⟨path, fault, rfl⟩ | ⟨fault, rfl⟩ <;>
    exact ⟨by simp, by simp, by simp, by simp, by simp⟩

/-- Calls that decide nothing, for a verdict that has another reason. -/
theorem Reads.reason (h : Reads settings calls .done)
    (hverdict : Reads settings ([] : List (Asked π)) verdict) :
    Reads settings calls verdict := by
  have hreads := h.append hverdict
  rw [List.append_nil] at hreads
  exact hreads

/-- Attempts that failed until the window was over. -/
theorem Reads.exhaust {e : ProvisionError}
    (h : Reads settings calls .done)
    (hlast : LastAttempt settings calls e) :
    Reads settings calls
      (.failed (.retriesExhausted settings.startRetryTimeout e)) := by
  refine ⟨fun path fault => ?_, fun fault => ?_, fun code allowed => ?_,
    fun timeout last he => ?_, fun last he => ?_⟩
  · rw [← h.upload]
    simp
  · rw [← h.wait]
    simp
  · rw [← h.exit]
    simp
  · cases he
    exact ⟨rfl, hlast⟩
  · cases he
    exact .inr (.inr (.inr (.inl ⟨_, _, rfl⟩)))

/-- A helper that was accepted. -/
theorem Reads.accepted (path text : String) :
    Reads settings
      [Asked.upload (π := π) path (.ofText text) false (.ok ())] .done :=
  ⟨by simp, by simp, by simp, by simp, by simp⟩

/-- A helper that was refused. -/
theorem Reads.refused (path text : String) (fault : ChannelFault) :
    Reads settings
      [Asked.upload (π := π) path (.ofText text) false (.error fault)]
      (.failed (.upload path fault)) := by
  refine ⟨fun path' fault' => ?_, by simp, by simp, by simp, by simp⟩
  constructor
  · rintro ⟨⟩
    exact ⟨text, List.mem_singleton.2 rfl⟩
  · rintro ⟨text', hmem⟩
    injection List.mem_singleton.1 hmem with hpath _ _ hanswer
    cases hpath
    cases hanswer
    rfl

/-- An attempt offers a file, so it decides nothing by itself. -/
theorem Reads.attempt (place : Place)
    (answer : Except ChannelFault Unit) :
    Reads settings [scriptCall (π := π) settings place answer] .done :=
  ⟨by simp [scriptCall, Source.ofText], by simp [scriptCall],
    by simp [scriptCall], by simp, by simp⟩

theorem Reads.start (command : String)
    (answer : Except ChannelFault π) :
    Reads settings [Asked.start command answer] .done :=
  ⟨by simp, by simp, by simp, by simp, by simp⟩

theorem fillCommand_error {template vars path : String}
    {e : ProvisionError} (h : fillCommand template vars path = .error e) :
    ∃ fault, e = .template fault := by
  unfold fillCommand at h
  cases hrender : Template.render template
    (Template.Fields.ofList [("Vars", vars), ("Path", path)]) with
  | error fault =>
      rw [hrender] at h
      cases h
      exact ⟨fault, rfl⟩
  | ok text =>
      rw [hrender] at h
      cases h

theorem plainLine_error {address : Option String} {e : ProvisionError}
    (h : plainLine settings address = .error e) :
    ∃ fault, e = .template fault := by
  unfold plainLine at h
  cases hfill : fillCommand settings.executeCommand
    (settings.environment.assemble false address)
    settings.remotePath with
  | error e' =>
      rw [hfill] at h
      cases h
      exact fillCommand_error hfill
  | ok command =>
      rw [hfill] at h
      cases h

/-- A command line that was rendered leaves the verdict open. -/
theorem Rendered.reads
    (h : Rendered settings scene calls (.ok command)) :
    Reads settings calls .done := by
  generalize hresult : Except.ok command = result at h
  cases h with
  | plain _ => exact .silent (.inl rfl)
  | varsRefused _ => cases hresult
  | unfilled _ _ => cases hresult
  | wrapperRefused _ _ => cases hresult
  | elevated _ _ =>
      exact (Reads.accepted _ _).append (.accepted _ _)

/-- One that was not decides it. -/
theorem Rendered.reads_error {e : ProvisionError}
    (h : Rendered settings scene calls (.error e)) :
    Reads settings calls (.failed e) := by
  generalize hresult : Except.error e = result at h
  cases h with
  | plain _ =>
      obtain ⟨fault, rfl⟩ := plainLine_error hresult.symm
      exact .silent (.inr (.inr (.inr ⟨fault, rfl⟩)))
  | varsRefused _ =>
      cases hresult
      exact .refused _ _ _
  | unfilled _ hfill =>
      cases hresult
      obtain ⟨fault, rfl⟩ := fillCommand_error hfill
      exact (Reads.accepted _ _).reason
        (.silent (.inr (.inr (.inr ⟨fault, rfl⟩))))
  | wrapperRefused _ _ =>
      cases hresult
      exact (Reads.accepted _ _).append (.refused _ _ _)
  | elevated _ _ => cases hresult

theorem Refusals.reads {errors : List ProvisionError}
    (h : Refusals settings place command calls errors) :
    Reads settings calls .done := by
  induction h with
  | none => exact .silent (.inl rfl)
  | more hfirst _ ih =>
      refine Reads.append ?_ ih
      cases hfirst with
      | upload fault => exact .attempt _ _
      | start fault => exact (Reads.attempt _ _).append (.start _ _)

/-- The last error of a row is that of its last attempt. -/
theorem Refusals.lastAttempt {errors : List ProvisionError}
    {e : ProvisionError}
    (h : Refusals settings place command calls (errors ++ [e])) :
    LastAttempt settings calls e := by
  induction errors generalizing calls with
  | nil =>
      cases h with
      | more hfirst hrest =>
          cases hrest
          cases hfirst with
          | upload fault => exact ⟨[], place, fault, .inl ⟨rfl, rfl⟩⟩
          | start fault =>
              exact ⟨[], place, fault, .inr ⟨command, rfl, rfl⟩⟩
  | cons first errors ih =>
      cases h with
      | more _ hrest => exact (ih hrest).append

/-- What a window says about the verdict. -/
def Tried.means : Tried π → Verdict
  | .succeeded _ => .done
  | .gaveUp e => .failed e
  | .undecided => .undecided

theorem Launched.reads {tried : Tried π}
    (h : Launched settings limit place command calls tried) :
    Reads settings calls tried.means := by
  cases h with
  | succeeded hrefusals _ =>
      exact hrefusals.reads.append
        ((Reads.attempt _ _).append (.start _ _))
  | gaveUp hrefusals _ =>
      exact hrefusals.reads.exhaust hrefusals.lastAttempt
  | undecided hrefusals _ =>
      exact hrefusals.reads.reason (.silent (.inr (.inl rfl)))

/-- What follows on a window decides, if the window did not. -/
theorem Finished.reads {rest : List (Asked π)} {process : π}
    (h : Finished settings (.succeeded process) rest verdict) :
    Reads settings rest verdict := by
  cases h with
  | unwaited _ fault =>
      exact ⟨by simp, by simp [eq_comm], by simp, by simp, by simp⟩
  | @exited _ code hallows =>
      refine ⟨by simp, by simp, fun code' allowed => ?_, by simp, by simp⟩
      constructor
      · rintro ⟨⟩
        exact ⟨rfl, process, List.mem_singleton.2 rfl, hallows⟩
      · rintro ⟨rfl, process', hmem, -⟩
        cases List.mem_singleton.1 hmem
        rfl
  | done _ hallows =>
      refine ⟨by simp, by simp, fun code allowed => ?_, by simp, by simp⟩
      constructor
      · rintro ⟨⟩
      · rintro ⟨-, process', hmem, hcode⟩
        cases List.mem_singleton.1 hmem
        rw [hallows] at hcode
        cases hcode

/-- The calls of a script tell its verdict. -/
theorem Course.reads
    (h : Course settings limit scene path calls verdict) :
    Reads settings calls verdict := by
  cases h with
  | unopened _ => exact .silent (.inr (.inr (.inl ⟨_, _, rfl⟩)))
  | unrendered _ hrendered => exact hrendered.reads_error
  | @launched _ _ _ _ _ tried _ _ hrendered hlaunched hfinished =>
      refine hrendered.reads.append ?_
      cases tried with
      | succeeded process => exact hlaunched.reads.append hfinished.reads
      | gaveUp e =>
          cases hfinished
          rw [List.append_nil]
          exact hlaunched.reads
      | undecided =>
          cases hfinished
          rw [List.append_nil]
          exact hlaunched.reads

/-- And so do those of scripts in their order. -/
theorem Courses.reads {paths : List String}
    {segments : List (List (Exchange π))}
    (h : Courses settings limit scene paths segments verdict) :
    Reads settings (segments.flatten.map Exchange.call) verdict := by
  induction h with
  | none => exact .silent (.inl rfl)
  | stopped hcourse _ _ =>
      rw [List.flatten_singleton]
      exact hcourse.reads
  | next hcourse _ _ ih =>
      rw [List.flatten_cons, List.map_append]
      exact hcourse.reads.append ih

end RemoteProvision.Run
