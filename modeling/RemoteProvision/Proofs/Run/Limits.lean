/-
The number of attempts that are looked at.

A run has no bound on its attempts but the clock, and a clock may stand
still.  So a run is looked at up to a number of attempts for each
script, and may be left undecided.  Once it is decided, looking further
changes nothing (`provision_more`): what is said of a decided run for
one number is said of the run.
-/
import RemoteProvision.Proofs.Run.Cases
import RemoteProvision.Proofs.Run.Tries

namespace RemoteProvision.Run

variable {σ τ π : Type} {ch : Channel σ π} {clock : Clock τ}
  {limit limit' : Nat} {plan : Plan} {s : State σ τ}

theorem launch_more {place : Place} {command : String}
    (hle : limit ≤ limit')
    (h : (launch ch clock limit plan place command s).1
      ≠ .undecided) :
    launch ch clock limit' plan place command s
      = launch ch clock limit plan place command s := by
  have hrun : plan.window.run clock.attempting
        (attempt ch plan.settings place command) limit' ⟨s, false, 0⟩
      = plan.window.run clock.attempting
          (attempt ch plan.settings place command) limit
          ⟨s, false, 0⟩ :=
    Window.attempts_more hle h
  rw [launch, launch, hrun]

theorem runScript_more {path : String} (hle : limit ≤ limit')
    (h : (runScript ch clock limit plan path s).1 ≠ .undecided) :
    runScript ch clock limit' plan path s
      = runScript ch clock limit plan path s := by
  cases hopen : s.disk.openAt path with
  | error fault =>
      rw [runScript_unopened hopen, runScript_unopened hopen]
  | ok place =>
      rcases hrender : renderCommand ch plan.settings s
        with ⟨result, rendered⟩
      cases result with
      | error e =>
          rw [runScript_unrendered hopen hrender,
            runScript_unrendered hopen hrender]
      | ok command =>
          rcases hlaunch : launch ch clock limit plan place command
            rendered with ⟨tried, launched⟩
          have hmore : tried ≠ .undecided →
              launch ch clock limit' plan place command rendered
                = (tried, launched) := by
            intro htried
            rw [← hlaunch]
            refine launch_more hle ?_
            rw [hlaunch]
            exact htried
          cases tried with
          | undecided =>
              rw [runScript_undecided hopen hrender hlaunch] at h
              exact absurd rfl h
          | gaveUp e =>
              rw [runScript_gaveUp hopen hrender hlaunch,
                runScript_gaveUp hopen hrender (hmore nofun)]
          | succeeded process =>
              rw [runScript_launched hopen hrender hlaunch,
                runScript_launched hopen hrender (hmore nofun)]

theorem runScripts_more {paths : List String} (hle : limit ≤ limit')
    (h : (runScripts ch clock limit plan paths s).1 ≠ .undecided) :
    runScripts ch clock limit' plan paths s
      = runScripts ch clock limit plan paths s := by
  induction paths generalizing s with
  | nil => rfl
  | cons path rest ih =>
      rcases hrun : runScript ch clock limit plan path
        (s.say (scriptLine path)) with ⟨verdict, s'⟩
      have hmore : verdict ≠ .undecided →
          runScript ch clock limit' plan path (s.say (scriptLine path))
            = (verdict, s') := by
        intro hverdict
        rw [← hrun]
        refine runScript_more hle ?_
        rw [hrun]
        exact hverdict
      by_cases hverdict : verdict = .done
      · subst hverdict
        rw [runScripts_done hrun] at h
        rw [runScripts_done hrun, runScripts_done (hmore nofun)]
        exact ih h
      · rw [runScripts_stopped hrun hverdict] at h
        rw [runScripts_stopped hrun hverdict,
          runScripts_stopped (hmore h) hverdict]

/-- A run that was decided goes the same way however far it is looked
at. -/
theorem provision_more (hle : limit ≤ limit')
    (h : (provision ch clock limit plan s).1 ≠ .undecided) :
    provision ch clock limit' plan s
      = provision ch clock limit plan s := by
  cases hcollect : collect plan.settings s.disk with
  | error e =>
      rw [provision_unstaged hcollect, provision_unstaged hcollect]
  | ok collected =>
      obtain ⟨scripts, disk⟩ := collected
      rcases hrun : runScripts ch clock limit plan scripts.paths
        { s.say openingLine with disk := disk } with ⟨verdict, s'⟩
      rw [provision_staged hcollect hrun] at h
      have hmore : runScripts ch clock limit' plan scripts.paths
            { s.say openingLine with disk := disk }
          = (verdict, s') := by
        rw [← hrun]
        refine runScripts_more hle ?_
        rw [hrun]
        exact h
      rw [provision_staged hcollect hrun,
        provision_staged hcollect hmore]

end RemoteProvision.Run
