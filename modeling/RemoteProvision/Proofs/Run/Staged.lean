/-
The local files of a run.

A run with inline commands makes one local file and takes it away again.
In between it changes nothing: each call finds the local files as the
call before it left them (`Linked`).  So if the staged file is not there
any more when a call is made, one of the calls before it did that
(`Linked.lasts`), and on every way out of the run it is taken away, also
if it was not yet written to its end.

`LocalFiles` says this for all ways in which a run can end.  In the end
every place that no call changed holds what it held before the run
(`LocalFiles.untouched`).
-/
import RemoteProvision.Proofs.Run.Offered
import RemoteProvision.Proofs.Run.Verdicts

namespace RemoteProvision

variable {σ τ π : Type} {first last : Disk} {log : List (Exchange π)}

-- ============================================================ lasting

/-- Something holds of some files, or one of some calls put an end to
it. -/
def LastsOver (P : Disk → Prop) (log : List (Exchange π))
    (disk : Disk) : Prop :=
  P disk ∨ ∃ x ∈ log, P x.before ∧ ¬ P x.behind

/-- Between calls nothing comes to an end. -/
theorem Linked.lasts {P : Disk → Prop} (hlinked : Linked first log last)
    (h : P first) :
    (∀ front x behind, log = front ++ x :: behind →
      LastsOver P front x.before) ∧
    LastsOver P log last := by
  induction hlinked with
  | nil =>
      refine ⟨fun front x behind hsplit => ?_, .inl h⟩
      exact absurd hsplit.symm
        (List.append_ne_nil_of_right_ne_nil _ (List.cons_ne_nil _ _))
  | @cons y rest last _ ih =>
      by_cases hbehind : P y.behind
      · obtain ⟨hcalls, hlast⟩ := ih hbehind
        have hmore : ∀ {front : List (Exchange π)} {disk : Disk},
            LastsOver P front disk → LastsOver P (y :: front) disk := by
          rintro front disk (hP | ⟨x, hx, hends⟩)
          · exact .inl hP
          · exact .inr ⟨x, List.mem_cons_of_mem _ hx, hends⟩
        refine ⟨fun front x behind hsplit => ?_, hmore hlast⟩
        cases front with
        | nil =>
            cases hsplit
            exact .inl h
        | cons z front =>
            cases hsplit
            exact hmore (hcalls front x behind rfl)
      · -- the first call ends it, and so it does for all calls behind it
        have hends : P y.before ∧ ¬ P y.behind := ⟨h, hbehind⟩
        refine ⟨fun front x behind hsplit => ?_,
          .inr ⟨y, List.mem_cons_self .., hends⟩⟩
        cases front with
        | nil =>
            cases hsplit
            exact .inl h
        | cons z front =>
            cases hsplit
            exact .inr ⟨y, List.mem_cons_self .., hends⟩

/-- A place that no call changes holds the same in the end. -/
theorem Linked.item_eq {q : Place} (hlinked : Linked first log last)
    (h : ∀ x ∈ log, x.behind.item? q = x.before.item? q) :
    last.item? q = first.item? q := by
  induction hlinked with
  | nil => rfl
  | cons _ ih =>
      obtain ⟨hfirst, hrest⟩ := List.forall_mem_cons.1 h
      exact (ih hrest).trans hfirst

namespace Run

variable {settings : Settings} {start final : Disk} {verdict : Verdict}

-- ======================================================== local files

/-- The file at a path holds the inline commands, each with a line
feed. -/
def HoldsInline (settings : Settings) (path : String) (disk : Disk) :
    Prop :=
  disk.readBytes path = .ok (inlineScript settings.inlineCommands)

/-- The life of a staged file, from the local files at the start of a
run to those at its end. -/
structure StagedFile (settings : Settings) (start : Disk)
    (staged : Disk.Staged) (log : List (Exchange π)) (final : Disk) :
    Prop where
  /-- It is a new file and the last script, and staging it changes
  nothing else; between calls nothing is changed; and in the end nothing
  else is taken away. -/
  alone : ∃ disk last,
    collect settings start
      = .ok (⟨settings.scripts ++ [staged.path], some staged⟩, disk) ∧
    Disk.Adds start staged.place
      (.file (inlineScript settings.inlineCommands) false) disk ∧
    Linked disk log last ∧
    LastsOver (HoldsInline settings staged.path) log last ∧
    ∀ q, q ≠ staged.place → final.item? q = last.item? q
  /-- Each call finds it with all commands, unless one of the calls
  before put an end to that. -/
  present : ∀ front x behind, log = front ++ x :: behind →
    LastsOver (HoldsInline settings staged.path) front x.before
  gone : final.item? staged.place = none

/-- The local files over a run, in each of the ways in which it can go:
staging fails and nothing is asked, or nothing is staged, or a file is
staged and taken away. -/
inductive LocalFiles (settings : Settings) (start : Disk) :
    Verdict → List (Exchange π) → Disk → Prop
  | unstaged {reason : String} :
      settings.inlineCommands ≠ [] →
      start.BreaksOff (inlineChunks settings.inlineCommands) reason →
      LocalFiles settings start (.failed (.inlineScript reason)) [] start
  | named {verdict : Verdict} {log : List (Exchange π)} {last : Disk} :
      settings.inlineCommands = [] →
      Linked start log last →
      LocalFiles settings start verdict log last
  | staged {verdict : Verdict} {log : List (Exchange π)}
      {staged : Disk.Staged} {final : Disk} :
      settings.inlineCommands ≠ [] →
      StagedFile settings start staged log final →
      LocalFiles settings start verdict log final

/-- Whatever place no call changes holds in the end what it held at the
start. -/
theorem LocalFiles.untouched
    (h : LocalFiles settings start verdict log final) {q : Place}
    (hcalls : ∀ x ∈ log, x.behind.item? q = x.before.item? q) :
    final.item? q = start.item? q := by
  cases h with
  | unstaged _ _ => rfl
  | named _ hlinked => exact hlinked.item_eq hcalls
  | @staged _ _ staged _ _ hfile =>
      obtain ⟨disk, last, -, hadds, hlinked, -, hothers⟩ := hfile.alone
      by_cases hplace : q = staged.place
      · rw [hplace, hfile.gone, hadds.vacant]
      · rw [hothers q hplace, hlinked.item_eq hcalls,
          hadds.other q hplace]

-- ======================================================= the theorem

/-- A file that was staged, and is taken away from the files that the
calls left. -/
theorem stagedFile_of_linked {staged : Disk.Staged} {disk : Disk}
    (hcollect : collect settings start
      = .ok (⟨settings.scripts ++ [staged.path], some staged⟩, disk))
    (hadds : Disk.Adds start staged.place
      (.file (inlineScript settings.inlineCommands) false) disk)
    (hopen : disk.openAt staged.path = .ok staged.place)
    (hlinked : Linked disk log last) :
    StagedFile settings start staged log (last.unstage staged) := by
  have hholds : HoldsInline settings staged.path disk := by
    rw [HoldsInline, ← bytesAt_of_openAt hopen, Disk.bytesAt,
      hadds.there]
  obtain ⟨hcalls, hlast⟩ := hlinked.lasts hholds
  refine ⟨⟨disk, last, hcollect, hadds, hlinked, hlast,
    fun q hq => Disk.item?_drop_other hq⟩, hcalls, ?_⟩
  exact Disk.item?_drop_self (Disk.ne_root_of_vacant hadds.vacant)

/-- Over any settings, channel, clock and local files: a run makes a
local file for its inline commands, which is there for every call and
gone in the end, however the run ends; and all that it does to other
local files is what its channel does to them. -/
theorem provision_local_files (ch : Channel σ π) (clock : Clock τ)
    (limit : Nat) (plan : Plan) (s : State σ τ) :
    let watched := provision ch.watched clock limit plan s.watched
    provision ch clock limit plan s = unwatch watched ∧
    LocalFiles plan.settings s.disk watched.1 watched.2.log
      watched.2.disk ∧
    ∀ q, (∀ x ∈ watched.2.log,
        x.behind.item? q = x.before.item? q) →
      watched.2.disk.item? q = s.disk.item? q := by
  have hfiles : LocalFiles plan.settings s.disk
      (provision ch.watched clock limit plan s.watched).1
      (provision ch.watched clock limit plan s.watched).2.log
      (provision ch.watched clock limit plan s.watched).2.disk := by
    cases hcollect : collect plan.settings s.disk with
    | error e =>
        obtain ⟨reason, hinline, hstage, rfl⟩ := collect_error hcollect
        rw [provision_unstaged_watched ch clock limit plan s hcollect]
        exact .unstaged hinline (Disk.stage_error hstage)
    | ok done =>
        obtain ⟨scripts, disk⟩ := done
        obtain ⟨uses, last, hlinked, hdisk, -⟩ :=
          provision_leg ch clock limit plan s hcollect
        rw [hdisk]
        rcases collect_cases hcollect with
          ⟨hinline, rfl, rfl⟩ | ⟨hinline, staged, rfl, hadds, hopen⟩
        · exact .named hinline hlinked
        · exact .staged hinline
            (stagedFile_of_linked hcollect hadds hopen hlinked)
  exact ⟨provision_unwatched ch clock limit plan s.watched, hfiles,
    fun q hcalls => hfiles.untouched hcalls⟩

end Run

end RemoteProvision
