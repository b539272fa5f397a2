/-
Blocks of calls.

A script that runs to its end makes one block of calls: its helper
uploads, attempts that fail, an attempt that starts a process, and the
wait for that process.  The calls of a run are the beginning of such
blocks, one for each script in the order of the scripts
(`provision_blocks`): a run may stop anywhere inside a block, but it
makes no call that is out of place.

Where a run stops, the block goes on with calls that were never made,
perhaps with a process that the channel could never have started.  So
the processes of a block may be missing, and calls are compared behind
`Asked.map some`.
-/
import RemoteProvision.Proofs.Run.Rounds

namespace RemoteProvision

variable {π ρ : Type}

/-- A call with other names for its processes. -/
def Asked.map (f : π → ρ) : Asked π → Asked ρ
  | .upload path source binary answer =>
    .upload path source binary answer
  | .start command answer => .start command (answer.map f)
  | .wait process answer => .wait (f process) answer

namespace Run

variable {settings : Settings} {limit : Nat} {scene : Scene}
  {place : Place} {path command : String}

-- ========================================================== a block

/-- The helper uploads of a script: none for a plain command, and two
for an elevated one. -/
inductive Helpers (settings : Settings) : List (Asked π) → Prop
  | plain : settings.elevated = none → Helpers settings []
  | elevated {credentials : Credentials}
      {varsPath vars wrapperPath wrapper : String}
      {answer answer' : Except ChannelFault Unit} :
      settings.elevated = some credentials →
      Helpers settings
        [.upload varsPath (.ofText vars) false answer,
          .upload wrapperPath (.ofText wrapper) false answer']

/-- What a script asks for when it runs to its end. -/
structure Block (settings : Settings) (π : Type) where
  /-- The file that is uploaded. -/
  place : Place
  command : String
  helpers : List (Asked π)
  /-- The attempts that fail, and their errors. -/
  refused : List (Asked π)
  errors : List ProvisionError
  process : π
  answer : Except ChannelFault Int
  areHelpers : Helpers settings helpers
  areRefused : Refusals settings place command refused errors

/-- The attempt that succeeds, and the wait. -/
def Block.ending (block : Block settings π) : List (Asked π) :=
  [scriptCall settings block.place (.ok ()),
    .start block.command (.ok block.process),
    .wait block.process block.answer]

/-- The calls of a block, in their order. -/
def Block.calls (block : Block settings π) : List (Asked π) :=
  block.helpers ++ (block.refused ++ block.ending)

theorem Block.calls_pos (block : Block settings π) :
    0 < block.calls.length := by
  simp only [calls, ending, List.length_append, List.length_cons]
  omega

-- ================================================ calls as in blocks

/-- Calls, with processes that may be missing. -/
def lifted (calls : List (Asked π)) : List (Asked (Option π)) :=
  calls.map (Asked.map some)

theorem lifted_append (calls calls' : List (Asked π)) :
    lifted (calls ++ calls') = lifted calls ++ lifted calls' :=
  List.map_append

theorem Refusal.lift {calls : List (Asked π)} {e : ProvisionError}
    (h : Refusal settings place command calls e) :
    Refusal settings place command (lifted calls) e := by
  cases h with
  | upload fault => exact .upload fault
  | start fault => exact .start fault

theorem Refusals.lift {calls : List (Asked π)}
    {errors : List ProvisionError}
    (h : Refusals settings place command calls errors) :
    Refusals settings place command (lifted calls) errors := by
  induction h with
  | none => exact .none
  | more hfirst _ ih =>
      rw [lifted_append]
      exact .more hfirst.lift ih

/-- The helpers of a rendered command line, or of one that was given up,
with those that were left out. -/
theorem Rendered.helpers {calls : List (Asked π)}
    {result : Except ProvisionError String}
    (h : Rendered settings scene calls result) :
    ∃ missing, Helpers settings (lifted calls ++ missing) ∧
      (result.isOk → missing = []) := by
  cases h with
  | plain helevated => exact ⟨[], .plain helevated, fun _ => rfl⟩
  | varsRefused helevated =>
      exact ⟨[.upload "" (.ofText "") false (.ok ())],
        .elevated helevated, nofun⟩
  | unfilled helevated _ =>
      exact ⟨[.upload "" (.ofText "") false (.ok ())],
        .elevated helevated, nofun⟩
  | wrapperRefused helevated _ =>
      exact ⟨[], .elevated helevated, nofun⟩
  | elevated helevated _ => exact ⟨[], .elevated helevated, fun _ => rfl⟩

/-- Some helpers, for a script that was never begun. -/
theorem Helpers.exist (settings : Settings) :
    ∃ helpers : List (Asked π), Helpers settings helpers := by
  cases helevated : settings.elevated with
  | none => exact ⟨[], .plain helevated⟩
  | some credentials =>
      exact ⟨[.upload "" (.ofText "") false (.ok ()),
        .upload "" (.ofText "") false (.ok ())], .elevated helevated⟩

/-- A script that ran to its end has made the calls of a block. -/
theorem Launched.block {helpers calls : List (Asked π)} {process : π}
    (hrendered : Rendered settings scene helpers (.ok command))
    (h : Launched settings limit place command calls
      (.succeeded process)) (answer : Except ChannelFault Int) :
    ∃ block : Block settings (Option π),
      block.place = place ∧ block.answer = answer ∧
      lifted (helpers ++ (calls ++ [.wait process answer]))
        = block.calls := by
  obtain ⟨missing, hhelpers, hmissing⟩ := hrendered.helpers
  rw [hmissing rfl, List.append_nil] at hhelpers
  cases h with
  | @succeeded refused errors _ hrefusals _ =>
      refine ⟨⟨place, command, _, _, errors, some process, answer,
        hhelpers, hrefusals.lift⟩, rfl, rfl, ?_⟩
      simp only [lifted_append, List.append_assoc]
      rfl

/-- One that failed on the way has made the first calls of one. -/
theorem Refusals.block {helpers calls : List (Asked π)}
    {errors : List ProvisionError}
    (hrendered : Rendered settings scene helpers (.ok command))
    (h : Refusals settings place command calls errors) :
    ∃ block : Block settings (Option π),
      block.place = place ∧
      lifted (helpers ++ (calls ++ [])) <+: block.calls := by
  obtain ⟨missing, hhelpers, hmissing⟩ := hrendered.helpers
  rw [hmissing rfl, List.append_nil] at hhelpers
  refine ⟨⟨place, command, _, _, errors, Option.none, .ok 0, hhelpers,
    h.lift⟩, rfl, ?_⟩
  rw [List.append_nil, lifted_append]
  exact (List.prefix_append_right_inj _).2 (List.prefix_append _ _)

/-- A script that is done has made a block of calls, with a wait that
brought an allowed code. -/
theorem Course.block_of_done {calls : List (Asked π)}
    (h : Course settings limit scene path calls .done) :
    ∃ block : Block settings (Option π),
      lifted calls = block.calls ∧
      scene.disk.openAt path = .ok block.place ∧
      ∃ code, block.answer = .ok code ∧ settings.allows code := by
  cases h with
  | launched hopen hrendered hlaunched hfinished =>
      cases hfinished with
      | done process hallows =>
          obtain ⟨block, rfl, hanswer, hcalls⟩ :=
            hlaunched.block hrendered _
          exact ⟨block, hcalls, hopen, _, hanswer, hallows⟩

/-- A script with a command line has made the first calls of a block,
or all of them. -/
theorem Finished.block {helpers calls rest : List (Asked π)}
    {tried : Tried π} {verdict : Verdict}
    (hrendered : Rendered settings scene helpers (.ok command))
    (hlaunched : Launched settings limit place command calls tried)
    (h : Finished settings tried rest verdict) :
    ∃ block : Block settings (Option π),
      block.place = place ∧
      lifted (helpers ++ (calls ++ rest)) <+: block.calls := by
  cases h with
  | gaveUp e =>
      cases hlaunched with
      | gaveUp hrefusals _ => exact hrefusals.block hrendered
  | undecided =>
      cases hlaunched with
      | undecided hrefusals _ => exact hrefusals.block hrendered
  | unwaited process fault =>
      obtain ⟨block, hplace, -, hcalls⟩ := hlaunched.block hrendered _
      exact ⟨block, hplace, hcalls ▸ List.prefix_refl _⟩
  | exited process _ =>
      obtain ⟨block, hplace, -, hcalls⟩ := hlaunched.block hrendered _
      exact ⟨block, hplace, hcalls ▸ List.prefix_refl _⟩
  | done process _ =>
      obtain ⟨block, hplace, -, hcalls⟩ := hlaunched.block hrendered _
      exact ⟨block, hplace, hcalls ▸ List.prefix_refl _⟩

/-- Any script has made the first calls of a block. -/
theorem Course.block {calls : List (Asked π)} {verdict : Verdict}
    (h : Course settings limit scene path calls verdict) :
    ∃ block : Block settings (Option π),
      lifted calls <+: block.calls ∧
      (calls ≠ [] → scene.disk.openAt path = .ok block.place) := by
  cases h with
  | unopened _ =>
      obtain ⟨helpers, hhelpers⟩ := Helpers.exist settings
      exact ⟨⟨[], "", helpers, [], [], none, .ok 0, hhelpers, .none⟩,
        List.nil_prefix, fun h => absurd rfl h⟩
  | @unrendered place _ _ hopen hrendered =>
      obtain ⟨missing, hhelpers, -⟩ := hrendered.helpers
      refine ⟨⟨place, "", _, [], [], none, .ok 0, hhelpers, .none⟩, ?_,
        fun _ => hopen⟩
      exact (List.prefix_append _ _).trans (List.prefix_append _ _)
  | launched hopen hrendered hlaunched hfinished =>
      obtain ⟨block, rfl, hcalls⟩ := hfinished.block hrendered hlaunched
      exact ⟨block, hcalls, fun _ => hopen⟩

-- ===================================================== the whole run

/-- How many calls the first blocks hold. -/
def callsBefore (blocks : List (Block settings π)) (count : Nat) : Nat :=
  ((blocks.take count).flatMap Block.calls).length

theorem callsBefore_cons (block : Block settings π)
    (blocks : List (Block settings π)) (count : Nat) :
    callsBefore (block :: blocks) (count + 1)
      = block.calls.length + callsBefore blocks count := by
  rw [callsBefore, List.take_succ_cons, List.flatMap_cons,
    List.length_append, callsBefore]

/-- How the calls of a run lie in the blocks of its scripts. -/
structure InBlocks (settings : Settings) (paths : List String)
    (log : List (Exchange π))
    (blocks : List (Block settings (Option π))) : Prop where
  /-- There is a block for each script. -/
  length : blocks.length = paths.length
  /-- The calls are the first calls of the blocks. -/
  calls :
    lifted (log.map Exchange.call) <+: blocks.flatMap Block.calls
  /-- With the first call of a block, the path of its script leads to
  the file that the block uploads. -/
  opened : ∀ (i : Nat) block path x,
    blocks[i]? = some block → paths[i]? = some path →
    log[callsBefore blocks i]? = some x →
    x.before.openAt path = .ok block.place
  /-- Behind a block calls are made only when its wait brought an
  allowed code. -/
  allowed : ∀ (i : Nat) block, blocks[i]? = some block →
    callsBefore blocks (i + 1) < log.length →
    ∃ code, block.answer = .ok code ∧ settings.allows code

variable {paths rest : List String} {log segment : List (Exchange π)}
  {disk : Disk} {block : Block settings (Option π)}
  {blocks : List (Block settings (Option π))}

theorem length_lifted (calls : List (Asked π)) :
    (lifted calls).length = calls.length := List.length_map _

/-- The first exchange of a linked row begins with the first files. -/
theorem Linked.first {x : Exchange π} {last : Disk}
    (h : Linked disk segment last) (hx : segment[0]? = some x) :
    x.before = disk := by
  cases h with
  | nil => cases hx
  | cons _ => cases hx; rfl

/-- A run that stops within the block of its first script. -/
theorem InBlocks.stopped {last : Disk}
    (hcalls : lifted (segment.map Exchange.call) <+: block.calls)
    (hopened : segment.map Exchange.call ≠ [] →
      disk.openAt path = .ok block.place)
    (hlinked : Linked disk segment last)
    (hlength : blocks.length = rest.length) :
    InBlocks settings (path :: rest) segment (block :: blocks) := by
  have hshort : segment.length ≤ block.calls.length := by
    have hle := hcalls.length_le
    rw [length_lifted, List.length_map] at hle
    exact hle
  refine ⟨congrArg (· + 1) hlength, ?_, ?_, ?_⟩
  · exact hcalls.trans (List.prefix_append _ _)
  · intro i b p x hblock hpath hx
    cases i with
    | zero =>
        cases hblock
        cases hpath
        rw [Linked.first hlinked hx]
        refine hopened fun hnil => ?_
        rw [List.map_eq_nil_iff.1 hnil] at hx
        cases hx
    | succ i =>
        rw [callsBefore_cons, List.getElem?_eq_none (by omega)] at hx
        cases hx
  · intro i b _ hlt
    rw [callsBefore_cons] at hlt
    omega

/-- A run that goes on behind the block of its first script. -/
theorem InBlocks.next {mid : Disk} {code : Int}
    (hcalls : lifted (segment.map Exchange.call) = block.calls)
    (hopened : disk.openAt path = .ok block.place)
    (hlinked : Linked disk segment mid)
    (hanswer : block.answer = .ok code)
    (hallows : settings.allows code)
    (h : InBlocks settings rest log blocks) :
    InBlocks settings (path :: rest) (segment ++ log)
      (block :: blocks) := by
  have hlength : segment.length = block.calls.length := by
    rw [← hcalls, length_lifted, List.length_map]
  refine ⟨congrArg (· + 1) h.length, ?_, ?_, ?_⟩
  · rw [List.map_append, lifted_append, hcalls, List.flatMap_cons]
    exact (List.prefix_append_right_inj _).2 h.calls
  · intro i b p x hblock hpath hx
    cases i with
    | zero =>
        cases hblock
        cases hpath
        have hpos : 0 < segment.length := hlength ▸ block.calls_pos
        rw [callsBefore, List.take_zero, List.flatMap_nil,
          List.length_nil, List.getElem?_append_left hpos] at hx
        rw [Linked.first hlinked hx]
        exact hopened
    | succ i =>
        rw [callsBefore_cons, ← hlength,
          List.getElem?_append_right (Nat.le_add_right _ _),
          Nat.add_sub_cancel_left] at hx
        exact h.opened i b p x hblock hpath hx
  · intro i b hblock hlt
    cases i with
    | zero =>
        cases hblock
        exact ⟨code, hanswer, hallows⟩
    | succ i =>
        rw [callsBefore_cons, List.length_append, hlength] at hlt
        exact h.allowed i b hblock (Nat.lt_of_add_lt_add_left hlt)

/-- The calls of courses lie in blocks. -/
theorem Courses.inBlocks {segments : List (List (Exchange π))}
    {verdict : Verdict}
    (h : Courses settings limit scene paths segments verdict) :
    ∃ blocks, InBlocks settings paths segments.flatten blocks := by
  induction h with
  | none =>
      refine ⟨[], rfl, List.prefix_refl _, ?_, ?_⟩
      · intro i block path x hblock
        cases hblock
      · intro i block hblock
        cases hblock
  | @stopped _ _ rest _ _ _ hcourse _ hlinked =>
      obtain ⟨block, hcalls, hopened⟩ := hcourse.block
      rw [List.flatten_singleton]
      exact ⟨block :: List.replicate rest.length block,
        .stopped hcalls hopened hlinked List.length_replicate⟩
  | next hcourse hlinked _ ih =>
      obtain ⟨block, hcalls, hopened, code, hanswer, hallows⟩ :=
        hcourse.block_of_done
      obtain ⟨blocks, hblocks⟩ := ih
      rw [List.flatten_cons]
      exact ⟨block :: blocks,
        .next hcalls hopened hlinked hanswer hallows hblocks⟩

-- ================================================ starts and uploads

/-- Every start stands right behind an upload of the script that
succeeded. -/
def StartsReady (settings : Settings) (calls : List (Asked π)) : Prop :=
  ∀ front command answer rest,
    calls = front ++ .start command answer :: rest →
    ∃ before place,
      front = before ++ [scriptCall settings place (.ok ())]

theorem StartsReady.of_noStart {calls : List (Asked π)}
    (h : ∀ command answer, .start command answer ∉ calls) :
    StartsReady settings calls := by
  intro front command answer rest heq
  refine absurd ?_ (h command answer)
  rw [heq]
  exact List.mem_append_right _ (List.mem_cons_self ..)

/-- An attempt whose upload succeeds. -/
theorem StartsReady.attempt (place : Place) (command : String)
    (answer : Except ChannelFault π) :
    StartsReady settings
      [scriptCall settings place (.ok ()), .start command answer] := by
  intro front command' answer' rest heq
  cases front with
  | nil => cases heq
  | cons x front =>
      cases front with
      | nil =>
          cases heq
          exact ⟨[], place, rfl⟩
      | cons y front =>
          injection heq with _ heq
          injection heq with _ heq
          exact absurd heq.symm (by simp)

theorem StartsReady.append {calls calls' : List (Asked π)}
    (h : StartsReady settings calls) (h' : StartsReady settings calls') :
    StartsReady settings (calls ++ calls') := by
  intro front command answer rest heq
  rcases List.append_eq_append_iff.1 heq with
    ⟨behind, rfl, hbehind⟩ | ⟨behind, hcalls, hrest⟩
  · obtain ⟨before, place, rfl⟩ := h' _ _ _ _ hbehind
    exact ⟨calls ++ before, place, (List.append_assoc _ _ _).symm⟩
  · cases behind with
    | nil =>
        obtain ⟨before, place, hnil⟩ := h' [] _ _ _ hrest.symm
        exact absurd hnil.symm (by simp)
    | cons x behind =>
        cases hrest
        exact h _ _ _ _ hcalls

theorem Rendered.startsReady {calls : List (Asked π)}
    {result : Except ProvisionError String}
    (h : Rendered settings scene calls result) :
    StartsReady settings calls := by
  refine .of_noStart fun command answer hmem => ?_
  cases h with
  | plain _ => cases hmem
  | varsRefused _ => simp [varsCall] at hmem
  | unfilled _ _ => simp [varsCall] at hmem
  | wrapperRefused _ _ => simp [varsCall, wrapperCall] at hmem
  | elevated _ _ => simp [varsCall, wrapperCall] at hmem

theorem Refusals.startsReady {calls : List (Asked π)}
    {errors : List ProvisionError}
    (h : Refusals settings place command calls errors) :
    StartsReady settings calls := by
  induction h with
  | none => exact .of_noStart fun _ _ => List.not_mem_nil
  | more hfirst _ ih =>
      refine StartsReady.append ?_ ih
      cases hfirst with
      | upload fault =>
          refine .of_noStart fun command answer hmem => ?_
          simp [scriptCall] at hmem
      | start fault => exact .attempt _ _ _

theorem Launched.startsReady {calls : List (Asked π)} {tried : Tried π}
    (h : Launched settings limit place command calls tried) :
    StartsReady settings calls := by
  cases h with
  | succeeded hrefusals _ =>
      exact hrefusals.startsReady.append (.attempt _ _ _)
  | gaveUp hrefusals _ => exact hrefusals.startsReady
  | undecided hrefusals _ => exact hrefusals.startsReady

theorem Finished.startsReady {rest : List (Asked π)} {tried : Tried π}
    {verdict : Verdict} (h : Finished settings tried rest verdict) :
    StartsReady settings rest := by
  refine .of_noStart fun command answer hmem => ?_
  cases h with
  | gaveUp e => cases hmem
  | undecided => cases hmem
  | unwaited process fault => simp at hmem
  | exited process _ => simp at hmem
  | done process _ => simp at hmem

theorem Course.startsReady {calls : List (Asked π)} {verdict : Verdict}
    (h : Course settings limit scene path calls verdict) :
    StartsReady settings calls := by
  cases h with
  | unopened _ => exact .of_noStart fun _ _ => List.not_mem_nil
  | unrendered _ hrendered => exact hrendered.startsReady
  | launched _ hrendered hlaunched hfinished =>
      exact hrendered.startsReady.append
        (hlaunched.startsReady.append hfinished.startsReady)

theorem Courses.startsReady {segments : List (List (Exchange π))}
    {verdict : Verdict}
    (h : Courses settings limit scene paths segments verdict) :
    StartsReady settings (segments.flatten.map Exchange.call) := by
  induction h with
  | none => exact .of_noStart fun _ _ => List.not_mem_nil
  | stopped hcourse _ _ =>
      rw [List.flatten_singleton]
      exact hcourse.startsReady
  | next hcourse _ _ ih =>
      rw [List.flatten_cons, List.map_append]
      exact hcourse.startsReady.append ih

-- ======================================================= the theorem

variable {σ τ : Type}

/-- The calls of a run, over any channel, clock and local files.  If no
file can be staged there are none.  Otherwise they are the first calls
of the blocks of the scripts, and every start stands right behind an
upload of its script that succeeded.

What is said is said of the watched channel; but for its log, a run over
that is the run. -/
theorem provision_blocks (ch : Channel σ π) (clock : Clock τ)
    (limit : Nat) (plan : Plan) (s : State σ τ) :
    let watched := provision ch.watched clock limit plan s.watched
    provision ch clock limit plan s = unwatch watched ∧
    match collect plan.settings s.disk with
    | .error _ => watched.2.log = []
    | .ok (scripts, _) =>
      (∃ blocks : List (Block plan.settings (Option π)),
        InBlocks plan.settings scripts.paths watched.2.log blocks) ∧
      StartsReady plan.settings (watched.2.log.map Exchange.call) := by
  refine ⟨provision_unwatched ch clock limit plan s.watched, ?_⟩
  cases hcollect : collect plan.settings s.disk with
  | error e =>
      exact (provision_unstaged_log ch clock limit plan s hcollect).2
  | ok collected =>
      obtain ⟨segments, hlog, -, hcourses⟩ :=
        provision_courses ch clock limit plan s hcollect
      rw [hlog]
      exact ⟨hcourses.inBlocks, hcourses.startsReady⟩

end Run

end RemoteProvision
