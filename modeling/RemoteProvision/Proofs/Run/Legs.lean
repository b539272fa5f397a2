/-
Legs of a watched run.

A leg lies between two states of a run over a watched channel.  It knows
what was asked of the channel in between, and how many ids and addresses
were drawn (`Leg`).  Legs that meet make a longer one, and each single
action of a run is a leg; so what a run does is put together from its
actions, and no proof has to look into a state again.

The exchanges of a leg are linked: each begins with the local files that
the one before it left behind (`Linked`), because only the channel
changes them while scripts run.  And each was played by the channel: in
some state of its own it answers as the log says (`Channel.Played`).
-/
import RemoteProvision.Proofs.Run.Watching

namespace RemoteProvision

-- ============================================================ feeds

/-- A feed from which some more answers were taken. -/
def Feed.skip {α : Type} (feed : Feed α) (count : Nat) : Feed α :=
  ⟨feed.answer, feed.taken + count⟩

theorem Feed.skip_skip {α : Type} (feed : Feed α) (m n : Nat) :
    (feed.skip m).skip n = feed.skip (m + n) := by
  rw [skip, skip, skip, Nat.add_assoc]

-- ================================================== linked exchanges

variable {σ τ π : Type}

/-- Exchanges that lead from some local files to others, each from the
files that the one before it left behind. -/
inductive Linked : Disk → List (Exchange π) → Disk → Prop
  | nil {disk : Disk} : Linked disk [] disk
  | cons {x : Exchange π} {rest : List (Exchange π)} {last : Disk} :
      Linked x.behind rest last → Linked x.before (x :: rest) last

theorem Linked.append {first mid last : Disk}
    {xs ys : List (Exchange π)} (hxs : Linked first xs mid)
    (hys : Linked mid ys last) : Linked first (xs ++ ys) last := by
  induction hxs with
  | nil => exact hys
  | cons _ ih => exact .cons (ih hys)

/-- The local files behind some exchanges. -/
def filesBehind : Disk → List (Exchange π) → Disk
  | disk, [] => disk
  | _, x :: rest => filesBehind x.behind rest

theorem filesBehind_append (disk : Disk) (xs ys : List (Exchange π)) :
    filesBehind disk (xs ++ ys) = filesBehind (filesBehind disk xs) ys := by
  induction xs generalizing disk with
  | nil => rfl
  | cons x xs ih => exact ih x.behind

theorem Linked.files {first last : Disk} {xs : List (Exchange π)}
    (h : Linked first xs last) : filesBehind first xs = last := by
  induction h with
  | nil => rfl
  | cons _ ih => exact ih

/-- One exchange links the files before it to those behind it. -/
theorem Linked.single (before behind : Disk) (call : Asked π) :
    Linked before [⟨before, call, behind⟩] behind :=
  .cons (x := ⟨before, call, behind⟩) .nil

/-- An exchange that the channel can bring about. -/
def Channel.Played (ch : Channel σ π) (x : Exchange π) : Prop :=
  match x.call with
  | .upload path source binary answer =>
    ∃ w, (ch.upload w x.before path source binary).result = answer ∧
      (ch.upload w x.before path source binary).disk = x.behind
  | .start command answer =>
    ∃ w, (ch.start w x.before command).result = answer ∧
      (ch.start w x.before command).disk = x.behind
  | .wait process answer =>
    ∃ w, (ch.wait w x.before process).result = answer ∧
      (ch.wait w x.before process).disk = x.behind

namespace Run

-- ============================================================= legs

/-- What lies between two states of a watched run: what was asked of
the channel, and how many ids and addresses were drawn. -/
def Leg (ch : Channel σ π) (s : State (σ × List (Exchange π)) τ)
    (calls : List (Asked π)) (ids addresses : Nat)
    (s' : State (σ × List (Exchange π)) τ) : Prop :=
  ∃ xs : List (Exchange π),
    s'.log = s.log ++ xs ∧ xs.map Exchange.call = calls ∧
    Linked s.disk xs s'.disk ∧ (∀ x ∈ xs, ch.Played x) ∧
    s'.ids = s.ids.skip ids ∧ s'.addresses = s.addresses.skip addresses

variable {ch : Channel σ π} {s s' s'' : State (σ × List (Exchange π)) τ}
  {calls calls' : List (Asked π)} {ids ids' addresses addresses' : Nat}

/-- A leg without calls, between states that differ only in what no leg
looks at. -/
theorem Leg.still (hlog : s'.log = s.log) (hdisk : s'.disk = s.disk)
    (hids : s'.ids = s.ids) (haddresses : s'.addresses = s.addresses) :
    Leg ch s [] 0 0 s' := by
  refine ⟨[], ?_, rfl, ?_, nofun, hids, haddresses⟩
  · rw [hlog, List.append_nil]
  · rw [hdisk]
    exact .nil

/-- Legs that meet make one leg. -/
theorem Leg.trans (h : Leg ch s calls ids addresses s')
    (h' : Leg ch s' calls' ids' addresses' s'') :
    Leg ch s (calls ++ calls') (ids + ids') (addresses + addresses')
      s'' := by
  obtain ⟨xs, hlog, hcalls, hlinked, hplayed, hids, haddresses⟩ := h
  obtain ⟨ys, hlog', hcalls', hlinked', hplayed', hids', haddresses'⟩ :=
    h'
  refine ⟨xs ++ ys, ?_, ?_, hlinked.append hlinked', ?_, ?_, ?_⟩
  · rw [hlog', hlog, List.append_assoc]
  · rw [List.map_append, hcalls, hcalls']
  · exact List.forall_mem_append.2 ⟨hplayed, hplayed'⟩
  · rw [hids', hids, Feed.skip_skip]
  · rw [haddresses', haddresses, Feed.skip_skip]

/-- A leg on which nothing is drawn, behind another. -/
theorem Leg.call (h : Leg ch s calls ids addresses s')
    (h' : Leg ch s' calls' 0 0 s'') :
    Leg ch s (calls ++ calls') ids addresses s'' :=
  h.trans h'

/-- A leg on which nothing happens, behind another. -/
theorem Leg.rest (h : Leg ch s calls ids addresses s')
    (h' : Leg ch s' [] 0 0 s'') : Leg ch s calls ids addresses s'' := by
  have hleg := h.call h'
  rw [List.append_nil] at hleg
  exact hleg

-- ========================================================== actions

variable {clock : Clock τ}

theorem Leg.note (step : Step) : Leg ch s [] 0 0 (s.note step) :=
  .still rfl rfl rfl rfl

theorem Leg.say (text : String) : Leg ch s [] 0 0 (s.say text) :=
  .note _

theorem Leg.complain (text : String) : Leg ch s [] 0 0 (s.complain text) :=
  .note _

theorem Leg.nextId : Leg ch s [] 1 0 s.nextId.2 :=
  ⟨[], (List.append_nil _).symm, rfl, .nil, nofun, rfl, rfl⟩

theorem Leg.nextAddress : Leg ch s [] 0 1 s.nextAddress.2 :=
  ⟨[], (List.append_nil _).symm, rfl, .nil, nofun, rfl, rfl⟩

/-- Reading the clock. -/
theorem Leg.read : Leg ch s [] 0 0 (clock.timed.read s).2 :=
  .still rfl rfl rfl rfl

theorem Leg.pause (span : Duration) :
    Leg ch s [] 0 0 (clock.timed.pause span s) :=
  .still rfl rfl rfl rfl

theorem Leg.upload {path : String} {source : Source} {binary : Bool}
    {result : Except ChannelFault Unit} {taken : Nat}
    (h : s.upload ch.watched path source binary
      = ((result, taken), s')) :
    Leg ch s [.upload path source binary result] 0 0 s' := by
  cases h
  refine ⟨_, rfl, rfl, .single _ _ _, ?_, rfl, rfl⟩
  exact List.forall_mem_singleton.2 ⟨_, rfl, rfl⟩

theorem Leg.start {command : String} {result : Except ChannelFault π}
    (h : s.start ch.watched command = (result, s')) :
    Leg ch s [.start command result] 0 0 s' := by
  cases h
  refine ⟨_, rfl, rfl, .single _ _ _, ?_, rfl, rfl⟩
  exact List.forall_mem_singleton.2 ⟨_, rfl, rfl⟩

theorem Leg.wait {process : π} {result : Except ChannelFault Int}
    (h : s.wait ch.watched process = (result, s')) :
    Leg ch s [.wait process result] 0 0 s' := by
  cases h
  refine ⟨_, rfl, rfl, .single _ _ _, ?_, rfl, rfl⟩
  exact List.forall_mem_singleton.2 ⟨_, rfl, rfl⟩

/-- A helper upload fails only with the channel's fault, under the
helper's path. -/
theorem Leg.uploadHelper (ch : Channel σ π)
    (s : State (σ × List (Exchange π)) τ) (path text : String) :
    ∃ answer : Except ChannelFault Unit,
      (uploadHelper ch.watched s path text).1
        = answer.mapError (.upload path) ∧
      Leg ch s [.upload path (.ofText text) false answer] 0 0
        (uploadHelper ch.watched s path text).2 := by
  rcases hupload : s.upload ch.watched path (.ofText text) false
    with ⟨⟨answer, taken⟩, s'⟩
  rw [Run.uploadHelper, hupload]
  exact ⟨answer, rfl, .upload hupload⟩

end Run

end RemoteProvision
