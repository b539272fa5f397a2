/-
Watched channels.

The journal of a run says what the run did, in the words of the run.
What its channel heard is another matter: which process a wait was for,
and what the local files were at each call.  So a channel can be
watched.  A watched channel does what the channel does and keeps a log
of its calls, each with the local files before and behind it.

Watching changes nothing (`provision_unwatched`): a watched channel and
the channel answer alike, so with the log left out, a run over the one is
the run over the other.  Whatever is then proved of logs is proved of
what channels hear.
-/
import RemoteProvision.Proofs.Run.Twins

namespace RemoteProvision

-- ============================================================= logs

/-- What was asked of a channel, and how it ended. -/
inductive Asked (π : Type) where
  | upload (path : String) (source : Source) (binary : Bool)
      (result : Except ChannelFault Unit)
  | start (command : String) (result : Except ChannelFault π)
  | wait (process : π) (result : Except ChannelFault Int)

/-- Whether a call started a process. -/
def Asked.started {π : Type} : Asked π → Bool
  | .start _ (.ok _) => true
  | _ => false

/-- Whether a call is a wait. -/
def Asked.waits {π : Type} : Asked π → Bool
  | .wait _ _ => true
  | _ => false

/-- One call to a channel, with the local files before and behind it. -/
structure Exchange (π : Type) where
  before : Disk
  call : Asked π
  behind : Disk

variable {σ σ' τ π : Type}

/-- A channel that keeps a log of its calls. -/
def Channel.watched (ch : Channel σ π) :
    Channel (σ × List (Exchange π)) π where
  upload w disk path source binary :=
    let done := ch.upload w.1 disk path source binary
    { result := done.result
      taken := done.taken
      state := (done.state, w.2 ++
        [⟨disk, .upload path source binary done.result, done.disk⟩])
      disk := done.disk }
  start w disk command :=
    let done := ch.start w.1 disk command
    { result := done.result
      state := (done.state, w.2 ++
        [⟨disk, .start command done.result, done.disk⟩])
      disk := done.disk }
  wait w disk process :=
    let done := ch.wait w.1 disk process
    { result := done.result
      output := done.output
      state := (done.state, w.2 ++
        [⟨disk, .wait process done.result, done.disk⟩])
      disk := done.disk }

namespace Run

-- =========================================================== states

/-- A state with another state of its channel. -/
def State.onChannel (f : σ → σ') (s : State σ τ) : State σ' τ :=
  ⟨f s.channel, s.disk, s.time, s.ids, s.addresses, s.journal⟩

/-- A state whose channel is watched from now on. -/
def State.watched (s : State σ τ) :
    State (σ × List (Exchange π)) τ :=
  s.onChannel fun c => (c, [])

/-- A state whose channel is no longer watched. -/
def State.unwatched (s : State (σ × List (Exchange π)) τ) :
    State σ τ :=
  s.onChannel Prod.fst

/-- What a watched channel heard so far. -/
def State.log (s : State (σ × List (Exchange π)) τ) :
    List (Exchange π) :=
  s.channel.2

-- ================================================ watching is silent

variable (ch : Channel σ π) (clock : Clock τ)

/-- An answer whose state is no longer watched. -/
abbrev unwatch {α : Type}
    (done : α × State (σ × List (Exchange π)) τ) : α × State σ τ :=
  Prod.map id State.unwatched done

/-- A watched channel does what the channel does. -/
theorem watched_twins :
    ch.watched.Twins ch Eq fun w c => w.1 = c where
  own _ := rfl
  upload := by
    rintro w _ source _ disk path binary rfl rfl
    exact ⟨rfl, rfl, rfl⟩
  start := by
    rintro w _ disk command rfl
    exact ⟨rfl, rfl, rfl⟩
  wait := by
    rintro w _ disk process rfl
    exact ⟨rfl, rfl, rfl, rfl⟩

/-- A watched state and the state without its log. -/
theorem alike_unwatched (s : State (σ × List (Exchange π)) τ) :
    s.Alike (fun w c => w.1 = c) Eq s.unwatched :=
  ⟨rfl, rfl, rfl, rfl, rfl, List.forall₂_same.2 fun _ _ => rfl⟩

/-- What goes the same way ends in the same state, with the log left
out. -/
theorem eq_unwatch {α : Type}
    {done : α × State (σ × List (Exchange π)) τ} {done' : α × State σ τ}
    (h : Agree (State.Alike (fun w c => w.1 = c) Eq) done done') :
    done' = unwatch done := by
  obtain ⟨answer, s, ⟨c, disk, time, ids, addresses, journal⟩, rfl, rfl,
    hchannel, hdisk, htime, hids, haddresses, hjournal⟩ := h.split
  cases hchannel
  cases hdisk
  cases htime
  cases hids
  cases haddresses
  rw [List.forall₂_eq_eq_eq] at hjournal
  cases hjournal
  rfl

/-- Credentials are exchangeable with themselves. -/
theorem exchangeable_self (elevated : Option Credentials) :
    Option.Rel (Exchangeable Eq Eq) elevated elevated := by
  cases elevated with
  | none => exact .none
  | some credentials => exact .some ⟨fun _ _ => rfl, fun _ _ _ _ => rfl⟩

/-- Rendering over a watched channel, with the log left out. -/
theorem renderCommand_unwatched (settings : Settings)
    (s : State (σ × List (Exchange π)) τ) :
    renderCommand ch settings s.unwatched
      = unwatch (renderCommand ch.watched settings s) :=
  eq_unwatch (renderCommand_agree (watched_twins ch) (fun _ => rfl)
    (exchangeable_self settings.elevated) (alike_unwatched s))

/-- Watching a run changes nothing but the log. -/
theorem provision_unwatched (limit : Nat) (plan : Plan)
    (s : State (σ × List (Exchange π)) τ) :
    provision ch clock limit plan s.unwatched
      = unwatch (provision ch.watched clock limit plan s) :=
  eq_unwatch (provision_agree (watched_twins ch) (fun _ => rfl)
    (exchangeable_self plan.settings.elevated) clock limit
    (alike_unwatched s))

end Run

end RemoteProvision
