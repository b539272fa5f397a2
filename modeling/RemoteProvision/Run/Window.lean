/-
Trying for a limited time.

An attempt is made at once and repeated, with a pause between, until one
succeeds or one fails after the deadline.  The deadline is reckoned from
the moment the window opens; it is looked at only after a failure, so
the first attempt is always made and a late success still counts.  The
error of the last attempt is kept in the error of the window.

Nothing bounds the number of attempts if the clock stands still, so the
number that are looked at is a parameter, and the answer may be that all
of them failed in time.

A clock shows moments up to a last one only.  A deadline behind that is
no moment of the clock, and reckoning it breaks the window off before
anything is tried (`Window.runWithin`).  No timeout of a configuration
is that long, so runs leave the last moment out (`Window.run`).
-/
import RemoteProvision.Run.State

namespace RemoteProvision.Run

-- ========================================================== window

/-- How long attempts are made, and the pause between them. -/
structure Window where
  timeout : Duration
  delay : Duration

/-- How a window ended. -/
inductive Tried (α : Type) where
  | succeeded (value : α)
  | gaveUp (error : ProvisionError)
  /-- All attempts that were looked at failed before the deadline. -/
  | undecided

/-- A clock inside a larger state. -/
structure Timed (ω : Type) where
  read : ω → Nat × ω
  pause : Duration → ω → ω

namespace Window

variable {α ω : Type}

/-- Makes at most `limit` attempts up to a deadline. -/
def attempts (w : Window) (timed : Timed ω)
    (attempt : ω → Except ProvisionError α × ω) (deadline : Nat) :
    Nat → ω → Tried α × ω
  | 0, world => (.undecided, world)
  | limit + 1, world =>
    match attempt world with
    | (.ok value, world) => (.succeeded value, world)
    | (.error e, world) =>
      let (now, world) := timed.read world
      if deadline ≤ now then
        (.gaveUp (.retriesExhausted w.timeout e), world)
      else
        w.attempts timed attempt deadline limit
          (timed.pause w.delay world)

/-- Opens a window and makes at most `limit` attempts; the clock shows
any moment. -/
def run (w : Window) (timed : Timed ω)
    (attempt : ω → Except ProvisionError α × ω) (limit : Nat)
    (world : ω) : Tried α × ω :=
  let (opened, world) := timed.read world
  w.attempts timed attempt (opened + w.timeout.nanos) limit world

/-- Opens a window on a clock whose last moment is `horizon`.  Without a
moment for the deadline nothing is tried, and there is no answer. -/
def runWithin (w : Window) (horizon : Nat) (timed : Timed ω)
    (attempt : ω → Except ProvisionError α × ω) (limit : Nat)
    (world : ω) : Option (Tried α) × ω :=
  let (opened, world) := timed.read world
  if opened + w.timeout.nanos ≤ horizon then
    (w.attempts timed attempt (opened + w.timeout.nanos) limit
      world).map some id
  else (none, world)

/-- A limit that a window does not reach under a clock that goes on by a
step whenever it is read: each attempt but the last takes a pause and a
step of the timeout. -/
def mostAttempts (w : Window) (step : Nat) : Nat :=
  w.timeout.nanos / (w.delay.nanos + step) + 2

end Window

-- ==================================================== clock of a run

/-- The clock of a run; pauses are noted in the journal. -/
def Clock.timed {σ τ : Type} (clock : Clock τ) : Timed (State σ τ) where
  read s := ((clock.read s.time).1, { s with time := (clock.read s.time).2 })
  pause span s := { s with time := clock.pause span s.time }.note (.pause span)

end RemoteProvision.Run
