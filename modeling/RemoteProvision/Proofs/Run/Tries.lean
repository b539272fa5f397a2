/-
The tries of a window.

`Window.attempts` is a loop with three exits.  Here it is taken apart
once: first a row of failed tries (`FailedTries`), each with a reading
of the clock that is still before the deadline and a pause behind it,
and then one of three ends (`Window.Ends`).  What a row of tries does to
a state is then an induction on the row, and no proof has to open the
loop again.

The loop sees its state only through the attempt and the clock.  So two
loops end alike if both of these agree on related states
(`Window.run_agree`).
-/
import RemoteProvision.Run.Window

namespace RemoteProvision.Run

variable {α ω ω' : Type}

-- =================================================== a row of tries

/-- Failed tries one behind the other, with their errors in order.
Behind each the clock was still before the deadline. -/
inductive FailedTries (w : Window) (timed : Timed ω)
    (attempt : ω → Except ProvisionError α × ω) (deadline : Nat) :
    ω → List ProvisionError → ω → Prop
  | none {world : ω} :
      FailedTries w timed attempt deadline world [] world
  | more {world failed read last : ω} {e : ProvisionError}
      {errors : List ProvisionError} {now : Nat} :
      attempt world = (.error e, failed) →
      timed.read failed = (now, read) →
      now < deadline →
      FailedTries w timed attempt deadline (timed.pause w.delay read)
        errors last →
      FailedTries w timed attempt deadline world (e :: errors) last

/-- How a window ends behind a number of failed tries: with a try that
succeeds, with one that fails when the time is over, or because no more
tries are looked at. -/
def Window.Ends (w : Window) (timed : Timed ω)
    (attempt : ω → Except ProvisionError α × ω)
    (deadline limit count : Nat) (world : ω) : Tried α → ω → Prop
  | .succeeded value, last =>
    count < limit ∧ attempt world = (.ok value, last)
  | .gaveUp error, last =>
    count < limit ∧ ∃ e failed now,
      attempt world = (.error e, failed) ∧
      timed.read failed = (now, last) ∧ deadline ≤ now ∧
      error = .retriesExhausted w.timeout e
  | .undecided, last => count = limit ∧ last = world

section Steps

variable {w : Window} {timed : Timed ω}
  {attempt : ω → Except ProvisionError α × ω} {deadline limit : Nat}
  {world failed read : ω}

/-- A try that succeeds ends the loop. -/
theorem Window.attempts_ok {value : α}
    (h : attempt world = (.ok value, failed)) :
    w.attempts timed attempt deadline (limit + 1) world
      = (.succeeded value, failed) := by
  simp [Window.attempts, h]

/-- So does one that fails when the time is over. -/
theorem Window.attempts_late {e : ProvisionError} {now : Nat}
    (h : attempt world = (.error e, failed))
    (hread : timed.read failed = (now, read)) (hnow : deadline ≤ now) :
    w.attempts timed attempt deadline (limit + 1) world
      = (.gaveUp (.retriesExhausted w.timeout e), read) := by
  simp [Window.attempts, h, hread, hnow]

/-- Behind one that fails in time comes a pause and the next. -/
theorem Window.attempts_again {e : ProvisionError} {now : Nat}
    (h : attempt world = (.error e, failed))
    (hread : timed.read failed = (now, read)) (hnow : now < deadline) :
    w.attempts timed attempt deadline (limit + 1) world
      = w.attempts timed attempt deadline limit
          (timed.pause w.delay read) := by
  simp [Window.attempts, h, hread, Nat.not_le.2 hnow]

end Steps

/-- One more try may be looked at when one more was made. -/
theorem Window.Ends.succ {w : Window} {timed : Timed ω}
    {attempt : ω → Except ProvisionError α × ω}
    {deadline limit count : Nat} {world last : ω} {tried : Tried α}
    (h : w.Ends timed attempt deadline limit count world tried last) :
    w.Ends timed attempt deadline (limit + 1) (count + 1) world tried
      last := by
  cases tried with
  | succeeded value => exact ⟨Nat.succ_lt_succ h.1, h.2⟩
  | gaveUp error => exact ⟨Nat.succ_lt_succ h.1, h.2⟩
  | undecided => exact ⟨congrArg Nat.succ h.1, h.2⟩

/-- The loop is a row of failed tries and an end. -/
theorem Window.attempts_ends (w : Window) (timed : Timed ω)
    (attempt : ω → Except ProvisionError α × ω) (deadline limit : Nat)
    (world : ω) :
    ∃ errors mid,
      FailedTries w timed attempt deadline world errors mid ∧
      w.Ends timed attempt deadline limit errors.length mid
        (w.attempts timed attempt deadline limit world).1
        (w.attempts timed attempt deadline limit world).2 := by
  induction limit generalizing world with
  | zero => exact ⟨[], world, .none, rfl, rfl⟩
  | succ limit ih =>
      rcases hattempt : attempt world with ⟨result, failed⟩
      cases result with
      | ok value =>
          rw [Window.attempts_ok hattempt]
          exact ⟨[], world, .none, Nat.succ_pos _, hattempt⟩
      | error e =>
          rcases hread : timed.read failed with ⟨now, read⟩
          by_cases hnow : deadline ≤ now
          · rw [Window.attempts_late hattempt hread hnow]
            exact ⟨[], world, .none, Nat.succ_pos _, e, failed, now,
              hattempt, hread, hnow, rfl⟩
          · have hnow : now < deadline := Nat.lt_of_not_le hnow
            rw [Window.attempts_again hattempt hread hnow]
            obtain ⟨errors, mid, hrow, hends⟩ :=
              ih (timed.pause w.delay read)
            exact ⟨e :: errors, mid, .more hattempt hread hnow hrow,
              hends.succ⟩

/-- The same for a window that is opened by a reading of the clock. -/
theorem Window.run_ends (w : Window) (timed : Timed ω)
    (attempt : ω → Except ProvisionError α × ω) (limit : Nat)
    (world : ω) :
    ∃ errors mid,
      FailedTries w timed attempt
        ((timed.read world).1 + w.timeout.nanos) (timed.read world).2
        errors mid ∧
      w.Ends timed attempt ((timed.read world).1 + w.timeout.nanos)
        limit errors.length mid (w.run timed attempt limit world).1
        (w.run timed attempt limit world).2 :=
  w.attempts_ends timed attempt _ limit _

/-- A loop that was decided goes the same way when more tries may be
looked at. -/
theorem Window.attempts_more {w : Window} {timed : Timed ω}
    {attempt : ω → Except ProvisionError α × ω}
    {deadline limit limit' : Nat} {world : ω} (hle : limit ≤ limit')
    (h : (w.attempts timed attempt deadline limit world).1
      ≠ .undecided) :
    w.attempts timed attempt deadline limit' world
      = w.attempts timed attempt deadline limit world := by
  induction limit generalizing limit' world with
  | zero => exact absurd rfl h
  | succ limit ih =>
      obtain ⟨more, rfl⟩ := Nat.exists_eq_add_of_le' hle
      rw [show more + (limit + 1) = (more + limit) + 1 from rfl]
      rcases hattempt : attempt world with ⟨result, failed⟩
      cases result with
      | ok value => rw [attempts_ok hattempt, attempts_ok hattempt]
      | error e =>
          rcases hread : timed.read failed with ⟨now, read⟩
          by_cases hnow : deadline ≤ now
          · rw [attempts_late hattempt hread hnow,
              attempts_late hattempt hread hnow]
          · have hnow : now < deadline := Nat.lt_of_not_le hnow
            rw [attempts_again hattempt hread hnow] at h
            rw [attempts_again hattempt hread hnow,
              attempts_again hattempt hread hnow]
            exact ih (Nat.le_add_left _ _) h

-- ============================================ from state to state

/-- Two answers that are the same, with states that are related. -/
def Agree (R : ω → ω' → Prop) (done : α × ω) (done' : α × ω') : Prop :=
  done.1 = done'.1 ∧ R done.2 done'.2

theorem Agree.split {R : ω → ω' → Prop} {done : α × ω} {done' : α × ω'}
    (h : Agree R done done') :
    ∃ answer x y, done = (answer, x) ∧ done' = (answer, y) ∧ R x y := by
  obtain ⟨answer, x⟩ := done
  obtain ⟨answer', y⟩ := done'
  obtain ⟨rfl, hstates⟩ := h
  exact ⟨answer, x, y, rfl, rfl, hstates⟩

/-- Answers that are the same are used alike. -/
theorem Agree.map {ε β : Type} {R : ω → ω' → Prop}
    {done : Except ε α × ω} {done' : Except ε α × ω'}
    (h : Agree R done done') (f : α → β) :
    Agree R (done.1.map f, done.2) (done'.1.map f, done'.2) :=
  ⟨congrArg (Except.map f) h.1, h.2⟩

variable {timed : Timed ω} {timed' : Timed ω'}
  {attempt : ω → Except ProvisionError α × ω}
  {attempt' : ω' → Except ProvisionError α × ω'}
  {R : ω → ω' → Prop} {x : ω} {y : ω'}

/-- Two loops end alike if their attempts and their clocks agree on
related states. -/
theorem Window.attempts_agree (w : Window) (deadline limit : Nat)
    (hattempt : ∀ x y, R x y → Agree R (attempt x) (attempt' y))
    (hread : ∀ x y, R x y → Agree R (timed.read x) (timed'.read y))
    (hpause : ∀ span x y, R x y →
      R (timed.pause span x) (timed'.pause span y)) (h : R x y) :
    Agree R (w.attempts timed attempt deadline limit x)
      (w.attempts timed' attempt' deadline limit y) := by
  induction limit generalizing x y with
  | zero => exact ⟨rfl, h⟩
  | succ limit ih =>
      obtain ⟨result, failed, failed', htry, htry', hfailed⟩ :=
        (hattempt x y h).split
      cases result with
      | ok value =>
          rw [attempts_ok htry, attempts_ok htry']
          exact ⟨rfl, hfailed⟩
      | error e =>
          obtain ⟨now, read, read', hreading, hreading', hclock⟩ :=
            (hread failed failed' hfailed).split
          by_cases hlate : deadline ≤ now
          · rw [attempts_late htry hreading hlate,
              attempts_late htry' hreading' hlate]
            exact ⟨rfl, hclock⟩
          · have hlate : now < deadline := Nat.lt_of_not_le hlate
            rw [attempts_again htry hreading hlate,
              attempts_again htry' hreading' hlate]
            exact ih (hpause _ _ _ hclock)

/-- The same for windows that are opened. -/
theorem Window.run_agree (w : Window) (limit : Nat)
    (hattempt : ∀ x y, R x y → Agree R (attempt x) (attempt' y))
    (hread : ∀ x y, R x y → Agree R (timed.read x) (timed'.read y))
    (hpause : ∀ span x y, R x y →
      R (timed.pause span x) (timed'.pause span y)) (h : R x y) :
    Agree R (w.run timed attempt limit x)
      (w.run timed' attempt' limit y) := by
  obtain ⟨opened, world, world', hreading, hreading', hclock⟩ :=
    (hread x y h).split
  simp only [Window.run, hreading, hreading']
  exact w.attempts_agree _ limit hattempt hread hpause hclock

end RemoteProvision.Run
