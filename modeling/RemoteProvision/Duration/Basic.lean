/-
Spans of time.

A duration is a whole number of nanoseconds.  Messages show its whole
seconds; the debugging text shows all of it, in the largest of the units
s, ms, µs and ns that keeps the part before the point from being zero,
without trailing zeros.
-/

namespace RemoteProvision

/-- A span of time. -/
structure Duration where
  nanos : Nat
deriving DecidableEq

namespace Duration

def ofSeconds (n : Nat) : Duration := ⟨n * 1000000000⟩

def ofMillis (n : Nat) : Duration := ⟨n * 1000000⟩

/-- The whole seconds. -/
def seconds (d : Duration) : Nat := d.nanos / 1000000000

/-- The largest span that a timeout can have: 64 bits of nanoseconds. -/
def largest : Nat := 18446744073709551615

-- ================================================= debugging text

/-- The digits of a fraction with `places` decimal places, trailing
zeros left out. -/
def fractionDigits : Nat → Nat → List Char
  | 0, _ => []
  | places + 1, n =>
    if n = 0 then []
    else
      let unit := Nat.pow 10 places
      Char.ofNat (48 + n / unit) :: fractionDigits places (n % unit)

/-- A number of nanoseconds in a unit of `10 ^ places` nanoseconds. -/
def decimal (nanos places : Nat) : String :=
  let unit := Nat.pow 10 places
  let whole := toString (nanos / unit)
  match fractionDigits places (nanos % unit) with
  | [] => whole
  | ds => whole ++ "." ++ String.ofList ds

/-- The debugging text of a duration. -/
def debugText (d : Duration) : String :=
  if 1000000000 ≤ d.nanos then decimal d.nanos 9 ++ "s"
  else if 1000000 ≤ d.nanos then decimal d.nanos 6 ++ "ms"
  else if 1000 ≤ d.nanos then decimal d.nanos 3 ++ "µs"
  else decimal d.nanos 0 ++ "ns"

end Duration

end RemoteProvision
