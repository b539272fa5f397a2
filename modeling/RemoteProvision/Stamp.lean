/-
Stamps.

A stamp is a moment of universal time, as a clock gives it: there is such
a moment, and its clock is not ahead.  It is written in one way, with a
`T` between date and time of day and a `Z` behind them.

A year has four digits.  One before 0 or after 9999 has a sign in front,
and more digits if it needs them.  A fraction has three, six or nine
digits, as few as say all of it, and is left out where there is nothing
to say.
-/
import RemoteProvision.Moment

namespace RemoteProvision

/-- A moment of universal time. -/
structure Stamp where
  moment : Moment
  real : moment.isReal = true
  universal : moment.ahead = 0
  nanos_lt : moment.nanos < 1000000000
deriving DecidableEq

namespace Stamp

/-- A moment as a stamp, if it is one. -/
def of? (moment : Moment) : Option Stamp :=
  if h : moment.isReal = true ∧ moment.ahead = 0
      ∧ moment.nanos < 1000000000 then
    some ⟨moment, h.1, h.2.1, h.2.2⟩
  else none

-- ========================================================= writing

/-- The digits of a number, with zeros in front if there are fewer than
asked for. -/
def digits (least n : Nat) : List Char :=
  (Nat.toDigits 10 n).leftpad least '0'

/-- A year. -/
def yearText (year : Int) : List Char :=
  if 0 ≤ year ∧ year ≤ 9999 then digits 4 year.natAbs
  else (if year < 0 then '-' else '+') :: digits 4 year.natAbs

/-- A fraction, with its point. -/
def fractionText (nanos : Nat) : List Char :=
  if nanos = 0 then []
  else if nanos % 1000000 = 0 then '.' :: digits 3 (nanos / 1000000)
  else if nanos % 1000 = 0 then '.' :: digits 6 (nanos / 1000)
  else '.' :: digits 9 nanos

/-- A stamp as text. -/
def text (stamp : Stamp) : String :=
  let m := stamp.moment
  String.ofList <|
    yearText m.day.year ++ '-' :: digits 2 m.day.month
      ++ '-' :: digits 2 m.day.day
      ++ 'T' :: digits 2 m.hour ++ ':' :: digits 2 m.minute
      ++ ':' :: digits 2 m.second ++ fractionText m.nanos ++ ['Z']

end Stamp

end RemoteProvision
