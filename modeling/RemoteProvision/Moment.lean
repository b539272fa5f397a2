/-
Moments as text.

A moment is written as a date, a time of day and the distance from
universal time: `2026-01-01T12:00:00.5+01:00`.  Between date and time
stands a `T` or a space; a `Z` or `UTC` stands for no distance at all.
Blanks may stand around the parts, but not in front of a fraction.

Days that the calendar does not have are refused, and so are moments
before the first and after the last year of the calendar, reckoned in
universal time.  The last minute of an hour may have a second more.
-/
import RemoteProvision.Duration.Reading
import RemoteProvision.Text.Blank

namespace RemoteProvision

-- ======================================================== calendar

/-- A day of the calendar, which may not exist. -/
structure Day where
  year : Int
  month : Nat
  day : Nat
deriving DecidableEq

namespace Day

/-- Whether a year has a day more. -/
def isLeap (year : Int) : Bool :=
  year % 4 == 0 && (year % 100 != 0 || year % 400 == 0)

/-- How many days a month has; none if there is no such month. -/
def monthLength (year : Int) (month : Nat) : Nat :=
  match month with
  | 1 | 3 | 5 | 7 | 8 | 10 | 12 => 31
  | 4 | 6 | 9 | 11 => 30
  | 2 => if isLeap year then 29 else 28
  | _ => 0

/-- The first day of the calendar. -/
def first : Day := ⟨-262143, 1, 1⟩

/-- The last day of the calendar. -/
def last : Day := ⟨262142, 12, 31⟩

/-- Whether the calendar has a day. -/
def isReal (d : Day) : Bool :=
  first.year ≤ d.year && d.year ≤ last.year
    && 1 ≤ d.day && d.day ≤ monthLength d.year d.month

end Day

/-- A moment: what the clock on the wall shows, and how many seconds that
clock is ahead of universal time. -/
structure Moment where
  day : Day
  hour : Nat
  minute : Nat
  second : Nat
  nanos : Nat
  ahead : Int
deriving DecidableEq

namespace Moment

/-- The seconds since midnight; a second too many does not count. -/
def sinceMidnight (m : Moment) : Int :=
  (m.hour * 3600 + m.minute * 60 + min m.second 59 : Nat)

/-- Whether universal time is on a day of the calendar. -/
def isReached (m : Moment) : Bool :=
  let universal := m.sinceMidnight - m.ahead
  !(m.day == Day.first && universal < 0)
    && !(m.day == Day.last && 86400 ≤ universal)

/-- Whether there is such a moment. -/
def isReal (m : Moment) : Bool :=
  m.day.isReal && m.hour ≤ 23 && m.minute ≤ 59 && m.second ≤ 60
    && m.ahead.natAbs < 86400 && m.isReached

-- =========================================================== parts

/-- A number of some digits at most, behind blanks. -/
def readNumber (most : Nat) (cs : List Char) :
    Option (Nat × List Char) :=
  let cs := Text.trimStart cs
  match (cs.take most).takeWhile Char.isDigit with
  | [] => none
  | digits => some (Duration.digitsValue digits, cs.drop digits.length)

/-- A mark between blanks. -/
def readMark (mark : Char) (cs : List Char) : Option (List Char) :=
  match Text.trimStart cs with
  | [] => none
  | c :: rest => if c = mark then some rest else none

/-- A year: four digits at most, or any number of them behind a sign. -/
def readYear (cs : List Char) : Option (Int × List Char) :=
  let all (rest : List Char) : Option (Nat × List Char) :=
    match rest.takeWhile Char.isDigit with
    | [] => none
    | digits => some (Duration.digitsValue digits, rest.dropWhile Char.isDigit)
  match Text.trimStart cs with
  | '-' :: rest => (all rest).map fun (n, behind) => (-(n : Int), behind)
  | '+' :: rest => (all rest).map fun (n, behind) => ((n : Int), behind)
  | cs => (readNumber 4 cs).map fun (n, behind) => ((n : Int), behind)

/-- A date. -/
def readDay (cs : List Char) : Option (Day × List Char) := do
  let (year, cs) ← readYear cs
  let (month, cs) ← readNumber 2 (← readMark '-' cs)
  let (day, cs) ← readNumber 2 (← readMark '-' cs)
  return (⟨year, month, day⟩, cs)

/-- What stands between date and time. -/
def readSeparator : List Char → Option (List Char)
  | 'T' :: rest => some rest
  | 't' :: rest => some rest
  | ' ' :: rest => some rest
  | _ => none

/-- The nanoseconds of a fraction; digits past the ninth do not count. -/
def readFraction : List Char → Option (Nat × List Char)
  | '.' :: rest =>
    match rest.takeWhile Char.isDigit with
    | [] => none
    | digits =>
      let nine := (digits ++ List.replicate 9 '0').take 9
      some (Duration.digitsValue nine, rest.dropWhile Char.isDigit)
  | cs => some (0, cs)

/-- Two digits without blanks in front. -/
def readPair : List Char → Option (Nat × List Char)
  | a :: b :: rest =>
    if a.isDigit && b.isDigit then
      some (Duration.digitsValue [a, b], rest)
    else none
  | _ => none

/-- The distance behind its sign, in seconds. -/
def readDistance (cs : List Char) : Option (Nat × List Char) := do
  let (hours, cs) ← readPair cs
  let (minutes, cs) ←
    readPair (cs.dropWhile fun c => c == ':' || Text.isBlank c)
  if minutes ≤ 59 then return (hours * 3600 + minutes * 60, cs) else none

/-- Whether a character is a given letter, large or small. -/
def isLetter (letter c : Char) : Bool := c.toLower == letter

/-- How far the clock is ahead, and what comes behind. -/
def readAhead : List Char → Option (Int × List Char)
  | 'Z' :: rest => some (0, rest)
  | 'z' :: rest => some (0, rest)
  | '+' :: rest =>
    (readDistance rest).map fun (n, behind) => ((n : Int), behind)
  | '-' :: rest =>
    (readDistance rest).map fun (n, behind) => (-(n : Int), behind)
  | '\u2212' :: rest =>
    (readDistance rest).map fun (n, behind) => (-(n : Int), behind)
  | a :: b :: c :: rest =>
    if isLetter 'u' a && isLetter 't' b && isLetter 'c' c then
      some (0, rest)
    else none
  | _ => none

-- ========================================================= moments

/-- Reads a moment, which may not exist, and what comes behind it. -/
def readParts (cs : List Char) : Option (Moment × List Char) := do
  let (day, cs) ← readDay cs
  let (hour, cs) ← readNumber 2 (← readSeparator cs)
  let (minute, cs) ← readNumber 2 (← readMark ':' cs)
  let (second, cs) ← readNumber 2 (← readMark ':' cs)
  let (nanos, cs) ← readFraction cs
  let (ahead, cs) ← readAhead (Text.trimStart cs)
  return (⟨day, hour, minute, second, nanos, ahead⟩, cs)

/-- Reads a moment. -/
def read? (text : String) : Option Moment := do
  let (moment, behind) ← readParts text.toList
  if moment.isReal ∧ Text.trimStart behind = [] then return moment
  else none

end Moment

end RemoteProvision
