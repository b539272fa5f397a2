/-
Durations as text.

A duration is written as terms one after the other, each a number and a
unit: `1h30m`, `90s`, `1.5h`.  A number has digits and at most one point;
the units are `ns`, `us` or `µs`, `ms`, `s`, `m` and `h`.  A `+` may
stand in front, blanks may stand around, and a lone `0` needs no unit.

The terms are added up as binary magnitudes from left to right and the
total is rounded to a whole number of nanoseconds, so a total of few
digits is exact and a huge one is as close as 53 bits come.  A total past
the largest timeout is out of range.
-/
import RemoteProvision.Duration.Basic
import RemoteProvision.Duration.Binary
import RemoteProvision.Text.Blank

namespace RemoteProvision.Duration

-- ========================================================== faults

/-- Why a text is no duration. -/
inductive Fault where
  | empty
  | negative
  /-- A term does not begin with a number; the text from there on. -/
  | expectedNumber (rest : String)
  | invalidNumber (number : String)
  | missingUnit (number : String)
  | unknownUnit (unit : String)
  | outOfRange
deriving DecidableEq

/-- The text of a fault. -/
def Fault.message : Fault → String
  | .empty => "empty duration"
  | .negative => "duration must not be negative"
  | .expectedNumber rest => "expected a number at '" ++ rest ++ "'"
  | .invalidNumber number => "invalid number '" ++ number ++ "'"
  | .missingUnit number => "missing unit after '" ++ number ++ "'"
  | .unknownUnit unit => "unknown unit '" ++ unit ++ "'"
  | .outOfRange => "duration out of range"

-- =========================================================== terms

/-- A number and the nanoseconds of its unit.  The number is `digits`
with the last `places` of them behind the point. -/
structure Term where
  digits : Nat
  places : Nat
  unitNanos : Nat
deriving DecidableEq

/-- Digits and points: what a number is made of. -/
def isNumeric (c : Char) : Bool :=
  c.isDigit || c == '.'

/-- The value of decimal digits. -/
def digitsValue (cs : List Char) : Nat :=
  cs.foldl (fun n c => n * 10 + (c.toNat - 48)) 0

/-- The digits of a number and how many stand behind its point; more
than one point makes no number. -/
def numberOf? (cs : List Char) : Option (Nat × Nat) :=
  let whole := cs.takeWhile (· ≠ '.')
  match cs.dropWhile (· ≠ '.') with
  | [] => some (digitsValue whole, 0)
  | _ :: places =>
    if places.contains '.' then none
    else some (digitsValue (whole ++ places), places.length)

/-- The nanoseconds of a unit. -/
def unitNanos? (unit : String) : Option Nat :=
  if unit = "ns" then some 1
  else if unit = "us" ∨ unit = "µs" then some 1000
  else if unit = "ms" then some 1000000
  else if unit = "s" then some 1000000000
  else if unit = "m" then some 60000000000
  else if unit = "h" then some 3600000000000
  else none

/-- The first term of a text and the text behind it. -/
def firstTerm (cs : List Char) : Except Fault (Term × List Char) :=
  let number := cs.takeWhile isNumeric
  let tail := cs.dropWhile isNumeric
  let unit := tail.takeWhile fun c => !isNumeric c
  let rest := tail.dropWhile fun c => !isNumeric c
  if number = [] ∨ number = ['.'] then
    .error (.expectedNumber (String.ofList cs))
  else
    match numberOf? number with
    | none => .error (.invalidNumber (String.ofList number))
    | some (digits, places) =>
      if unit = [] then
        .error (.missingUnit (String.ofList number))
      else
        match unitNanos? (String.ofList unit) with
        | none => .error (.unknownUnit (String.ofList unit))
        | some nanos => .ok (⟨digits, places, nanos⟩, rest)

private theorem length_dropWhile_le (p : Char → Bool)
    (cs : List Char) : (cs.dropWhile p).length ≤ cs.length :=
  (List.dropWhile_sublist p).length_le

/-- A term takes something away. -/
theorem firstTerm_length {cs rest : List Char} {t : Term}
    (h : firstTerm cs = .ok (t, rest)) : rest.length < cs.length := by
  unfold firstTerm at h
  simp only at h
  split at h
  · simp at h
  · next hnum =>
    split at h
    · simp at h
    · split at h
      · simp at h
      · split at h
        · simp at h
        · simp only [Except.ok.injEq, Prod.mk.injEq] at h
          obtain ⟨-, rfl⟩ := h
          have h1 := length_dropWhile_le (fun c => !isNumeric c)
            (cs.dropWhile isNumeric)
          have h2 := congrArg List.length
            (List.takeWhile_append_dropWhile (p := isNumeric) (l := cs))
          have h3 : (cs.takeWhile isNumeric).length ≠ 0 := by
            intro h0
            exact hnum (Or.inl (List.eq_nil_of_length_eq_zero h0))
          simp only [List.length_append] at h2
          omega

/-- All terms of a text. -/
def terms (cs : List Char) : Except Fault (List Term) :=
  if cs.isEmpty then .ok []
  else
    match _h : firstTerm cs with
    | .error fault => .error fault
    | .ok (t, rest) => (terms rest).map (t :: ·)
termination_by cs.length
decreasing_by exact firstTerm_length _h

-- =========================================================== total

/-- What a term adds. -/
def Term.magnitude (t : Term) : Magnitude :=
  (Magnitude.ofQuotient t.digits (Nat.pow 10 t.places)).scale t.unitNanos

/-- The sum of terms, from left to right. -/
def total (ts : List Term) : Magnitude :=
  ts.foldl (fun sum t => sum.add t.magnitude) .zero

/-- A magnitude as a duration, unless it is out of range. -/
def ofMagnitude : Magnitude → Except Fault Duration
  | .infinite => .error .outOfRange
  | .finite units =>
    if one <<< 64 < units then .error .outOfRange
    else .ok ⟨min (Magnitude.rounded units) largest⟩

-- ========================================================= reading

/-- The text behind a leading `+`. -/
def dropPlus : List Char → List Char
  | '+' :: rest => rest
  | cs => cs

/-- Reads a duration. -/
def read (text : String) : Except Fault Duration :=
  match Text.trim text.toList with
  | [] => .error .empty
  | ['0'] => .ok ⟨0⟩
  | '-' :: _ => .error .negative
  | cs => do ofMagnitude (total (← terms (dropPlus cs)))

end RemoteProvision.Duration
