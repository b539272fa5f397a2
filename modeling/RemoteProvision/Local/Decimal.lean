/-
Numbers with a point.

A number is read as an exact quotient, and rounded to the binary format
that a program computes in.  It is then written in decimal: with as many
digits behind its point as are wanted, or with one digit in front of the
point and a power of ten behind the digits, or in the shorter of the two
ways.  What is written is the nearest such number, a tie going to the
even digit, so all the arithmetic is on natural numbers.
-/
import RemoteProvision.Duration.Binary

namespace RemoteProvision.Local.Decimal

open RemoteProvision.Duration (bitLength roundQuotient)

-- =========================================================== types

/-- The size of a number. -/
inductive Size where
  | quotient (num den : Nat)
  | infinite
  | undefined

/-- A number and its sign. -/
structure Number where
  negative : Bool
  size : Size

/-- A binary format: how many significant bits it has, and the power of
two where its numbers end. -/
structure Format where
  bits : Nat
  top : Nat

/-- The format of common computation, and a wider one. -/
def Format.common : Format := ⟨53, 1024⟩
def Format.wide : Format := ⟨64, 16384⟩

/-- A power of a base. -/
def power (base : Nat) : Nat → Nat
  | 0 => 1
  | n + 1 => base * power base n

-- ======================================================== rounding

/-- A quotient in a binary format, and whether it is beyond the range of
the format. -/
def Format.round (f : Format) (num den : Nat) : Size × Bool :=
  let least := f.top + f.bits
  let scaled := num <<< least
  let length := bitLength (scaled / den)
  let lowest := least + 3 - f.top - f.bits
  let spare := max (length - f.bits) lowest
  let unit := 1 <<< spare
  let units := roundQuotient scaled (den * unit)
  let isInfinite := f.top < bitLength (units * unit) - least
  let isTiny := length < least + 3 - f.top
  let isExact := units * unit * den == scaled
  if isInfinite then (.infinite, true)
  else (.quotient (units * unit) (1 <<< least), isTiny && !isExact)

-- ========================================================= reading

/-- How far exponents are followed. -/
def exponentLimit : Nat := 30000

/-- Takes digits of a base; their value, how many there were, and the
rest. -/
def digits (value? : Char → Option Nat) (base : Nat) :
    Nat → Nat → List Char → Nat × Nat × List Char
  | value, taken, [] => (value, taken, [])
  | value, taken, c :: rest =>
    match value? c with
    | some d => digits value? base (value * base + d) (taken + 1) rest
    | none => (value, taken, c :: rest)

/-- The value of a decimal digit. -/
def decimal? (c : Char) : Option Nat :=
  if c.isDigit then some (c.toNat - 48) else none

/-- The value of a digit of base sixteen. -/
def hex? (c : Char) : Option Nat :=
  if c.isDigit then some (c.toNat - 48)
  else if 'a' ≤ c && c ≤ 'f' then some (c.toNat - 87)
  else if 'A' ≤ c && c ≤ 'F' then some (c.toNat - 55)
  else none

/-- A power behind one of two letters, if there is one. -/
def exponent (small large : Char) (cs : List Char) : Int × List Char :=
  match cs with
  | c :: rest =>
    if c = small || c = large then
      let (negative, body) :=
        match rest with
        | '-' :: body => (true, body)
        | '+' :: body => (false, body)
        | _ => (false, rest)
      let (value, taken, behind) := digits decimal? 10 0 0 body
      let value : Int := (min value exponentLimit : Nat)
      if taken = 0 then (0, cs)
      else (if negative then -value else value, behind)
    else (0, cs)
  | [] => (0, [])

/-- Digits with a point among them, and a power behind them; nothing if
there is no digit. -/
def positional (value? : Char → Option Nat) (base : Nat)
    (small large : Char) (powerBase placeWeight : Nat)
    (cs : List Char) : Option (Nat × Nat × List Char) :=
  let (whole, before, behind) := digits value? base 0 0 cs
  let (value, after, behind) :=
    match behind with
    | '.' :: rest => digits value? base whole 0 rest
    | _ => (whole, 0, behind)
  let behind :=
    if before + after = 0 then cs else behind
  if before + after = 0 then none
  else
    let (shift, behind) := exponent small large behind
    let shift := shift - (after * placeWeight : Nat)
    if 0 ≤ shift then
      some (value * power powerBase shift.toNat, 1, behind)
    else some (value, power powerBase (-shift).toNat, behind)

/-- Whether a text begins with small letters, in either case; the rest. -/
def behindWord (word : String) (cs : List Char) : Option (List Char) :=
  let front := cs.take word.length
  if front.map Char.toLower = word.toList then some (cs.drop word.length)
  else none

/-- The number that a text begins with, and the rest; nothing if it
begins with none. -/
def read (text : List Char) : Option (Number × List Char) :=
  let isBlank (c : Char) : Bool :=
    c == ' ' || (9 ≤ c.toNat && c.toNat ≤ 13)
  let (negative, body) :=
    match text.dropWhile isBlank with
    | '-' :: rest => (true, rest)
    | '+' :: rest => (false, rest)
    | cs => (false, cs)
  let sized (found : Option (Nat × Nat × List Char)) :
      Option (Number × List Char) :=
    found.map fun q => (⟨negative, .quotient q.1 q.2.1⟩, q.2.2)
  let plain := sized (positional decimal? 10 'e' 'E' 10 1 body)
  match body with
  | '0' :: x :: rest =>
    if x = 'x' || x = 'X' then
      (sized (positional hex? 16 'p' 'P' 2 4 rest)).or plain
    else plain
  | _ =>
    match behindWord "infinity" body, behindWord "inf" body,
        behindWord "nan" body with
    | some rest, _, _ => some (⟨negative, .infinite⟩, rest)
    | _, some rest, _ => some (⟨negative, .infinite⟩, rest)
    | _, _, some rest => some (⟨negative, .undefined⟩, rest)
    | _, _, _ => plain

-- ========================================================= writing

/-- How a number is written. -/
inductive Style where
  /-- With digits behind a point. -/
  | fixed
  /-- With a power of ten. -/
  | scientific
  /-- In the shorter way. -/
  | general
deriving DecidableEq

/-- The digits of a whole number, at least some of them. -/
def atLeast (count n : Nat) : List Char :=
  let ds := Nat.toDigits 10 n
  List.replicate (count - ds.length) '0' ++ ds

/-- A point between digits, unless there is none behind it. -/
def withPoint (keeps : Bool) (places : Nat) (ds : List Char) :
    List Char :=
  let front := ds.take (ds.length - places)
  let back := ds.drop (ds.length - places)
  if back.isEmpty && !keeps then front else front ++ '.' :: back

/-- A quotient with digits behind its point. -/
def fixed (keeps : Bool) (places num den : Nat) : List Char :=
  withPoint keeps places
    (atLeast (places + 1) (roundQuotient (num * power 10 places) den))

/-- The power of ten that the first digit of a quotient stands for; the
quotient is not zero. -/
def firstPower (num den : Nat) : Int :=
  if den ≤ num then ((Nat.toDigits 10 (num / den)).length - 1 : Nat)
  else
    let parts := (den + num - 1) / num
    Int.negOfNat (Nat.toDigits 10 (parts - 1)).length

/-- The first digits of a quotient that is not zero, as one number, and
the power of ten of the first of them. -/
def leading (places num den : Nat) : Nat × Int :=
  let e := firstPower num den
  let shift : Int := (places : Nat) - e
  let n :=
    if 0 ≤ shift then roundQuotient (num * power 10 shift.toNat) den
    else roundQuotient num (den * power 10 (-shift).toNat)
  if power 10 (places + 1) ≤ n then (n / 10, e + 1) else (n, e)

/-- A power of ten as it is written. -/
def exponentText (e : Int) : List Char :=
  'e' :: (if e < 0 then '-' else '+') :: atLeast 2 e.natAbs

/-- A quotient with one digit in front of its point. -/
def scientific (keeps : Bool) (places num den : Nat) : List Char :=
  let (n, e) := if num = 0 then (0, 0) else leading places num den
  withPoint keeps places (atLeast (places + 1) n) ++ exponentText e

/-- Digits without the zeros that end them. -/
def withoutZeros (cs : List Char) : List Char :=
  if cs.contains '.' then
    let bare := (cs.reverse.dropWhile (· == '0')).reverse
    if bare.getLast? = some '.' then bare.dropLast else bare
  else cs

/-- A quotient in the shorter way, with a number of digits. -/
def general (keeps : Bool) (count num den : Nat) : List Char :=
  let count := max count 1
  let (n, e) := if num = 0 then (0, 0) else leading (count - 1) num den
  let trimmed (cs : List Char) : List Char :=
    if keeps then cs else withoutZeros cs
  if -4 ≤ e && e < count then
    trimmed (fixed keeps ((count : Int) - 1 - e).toNat num den)
  else
    trimmed (withPoint keeps (count - 1) (atLeast count n))
      ++ exponentText e

/-- A size as it is written. -/
def Size.text (keeps : Bool) (style : Style) (precision : Option Nat) :
    Size → List Char
  | .infinite => ['i', 'n', 'f']
  | .undefined => ['n', 'a', 'n']
  | .quotient num den =>
    let places := precision.getD 6
    match style with
    | .fixed => fixed keeps places num den
    | .scientific => scientific keeps places num den
    | .general => general keeps places num den

end RemoteProvision.Local.Decimal
