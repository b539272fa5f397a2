/-
Binary magnitudes of 53 significant bits.

The amounts in a duration text are added up in the binary format with 53
significant bits and a least unit of 2^-1074.  Every finite magnitude is
a whole number of least units, so it is kept as that number and all
arithmetic is on natural numbers: the exact result of an operation is a
quotient, and one rounding brings it back to 53 bits, ties to the even
neighbour.  What rounds to 2^1024 or beyond is infinite.

Whole numbers of at most 53 bits are magnitudes themselves, so sums and
products of them that stay that small are exact.
-/

namespace RemoteProvision.Duration

-- ======================================================== rounding

/-- The nearest whole number to a quotient, a tie going to the even
one. -/
def roundQuotient (num den : Nat) : Nat :=
  let q := num / den
  let twice := 2 * (num % den)
  if twice < den then q
  else if den < twice then q + 1
  else if q % 2 = 0 then q
  else q + 1

/-- How many binary digits a number has. -/
def bitLength (n : Nat) : Nat :=
  if n = 0 then 0 else Nat.log2 n + 1

/-- How many least units make one. -/
def one : Nat := 1 <<< 1074

/-- A nonnegative binary magnitude. -/
inductive Magnitude where
  | finite (units : Nat)
  | infinite
deriving DecidableEq

/-- The nearest magnitude to a quotient counted in least units. -/
def Magnitude.nearest (num den : Nat) : Magnitude :=
  let spare := 1 <<< (bitLength (num / den) - 53)
  let units := roundQuotient num (den * spare) * spare
  if units < one <<< 1024 then .finite units else .infinite

-- ====================================================== arithmetic

namespace Magnitude

def zero : Magnitude := .finite 0

/-- The nearest magnitude to `num / den`. -/
def ofQuotient (num den : Nat) : Magnitude :=
  nearest (num * one) den

/-- A magnitude times a whole number that is a magnitude itself. -/
def scale (m : Magnitude) (factor : Nat) : Magnitude :=
  match m with
  | .infinite => .infinite
  | .finite units => nearest (units * factor) 1

def add (m n : Magnitude) : Magnitude :=
  match m, n with
  | .finite a, .finite b => nearest (a + b) 1
  | _, _ => .infinite

/-- The nearest whole number, a half going up. -/
def rounded (units : Nat) : Nat :=
  (2 * units + one) / (2 * one)

end Magnitude

end RemoteProvision.Duration
