/-
Base64 with the standard alphabet and required, canonical padding.

Three bytes make four symbols.  One or two bytes at the end make two or
three symbols, filled up with `=`; the bits of the last symbol that no
byte needs are zero, and reading insists on that, so every byte list has
exactly one written form.

Reading names the first fault it meets.  The order is fixed: a last
symbol that is alone in its group and no symbol at all comes first, then
the groups from left to right, and the last group is judged as a whole.
Offsets are counted in bytes of the input.
-/

namespace RemoteProvision.Encoding.Base64

-- ======================================================== alphabet

/-- The fill symbol, `=`. -/
def pad : UInt8 := 61

/-- The symbol of a six-bit value, as a byte. -/
def symbol (n : Nat) : UInt8 :=
  if n < 26 then UInt8.ofNat (65 + n)
  else if n < 52 then UInt8.ofNat (97 + (n - 26))
  else if n < 62 then UInt8.ofNat (48 + (n - 52))
  else if n = 62 then 43
  else 47

/-- The six-bit value of a symbol. -/
def value? (b : UInt8) : Option Nat :=
  let n := b.toNat
  if 65 ≤ n ∧ n ≤ 90 then some (n - 65)
  else if 97 ≤ n ∧ n ≤ 122 then some (n - 97 + 26)
  else if 48 ≤ n ∧ n ≤ 57 then some (n - 48 + 52)
  else if n = 43 then some 62
  else if n = 47 then some 63
  else none

-- ========================================================= writing

/-- The written form of some bytes. -/
def encode : List UInt8 → List UInt8
  | [] => []
  | [a] =>
    [symbol (a.toNat / 4), symbol (a.toNat % 4 * 16), pad, pad]
  | [a, b] =>
    [symbol (a.toNat / 4), symbol (a.toNat % 4 * 16 + b.toNat / 16),
      symbol (b.toNat % 16 * 4), pad]
  | a :: b :: c :: rest =>
    symbol (a.toNat / 4) :: symbol (a.toNat % 4 * 16 + b.toNat / 16)
      :: symbol (b.toNat % 16 * 4 + c.toNat / 64)
      :: symbol (c.toNat % 64) :: encode rest

-- ========================================================== faults

/-- Why some input is not base64. -/
inductive Fault where
  /-- A byte that is no symbol, or a `=` where none may stand. -/
  | badSymbol (byte : UInt8) (offset : Nat)
  /-- The last symbol has bits that no byte needs. -/
  | badLastSymbol (byte : UInt8) (offset : Nat)
  /-- The last group has fewer than two symbols. -/
  | badLength (length : Nat)
  /-- The last group is not filled up. -/
  | badPadding
deriving DecidableEq

/-- The text of a fault. -/
def Fault.message : Fault → String
  | .badSymbol byte offset =>
    "Invalid symbol " ++ toString byte.toNat ++ ", offset "
      ++ toString offset ++ "."
  | .badLastSymbol byte offset =>
    "Invalid last symbol " ++ toString byte.toNat ++ ", offset "
      ++ toString offset ++ "."
  | .badLength length => "Invalid input length: " ++ toString length
  | .badPadding => "Invalid padding"

-- ========================================================= reading

/-- The values of symbols that begin at an offset. -/
def values (offset : Nat) : List UInt8 → Except Fault (List Nat)
  | [] => .ok []
  | b :: rest =>
    match value? b with
    | none => .error (.badSymbol b offset)
    | some n => (values (offset + 1) rest).map (n :: ·)

/-- The three bytes of a full group. -/
def groupBytes (a b c d : Nat) : List UInt8 :=
  [UInt8.ofNat (a * 4 + b / 16), UInt8.ofNat (b % 16 * 16 + c / 4),
    UInt8.ofNat (c % 4 * 64 + d)]

/-- The bytes of the symbols of a last group, given its last symbol for
the error.  Fewer than two symbols do not come here. -/
def lastGroupBytes (offset : Nat) (last : UInt8) :
    List Nat → Except Fault (List UInt8)
  | [a, b] =>
    if b % 16 = 0 then .ok [UInt8.ofNat (a * 4 + b / 16)]
    else .error (.badLastSymbol last (offset + 1))
  | [a, b, c] =>
    if c % 4 = 0 then
      .ok [UInt8.ofNat (a * 4 + b / 16),
        UInt8.ofNat (b % 16 * 16 + c / 4)]
    else .error (.badLastSymbol last (offset + 2))
  | [a, b, c, d] => .ok (groupBytes a b c d)
  | _ => .ok []

/-- Reads the last group, of one to four bytes: symbols, then nothing
but fill symbols. -/
def decodeLast (offset : Nat) (group : List UInt8) :
    Except Fault (List UInt8) := do
  let body := group.takeWhile (· != pad)
  let fill := group.dropWhile (· != pad)
  let ds ← values offset body
  if !fill.isEmpty && (body.length < 2 || fill.any (· != pad)) then
    throw (.badSymbol pad (offset + body.length))
  if body.length < 2 then
    throw (.badLength (offset + body.length))
  if group.length != 4 then throw .badPadding
  lastGroupBytes offset (body.getLast?.getD pad) ds

/-- Reads groups from an offset on. -/
def decodeFrom (offset : Nat) :
    List UInt8 → Except Fault (List UInt8)
  | a :: b :: c :: d :: rest =>
    if rest.isEmpty then decodeLast offset [a, b, c, d]
    else do
      match ← values offset [a, b, c, d] with
      | [x, y, z, w] =>
        let bytes ← decodeFrom (offset + 4) rest
        return groupBytes x y z w ++ bytes
      | _ => return []
  | group => decodeLast offset group

/-- The bytes of a written form. -/
def decode (input : List UInt8) : Except Fault (List UInt8) :=
  match input.getLast? with
  | none => .ok []
  | some last =>
    if input.length % 4 = 1 && last != pad
        && (value? last).isNone then
      .error (.badSymbol last (input.length - 1))
    else decodeFrom 0 input

end RemoteProvision.Encoding.Base64
