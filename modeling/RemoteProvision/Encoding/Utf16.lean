/-
UTF-16 units and their little-endian bytes.

A code point below 0x10000 is one unit; any other is a high surrogate
followed by a low one.  Reading refuses a surrogate that has lost its
partner.  A unit travels as two bytes, the low one first.
-/

namespace RemoteProvision.Encoding

-- =========================================================== units

/-- The units of one character. -/
def charUnits (c : Char) : List UInt16 :=
  let n := c.toNat
  if n < 0x10000 then [UInt16.ofNat n]
  else
    [UInt16.ofNat (0xD800 + (n - 0x10000) / 1024),
      UInt16.ofNat (0xDC00 + (n - 0x10000) % 1024)]

/-- The units of a text. -/
def units (cs : List Char) : List UInt16 :=
  cs.flatMap charUnits

/-- The first half of a pair. -/
def isHighSurrogate (u : UInt16) : Bool :=
  0xD800 ≤ u && u ≤ 0xDBFF

/-- The second half of a pair. -/
def isLowSurrogate (u : UInt16) : Bool :=
  0xDC00 ≤ u && u ≤ 0xDFFF

/-- The character that a pair of surrogates stands for. -/
def pairChar (high low : UInt16) : Char :=
  Char.ofNat (0x10000 + (high.toNat - 0xD800) * 1024
    + (low.toNat - 0xDC00))

/-- The text of some units, unless a surrogate stands alone. -/
def ofUnits? : List UInt16 → Option (List Char)
  | [] => some []
  | u :: rest =>
    if isHighSurrogate u then
      match rest with
      | [] => none
      | v :: rest' =>
        if isLowSurrogate v then
          (ofUnits? rest').map (pairChar u v :: ·)
        else none
    else if isLowSurrogate u then none
    else (ofUnits? rest).map (Char.ofNat u.toNat :: ·)

-- =========================================================== bytes

/-- Each unit as two bytes, the low one first. -/
def unitBytes (us : List UInt16) : List UInt8 :=
  us.flatMap fun u =>
    [UInt8.ofNat (u.toNat % 256), UInt8.ofNat (u.toNat / 256)]

/-- The units of whole pairs of bytes; an odd last byte is left out. -/
def ofUnitBytes : List UInt8 → List UInt16
  | low :: high :: rest =>
    UInt16.ofNat (low.toNat + 256 * high.toNat) :: ofUnitBytes rest
  | _ => []

end RemoteProvision.Encoding
