/-
Names that are unique.

Helper files and scheduled tasks are named by ids.  Ids that count up
are for dry runs and tests.  Time-ordered ids are version 7 UUIDs: the
milliseconds since 1970 come first, so files sort by the time they were
named; a running number in the remaining bits tells ids of the same
millisecond apart.
-/
import RemoteProvision.Feed

namespace RemoteProvision.Ids

-- ==================================================== counted ids

/-- How many values the counter of counted ids has: it has 64 bits, and
behind the last value it begins again at zero. -/
def counterValues : Nat := 18446744073709551616

/-- The ids `stem1`, `stem2`, … -/
def counting (stem : String) : Feed String :=
  Feed.fresh fun n => stem ++ toString ((n + 1) % counterValues)

-- ================================================ time-ordered ids

/-- A hexadecimal digit, in lower case. -/
def hexDigit (n : Nat) : Char :=
  if n < 10 then Char.ofNat (48 + n) else Char.ofNat (87 + n)

/-- The lowest `count` hexadecimal digits of a number. -/
def hexDigits : Nat → Nat → List Char
  | 0, _ => []
  | count + 1, n => hexDigits count (n / 16) ++ [hexDigit (n % 16)]

/-- The text of the version 7 UUID with a time in milliseconds and the
given 74 bits behind it. -/
def uuid7 (millis bits : Nat) : String :=
  String.ofList <|
    hexDigits 8 (millis / 0x10000) ++ '-' :: hexDigits 4 millis
      ++ '-' :: '7' :: hexDigits 3 (bits >>> 62)
      ++ '-' :: hexDigits 4 (0x8000 + (bits >>> 48) % 0x4000)
      ++ '-' :: hexDigits 12 bits

/-- The ids of a host whose clock shows a time when it is first asked;
each id counts as a millisecond later than the one before. -/
def timeOrdered (millis : Nat) : Feed String :=
  Feed.fresh fun n => uuid7 (millis + n) (n * 0x9E3779B97F4A7C15)

-- ============================================= recognising a UUID

/-- Whether a character is a hexadecimal digit. -/
def isHex (c : Char) : Bool :=
  c.isDigit || ('a' ≤ c && c ≤ 'f') || ('A' ≤ c && c ≤ 'F')

/-- Whether a text has the form of a version 7 UUID. -/
def isUuid7 (text : String) : Bool :=
  let cs := text.toList
  cs.length == 36
    && (List.range 36).all fun i =>
      match cs[i]? with
      | none => false
      | some c =>
        if i == 8 || i == 13 || i == 18 || i == 23 then c == '-'
        else if i == 14 then c == '7'
        else if i == 19 then
          c == '8' || c == '9' || c == 'a' || c == 'b'
            || c == 'A' || c == 'B'
        else isHex c

end RemoteProvision.Ids
