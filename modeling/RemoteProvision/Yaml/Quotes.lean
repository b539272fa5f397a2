/-
Quoted scalars.

Between single quotes every character stands for itself, and two single
quotes stand for one.  Between double quotes a backslash begins an
escape: a character by a letter or by its number, or a line end that
does not count.  Line ends are folded in both.
-/
import RemoteProvision.Yaml.Folding

namespace RemoteProvision.Yaml.Quotes

-- ========================================================= escapes

/-- The escapes of one letter. -/
def simpleEscape (c : Char) : Option Char :=
  match c with
  | '0' => some '\x00'
  | 'a' => some '\x07'
  | 'b' => some '\x08'
  | 't' | '\t' => some '\t'
  | 'n' => some '\n'
  | 'v' => some '\x0b'
  | 'f' => some '\x0c'
  | 'r' => some '\r'
  | 'e' => some '\x1b'
  | ' ' => some ' '
  | '\x22' => some '\x22'
  | '/' => some '/'
  | '\x5c' => some '\x5c'
  | 'N' => some '\u0085'
  | '_' => some '\u00a0'
  | 'L' => some '\u2028'
  | 'P' => some '\u2029'
  | _ => none

/-- How many digits an escape by number has. -/
def numberLength (c : Char) : Option Nat :=
  match c with
  | 'x' => some 2
  | 'u' => some 4
  | 'U' => some 8
  | _ => none

/-- The value of a hexadecimal digit. -/
def hexValue? (c : Char) : Option Nat :=
  if c.isDigit then some (c.toNat - 48)
  else if 'a' ≤ c && c ≤ 'f' then some (c.toNat - 87)
  else if 'A' ≤ c && c ≤ 'F' then some (c.toNat - 55)
  else none

/-- The value of hexadecimal digits. -/
def hexNumber? (cs : List Char) : Option Nat :=
  cs.foldl
    (fun n c => n.bind fun v => (hexValue? c).map fun d => v * 16 + d)
    (some 0)

/-- Takes an escape, the cursor standing at its backslash. -/
def escape (c : Cursor) : Except Fault (Char × Cursor) :=
  match c.ahead 1 with
  | none => c.fault "found unknown escape character"
  | some letter =>
    match simpleEscape letter, numberLength letter with
    | some ch, _ => .ok (ch, c.skip 2)
    | none, none => c.fault "found unknown escape character"
    | none, some count =>
      let digits := (c.rest.drop 2).take count
      match hexNumber? digits with
      | none => c.fault "did not find expected hexadecimal number"
      | some n =>
        if digits.length < count then
          c.fault "did not find expected hexadecimal number"
        else if (0xD800 ≤ n && n ≤ 0xDFFF) || 0x10FFFF < n then
          c.fault "found invalid Unicode character escape code"
        else .ok (Char.ofNat n, c.skip (2 + count))

-- ========================================================== bodies

/-- The quote that begins and ends a scalar. -/
def mark (single : Bool) : Char := if single then '\x27' else '\x22'

/-- Takes one word; says whether it ended with an escaped line end. -/
def word (single : Bool) :
    Nat → String → Cursor → Except Fault (String × Cursor × Bool)
  | 0, text, c => .ok (text, c, false)
  | fuel + 1, text, c =>
    match c.here with
    | none => .ok (text, c, false)
    | some ch =>
      if endsWord (some ch) then .ok (text, c, false)
      else if single && ch == '\x27' && c.ahead 1 == some '\x27' then
        word single fuel (text.push ch) (c.skip 2)
      else if ch == mark single then .ok (text, c, false)
      else if !single && ch == '\x5c' then
        if (c.ahead 1).any isBreak then
          .ok (text, (c.skip 1).skipBreak, true)
        else
          match escape c with
          | .error f => .error f
          | .ok (e, c') => word single fuel (text.push e) c'
      else word single fuel (text.push ch) (c.skip 1)

/-- Takes words and gaps up to the closing quote. -/
def words (single : Bool) :
    Nat → String → Cursor → Except Fault (String × Cursor)
  | 0, _, c => c.fault "found unexpected end of stream"
  | fuel + 1, text, c => do
    if c.seesDocumentMarker then
      c.fault "found unexpected document indicator"
    if c.here.isNone then c.fault "found unexpected end of stream"
    let (text, c, broken) ← word single (c.rest.length + 1) text c
    if c.sees (mark single) then return (text, c.skip 1)
    let gap : Gap := { broken := broken }
    let (g, c) ← Gap.read 0 gap c
    words single fuel (text ++ String.ofList g.text) c

/-- Takes a quoted scalar, the cursor standing at its quote. -/
def read (single : Bool) (c : Cursor) : Except Fault (String × Cursor) :=
  words single (c.rest.length + 1) "" (c.skip 1)

end RemoteProvision.Yaml.Quotes
