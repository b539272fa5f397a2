/-
Anchors, tags and directives.

An anchor names a node and an alias repeats it.  A tag says what type a
node has; its handle stands for a longer text that a directive may set.
Directives stand at the very beginning of a line, before a document.
-/
import RemoteProvision.Yaml.Token

namespace RemoteProvision.Yaml.Property

-- ========================================================= anchors

/-- The characters that may follow an anchor directly. -/
def endsAnchor : Option Char → Bool
  | none => true
  | some c =>
    endsWord (some c) || c == '?' || c == ':' || c == ',' || c == ']'
      || c == '\x7d' || c == '%' || c == '@' || c == '\x60'

/-- Takes the name of an anchor or alias, the cursor standing at its
mark. -/
def anchorName (c : Cursor) : Except Fault (String × Cursor) :=
  let (name, c') := (c.skip 1).span isWordChar
  if name = [] || !endsAnchor c'.here then
    c'.fault "did not find expected alphabetic or numeric character"
  else .ok (String.ofList name, c')

-- ============================================================ tags

/-- The value of a hexadecimal digit. -/
def digit? (c : Char) : Option Nat :=
  if c.isDigit then some (c.toNat - 48)
  else if 'a' ≤ c && c ≤ 'f' then some (c.toNat - 87)
  else if 'A' ≤ c && c ≤ 'F' then some (c.toNat - 55)
  else none

/-- Takes one escaped byte. -/
def escapedByte (c : Cursor) : Except Fault (Nat × Cursor) :=
  match c.here, (c.ahead 1).bind digit?, (c.ahead 2).bind digit? with
  | some '%', some high, some low => .ok (high * 16 + low, c.skip 3)
  | _, _, _ => c.fault "did not find URI escaped octet"

/-- Takes the further bytes of an escaped character. -/
def escapedTail : Nat → Cursor → Except Fault Cursor
  | 0, c => .ok c
  | count + 1, c => do
    let (byte, c') ← escapedByte c
    if byte / 64 != 2 then
      c.fault "found an incorrect trailing UTF-8 octet"
    escapedTail count c'

/-- Takes an escaped character.  One of several bytes is kept as a
replacement, since no tag with a meaning holds any. -/
def escapedChar (c : Cursor) : Except Fault (Char × Cursor) := do
  let (byte, c') ← escapedByte c
  if byte < 0x80 then return (Char.ofNat byte, c')
  let count :=
    if byte / 32 == 6 then some 1
    else if byte / 16 == 14 then some 2
    else if byte / 8 == 30 then some 3
    else none
  match count with
  | none => c.fault "found an incorrect leading UTF-8 octet"
  | some n => return (Text.replacement, ← escapedTail n c')

/-- The characters of a tag; more are allowed where its end is marked. -/
def isTagChar (marked : Bool) (c : Char) : Bool :=
  isWordChar c
    || [';', '/', '?', ':', '@', '&', '=', '+', '$', '.', '%', '!',
        '~', '*', '\x27', '(', ')'].contains c
    || (marked && (c == ',' || c == '[' || c == ']'))

/-- Takes the characters of a tag. -/
def tagChars (marked : Bool) :
    Nat → String → Cursor → Except Fault (String × Cursor)
  | 0, text, c => .ok (text, c)
  | fuel + 1, text, c =>
    match c.here with
    | none => .ok (text, c)
    | some ch =>
      if !isTagChar marked ch then .ok (text, c)
      else if ch = '%' then
        match escapedChar c with
        | .error f => .error f
        | .ok (e, c') => tagChars marked fuel (text.push e) c'
      else tagChars marked fuel (text.push ch) (c.skip 1)

/-- Takes the rest of a tag behind a head that was taken already. -/
def tagText (marked : Bool) (head : List Char) (c : Cursor) :
    Except Fault (String × Cursor) := do
  let (text, c') ←
    tagChars marked (c.rest.length + 1) (String.ofList head.tail) c
  if head = [] && text.isEmpty then
    c.fault "did not find expected tag URI"
  return (text, c')

/-- Takes what looks like a handle, with its exclamation marks. -/
def handleText (c : Cursor) : Except Fault (List Char × Cursor) :=
  if !c.sees '!' then c.fault "did not find expected '!'"
  else
    let (name, c') := (c.skip 1).span isWordChar
    if c'.sees '!' then .ok ('!' :: name ++ ['!'], c'.skip 1)
    else .ok ('!' :: name, c')

/-- Whether a text is a handle with a name, or the short one. -/
def isHandle (cs : List Char) : Bool :=
  1 < cs.length && cs.getLast? == some '!'

/-- Takes a tag, as its handle and suffix. -/
def tag (inFlow : Bool) (c : Cursor) :
    Except Fault (TokenKind × Cursor) := do
  let (handle, suffix, behind) ← do
    if c.ahead 1 == some '<' then
      let (suffix, c') ← tagText true [] (c.skip 2)
      if !c'.sees '>' then c'.fault "did not find the expected '>'"
      pure ("", suffix, c'.skip 1)
    else
      let (head, c') ← handleText c
      if isHandle head then
        let (suffix, c'') ← tagText false [] c'
        pure (String.ofList head, suffix, c'')
      else
        let (suffix, c'') ← tagText false head c'
        if suffix.isEmpty then pure ("", "!", c'')
        else pure ("!", suffix, c'')
  if !(inFlow && behind.sees ',') && !endsWord behind.here then
    behind.fault "did not find expected whitespace or line break"
  return (.tag handle suffix, behind)

-- ====================================================== directives

/-- Takes a number of a version. -/
def versionNumber (c : Cursor) : Except Fault (Nat × Cursor) :=
  let (digits, c') := c.span Char.isDigit
  if digits = [] then c.fault "did not find expected version number"
  else if 9 < digits.length then
    c.fault "found extremely long version number"
  else .ok (digits.foldl (fun n d => n * 10 + (d.toNat - 48)) 0, c')

/-- Takes the value of a version directive. -/
def version (c : Cursor) : Except Fault (TokenKind × Cursor) := do
  let (major, c) ← versionNumber (c.skipWhile isGap)
  if !c.sees '.' then
    c.fault "did not find expected digit or '.' character"
  let (minor, c) ← versionNumber (c.skip 1)
  return (.versionDirective major minor, c)

/-- Takes the value of a tag directive. -/
def handle (c : Cursor) : Except Fault (TokenKind × Cursor) := do
  let (name, c) ← handleText (c.skipWhile isGap)
  if !isHandle name && name != ['!'] then
    c.fault "did not find expected '!'"
  if !c.here.any isGap then c.fault "did not find expected whitespace"
  let (stem, c) ← tagText true [] (c.skipWhile isGap)
  if !endsWord c.here then
    c.fault "did not find expected whitespace or line break"
  return (.tagDirective (String.ofList name) stem, c)

/-- Takes a directive and the rest of its line. -/
def directive (c : Cursor) : Except Fault (TokenKind × Cursor) := do
  let (name, behind) := (c.skip 1).span isWordChar
  if name = [] then c.fault "could not find expected directive name"
  if !endsWord behind.here then
    behind.fault "found unexpected non-alphabetical character"
  let (kind, behind) ←
    if name = "YAML".toList then version behind
    else if name = "TAG".toList then handle behind
    else c.fault "found unknown directive name"
  let behind := (behind.skipWhile isGap).skipComment
  if !endsLine behind.here then
    behind.fault "did not find expected comment or line break"
  return (kind, behind.skipBreak)

end RemoteProvision.Yaml.Property
