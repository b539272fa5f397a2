/-
Cutting a text into tokens.

The cut goes from left to right and remembers three things.  The first
is the indentation: outside brackets, a token further right than the
block it is in begins a deeper block, and one further left ends blocks.
The second is how deep it is in brackets, where indentation means
nothing.  The third is where a key may have begun: that something was a
key is known only when the colon behind it is found, and its token is
then put in before it.

A key without a mark of its own must stand on one line and be short; one
that stands where its block requires a key must be followed by a colon.
-/
import RemoteProvision.Yaml.Block
import RemoteProvision.Yaml.Plain
import RemoteProvision.Yaml.Property
import RemoteProvision.Yaml.Quotes

namespace RemoteProvision.Yaml

-- =========================================================== types

/-- Where a key may have begun. -/
structure KeyStart where
  /-- Whether its block allows nothing but a key there. -/
  required : Bool
  /-- How many tokens stand before it. -/
  position : Nat
  place : Cursor

/-- The state of a cut. -/
structure Cut where
  place : Cursor
  tokens : Array Token
  /-- The column of the innermost block; -1 outside of all. -/
  indent : Int
  /-- The columns of the blocks around it. -/
  outer : List Int
  /-- Whether a key may begin here. -/
  keyAllowed : Bool
  /-- The possible key of this level of brackets. -/
  possible : Option KeyStart
  /-- The possible keys of the levels around it. -/
  around : List (Option KeyStart)

namespace Cut

/-- The beginning of a cut. -/
def start (text : String) : Cut :=
  ⟨.start text, #[], -1, [], true, none, []⟩

/-- Whether brackets are open. -/
def inFlow (s : Cut) : Bool := !s.around.isEmpty

-- ========================================================== tokens

/-- One more token, at a place. -/
def push (s : Cut) (kind : TokenKind) (at' : Cursor) : Cut :=
  { s with tokens := s.tokens.push ⟨kind, at'.line, at'.column⟩ }

/-- Puts a token in before others. -/
def insert (s : Cut) (position : Nat) (kind : TokenKind)
    (at' : Cursor) : Cut :=
  let before := s.tokens.extract 0 position
  let behind := s.tokens.extract position s.tokens.size
  { s with tokens := before.push ⟨kind, at'.line, at'.column⟩ ++ behind }

/-- A token of `count` characters. -/
def mark (s : Cut) (kind : TokenKind) (count : Nat) : Cut :=
  { s.push kind s.place with place := s.place.skip count }

-- ==================================================== possible keys

/-- The fault of a required key without its colon. -/
def missingColon {α : Type} (k : KeyStart) : Except Fault α :=
  k.place.fault "could not find expected ':'"

/-- Gives up the possible key of this level. -/
def dropKey (s : Cut) : Except Fault Cut :=
  match s.possible with
  | some k =>
    if k.required then missingColon k
    else .ok { s with possible := none }
  | none => .ok s

/-- Takes note that a key may begin here. -/
def noteKey (s : Cut) : Except Fault Cut :=
  if s.keyAllowed then do
    let s ← s.dropKey
    let required := !s.inFlow && s.indent == s.place.column
    return { s with
      possible := some ⟨required, s.tokens.size, s.place⟩ }
  else .ok s

/-- How many bytes a key may span. -/
def keyLimit : Nat := 1024

/-- Gives up a key that spans too much. -/
def refreshKey (here : Cursor) :
    Option KeyStart → Except Fault (Option KeyStart)
  | none => .ok none
  | some k =>
    if k.place.line < here.line ∨ k.place.index + keyLimit < here.index
    then if k.required then missingColon k else .ok none
    else .ok (some k)

/-- Gives up all keys that span too much. -/
def refresh (s : Cut) : Except Fault Cut := do
  let around ← s.around.reverse.mapM (refreshKey s.place)
  let possible ← refreshKey s.place s.possible
  return { s with possible := possible, around := around.reverse }

-- ===================================================== indentation

/-- Begins a block at a column if it is deeper; its token goes before
those of a key, or at the end. -/
def deepen (s : Cut) (column : Nat) (position : Option Nat)
    (kind : TokenKind) (at' : Cursor) : Cut :=
  if s.inFlow || column ≤ s.indent then s
  else
    let s :=
      { s with outer := s.indent :: s.outer, indent := (column : Int) }
    s.insert (position.getD s.tokens.size) kind at'

/-- Ends the blocks that are deeper than a column. -/
def endBlocks (column : Int) : List Int → Cut → Cut
  | [], s => s
  | next :: rest, s =>
    if column < s.indent then
      endBlocks column rest
        { s.push .blockEnd s.place with indent := next, outer := rest }
    else s

/-- Ends blocks, unless brackets are open. -/
def undent (s : Cut) (column : Int) : Cut :=
  if s.inFlow then s else endBlocks column s.outer s

-- ===================================================== blank space

/-- Goes behind blanks, comments and line ends. -/
def skipBlank : Nat → Cut → Cut
  | 0, s => s
  | fuel + 1, s =>
    let c :=
      if s.place.column = 0 then s.place.skipIf '\ufeff' else s.place
    let tabs := s.inFlow || !s.keyAllowed
    let c := (c.skipWhile fun ch => ch == ' ' || (tabs && ch == '\t'))
    let c := c.skipComment
    if c.here.any isBreak then
      skipBlank fuel
        { s with
          place := c.skipBreak
          keyAllowed := s.keyAllowed || !s.inFlow }
    else { s with place := c }

-- ================================================== kinds of tokens

/-- The end of the text. -/
def takeEnd (s : Cut) : Except Fault Cut := do
  let s ← (s.undent (-1)).dropKey
  return { s.push .streamEnd s.place with keyAllowed := false }

/-- A directive. -/
def takeDirective (s : Cut) : Except Fault Cut := do
  let s ← (s.undent (-1)).dropKey
  let (kind, behind) ← Property.directive s.place
  return { s.push kind s.place with
    place := behind, keyAllowed := false }

/-- The marker of a document's start or end. -/
def takeMarker (s : Cut) (kind : TokenKind) : Except Fault Cut := do
  let s ← (s.undent (-1)).dropKey
  return { s.mark kind 3 with keyAllowed := false }

/-- An opening bracket. -/
def openFlow (s : Cut) (kind : TokenKind) : Except Fault Cut := do
  let s ← s.noteKey
  return { s.mark kind 1 with
    keyAllowed := true
    possible := none
    around := s.possible :: s.around }

/-- A closing bracket. -/
def closeFlow (s : Cut) (kind : TokenKind) : Except Fault Cut := do
  let s ← s.dropKey
  let s := { s.mark kind 1 with keyAllowed := false }
  match s.around with
  | [] => return s
  | k :: rest => return { s with possible := k, around := rest }

/-- A comma between brackets. -/
def takeComma (s : Cut) : Except Fault Cut := do
  let s ← s.dropKey
  return { s.mark .flowEntry 1 with keyAllowed := true }

/-- The dash of an entry. -/
def takeDash (s : Cut) : Except Fault Cut := do
  if !s.inFlow && !s.keyAllowed then
    s.place.fault
      "block sequence entries are not allowed in this context"
  let s := s.deepen s.place.column none .blockSequenceStart s.place
  let s ← s.dropKey
  return { s.mark .blockEntry 1 with keyAllowed := true }

/-- The mark of a key. -/
def takeKey (s : Cut) : Except Fault Cut := do
  if !s.inFlow && !s.keyAllowed then
    s.place.fault "mapping keys are not allowed in this context"
  let s := s.deepen s.place.column none .blockMappingStart s.place
  let s ← s.dropKey
  return { s.mark .key 1 with keyAllowed := !s.inFlow }

/-- The colon behind a key. -/
def takeColon (s : Cut) : Except Fault Cut :=
  match s.possible with
  | some k =>
    let s := s.insert k.position .key k.place
    let s := s.deepen k.place.column (some k.position)
      .blockMappingStart k.place
    .ok { s.mark .value 1 with possible := none, keyAllowed := false }
  | none => do
    if !s.inFlow && !s.keyAllowed then
      s.place.fault "mapping values are not allowed in this context"
    let s := s.deepen s.place.column none .blockMappingStart s.place
    return { s.mark .value 1 with keyAllowed := !s.inFlow }

/-- An anchor or an alias. -/
def takeAnchor (s : Cut) (kind : String → TokenKind) :
    Except Fault Cut := do
  let s ← s.noteKey
  let (name, behind) ← Property.anchorName s.place
  return { s.push (kind name) s.place with
    place := behind, keyAllowed := false }

/-- A tag. -/
def takeTag (s : Cut) : Except Fault Cut := do
  let s ← s.noteKey
  let (kind, behind) ← Property.tag s.inFlow s.place
  return { s.push kind s.place with
    place := behind, keyAllowed := false }

/-- A block scalar. -/
def takeBlock (s : Cut) (literal : Bool) : Except Fault Cut := do
  let s ← s.dropKey
  let (text, behind) ← Block.read literal s.indent (s.place.skip 1)
  let style := if literal then Style.literal else Style.folded
  return { s.push (.scalar style text) s.place with
    place := behind, keyAllowed := true }

/-- A quoted scalar. -/
def takeQuoted (s : Cut) (single : Bool) : Except Fault Cut := do
  let s ← s.noteKey
  let (text, behind) ← Quotes.read single s.place
  let style := if single then Style.singleQuoted else Style.doubleQuoted
  return { s.push (.scalar style text) s.place with
    place := behind, keyAllowed := false }

/-- A plain scalar; behind its last line a key may begin. -/
def takePlain (s : Cut) : Except Fault Cut := do
  let s ← s.noteKey
  let (text, behind, broken) ←
    Plain.read s.inFlow (s.indent + 1).toNat s.place
  return { s.push (.scalar .plain text) s.place with
    place := behind, keyAllowed := broken }

-- ======================================================= next token

/-- The characters that begin no plain scalar. -/
def isIndicator (c : Char) : Bool :=
  ['-', '?', ':', ',', '[', ']', '\x7b', '\x7d', '#', '&', '*', '!',
    '|', '>', '\x27', '\x22', '%', '@', '\x60'].contains c

/-- Whether a plain scalar begins with a character, given the one behind
it. -/
def beginsPlain (inFlow : Bool) (ch : Char) (behind : Option Char) :
    Bool :=
  !(endsWord (some ch) || isIndicator ch)
    || (ch == '-' && !behind.any isGap)
    || (!inFlow && (ch == '?' || ch == ':') && !endsWord behind)

/-- Takes the token that begins with a character. -/
def takeAt (s : Cut) (ch : Char) : Except Fault Cut :=
  let alone := endsWord (s.place.ahead 1)
  if s.place.column == 0 && ch == '%' then s.takeDirective
  else if s.place.seesMarker '-' then s.takeMarker .documentStart
  else if s.place.seesMarker '.' then s.takeMarker .documentEnd
  else if ch == '[' then s.openFlow .flowSequenceStart
  else if ch == '\x7b' then s.openFlow .flowMappingStart
  else if ch == ']' then s.closeFlow .flowSequenceEnd
  else if ch == '\x7d' then s.closeFlow .flowMappingEnd
  else if ch == ',' then s.takeComma
  else if ch == '-' && alone then s.takeDash
  else if ch == '?' && (s.inFlow || alone) then s.takeKey
  else if ch == ':' && (s.inFlow || alone) then s.takeColon
  else if ch == '*' then s.takeAnchor .aliasOf
  else if ch == '&' then s.takeAnchor .anchor
  else if ch == '!' then s.takeTag
  else if ch == '|' && !s.inFlow then s.takeBlock true
  else if ch == '>' && !s.inFlow then s.takeBlock false
  else if ch == '\x27' then s.takeQuoted true
  else if ch == '\x22' then s.takeQuoted false
  else if beginsPlain s.inFlow ch (s.place.ahead 1) then s.takePlain
  else
    s.place.fault "found character that cannot start any token"

/-- Takes tokens up to the end of the text; every round takes at least a
character. -/
def run : Nat → Cut → Except Fault (Array Token)
  | 0, s => s.place.fault "found a text that does not end"
  | fuel + 1, s => do
    let s := skipBlank (s.place.rest.length + 1) s
    let s ← s.refresh
    let s := s.undent s.place.column
    match s.place.here with
    | none => return (← s.takeEnd).tokens
    | some ch => run fuel (← s.takeAt ch)

end Cut

-- ========================================================= all tokens

/-- The tokens of a text. -/
def tokens (text : String) : Except Fault (Array Token) :=
  if text.toList.all isAllowed then
    Cut.run (text.toList.length + 1) (.start text)
  else .error ⟨"control characters are not allowed", 1, 1⟩

end RemoteProvision.Yaml
