/-
Fields.

Expanding a word gives a row of glyphs: characters, each of which may be
quoted and may be a place where the word is split; marks, where quotes
stood, perhaps around nothing; and gaps, the borders between two
parameters.  A row is split into fields at its gaps and at the separators
in it.

A separator that is a blank never makes an empty field, and blanks around
another separator go with it.
-/

namespace RemoteProvision.Shell

-- =========================================================== types

/-- A part of an expanded word. -/
inductive Glyph where
  /-- A character; `splits` if a separator here ends a field. -/
  | char (c : Char) (quoted splits : Bool)
  | mark
  | gap (quoted : Bool)
deriving DecidableEq

/-- The text of some glyphs. -/
def glyphText (gs : List Glyph) : String :=
  String.ofList (gs.filterMap fun
    | .char c _ _ => some c
    | _ => none)

/-- Some glyphs as a pattern, in which quoted characters match only
themselves. -/
def glyphPattern (gs : List Glyph) : String :=
  String.ofList (gs.flatMap fun
    | .char c quoted _ => if quoted then ['\x5c', c] else [c]
    | _ => [])

/-- The glyphs of a text. -/
def glyphsOf (text : String) (quoted splits : Bool) : List Glyph :=
  text.toList.map fun c => .char c quoted splits

/-- The usual separators, all of which are blanks. -/
def usualSeparators : List Char := [' ', '\t', '\n']

-- ======================================================= splitting

/-- What has been split so far. -/
structure Split where
  /-- Finished fields, last first. -/
  finished : List (List Glyph) := []
  /-- The field that is open, last glyph first. -/
  opened : List Glyph := []
  /-- Whether a blank has just ended a field. -/
  gapBefore : Bool := false
  /-- How many fields may follow; no limit if nothing. -/
  room : Option Nat := none
  /-- The open field up to where the separators at its end begin. -/
  cut : Option (List Glyph) := none

/-- One more glyph that belongs to a field. -/
def Split.push (s : Split) (g : Glyph) : Split :=
  { s with opened := g :: s.opened, gapBefore := false, cut := none }

/-- Ends the open field, or cuts it here if it is the last there may
be. -/
def Split.close (s : Split) (g : Glyph) (blank : Bool) : Split :=
  match s.room with
  | some 1 =>
    { s with
      room := some 0
      cut := some s.opened
      opened := g :: s.opened
      gapBefore := blank }
  | room =>
    { s with
      finished := s.opened.reverse :: s.finished
      opened := []
      gapBefore := blank
      room := room.map (· - 1) }

/-- A separator. -/
def Split.separate (s : Split) (g : Glyph) (blank : Bool) : Split :=
  if s.room = some 0 then
    if blank then
      { s with
        opened := g :: s.opened
        cut := s.cut.orElse fun () => some s.opened }
    else
      { s with
        opened := g :: s.opened
        cut := if s.gapBefore then s.cut else none
        gapBefore := false }
  else if s.gapBefore then
    { s with opened := [], gapBefore := blank }
  else if s.opened.isEmpty && blank then s
  else s.close g blank

/-- One more glyph. -/
def Split.add (separators : List Char) (s : Split) (g : Glyph) : Split :=
  match g with
  | .char c _ true =>
    if separators.contains c then
      s.separate g (usualSeparators.contains c)
    else s.push g
  | .gap false => s.separate g true
  | .gap true =>
    { s with
      finished := s.opened.reverse :: s.finished
      opened := []
      gapBefore := false }
  | _ => s.push g

/-- The fields of some glyphs, perhaps not more than so many. -/
def splitFields (separators : List Char) (most : Option Nat)
    (gs : List Glyph) : List (List Glyph) :=
  let s := gs.foldl (Split.add separators) { room := most }
  let last := s.cut.getD s.opened
  let endsInGap := gs.getLast? == some (.gap true)
  if last.isEmpty && !endsInGap then s.finished.reverse
  else (last.reverse :: s.finished).reverse

-- ======================================================== trimming

/-- Drops the line feeds at the end. -/
def dropFinalBreaks (s : String) : String :=
  String.ofList (s.toList.reverse.dropWhile (· == '\n')).reverse

end RemoteProvision.Shell
