/-
Gaps inside scalars.

A scalar may go on over several lines.  Between two of its words stands a
gap: spaces and tabs on one line, or line ends with whatever blanks stand
around them.  A gap without a line end is kept as it is.  Of one with
line ends, a single one becomes a space, and of several the first is
dropped.
-/
import RemoteProvision.Yaml.Cursor

namespace RemoteProvision.Yaml

/-- What stands between two words of a scalar. -/
structure Gap where
  /-- The blanks before any line end. -/
  blanks : List Char := []
  /-- Whether there was a line end. -/
  broken : Bool := false
  /-- The first line end, if it counts. -/
  first : List Char := []
  /-- The line ends behind it. -/
  more : List Char := []

namespace Gap

/-- Line ends as they are folded. -/
def foldBreaks (first more : List Char) : List Char :=
  if first = ['\n'] then (if more = [] then [' '] else more)
  else first ++ more

/-- What a gap contributes to a scalar. -/
def text (g : Gap) : List Char :=
  if g.broken then foldBreaks g.first g.more else g.blanks

/-- Takes blanks and line ends.  Behind a line end, no tab may stand
before the column that the scalar has to keep. -/
def take (margin : Nat) : Nat → Gap → Cursor → Except Fault (Gap × Cursor)
  | 0, g, c => .ok (g, c)
  | fuel + 1, g, c =>
    match c.here with
    | none => .ok (g, c)
    | some ch =>
      if isGap ch then
        if g.broken && c.column < margin && ch == '\t' then
          c.fault "found a tab character that violates indentation"
        else if g.broken then take margin fuel g (c.skip 1)
        else
          take margin fuel { g with blanks := g.blanks ++ [ch] }
            (c.skip 1)
      else if isBreak ch then
        let (ends, c') := c.takeBreak
        if g.broken then
          take margin fuel { g with more := g.more ++ ends } c'
        else
          take margin fuel
            { blanks := [], broken := true, first := ends, more := [] } c'
      else .ok (g, c)

/-- Takes the gap at a cursor. -/
def read (margin : Nat) (g : Gap) (c : Cursor) :
    Except Fault (Gap × Cursor) :=
  take margin (c.rest.length + 1) g c

end Gap

end RemoteProvision.Yaml
