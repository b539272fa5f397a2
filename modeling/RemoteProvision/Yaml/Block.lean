/-
Block scalars.

A block scalar is text below its header, indented deeper than what it
belongs to.  The header may fix the indentation and says what becomes of
the line ends at the end: one is kept, or none, or all.  A literal block
keeps its line ends; a folded one joins lines as a plain scalar does,
except around lines that begin with a blank.
-/
import RemoteProvision.Yaml.Cursor

namespace RemoteProvision.Yaml.Block

-- ========================================================== header

/-- What becomes of the line ends at the end. -/
inductive Chomp where
  | strip
  | clip
  | keep
deriving DecidableEq

/-- A header: its chomping, and its indentation if it is fixed. -/
structure Header where
  chomp : Chomp
  depth : Option Nat

/-- The chomping that a character asks for. -/
def chompOf? (c : Char) : Option Chomp :=
  if c = '+' then some .keep else if c = '-' then some .strip else none

/-- Takes the sign of the chomping, if there is one. -/
def takeChomp (c : Cursor) : Option Chomp × Cursor :=
  match c.here.bind chompOf? with
  | some chomp => (some chomp, c.skip 1)
  | none => (none, c)

/-- Takes the digit of the indentation, if there is one. -/
def takeDepth (c : Cursor) : Except Fault (Option Nat × Cursor) :=
  match c.here with
  | some ch =>
    if ch = '0' then
      c.fault "found an indentation indicator equal to 0"
    else if ch.isDigit then .ok (some (ch.toNat - 48), c.skip 1)
    else .ok (none, c)
  | none => .ok (none, c)

/-- Takes a header with the rest of its line. -/
def takeHeader (c : Cursor) : Except Fault (Header × Cursor) := do
  let (early, c) := takeChomp c
  let (depth, c) ← takeDepth c
  let (late, c) :=
    if early.isNone && depth.isSome then takeChomp c else (none, c)
  let c := (c.skipWhile isGap).skipComment
  if !endsLine c.here then
    c.fault "did not find expected comment or line break"
  return (⟨(early.or late).getD .clip, depth⟩, c.skipBreak)

-- ===================================================== indentation

/-- Empty lines before a line with text: their ends, the deepest column
that was reached, and the cursor. -/
structure Lead where
  breaks : List Char
  deepest : Nat
  cursor : Cursor

/-- Takes indentation and empty lines.  An indentation of zero is not
known yet. -/
def takeLead (depth : Nat) : Nat → Lead → Except Fault Lead
  | 0, l => .ok l
  | fuel + 1, l => do
    let inside (column : Nat) := depth == 0 || column < depth
    let room :=
      if depth == 0 then l.cursor.rest.length
      else depth - l.cursor.column
    let spaces :=
      ((l.cursor.rest.take room).takeWhile (· == ' ')).length
    let c := l.cursor.skip spaces
    let deepest := max l.deepest c.column
    if inside c.column && c.sees '\t' then
      c.fault
        "found a tab character where an indentation space is expected"
    if c.here.any isBreak then
      let (ends, c') := c.takeBreak
      takeLead depth fuel ⟨l.breaks ++ ends, deepest, c'⟩
    else return ⟨l.breaks, deepest, c⟩

/-- Takes indentation and empty lines at a cursor. -/
def lead (depth : Nat) (c : Cursor) : Except Fault Lead :=
  takeLead depth (c.rest.length + 1) ⟨[], 0, c⟩

-- =========================================================== lines

/-- What stands between two lines of a block. -/
def between (literal : Bool) (ends more : List Char)
    (blankBefore blankBehind : Bool) : List Char :=
  if !literal && ends == ['\n'] && !blankBefore && !blankBehind then
    (if more = [] then [' '] else more)
  else ends ++ more

/-- Takes lines of text.  Answers with the text so far, the end of the
last line, the empty lines behind it and the cursor. -/
def lines (literal : Bool) (depth : Nat) :
    Nat → String → List Char → Bool → Lead →
    Except Fault (String × List Char × Lead)
  | 0, text, ends, _, l => .ok (text, ends, l)
  | fuel + 1, text, ends, blankBefore, l =>
    if l.cursor.column = depth ∧ l.cursor.here.isSome then do
      let blank := l.cursor.here.any isGap
      let (line, c) := l.cursor.span fun ch => !isBreak ch
      let text := text
        ++ String.ofList (between literal ends l.breaks blankBefore blank)
        ++ String.ofList line
      let (ends', c) := c.takeBreak
      lines literal depth fuel text ends' blank (← lead depth c)
    else .ok (text, ends, l)

/-- Takes a block scalar that belongs to something at a column, the
cursor standing behind its mark. -/
def read (literal : Bool) (parent : Int) (c : Cursor) :
    Except Fault (String × Cursor) := do
  let (header, c) ← takeHeader c
  let fixed := header.depth.map fun n =>
    if 0 ≤ parent then parent.toNat + n else n
  let first ← lead (fixed.getD 0) c
  let depth :=
    fixed.getD (max (max first.deepest (parent + 1).toNat) 1)
  let (text, ends, l) ←
    lines literal depth (c.rest.length + 1) "" [] false first
  let tail :=
    match header.chomp with
    | .strip => []
    | .clip => ends
    | .keep => ends ++ l.breaks
  return (text ++ String.ofList tail, l.cursor)

end RemoteProvision.Yaml.Block
