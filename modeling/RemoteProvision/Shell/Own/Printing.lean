/-
Commands of the shell itself that print and read.

`echo` and `printf` replace escapes without being asked to.  `read` takes
one line of its input and gives the fields of it to variables, the last
of which takes all that is left.
-/
import RemoteProvision.Local.Tools
import RemoteProvision.Shell.Expansion
import RemoteProvision.Shell.Own.Words

namespace RemoteProvision.Shell

-- ======================================================== printing

/-- Prints words with escapes replaced. -/
def echoWords (words : List String) : Sh Nat := do
  let (bare, words) :=
    match words with
    | "-n" :: rest => (true, rest)
    | _ => (false, words)
  let text := String.intercalate " " words
  let (bytes, ended) :=
    Local.Printf.escapedText ⟨true, false⟩ (text.length + 1) text.toList
  out (Text.pack bytes ++ (if bare || ended then "" else "\n"))
  return 0

/-- Prints through a format. -/
def printfWords (words : List String) : Sh Nat := do
  let (_, words) ← options [] words
  match words with
  | [] => fault "usage: printf format [arg ...]"
  | format :: arguments =>
    let p := Local.Printf.print false format arguments
    for c in p.complaints do
      warn (c.1 ++
        (match c.2 with
        | .notNumeric => ": expected numeric value"
        | .outOfRange => ": " ++ faultText 34
        | .partly | .behindQuoted _ => ": not completely converted"))
    out (Text.pack p.out)
    match p.fault with
    | some (.unknown c) => fault (c ++ ": invalid directive")
    | some _ => fault "missing format character"
    | none => return if p.complaints.isEmpty then 0 else 1

/-- Looks at a condition. -/
def testCommand (inBrackets : Bool) (words : List String) : Sh Nat := do
  match Local.testWords inBrackets words (← request .look) with
  | (code, none) => return code
  | (_, some text) => fault text

-- ========================================================= reading

/-- How long a line may be. -/
def lineLimit : Nat := 1000000

/-- Takes a line of the input, byte by byte; says whether its end was
there.  Unless told otherwise, a backslash keeps the next character from
having a meaning, and takes a line end away. -/
def readLine (plain : Bool) : Nat → Bool → List Glyph →
    Sh (List Glyph × Bool)
  | 0, _, found => return (found.reverse, false)
  | fuel + 1, escaped, found => do
    match ← request (.read 0 1) with
    | .error _ => return (found.reverse, false)
    | .ok bytes =>
      match bytes with
      | [] => return (found.reverse, false)
      | b :: _ =>
        let c := Char.ofNat b.toNat
        if b == 0 then readLine plain fuel escaped found
        else if escaped then
          if c == '\n' then readLine plain fuel false found
          else readLine plain fuel false (.char c true false :: found)
        else if !plain && c == '\x5c' then
          readLine plain fuel true found
        else if c == '\n' then return (found.reverse, true)
        else readLine plain fuel false (.char c false true :: found)

/-- Gives fields to variables. -/
def assignFields : List String → List (List Glyph) → Sh Unit
  | [], _ => pure ()
  | name :: more, fields => do
    checkName name
    assign name (glyphText (fields.headD []))
    assignFields more fields.tail

/-- Takes a line of the input into variables. -/
def readWords (words : List String) : Sh Nat := do
  let (flags, names) ← options [('p', true), ('r', false)] words
  if names.isEmpty then fault "arg count"
  let plain := flags.any (·.1 == 'r')
  let (line, whole) ← readLine plain lineLimit false []
  assignFields names
    (splitFields (← get).separators (some names.length) line)
  return if whole then 0 else 1

end RemoteProvision.Shell
