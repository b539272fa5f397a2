/-
Expansion.

Before a command runs, its words are expanded: each part of a word is
replaced by its glyphs, and the row of glyphs is used as one text, as a
pattern, or as fields, which in turn may stand for paths on the disk.

How commands inside a word are run is handed in; all else that a word
needs is in the state of the shell.
-/
import RemoteProvision.Shell.Arithmetic
import RemoteProvision.Shell.Names
import RemoteProvision.Shell.State

namespace RemoteProvision.Shell

-- ========================================================== tildes

/-- The home folder that a name behind a tilde stands for. -/
def homeOf (s : State) (name : String) : Option String :=
  match name with
  | "" => s.binding? "HOME"
  | "root" => some "/root"
  | _ => none

/-- A piece of unquoted text with the tilde at its front replaced;
`goesOn` tells whether more may follow it in the same name. -/
def replaceTilde (s : State) (goesOn : Bool) (text : String) :
    List Part :=
  match text.toList with
  | '~' :: rest =>
    let name := rest.takeWhile (· != '/')
    let behind := rest.drop name.length
    match homeOf s (String.ofList name) with
    | none => [.text text false]
    | some home =>
      if goesOn && behind.isEmpty then [.text text false]
      else
        .text home true
          :: (if behind.isEmpty then []
              else [.text (String.ofList behind) false])
  | _ => [.text text false]

/-- The parts of a text cut at its colons, each of which may begin with a
tilde. -/
def replaceTildes (s : State) (goesOn atFront : Bool) :
    List String → List Part
  | [] => []
  | [last] =>
    if atFront then replaceTilde s goesOn last
    else if last.isEmpty then [] else [.text last false]
  | first :: more =>
    (if atFront then replaceTilde s false first else [.text first false])
      ++ .text ":" false :: replaceTildes s goesOn true more

/-- Replaces the tildes in the parts of a value. -/
def valueTildes (s : State) : Bool → List Part → List Part
  | _, [] => []
  | atFront, .text text false :: more =>
    replaceTildes s (!more.isEmpty) atFront (text.splitOn ":")
      ++ valueTildes s false more
  | _, p :: more => p :: valueTildes s false more

/-- Replaces the tilde at the front of a word. -/
def wordTilde (s : State) (w : Word) : Word :=
  match w with
  | .text text false :: more =>
    replaceTilde s (!more.isEmpty) text ++ more
  | _ => w

-- ====================================================== parameters

/-- Joins texts by another. -/
def joinWith (gap : List Glyph) : List (List Glyph) → List Glyph
  | [] => []
  | [w] => w
  | w :: more => w ++ gap ++ joinWith gap more

/-- The glyphs of the value of a parameter; nothing if it is not set. -/
def valueGlyphs (s : State) (name : String) (quoted splits : Bool) :
    Option (List Glyph) :=
  if name == "@" || name == "*" then
    if s.parameters.isEmpty then none
    else
      let words := s.parameters.map fun w =>
        glyphsOf w quoted (!quoted && splits)
      let gap : List Glyph :=
        if splits && (!quoted || name == "@") then [.gap quoted]
        else
          match s.separators with
          | [] => []
          | c :: _ => [.char c quoted false]
      some (joinWith gap words)
  else
    (s.value? name).map fun text =>
      glyphsOf text quoted (!quoted && splits)

/-- How many bytes the value of a parameter has. -/
def valueLength (gs : List Glyph) : Nat :=
  (gs.filter fun
    | .mark => false
    | _ => true).length

/-- Whether a name can be a variable's. -/
def checkName (name : String) : Sh Unit := do
  if !isName name then fault (name ++ ": bad variable name")

-- =========================================================== words

/-- Marks the place of quotes. -/
def withMark (quoted : Bool) (gs : List Glyph) : List Glyph :=
  if quoted then .mark :: gs else gs

/-- The glyphs of the parts of a word; `splits` if they are used as
fields, and `within` if also their unquoted text may be split. -/
def expandParts (capture : List Command → Sh String) (splits : Bool) :
    Nat → Bool → List Part → Sh (List Glyph)
  | 0, _, _ => fault "Out of room"
  | _, _, [] => return []
  | fuel + 1, within, p :: more => do
    let first ←
      match p with
      | .text text quoted =>
        pure (withMark quoted
          (glyphsOf text quoted (within && splits && !quoted)))
      | .output body quoted => do
        let text ← capture body
        pure (withMark quoted
          (glyphsOf (dropFinalBreaks text) quoted (splits && !quoted)))
      | .number expression quoted => do
        let gs ← expandParts capture false fuel false expression
        let text := glyphText gs
        let s ← get
        match Arithmetic.value s.binding? text with
        | .ok (n, assigned) =>
          for a in assigned do assign a.1 (toString a.2)
          pure (withMark quoted
            (glyphsOf (toString n) quoted (splits && !quoted)))
        | .error problem => fault (problem.message text)
      | .parameter name op emptyToo word quoted => do
        let s ← get
        let value := valueGlyphs s name quoted splits
        let missing :=
          match value with
          | none => true
          | some gs => emptyToo && valueLength gs == 0
        let unset : Sh Unit := do
          if s.has 'u' && value.isNone && name != "@" && name != "*" then
            fault (name ++ ": parameter not set")
        let found := withMark (quoted && (name != "@" || value.isSome))
          (value.getD [])
        let text (w : Word) : Sh String := do
          return glyphText
            (← expandParts capture false fuel false (wordTilde s w))
        let trimmed (atFront longest : Bool) : Sh (List Glyph) := do
          unset
          let gs ← expandParts capture false fuel false (wordTilde s word)
          return withMark quoted
            (glyphsOf
              (Pattern.trim atFront longest (glyphPattern gs)
                (glyphText (value.getD [])))
              quoted (splits && !quoted))
        match op with
        | .plain => do
          unset
          pure found
        | .length => do
          unset
          pure (withMark quoted
            (glyphsOf (toString (valueLength (value.getD []))) quoted
              (splits && !quoted)))
        | .instead =>
          if missing then do
            pure (withMark quoted
              (← expandParts capture splits fuel true (wordTilde s word)))
          else pure found
        | .present =>
          if missing then pure (withMark quoted [])
          else do
            pure (withMark quoted
              (← expandParts capture splits fuel true (wordTilde s word)))
        | .assigned =>
          if missing then do
            let new ← text word
            checkName name
            assign name new
            pure (withMark quoted
              (glyphsOf new quoted (splits && !quoted)))
          else pure found
        | .complain =>
          if missing then do
            if word.isEmpty then
              fault (name ++ ": parameter not set"
                ++ (if emptyToo then " or null" else ""))
            let why ← text word
            fault (name ++ ": " ++ why)
          else pure found
        | .trimFront longest => trimmed true longest
        | .trimBack longest => trimmed false longest
        | .unknown => fault "Bad substitution"
    return first ++ (← expandParts capture splits fuel within more)

/-- How deep words may be nested. -/
def wordDepth : Nat := 100000

/-- The paths that a field stands for. -/
def fieldPaths (gs : List Glyph) : Sh (List String) := do
  let pattern := glyphPattern gs
  let text := glyphText gs
  if !(← get).has 'f' && Pattern.isActive pattern.toList then
    let found := Pattern.paths (← request .look) pattern
    return if found.isEmpty then [text] else found
  return [text]

/-- A word as fields. -/
def expandFields (capture : List Command → Sh String) (w : Word) :
    Sh (List String) := do
  let gs ← expandParts capture true wordDepth false
    (wordTilde (← get) w)
  let mut words := []
  for field in splitFields (← get).separators none gs do
    words := words ++ (← fieldPaths field)
  return words

/-- A word as one text. -/
def expandText (capture : List Command → Sh String) (w : Word) :
    Sh String := do
  return glyphText
    (← expandParts capture false wordDepth false (wordTilde (← get) w))

/-- A word as the value of a variable. -/
def expandValue (capture : List Command → Sh String) (w : Word) :
    Sh String := do
  return glyphText
    (← expandParts capture false wordDepth false
      (valueTildes (← get) true w))

/-- A word as a pattern. -/
def expandPattern (capture : List Command → Sh String) (w : Word) :
    Sh String := do
  return glyphPattern
    (← expandParts capture false wordDepth false (wordTilde (← get) w))

/-- A text that stands in the script. -/
def expandHere (capture : List Command → Sh String) (w : Word) :
    Sh String := do
  return glyphText (← expandParts capture false wordDepth false w)

end RemoteProvision.Shell
