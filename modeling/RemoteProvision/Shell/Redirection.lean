/-
Redirections.

A redirection gives a command another stream in place of one that it
has.  Redirections are followed from left to right, so that a stream that
is made the same as another one becomes what the other is at that point.

Before a stream is replaced for a single command it is kept under a
number that no script can name, and it is put back afterwards.
-/
import RemoteProvision.Shell.Expansion

namespace RemoteProvision.Shell

open RemoteProvision.Kernel (OpenMode)

-- ============================================================ aims

/-- What a redirection leads to. -/
inductive Aim where
  | file (direction : Direction) (path : String)
  /-- Another stream, or none. -/
  | same (source : Option Nat)
  | text (content : String)

/-- The stream that a word names; nothing stands for no stream. -/
def streamOf (word : String) : Sh (Option Nat) := do
  let bad : Sh (Option Nat) := do
    modify fun s => { s with line := s.reached }
    fault "Syntax error: Bad fd number"
  match word.toList with
  | ['-'] => return none
  | [c] => if c.isDigit then return some (c.toNat - 48) else bad
  | _ => bad

/-- The streams that redirections replace, and what they lead to. -/
def aims (capture : List Command → Sh String) :
    List Redirect → Sh (List (Nat × Aim))
  | [] => return []
  | .file stream direction target :: more => do
    let word ← expandText capture target
    let aim ←
      if direction = .same then pure (Aim.same (← streamOf word))
      else pure (.file direction word)
    return (stream, aim) :: (← aims capture more)
  | .here stream number :: more => do
    let word := ((← get).texts.lookup number).getD []
    let text ← expandHere capture word
    return (stream, .text text) :: (← aims capture more)

-- ========================================================= opening

/-- How a file is opened. -/
def Direction.mode (d : Direction) (protects : Bool) : OpenMode :=
  match d with
  | .input | .same => { reads := true }
  | .both => { reads := true, writes := true, creates := true }
  | .append => { writes := true, creates := true, appends := true }
  | .force => { writes := true, creates := true, empties := true }
  | .output =>
    if protects then
      { writes := true, creates := true, refusesOld := true }
    else { writes := true, creates := true, empties := true }

/-- What the shell says of a file that it cannot open. -/
def openFault (creating : Bool) (path : String) (fault : IoFault) :
    String :=
  let why :=
    if fault = .notFound ∨ fault = .notFolder then
      if creating then "Directory nonexistent" else "No such file"
    else fault.bareMessage
  (if creating then "cannot create " else "cannot open ") ++ path ++ ": "
    ++ why

/-- Opens a file as a stream. -/
def openPath (stream : Nat) (path : String) (mode : OpenMode) :
    Sh Unit := do
  match ← request (.openFile stream (Text.unpackText path) mode) with
  | .ok _ => pure ()
  | .error problem => fault (openFault mode.creates path problem)

/-- Makes a stream from which a text can be read. -/
def openText (content : String) : Sh Nat := do
  let input ← newStream
  let output ← newStream
  request (.pipe input output)
  if !content.isEmpty then
    let _ ← write output content
  request (.close output)
  return input

-- ========================================================= keeping

/-- Begins to keep the streams that a command replaces. -/
def beginKeeping : Sh Unit :=
  modify fun s => { s with kept := [] :: s.kept }

/-- Keeps a stream, unless it is kept already. -/
def keepStream (stream : Nat) : Sh Unit := do
  match (← get).kept with
  | [] => pure ()
  | top :: more =>
    if (top.lookup stream).isNone then
      let place ← newStream
      let entry : Nat × Option Nat ←
        match ← request (.copy stream place) with
        | .ok _ =>
          request (.close stream)
          pure (stream, some place)
        | .error _ => pure (stream, none)
      modify fun s => { s with kept := (top ++ [entry]) :: more }

/-- Puts a stream back. -/
def putBack (entry : Nat × Option Nat) : Sh Unit := do
  match entry.2 with
  | none => request (.close entry.1)
  | some place =>
    let _ ← request (.copy place entry.1)
    request (.close place)

/-- Ends the last keeping: the streams are put back, or forgotten for
good. -/
def endKeeping (forGood : Bool) : Sh Unit := do
  match (← get).kept with
  | [] => pure ()
  | top :: more =>
    modify fun s => { s with kept := more }
    for entry in top do
      if forGood then
        match entry.2 with
        | none => pure ()
        | some place => request (.close place)
      else putBack entry

/-- Puts back all streams that were replaced since so many keepings. -/
def unwindTo (depth : Nat) : Nat → Sh Unit
  | 0 => pure ()
  | fuel + 1 => do
    if depth < (← get).kept.length then
      endKeeping false
      unwindTo depth fuel

-- ======================================================= following

/-- Follows one redirection. -/
def followOne (keeps : Bool) (stream : Nat) (aim : Aim) : Sh Unit := do
  let keep : Sh Unit := if keeps then keepStream stream else pure ()
  let move (place : Nat) : Sh Unit := do
    keep
    let _ ← request (.copy place stream)
    request (.close place)
  match aim with
  | .same none =>
    keep
    request (.close stream)
  | .same (some source) =>
    if source != stream then
      keep
      match ← request (.copy source stream) with
      | .ok _ => pure ()
      | .error problem =>
        fault (toString source ++ ": " ++ problem.bareMessage)
  | .text content => move (← openText content)
  | .file direction path =>
    let place ← newStream
    openPath place path (direction.mode ((← get).has 'C'))
    move place

/-- Follows redirections; says whether all went well. -/
def follow (keeps : Bool) (redirections : List (Nat × Aim)) :
    Sh Bool := do
  for r in redirections do
    match ← ExceptT.lift (followOne keeps r.1 r.2).run with
    | .ok _ => pure ()
    | .error _ => return false
  return true

end RemoteProvision.Shell
