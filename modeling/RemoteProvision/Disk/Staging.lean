/-
Temporary files.

A temporary file is made under a name that nothing else has, in the
staging folder, and is gone when the run that made it ends.  Staging may
fail before the file is there, because its folder is missing or every
name is taken, or midway, because there is no room left; in each case
nothing stays behind.
-/
import RemoteProvision.Disk.Files
import RemoteProvision.Text.Quoted

namespace RemoteProvision.Disk

open RemoteProvision.Text (Bytes)

/-- Six letters and digits for a number. -/
def stageLetters : Nat → Nat → List Char
  | 0, _ => []
  | count + 1, n =>
    let d := n % 36
    stageLetters count (n / 36)
      ++ [Char.ofNat (if d < 10 then 48 + d else 87 + d)]

/-- The name of the `n`-th candidate for a staged file. -/
def stageName (n : Nat) : String :=
  "psprov-inline-" ++ String.ofList (stageLetters 6 n) ++ ".ps1"

/-- The staging folder, from the root. -/
def stageFolder (disk : Disk) : String :=
  if startsAtRoot disk.staging then disk.staging
  else
    let home := "/" ++ String.intercalate "/" disk.home
    if disk.staging.isEmpty then home else home ++ "/" ++ disk.staging

/-- The path of a name in the staging folder, from the root. -/
def stagePath (disk : Disk) (name : String) : String :=
  let folder := disk.stageFolder
  if endsInSlash folder then folder ++ name else folder ++ "/" ++ name

/-- Whether a walk found something. -/
def foundAny : Except IoFault Spot → Bool
  | .ok (.found _ _) => true
  | _ => false

/-- Whether something has the name of a candidate. -/
def stageTaken (disk : Disk) (n : Nat) : Bool :=
  foundAny (disk.resolve (disk.stagePath (stageName n)))

/-- The first candidate that nothing has, if there is one. -/
def freshStage (disk : Disk) : Option Nat :=
  (List.range (disk.items.length + 1)).find? (!disk.stageTaken ·)

/-- A staged file: its path as the user sees it, and its place. -/
structure Staged where
  path : String
  place : Place
deriving DecidableEq

/-- Writes chunks behind a file's bytes while there is room. -/
def writeChunks (disk : Disk) (place : Place) :
    List Bytes → Except IoFault Disk
  | [] => .ok disk
  | chunk :: rest =>
    match disk.spare with
    | none => writeChunks (disk.appendAt place chunk) place rest
    | some room =>
      if room < chunk.length then .error .noSpace
      else
        writeChunks
          { disk.appendAt place chunk with
            spare := some (room - chunk.length) } place rest

/-- Stages a file that holds some chunks at a path. -/
def stageAt (disk : Disk) (path : String) (chunks : List Bytes) :
    Except IoFault (Staged × Disk) := do
  let (place, disk') ← disk.startFile path
  let disk'' ← disk'.writeChunks place chunks
  return (⟨path, place⟩, disk'')

/-- Stages a file that holds some chunks, or says why not. -/
def stage (disk : Disk) (chunks : List Bytes) :
    Except String (Staged × Disk) :=
  match disk.freshStage with
  | none =>
    .error ("too many temporary files exist at path "
      ++ Text.quotedPath disk.stageFolder)
  | some n =>
    let path := disk.stagePath (stageName n)
    (disk.stageAt path chunks).mapError fun fault =>
      fault.message ++ " at path " ++ Text.quotedPath path

/-- Takes a staged file away. -/
def unstage (disk : Disk) (staged : Staged) : Disk :=
  disk.drop staged.place

end RemoteProvision.Disk
