/-
Paths.

A path is names separated by slashes.  It starts at the root if it begins
with a slash and at the home folder otherwise.  The system walks it one
name at a time: `.` stays, `..` goes up, and any other name must be found
in the folder reached so far.  Only the last name may be missing, which
is what creating something needs; whatever a walk passes through must be
a folder.

A name may have 255 bytes and a path 4095.  A NUL character cannot be
part of either.
-/
import RemoteProvision.Disk.Basic
import RemoteProvision.Error.System

namespace RemoteProvision

-- =========================================================== names

/-- Cuts a text at every slash. -/
def cutSlashes (cs : List Char) : List (List Char) :=
  match cs with
  | [] => [[]]
  | c :: rest =>
    if c = '/' then [] :: cutSlashes rest
    else
      match cutSlashes rest with
      | [] => [[c]]
      | name :: names => (c :: name) :: names

/-- The names of a path, in order. -/
def pathNames (path : String) : List String :=
  ((cutSlashes path.toList).filter (!·.isEmpty)).map String.ofList

/-- Whether a path starts at the root. -/
def startsAtRoot (path : String) : Bool :=
  path.toList.head? == some '/'

/-- Whether a path ends in a slash, which only a folder may bear. -/
def endsInSlash (path : String) : Bool :=
  path.toList.getLast? == some '/'

/-- The longest name, in bytes. -/
def nameLimit : Nat := 255

/-- The longest path, in bytes. -/
def pathLimit : Nat := 4095

-- ========================================================= walking

/-- Where a walk ends. -/
inductive Spot where
  | found (place : Place) (item : Item)
  /-- Nothing is there yet, in a folder that is. -/
  | vacant (place : Place)
deriving DecidableEq

namespace Disk

/-- Walks some names from a place. -/
def walk (disk : Disk) : Place → List String → Except IoFault Spot
  | here, [] =>
    match disk.item? here with
    | some item => .ok (.found here item)
    | none => .error .notFound
  | here, name :: rest =>
    match disk.item? here with
    | none => .error .notFound
    | some .folder =>
      if name = "." then disk.walk here rest
      else if name = ".." then disk.walk here.dropLast rest
      else if nameLimit < name.utf8ByteSize then .error .nameTooLong
      else
        match disk.item? (here ++ [name]) with
        | some _ => disk.walk (here ++ [name]) rest
        | none =>
          if rest.isEmpty then .ok (.vacant (here ++ [name]))
          else .error .notFound
    | some _ => .error .notFolder

/-- Where the names of a path lead, or those of them that are chosen. -/
def resolveNames (disk : Disk) (path : String)
    (choose : List String → List String) : Except IoFault Spot :=
  if path.toList.contains '\x00' then .error .nulInName
  else if path.isEmpty then .error .notFound
  else if pathLimit < path.utf8ByteSize then .error .nameTooLong
  else
    disk.walk (if startsAtRoot path then [] else disk.home)
      (choose (pathNames path))

/-- Where a path leads. -/
def resolve (disk : Disk) (path : String) : Except IoFault Spot :=
  disk.resolveNames path id

/-- Asks for the folder that holds the last name of a path. -/
def checkAbove (disk : Disk) (path : String) : Except IoFault Unit := do
  match ← disk.resolveNames path List.dropLast with
  | .found _ .folder => return ()
  | .found _ _ => throw .notFolder
  | .vacant _ => throw .notFound

/-- What a path leads to, if something is there. -/
def find (disk : Disk) (path : String) :
    Except IoFault (Place × Item) := do
  match ← disk.resolve path with
  | .vacant _ => throw .notFound
  | .found place .folder => return (place, .folder)
  | .found place item =>
    if endsInSlash path then throw .notFolder
    return (place, item)

end Disk

-- ========================================================= parents

/-- A path as the names that matter to its parent: the inner `.` are
left out, and a leading one is kept. -/
structure PathParts where
  rooted : Bool
  names : List String

/-- Takes a path apart. -/
def PathParts.ofPath (path : String) : PathParts :=
  let names := pathNames path
  let rooted := startsAtRoot path
  match names with
  | [] => ⟨rooted, []⟩
  | first :: rest =>
    let kept := rest.filter (· ≠ ".")
    if first = "." ∧ rooted then ⟨rooted, kept⟩
    else ⟨rooted, first :: kept⟩

/-- The path of some parts. -/
def PathParts.toPath (parts : PathParts) : String :=
  (if parts.rooted then "/" else "")
    ++ String.intercalate "/" parts.names

end RemoteProvision
