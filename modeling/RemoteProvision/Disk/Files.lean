/-
Working with files.

Looking, reading, writing and making folders, with the faults that the
system has for each.  A folder can be looked at and even opened, but not
read; writing to a file makes it if need be and always starts it afresh,
keeping whether it may be started as a program.

Making a folder with all its parents goes up the path to the first
folder that is there and then down again.
-/
import RemoteProvision.Disk.Path

namespace RemoteProvision.Disk

open RemoteProvision.Text (Bytes)

-- ========================================================= reading

/-- Whether something is at a path. -/
def check (disk : Disk) (path : String) : Except IoFault Unit :=
  (disk.find path).map fun _ => ()

/-- Opens what is at a path for reading; folders open as well. -/
def openAt (disk : Disk) (path : String) : Except IoFault Place :=
  (disk.find path).map (·.1)

/-- The bytes at a place. -/
def bytesAt (disk : Disk) (place : Place) : Except IoFault Bytes :=
  match disk.item? place with
  | none => .error .notFound
  | some .folder => .error .isFolder
  | some (.tool _) => .ok []
  | some (.file bytes _) => .ok bytes

/-- The bytes of the file at a path. -/
def readBytes (disk : Disk) (path : String) : Except IoFault Bytes := do
  disk.bytesAt (← disk.openAt path)

/-- The text of the file at a path, which must be UTF-8. -/
def readText (disk : Disk) (path : String) : Except IoFault String := do
  match Text.ofBytes? (← disk.readBytes path) with
  | some text => return text
  | none => throw .notText

-- ========================================================= writing

/-- Opens a file for writing: makes it, or empties it.  A path that ends
in a slash asks for a folder, and its last name is not even looked up. -/
def startFile (disk : Disk) (path : String) :
    Except IoFault (Place × Disk) := do
  if endsInSlash path then
    disk.checkAbove path
    throw .isFolder
  match ← disk.resolve path with
  | .found _ .folder => throw .isFolder
  | .found place (.file _ runnable) =>
    return (place, disk.put place (.file [] runnable))
  | .found place (.tool _) => return (place, disk)
  | .vacant place => return (place, disk.put place (.file [] false))

/-- Puts bytes behind those of the file at a place. -/
def appendAt (disk : Disk) (place : Place) (bytes : Bytes) : Disk :=
  match disk.item? place with
  | some (.file old runnable) =>
    disk.put place (.file (old ++ bytes) runnable)
  | _ => disk

/-- Lets the file at a place be started as a program. -/
def allowRun (disk : Disk) (place : Place) : Disk :=
  match disk.item? place with
  | some (.file bytes _) => disk.put place (.file bytes true)
  | _ => disk

-- ========================================================= folders

/-- Makes one folder. -/
def makeFolder (disk : Disk) (path : String) : Except IoFault Disk := do
  match ← disk.resolve path with
  | .found _ _ => throw .alreadyThere
  | .vacant place => return disk.put place .folder

/-- Whether a path leads to a folder. -/
def isFolder (disk : Disk) (path : String) : Bool :=
  match disk.find path with
  | .ok (_, .folder) => true
  | _ => false

/-- Makes a folder, unless it is there. -/
def ensureFolder (disk : Disk) (path : String) :
    Except IoFault Disk :=
  match disk.makeFolder path with
  | .ok disk' => .ok disk'
  | .error fault =>
    if disk.isFolder path then .ok disk else .error fault

/-- Makes the folder of some names, the last name first, and those above
it that are missing.  Folders made before a fault stay. -/
def makeFolders (disk : Disk) (rooted : Bool) :
    List String → Except IoFault Unit × Disk
  | [] => (.ok (), disk)
  | name :: above =>
    let path := (PathParts.mk rooted (name :: above).reverse).toPath
    match disk.makeFolder path with
    | .ok disk' => (.ok (), disk')
    | .error fault =>
      if fault = .notFound then
        match disk.makeFolders rooted above with
        | (.error fault, disk') => (.error fault, disk')
        | (.ok _, disk') =>
          match disk'.ensureFolder path with
          | .ok disk' => (.ok (), disk')
          | .error fault => (.error fault, disk')
      else if disk.isFolder path then (.ok (), disk)
      else (.error fault, disk)

/-- Makes the folders above the last name of a path. -/
def makeParents (disk : Disk) (path : String) :
    Except IoFault Unit × Disk :=
  let parts := PathParts.ofPath path
  disk.makeFolders parts.rooted parts.names.reverse.tail

-- ========================================================= removal

/-- Takes away what is at a path; says whether something was there. -/
def remove (disk : Disk) (path : String) : Bool × Disk :=
  match disk.find path with
  | .ok (place, _) => (true, disk.erase place)
  | .error _ => (false, disk)

/-- Takes away the file at a path; says whether there was one. -/
def removeFile (disk : Disk) (path : String) : Bool × Disk :=
  match disk.find path with
  | .ok (_, .folder) => (false, disk)
  | .ok (place, _) => (true, disk.erase place)
  | .error _ => (false, disk)

-- ========================================================= listing

/-- How an item below a folder is listed: its names joined by slashes,
and a slash behind a folder. -/
def listedName (names : Place) (item : Item) : String :=
  String.intercalate "/" names
    ++ (if item = .folder then "/" else "")

/-- Everything below the home folder, sorted. -/
def listing (disk : Disk) : List String :=
  let below := disk.items.filterMap fun p =>
    if disk.home.isPrefixOf p.1 && p.1 ≠ disk.home then
      some (listedName (p.1.drop disk.home.length) p.2)
    else none
  below.mergeSort (fun a b => decide (a ≤ b))

end RemoteProvision.Disk
