/-
The program.

The files below the working folder, the files that the arguments and the
configuration name, and the environment are read at the start.  The
request is answered on this view of the machine; then what has changed is
written back and the answer is printed.
-/
import RemoteProvision.Cli.Usage
import RemoteProvision.Local.System
import RemoteProvision.Stamp
import Std.Time

namespace RemoteProvision.Program

-- ========================================================== reading

/-- The variables of the environment as the system lists them, each ended
by a NUL. -/
def variablesOf (listing : Text.Bytes) : Local.Environment :=
  ((Text.ofBytesLossy listing).splitOn "\x00").filterMap fun entry =>
    match entry.splitOn "=" with
    | name :: value :: rest =>
      some (name, String.intercalate "=" (value :: rest))
    | _ => none

/-- What an entry of a folder is, and all that is below it.  Whatever
cannot be read is left out. -/
partial def itemsOf (entry : IO.FS.DirEntry) (place : Place) :
    IO (List (Place × Item)) := do
  try
    match (← entry.path.metadata).type with
    | .dir =>
      let mut items := [(place, Item.folder)]
      for e in ← entry.path.readDir do
        items := items ++ (← itemsOf e (place ++ [e.fileName]))
      return items
    | .file =>
      let bytes ← IO.FS.readBinFile entry.path
      return [(place, .file bytes.toList true)]
    | _ => return []
  catch _ => return []

/-- Where a path leads. -/
def placeOf (home : Place) (path : String) : Place :=
  (pathNames path).foldl
    (fun here name =>
      if name = "." then here
      else if name = ".." then here.dropLast
      else here ++ [name])
    (if startsAtRoot path then [] else home)

/-- The folders above a place. -/
def foldersAbove (place : Place) : List (Place × Item) :=
  (List.range place.length).tail.map fun n => (place.take n, .folder)

/-- The disk with what is at some paths added to it. -/
def withPaths (disk : Disk) (paths : List String) : IO Disk := do
  let here ← IO.currentDir
  let mut disk := disk
  for path in paths do
    let place := placeOf disk.home path
    for item in foldersAbove place ++ (← itemsOf ⟨here, path⟩ place) do
      disk := disk.put item.1 item.2
  return disk

/-- The disk at the start, with the files that may be asked for. -/
def readDisk (environment : Local.Environment)
    (arguments : List String) : IO Disk := do
  let staging := (environment.lookup "TMPDIR").getD "/tmp"
  let bare : Disk :=
    { items := Local.systemItems
      home := pathNames (← IO.currentDir).toString
      staging := staging
      spare := none }
  let disk ← withPaths bare ("." :: arguments)
  let scripts := arguments.flatMap fun path =>
    match Config.load disk path with
    | .ok config => config.scriptFiles
    | .error _ => []
  withPaths disk scripts

-- ========================================================== writing

/-- Makes one item be there. -/
def writeItem (place : Place) (item : Item) : IO Unit := do
  let path := "/" ++ String.intercalate "/" place
  match item with
  | .folder => IO.FS.createDirAll path
  | .file bytes _ => IO.FS.writeBinFile path ⟨bytes.toArray⟩
  | .tool _ => return ()

/-- Writes back what has changed. -/
def writeBack (before after : Disk) : IO Unit := do
  for (place, item) in after.items do
    if before.item? place ≠ some item then writeItem place item
  for (place, _) in before.items do
    if (after.item? place).isNone then
      let path := "/" ++ String.intercalate "/" place
      try IO.FS.removeFile path catch _ => pure ()

-- ========================================================== machine

/-- What the clock shows in universal time. -/
def stampOf (now : Std.Time.Timestamp) : IO Stamp := do
  let date := Std.Time.DateTime.ofTimestamp now Std.Time.TimeZone.ZoneRules.UTC
  let moment : Moment := {
    day := ⟨date.year, date.month.val.toNat, date.day.val.toNat⟩
    hour := date.hour.val.toNat
    minute := date.minute.val.toNat
    second := date.second.val.toNat
    nanos := date.nanosecond.val.toNat
    ahead := 0 }
  match Stamp.of? moment with
  | some stamp => return stamp
  | none => throw <| IO.userError "the clock shows no day of the calendar"

/-- How many nanoseconds pass between two looks at the clock. -/
def clockStep : Nat := 1000000

/-- The machine at the start. -/
def readMachine (arguments : List String) : IO Cli.Machine := do
  let listing ← IO.FS.readBinFile "/proc/self/environ"
  let environment := variablesOf listing.toList
  let now ← Std.Time.Timestamp.now
  return {
    disk := ← readDisk environment arguments
    environment := environment
    startMillis := now.toMillisecondsSinceUnixEpoch.toInt.toNat
    stamp := (← stampOf now).text
    clockStep := clockStep }

/-- Answers the arguments. -/
def run (arguments : List String) : IO UInt32 := do
  let machine ← readMachine arguments
  match Cli.answer machine arguments with
  | none =>
    IO.eprintln "the run was not followed to its end"
    return 3
  | some (answer, disk) =>
    IO.print answer.out
    IO.eprint answer.err
    writeBack machine.disk disk
    return answer.code.toUInt32

end RemoteProvision.Program

/-- The program. -/
def main (arguments : List String) : IO UInt32 :=
  RemoteProvision.Program.run arguments
