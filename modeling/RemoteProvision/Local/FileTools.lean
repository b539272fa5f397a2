/-
Programs of the system that change the disk.

Each of them does its work at once and says afterwards what it could not
do; it goes on with its other arguments then.
-/
import RemoteProvision.Local.TextTools

namespace RemoteProvision.Local

open RemoteProvision.Kernel (Act Report)
open RemoteProvision.Text (Bytes)

-- =========================================================== types

/-- What has been done so far. -/
structure Work where
  name : String
  disk : Disk
  out : Bytes := []
  err : Bytes := []
  code : Nat := 0

/-- Something that cannot be done, and the exit code for it. -/
def Work.failsWith (w : Work) (code : Nat) (text : String) : Work :=
  { w with
    err := w.err ++ lineBytes (w.name ++ ": " ++ text)
    code := code }

/-- Something that cannot be done. -/
def Work.fails (w : Work) (text : String) : Work := w.failsWith 1 text

/-- A program that works on the disk. -/
def works (i : Invocation) (act : Work → Work) : Act Unit Nat := do
  let report ← Act.ask (.change fun disk =>
    let w := act { name := i.name, disk := disk }
    (Report.mk w.out w.err w.code, w.disk))
  let _ ← put 2 report.err
  i.prints report.code report.out

/-- A program that works on each of its arguments. -/
def worksOn (i : Invocation) (words : List String)
    (act : Work → String → Work) : Act Unit Nat :=
  if words.isEmpty then i.refuses "missing operand"
  else works i fun w => words.foldl act w

-- ========================================================== making

/-- Makes files that are not there. -/
def touch : Tool := fun i => i.withFlags "acfhm" fun flags names =>
  if names.isEmpty then i.refuses "missing file operand"
  else
    worksOn i names fun w name =>
      let fails (fault : IoFault) : Work :=
        w.fails
          ("cannot touch " ++ quoteName name ++ ": " ++ fault.bareMessage)
      match w.disk.resolve (pathOf name) with
      | .ok (.found _ _) => w
      | .ok (.vacant _) =>
        if flags.contains 'c' then w
        else
          match w.disk.startFile (pathOf name) with
          | .ok (_, disk) => { w with disk := disk }
          | .error fault => fails fault
      | .error fault => fails fault

/-- Makes folders, and with an option those above them. -/
def mkdir : Tool := fun i => i.withFlags "pZ" fun flags names =>
  worksOn i names fun w name =>
    let parts := PathParts.ofPath (pathOf name)
    let (made, disk) :=
      if flags.contains 'p' then
        w.disk.makeFolders parts.rooted parts.names.reverse
      else
        match w.disk.makeFolder (pathOf name) with
        | .ok disk => (.ok (), disk)
        | .error fault => (.error fault, w.disk)
    let w := { w with disk := disk }
    match made with
    | .ok _ => w
    | .error fault =>
      w.fails
        ("cannot create directory " ++ quote name ++ ": "
          ++ fault.bareMessage)

-- ======================================================== removing

/-- Whether a folder has nothing in it. -/
def isBare (disk : Disk) (place : Place) : Bool :=
  !disk.items.any fun p => place.isPrefixOf p.1 && p.1 != place

/-- Removes files, and with an option whatever is below folders. -/
def rm : Tool := fun i => i.withFlags "dfiIrR" fun flags names =>
  let deep := flags.contains 'r' || flags.contains 'R'
  if names.isEmpty && flags.contains 'f' then return 0
  else
    worksOn i names fun w name =>
      let fails (why : String) : Work :=
        w.fails ("cannot remove " ++ quoteName name ++ ": " ++ why)
      match w.disk.find (pathOf name) with
      | .ok (place, .folder) =>
        if deep then { w with disk := w.disk.erase place }
        else if flags.contains 'd' && isBare w.disk place then
          { w with disk := w.disk.erase place }
        else fails "Is a directory"
      | .ok (place, _) => { w with disk := w.disk.erase place }
      | .error fault =>
        if flags.contains 'f' && fault = .notFound then w
        else fails fault.bareMessage

/-- Removes empty folders. -/
def rmdir : Tool := fun i => i.withFlags "" fun _ names =>
  worksOn i names fun w name =>
    let fails (why : String) : Work :=
      w.fails ("failed to remove " ++ quoteName name ++ ": " ++ why)
    match w.disk.find (pathOf name) with
    | .ok (place, .folder) =>
      if (Text.unpack name).getLast? = some 46 then
        fails (faultText 22)
      else if isBare w.disk place then { w with disk := w.disk.erase place }
      else fails "Directory not empty"
    | .ok _ => fails "Not a directory"
    | .error fault => fails fault.bareMessage

-- ========================================================= copying

/-- Where something goes that is copied or moved to a path: into a folder
that is there, or to the path itself. -/
def destination (disk : Disk) (source target : String) :
    Except IoFault Place := do
  match ← disk.resolve target with
  | .found place .folder =>
    match (pathNames source).getLast? with
    | some name => return place ++ [name]
    | none => return place
  | .found place _ => return place
  | .vacant place => return place

/-- Copies what is at a place, and all below it. -/
def copyItems (disk : Disk) (source target : Place) : Disk :=
  let copied := disk.items.filter fun p => source.isPrefixOf p.1
  copied.foldl
    (fun disk p => disk.put (target ++ p.1.drop source.length) p.2) disk

/-- Copies or moves one thing. -/
def transfer (moves deep : Bool) (target : String) (w : Work)
    (name : String) : Work :=
  match w.disk.find (pathOf name) with
  | .error fault =>
    w.fails ("cannot stat " ++ quoteName name ++ ": " ++ fault.bareMessage)
  | .ok (source, item) =>
    if item = .folder && !moves && !deep then
      w.fails ("-r not specified; omitting directory " ++ quoteName name)
    else
      match destination w.disk (pathOf name) (pathOf target) with
      | .error fault =>
        if moves then
          w.fails
            ("cannot move " ++ quoteName name ++ " to "
              ++ quoteName target ++ ": " ++ fault.bareMessage)
        else
          w.fails
            ("cannot create regular file " ++ quoteName target ++ ": "
              ++ fault.bareMessage)
      | .ok place =>
        if place = source then
          w.fails (quoteName name ++ " and " ++ quoteName target
            ++ " are the same file")
        else
          let disk := copyItems w.disk source place
          { w with disk := if moves then disk.erase source else disk }

/-- Copies or moves its arguments to the last of them. -/
def transferAll (moves : Bool) : Tool := fun i =>
  i.withFlags (if moves then "finuT" else "adfinpPrRTux") fun flags names =>
  let deep :=
    flags.contains 'r' || flags.contains 'R' || flags.contains 'a'
  match names.reverse with
  | [] => i.refuses "missing file operand"
  | [name] =>
    i.refuses
      ("missing destination file operand after " ++ quoteName name)
  | target :: sources =>
    works i fun w =>
      if 1 < sources.length && !w.disk.isFolder (pathOf target) then
        w.fails ("target " ++ quoteName target ++ ": "
          ++ (match w.disk.find (pathOf target) with
            | .ok _ => IoFault.notFolder.bareMessage
            | .error fault => fault.bareMessage))
      else
        sources.reverse.foldl (transfer moves deep target) w

-- ==================================================== other programs

/-- Whether a mode lets a file be started, if it says so. -/
def letsRun (mode : String) : Option Bool :=
  match mode.toList.all Char.isDigit, mode.toNat? with
  | true, some _ =>
    some (mode.toList.any fun c => (c.toNat - 48) % 2 == 1)
  | _, _ =>
    if !mode.toList.contains 'x' then none
    else some (!mode.toList.contains '-')

/-- Changes whether files can be started. -/
def chmod : Tool := fun i =>
  match i.arguments with
  | [mode] => i.refuses ("missing operand after " ++ quote mode)
  | mode :: names =>
    worksOn i names fun w name =>
      match w.disk.find (pathOf name) with
      | .ok (place, .file bytes _) =>
        match letsRun mode with
        | some runs =>
          { w with disk := w.disk.put place (.file bytes runs) }
        | none => w
      | .ok _ => w
      | .error fault =>
        w.fails
          ("cannot access " ++ quoteName name ++ ": " ++ fault.bareMessage)
  | [] => i.refuses "missing operand"

/-- The names in a folder, in order. -/
def namesBelow (disk : Disk) (place : Place) (hidden : Bool) :
    List String :=
  let names := disk.items.filterMap fun p =>
    match p.1.getLast? with
    | some name =>
      if p.1.dropLast == place
          && (hidden || name.toList.head? != some '.') then
        some (Text.packText name)
      else none
    | none => none
  names.mergeSort fun a b => decide (a ≤ b)

/-- Lists folders and files. -/
def ls : Tool := fun i =>
  let (flags, names) := gatherFlags i.arguments
  let hidden := flags.contains 'a' || flags.contains 'A'
  let names := if names.isEmpty then ["."] else names
  works i fun w =>
    let w := names.foldl
      (fun w name =>
        match w.disk.find (pathOf name) with
        | .ok _ => w
        | .error fault =>
          w.failsWith 2
            ("cannot access " ++ quoteName name ++ ": " ++ fault.bareMessage))
      w
    let isFolder (name : String) := w.disk.isFolder (pathOf name)
    let there := names.filter fun name =>
      (w.disk.find (pathOf name)).toOption.isSome
    let sorted := there.mergeSort fun a b => decide (a ≤ b)
    let files := sorted.filter (!isFolder ·)
    let folders := sorted.filter isFolder
    let inside (name : String) : Bytes :=
      match w.disk.find (pathOf name) with
      | .ok (place, _) =>
        (if flags.contains 'a' then [".", ".."] else []).flatMap lineBytes
          ++ (namesBelow w.disk place hidden).flatMap lineBytes
      | .error _ => []
    let listed :=
      if flags.contains 'd' then sorted.map lineBytes
      else
        match files, folders, names with
        | [], [name], [_] => [inside name]
        | _, _, _ =>
          (if files.isEmpty then [] else [files.flatMap lineBytes])
            ++ folders.map fun name =>
              lineBytes (name ++ ":") ++ inside name
    { w with out := ([(10 : UInt8)]).intercalate listed }

/-- Passes its input on, also to files. -/
def tee : Tool := fun i => i.withFlags "aip" fun flags names => do
  match ← readAll 0 chunkLimit [] with
  | .error fault => i.fails 1 ("read error: " ++ fault.bareMessage)
  | .ok bytes =>
    let code ← works i fun w =>
      names.foldl
        (fun w name =>
          let opened : Except IoFault (Place × Disk) :=
            match flags.contains 'a', w.disk.find (pathOf name) with
            | true, .ok (place, .file _ _) => .ok (place, w.disk)
            | _, _ => w.disk.startFile (pathOf name)
          match opened with
          | .ok (place, disk) =>
            { w with disk := disk.appendAt place bytes }
          | .error fault =>
            w.fails (quoteIfNeeded name ++ ": " ++ fault.bareMessage))
        w
    let _ ← i.prints 0 bytes
    return code

-- ====================================================== dispatching

/-- A program of the system by its name; those that run other programs
are not among them. -/
def tool? (name : String) : Option Tool :=
  match name with
  | "echo" => some echo
  | "printf" => some printf
  | "cat" => some cat
  | "true" => some fun _ => return 0
  | "false" => some fun _ => return 1
  | "sleep" => some sleep
  | "touch" => some touch
  | "rm" => some rm
  | "mkdir" => some mkdir
  | "rmdir" => some rmdir
  | "cp" => some (transferAll false)
  | "mv" => some (transferAll true)
  | "chmod" => some chmod
  | "ls" => some ls
  | "tee" => some tee
  | "head" => some head
  | "tail" => some tail
  | "wc" => some wc
  | "sort" => some sort
  | "tr" => some tr
  | "yes" => some yes
  | "seq" => some seq
  | "pwd" => some pwd
  | "basename" => some basename
  | "dirname" => some dirname
  | "test" => some (test false)
  | "[" => some (test true)
  | "printenv" => some printenv
  | _ => none

end RemoteProvision.Local
