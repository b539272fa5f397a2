/-
Finding programs.

A program is named by a path if its name holds a slash, and is otherwise
looked for in the folders of a search path, in order; an empty entry
means the home folder.  A file can be started if it may run and is either
a program of the system or begins with `#!` and the path of another
program that reads it.

The search goes on when a folder does not have the program or does not
let it run; the latter is remembered and is the fault in the end.  Any
other fault ends the search.
-/
import RemoteProvision.Disk.Files
import RemoteProvision.Text.Blank

namespace RemoteProvision.Local

-- =========================================================== types

/-- What starting a file comes to: a program of the system, with the
arguments that come before those of the command, and under the name of
an interpreter if it is one. -/
structure Program where
  tool : String
  interpreter : Option String
  leading : List String
deriving DecidableEq

/-- The search path unless one is set. -/
def defaultSearchPath : String := "/bin:/usr/bin"

-- ==================================================== interpreters

/-- The first line of a script behind its `#!`: the interpreter and what
it is given before the script. -/
def interpreterLine (bytes : Text.Bytes) :
    Option (String × List String) :=
  match bytes with
  | 35 :: 33 :: rest =>
    let line := Text.ofBytesLossy (rest.takeWhile (· ≠ 10))
    let isGap (c : Char) := c == ' ' || c == '\t'
    let trimmed :=
      ((line.toList.dropWhile isGap).reverse.dropWhile isGap).reverse
    let name := trimmed.takeWhile (!isGap ·)
    let tail := (trimmed.dropWhile (!isGap ·)).dropWhile isGap
    if name = [] then none
    else
      some (String.ofList name,
        if tail = [] then [] else [String.ofList tail])
  | _ => none

/-- How many interpreters a script may need. -/
def interpreterLimit : Nat := 5

/-- What starting the file at a path comes to. -/
def programAt (disk : Disk) : Nat → String → Except IoFault Program
  | 0, _ => .error (.system 40)
  | fuel + 1, path =>
    match disk.find path with
    | .error fault => .error fault
    | .ok (_, .folder) => .error .denied
    | .ok (_, .tool name) => .ok ⟨name, none, []⟩
    | .ok (_, .file bytes runnable) =>
      if !runnable then .error .denied
      else
        match interpreterLine bytes with
        | none => .error .notRunnable
        | some (interpreter, given) =>
          (programAt disk fuel interpreter).map fun p =>
            { p with
              interpreter := some (p.interpreter.getD interpreter)
              leading := p.leading ++ given ++ [path] }

-- ========================================================== search

/-- Cuts a search path at its colons. -/
def cutColons (path : String) : List String :=
  path.splitOn ":"

/-- The path of a name in a folder of a search path. -/
def inFolder (folder name : String) : String :=
  if folder.isEmpty then name else folder ++ "/" ++ name

/-- Looks in the folders of a search path; `fault` is the last fault, and
`denied` tells whether one of them was a denial. -/
def search (disk : Disk) (name : String) (denied : Bool)
    (fault : IoFault) : List String → Except IoFault Program
  | [] => .error (if denied then .denied else fault)
  | folder :: rest =>
    match programAt disk interpreterLimit (inFolder folder name) with
    | .ok program => .ok program
    | .error f =>
      if f = .denied then search disk name true f rest
      else if f = .notFound ∨ f = .notFolder then
        search disk name denied f rest
      else .error f

/-- The program of a name. -/
def findProgram (disk : Disk) (searchPath : Option String)
    (name : String) : Except IoFault Program :=
  if name.isEmpty then .error .notFound
  else if name.toList.contains '/' then
    programAt disk interpreterLimit name
  else if nameLimit < name.utf8ByteSize then .error .nameTooLong
  else
    search disk name false .notFound
      (cutColons (searchPath.getD defaultSearchPath))

end RemoteProvision.Local
