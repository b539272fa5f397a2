/-
What names of commands stand for.

A name may be a word with a meaning, another name for a command, a
function, a command of the shell itself, or a program that is found along
the search path.
-/
import RemoteProvision.Local.Program
import RemoteProvision.Shell.Own.Words
import RemoteProvision.Shell.Redirection

namespace RemoteProvision.Shell

-- =========================================================== kinds

/-- The commands of the shell itself that are not special. -/
def plainNames : List String :=
  ["[", "alias", "bg", "cd", "chdir", "command", "echo", "false", "fg",
   "getopts", "hash", "jobs", "kill", "local", "printf", "pwd", "read",
   "test", "true", "type", "ulimit", "umask", "unalias", "wait"]

/-- Whether faults in a command of the shell itself end the shell. -/
def isSpecialName (name : String) : Bool :=
  specialNames.contains name || name == "local"

/-- Whether the shell itself runs a command. -/
def isOwnName (name : String) : Bool :=
  specialNames.contains name || plainNames.contains name

/-- What a name of a command stands for. -/
inductive Meaning where
  | function (body : Command)
  | own
  /-- A program at a path. -/
  | program (path : String)
  | missing (why : IoFault)

/-- Looks for a program in the folders of a search path. -/
def searchPath (disk : Disk) (name : String) :
    List String → IoFault → Except IoFault String
  | [], fault => .error fault
  | folder :: more, fault =>
    let path := Local.inFolder folder name
    match disk.find (Text.unpackText path) with
    | .ok (_, .folder) | .ok (_, .file _ false) =>
      searchPath disk name more .denied
    | .ok _ => .ok path
    | .error problem =>
      searchPath disk name more
        (if problem = .notFound ∨ problem = .notFolder then fault
          else problem)

/-- Finds out what a name stands for; functions may be left out. -/
def meaningOf (withFunctions : Bool) (path : Option String)
    (name : String) : Sh Meaning := do
  let s ← get
  if name.toList.contains '/' then return .program name
  match withFunctions, s.functions.lookup name with
  | true, some body => return .function body
  | _, _ =>
    if isOwnName name then return .own
    let folders :=
      (path.orElse fun () => s.binding? "PATH").getD ""
    match searchPath (← request .look) name (folders.splitOn ":")
        .notFound with
    | .ok found => return .program found
    | .error problem => return .missing problem

/-- What is said of a program that cannot be started. -/
def startFault (name : String) (problem : IoFault) : String :=
  name ++ ": "
    ++ (if problem = .notFound ∨ problem = .notFolder then "not found"
        else problem.bareMessage)

-- ========================================================= showing

/-- Shows what a name stands for. -/
def describe (inFull : Bool) (path : Option String) (name : String) :
    Sh Nat := do
  let say (whole brief : String) : Sh Nat := do
    out ((if inFull then name ++ whole else brief) ++ "\n")
    return 0
  let none_ : Sh Nat := do
    if inFull then out (name ++ ": not found\n")
    return 127
  if keywords.contains name then say " is a shell keyword" name
  else
    match (← get).aliases.lookup name with
    | some value =>
      say (" is an alias for " ++ value)
        ("alias " ++ name ++ "=" ++ quoted value)
    | none =>
      match ← meaningOf true path name with
      | .function _ => say " is a shell function" name
      | .own =>
        say (if isSpecialName name then
          " is a special shell builtin" else " is a shell builtin") name
      | .program found =>
        let there := (← request .look).find (Text.unpackText found)
        if there.toOption.isSome then say (" is " ++ found) found
        else none_
      | .missing _ => none_

/-- Shows what names stand for. -/
def typeWords (words : List String) : Sh Nat := do
  let mut code := 0
  for name in words do code := max code (← describe true none name)
  return code

/-- Looks for programs ahead of their use. -/
def hashWords (words : List String) : Sh Nat := do
  let (_, names) ← options [('r', false)] words
  let mut code := 0
  for name in names do
    match ← meaningOf true none name with
    | .missing problem =>
      warn (startFault name problem)
      code := 1
    | _ => pure ()
  return code

end RemoteProvision.Shell
