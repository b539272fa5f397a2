/-
Names on the disk that a pattern matches.

A word with a pattern in it stands for all paths of the disk that the
pattern matches, in the order of their bytes; a word that no path
matches stands for itself.  A pattern is matched name by name, and a
name that begins with a point is only matched by a point.

Patterns and the words they stand for are packed bytes.
-/
import RemoteProvision.Disk.Path
import RemoteProvision.Shell.Pattern
import RemoteProvision.Text.Packed

namespace RemoteProvision.Shell.Pattern

/-- Whether a pattern matches anything but one text. -/
def isActive : List Char → Bool
  | [] => false
  | '\x5c' :: _ :: rest => isActive rest
  | c :: rest => c == '*' || c == '?' || c == '[' || isActive rest

/-- The text of a pattern that has no meaning left. -/
def plainChars : List Char → List Char
  | [] => []
  | '\x5c' :: c :: rest => c :: plainChars rest
  | c :: rest => c :: plainChars rest

/-- The names in a folder that a pattern matches. -/
def namesIn (disk : Disk) (folder : Place) (pattern : String) :
    List String :=
  let hidden := pattern.toList.head? == some '.'
  let own := disk.items.filterMap fun item =>
    match item.1.getLast? with
    | none => none
    | some name =>
      if item.1.dropLast == folder then some (Text.packText name)
      else none
  (if hidden then "." :: ".." :: own else own).filter fun name =>
    admits pattern name && (hidden || name.toList.head? != some '.')

/-- The paths that patterns for one name each match, from a folder on;
`front` is how the path to the folder is written. -/
def pathsFrom (disk : Disk) :
    List String → Place → String → List String
  | [], _, front => [front]
  | pattern :: more, folder, front =>
    let lookUp (name : String) : Option Place :=
      match disk.walk folder [Text.unpackText name] with
      | .ok (.found place _) => some place
      | _ => none
    let names :=
      if isActive pattern.toList then namesIn disk folder pattern
      else [String.ofList (plainChars pattern.toList)]
    names.flatMap fun name =>
      match lookUp name with
      | none => []
      | some place =>
        pathsFrom disk more place
          (front ++ name ++ (if more.isEmpty then "" else "/"))

/-- The paths that a pattern matches, in order. -/
def paths (disk : Disk) (pattern : String) : List String :=
  let rooted := startsAtRoot pattern
  let names := pathNames pattern
  let found := pathsFrom disk
    (if endsInSlash pattern && !names.isEmpty then names ++ ["."]
      else names)
    (if rooted then [] else disk.home) (if rooted then "/" else "")
  let shown :=
    if endsInSlash pattern then
      found.map fun path => (path.dropEnd 1).toString
    else found
  shown.mergeSort fun a b => decide (a ≤ b)

end RemoteProvision.Shell.Pattern
