/-
The bare system.

What is there before any user has come: the folders at the root, and the
programs that come with the system, each in both folders of programs.
-/
import RemoteProvision.Disk.Basic

namespace RemoteProvision.Local

/-- The names of the programs that come with the system. -/
def toolNames : List String :=
  ["sh", "dash", "bash", "env", "printenv", "echo", "printf", "cat",
   "true", "false", "sleep", "touch", "rm", "mkdir", "rmdir", "cp",
   "mv", "chmod", "ls", "tee", "head", "tail", "wc", "sort", "tr",
   "yes", "seq", "pwd", "basename", "dirname", "test", "["]

/-- The names of the devices. -/
def deviceNames : List String :=
  ["null", "zero", "full", "stdin", "stdout", "stderr"]

/-- The folders of a bare system. -/
def systemFolders : List Place :=
  [["bin"], ["dev"], ["etc"], ["tmp"], ["usr"], ["usr", "bin"]]

/-- What is on the disk of a bare system. -/
def systemItems : List (Place × Item) :=
  systemFolders.map (fun place => (place, .folder))
    ++ deviceNames.map (fun name => (["dev", name], .tool name))
    ++ toolNames.flatMap fun name =>
      [(["bin", name], .tool name), (["usr", "bin", name], .tool name)]

end RemoteProvision.Local
