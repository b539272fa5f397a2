/-
Command lines and helper files.

A command goes to the remote machine in one of two forms: as an encoded
argument, or as the path of a script file there.

A helper file has two names.  Uploads take the PowerShell form of a path
below the TEMP directory, the command line takes the form of the command
interpreter; both mean the same file.
-/
import RemoteProvision.Encoding.Command

namespace RemoteProvision.Command

-- =================================================== command lines

/-- What every encoded command line begins with. -/
def encodedStart : String :=
  "powershell -executionpolicy bypass -encodedCommand "

/-- The line that runs a command as an encoded argument. -/
def encodedLine (command : String) : String :=
  encodedStart ++ Encoding.encodeCommand command

/-- The line that runs a script file. -/
def fileLine (shellPath : String) : String :=
  "powershell -executionpolicy bypass -file \"" ++ shellPath ++ "\""

-- ==================================================== helper files

/-- The two names of one uploaded file. -/
structure RemoteFile where
  uploadPath : String
  shellPath : String
deriving DecidableEq

/-- A file in the TEMP directory of the remote user. -/
def RemoteFile.inTemp (fileName : String) : RemoteFile :=
  ⟨"$\x7benv:TEMP\x7d\\" ++ fileName, "%TEMP%\\" ++ fileName⟩

end RemoteProvision.Command
