/-
Configurations.

A configuration says what to run, how to run it and as whom.  Every
field may be left out.  A text that is empty and a list that is empty
mean the same as a field that is left out; the defaults stand here, and
the fields of a configuration that says nothing have them.
-/
import RemoteProvision.Environment.Assembly

namespace RemoteProvision

-- ======================================================== defaults

namespace Defaults

/-- The command that runs a script. -/
def executeCommand : String :=
  "if (Test-Path variable:global:ProgressPreference)\x7b"
    ++ "$ProgressPreference='SilentlyContinue'\x7d;"
    ++ "\x7b\x7b.Vars\x7d\x7d&'\x7b\x7b.Path\x7d\x7d';"
    ++ "exit $LastExitCode"

/-- The command that runs a script elevated; its variables come from a
script that it reads first. -/
def elevatedExecuteCommand : String :=
  "if (Test-Path variable:global:ProgressPreference)\x7b"
    ++ "$ProgressPreference='SilentlyContinue'\x7d; "
    ++ ". \x7b\x7b.Vars\x7d\x7d; &'\x7b\x7b.Path\x7d\x7d'; "
    ++ "exit $LastExitCode"

/-- How one variable is written. -/
def envVarFormat : String := "$env:%s=\"%s\"; "

/-- How long upload and start are tried. -/
def startRetryTimeout : String := "5m"

/-- The exit codes that count as success. -/
def validExitCodes : List Int := [0]

/-- Where a script is uploaded, for an id. -/
def remotePath (id : String) : String :=
  "c:/Windows/Temp/script-" ++ id ++ ".ps1"

end Defaults

-- ========================================================== config

/-- A configuration as it is written. -/
structure Config where
  buildName : String := ""
  builderType : String := ""
  /-- Whether scripts are uploaded without a change of line ends. -/
  binary : Bool := false
  /-- Commands that make up one script. -/
  inlineCommands : List String := []
  script : Option String := none
  scripts : List String := []
  environmentVars : List String := []
  remotePath : Option String := none
  executeCommand : String := Defaults.executeCommand
  elevatedExecuteCommand : String := Defaults.elevatedExecuteCommand
  startRetryTimeout : String := Defaults.startRetryTimeout
  envVarFormat : String := Defaults.envVarFormat
  elevatedEnvVarFormat : String := Defaults.envVarFormat
  elevatedUser : Option String := none
  elevatedPassword : Option String := none
  validExitCodes : List Int := Defaults.validExitCodes
deriving DecidableEq

/-- A text that is there and not empty. -/
def nonEmpty (value : Option String) : Option String :=
  value.filter fun s => !s.isEmpty

/-- A text, or another one if it is empty. -/
def orDefault (value default : String) : String :=
  if value.isEmpty then default else value

namespace Config

/-- What the build is called. -/
def identity (c : Config) : Environment.BuildIdentity :=
  ⟨c.buildName, c.builderType⟩

/-- The script files that will run, in order.  A single script takes the
place of the list. -/
def scriptFiles (c : Config) : List String :=
  match nonEmpty c.script with
  | some script => [script]
  | none => c.scripts

end Config

end RemoteProvision
