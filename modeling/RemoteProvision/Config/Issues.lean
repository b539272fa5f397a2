/-
The problems of a configuration.

Four concerns are looked at on their own: where the scripts come from,
who runs them, the variables, and the time for retries.  Each of them
has its own list of problems, so none hides another.  All of them are
reported together, always in the same order.
-/
import RemoteProvision.Config.Basic
import RemoteProvision.Disk.Files
import RemoteProvision.Duration.Reading
import RemoteProvision.Error.Basic

namespace RemoteProvision.Config

-- ======================================================== concerns

/-- Both ways of naming script files were used. -/
def namingIssues (c : Config) : List Issue :=
  if (nonEmpty c.script).isSome ∧ c.scripts ≠ [] then
    [.scriptAndScripts]
  else []

/-- A user without a password, or a password without a user. -/
def credentialIssues (c : Config) : List Issue :=
  match nonEmpty c.elevatedUser, nonEmpty c.elevatedPassword with
  | some _, none => [.missingElevatedPassword]
  | none, some _ => [.missingElevatedUser]
  | _, _ => []

/-- Nothing to run, or two kinds of things to run. -/
def sourceIssues (c : Config) : List Issue :=
  if c.scriptFiles = [] ∧ c.inlineCommands = [] then [.noScripts]
  else if c.scriptFiles ≠ [] ∧ c.inlineCommands ≠ [] then
    [.scriptAndInline]
  else []

/-- A script file that is not there. -/
def fileIssue (disk : Disk) (path : String) : Option Issue :=
  match disk.check path with
  | .ok () => none
  | .error fault => some (.badScript path fault.message)

/-- The script files that are not there. -/
def fileIssues (disk : Disk) (c : Config) : List Issue :=
  c.scriptFiles.filterMap (fileIssue disk)

/-- The variables that are no assignments. -/
def variableIssues (c : Config) : List Issue :=
  (c.environmentVars.filter fun text =>
    (Environment.splitAssignment text).isNone).map .badEnvironmentVar

/-- A time for retries that cannot be read. -/
def timeoutIssues (c : Config) : List Issue :=
  if c.startRetryTimeout.isEmpty then []
  else
    match Duration.read c.startRetryTimeout with
    | .ok _ => []
    | .error fault =>
      [.badRetryTimeout c.startRetryTimeout fault.message]

-- ============================================================= all

/-- All problems of a configuration. -/
def issues (disk : Disk) (c : Config) : List Issue :=
  c.namingIssues ++ c.credentialIssues ++ c.sourceIssues
    ++ c.fileIssues disk ++ c.variableIssues ++ c.timeoutIssues

end RemoteProvision.Config
