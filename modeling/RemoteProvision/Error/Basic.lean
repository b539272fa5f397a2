/-
What can go wrong.

A configuration has any number of issues, and they are reported
together.  A run has one error: the first thing that stopped it.  Each
error has a text, an exit code, and the texts of the causes behind it.

A remote channel fails either locally, in reading or writing, or because
the other side refused.
-/
import RemoteProvision.Duration.Basic
import RemoteProvision.Error.System
import RemoteProvision.Template.Basic
import RemoteProvision.Text.Quoted

namespace RemoteProvision

-- ========================================================= channel

/-- Why a channel failed. -/
inductive ChannelFault where
  | io (fault : IoFault)
  | remote (text : String)
deriving DecidableEq

/-- The text of a channel fault. -/
def ChannelFault.message : ChannelFault → String
  | .io fault => fault.message
  | .remote text => text

-- ========================================================== issues

/-- One problem of a configuration. -/
inductive Issue where
  | unreadable (path reason : String)
  | parse (reason : String)
  | scriptAndScripts
  | missingElevatedPassword
  | missingElevatedUser
  | noScripts
  | scriptAndInline
  | badScript (path reason : String)
  | badEnvironmentVar (text : String)
  | badRetryTimeout (value reason : String)
deriving DecidableEq

/-- The text of an issue. -/
def Issue.message : Issue → String
  | .unreadable path reason =>
    "failed to read config file '" ++ path ++ "': " ++ reason
  | .parse reason => "failed to parse config YAML: " ++ reason
  | .scriptAndScripts =>
    "Only one of script or scripts can be specified."
  | .missingElevatedPassword =>
    "Must supply an 'elevated_password' if 'elevated_user' provided"
  | .missingElevatedUser =>
    "Must supply an 'elevated_user' if 'elevated_password' provided"
  | .noScripts =>
    "Either a script file or inline script must be specified."
  | .scriptAndInline =>
    "Only a script file or an inline script can be specified, not both."
  | .badScript path reason =>
    "Bad script '" ++ path ++ "': " ++ reason
  | .badEnvironmentVar text =>
    "Environment variable not in format 'key=value': " ++ text
  | .badRetryTimeout value reason =>
    "Invalid start_retry_timeout '" ++ value ++ "': " ++ reason

/-- All issues as one text: how many, then one to a line. -/
def issuesMessage (issues : List Issue) : String :=
  toString issues.length
    ++ (if issues.length = 1 then " error" else " errors")
    ++ " occurred:\n"
    ++ String.join (issues.map fun i => "\n* " ++ i.message)

-- ========================================================== errors

/-- What stops a run. -/
inductive ProvisionError where
  | config (issues : List Issue)
  /-- A script file cannot be opened. -/
  | scriptOpen (path : String) (fault : IoFault)
  /-- The inline commands cannot be staged. -/
  | inlineScript (reason : String)
  | template (fault : Template.Fault)
  | encoding (reason : String)
  | upload (path : String) (fault : ChannelFault)
  | start (fault : ChannelFault)
  /-- Upload or start kept failing until the time was over. -/
  | retriesExhausted (timeout : Duration) (last : ProvisionError)
  | wait (fault : ChannelFault)
  /-- A script ended with a code that is not allowed. -/
  | nonZeroExit (code : Int) (allowed : List Int)

namespace ProvisionError

/-- The text of an error. -/
def message : ProvisionError → String
  | config issues => issuesMessage issues
  | scriptOpen path fault =>
    "Error opening powershell script '" ++ path ++ "': "
      ++ fault.message
  | inlineScript reason =>
    "Unable to extract inline scripts into a file: " ++ reason
  | template fault => "Error processing command: " ++ fault.message
  | encoding reason => "Error encoding command: " ++ reason
  | upload path fault =>
    "Error uploading '" ++ path ++ "': " ++ fault.message
  | start fault =>
    "Error starting remote command: " ++ fault.message
  | retriesExhausted timeout last =>
    "Retryable error: " ++ last.message ++ " (gave up after "
      ++ toString timeout.seconds ++ "s)"
  | wait fault =>
    "Error waiting for remote command: " ++ fault.message
  | nonZeroExit code allowed =>
    "Script exited with non-zero exit status: " ++ toString code
      ++ ". Allowed exit codes are: "
      ++ Text.bracketed (allowed.map fun c => toString c)

/-- The texts of the causes behind an error, nearest first. -/
def causes : ProvisionError → List String
  | config issues => [issuesMessage issues]
  | scriptOpen _ fault => [fault.message]
  | inlineScript _ => []
  | template fault => [fault.message]
  | encoding _ => []
  | upload _ fault => [fault.message]
  | start fault => [fault.message]
  | retriesExhausted _ last => last.message :: last.causes
  | wait fault => [fault.message]
  | nonZeroExit _ _ => []

/-- The exit code of the program for an error: 1 for what the user gave
it, 2 for a command that cannot be built, 3 for the channel and 4 for a
script that failed. -/
def exitCode : ProvisionError → Nat
  | config _ => 1
  | scriptOpen _ _ => 1
  | inlineScript _ => 1
  | template _ => 2
  | encoding _ => 2
  | upload _ _ => 3
  | start _ => 3
  | retriesExhausted _ _ => 3
  | wait _ => 3
  | nonZeroExit _ _ => 4

end ProvisionError

end RemoteProvision
