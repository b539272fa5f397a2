/-
Settings.

A configuration without problems becomes settings: every default is
filled in, the credentials are there or not there as a pair, and the
time for retries is a duration.  Only the default upload path needs an
id, and none is drawn when the configuration has problems or names the
path itself.
-/
import RemoteProvision.Config.Issues
import RemoteProvision.Feed

namespace RemoteProvision

-- =========================================================== types

/-- The user that runs scripts elevated. -/
structure Credentials where
  user : String
  password : String
deriving DecidableEq

/-- What a run needs to know. -/
structure Settings where
  identity : Environment.BuildIdentity
  binary : Bool
  scripts : List String
  inlineCommands : List String
  environmentVars : List String
  remotePath : String
  executeCommand : String
  elevatedExecuteCommand : String
  startRetryTimeout : Duration
  envVarFormat : String
  elevatedEnvVarFormat : String
  elevated : Option Credentials
  validExitCodes : List Int
deriving DecidableEq

namespace Settings

/-- Whether an exit code counts as success. -/
def allows (s : Settings) (code : Int) : Bool :=
  s.validExitCodes.contains code

/-- What the variables of a run are made from. -/
def environment (s : Settings) : Environment.Assembler :=
  ⟨s.identity, s.environmentVars, s.envVarFormat,
    s.elevatedEnvVarFormat⟩

end Settings

-- ====================================================== resolution

namespace Config

/-- The time for retries: five minutes unless a positive time is
given. -/
def retryTimeout (c : Config) : Duration :=
  match Duration.read c.startRetryTimeout with
  | .ok timeout =>
    if timeout.nanos = 0 then .ofSeconds 300 else timeout
  | .error _ => .ofSeconds 300

/-- The credentials, if both parts are there. -/
def credentials (c : Config) : Option Credentials :=
  match nonEmpty c.elevatedUser, nonEmpty c.elevatedPassword with
  | some user, some password => some ⟨user, password⟩
  | _, _ => none

/-- The upload path, and the ids that are left. -/
def uploadPath (c : Config) (ids : Feed String) :
    String × Feed String :=
  match nonEmpty c.remotePath with
  | some path => (path, ids)
  | none => (Defaults.remotePath ids.next.1, ids.next.2)

/-- The settings for an upload path. -/
def settingsAt (c : Config) (remotePath : String) : Settings where
  identity := c.identity
  binary := c.binary
  scripts := c.scriptFiles
  inlineCommands := c.inlineCommands
  environmentVars := c.environmentVars
  remotePath := remotePath
  executeCommand :=
    orDefault c.executeCommand Defaults.executeCommand
  elevatedExecuteCommand :=
    orDefault c.elevatedExecuteCommand Defaults.elevatedExecuteCommand
  startRetryTimeout := c.retryTimeout
  envVarFormat := orDefault c.envVarFormat Defaults.envVarFormat
  elevatedEnvVarFormat :=
    orDefault c.elevatedEnvVarFormat Defaults.envVarFormat
  elevated := c.credentials
  validExitCodes :=
    if c.validExitCodes = [] then Defaults.validExitCodes
    else c.validExitCodes

/-- Passes a configuration without problems. -/
def validate (disk : Disk) (c : Config) :
    Except ProvisionError Config :=
  if c.issues disk = [] then .ok c
  else .error (.config (c.issues disk))

/-- Resolves a configuration; answers with the ids that are left
whether it succeeds or not. -/
def resolve (disk : Disk) (c : Config) (ids : Feed String) :
    Except ProvisionError Settings × Feed String :=
  match c.validate disk with
  | .error e => (.error e, ids)
  | .ok c =>
    let (path, left) := c.uploadPath ids
    (.ok (c.settingsAt path), left)

end Config

end RemoteProvision
