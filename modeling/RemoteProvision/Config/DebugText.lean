/-
Debugging texts.

Settings, credentials and what a run is prepared from have a one-line
text for logs: the name of the type, then its fields in braces.  Texts
are quoted.  A password is never part of such a text; in its place
stands a fixed mark.
-/
import RemoteProvision.Config.Settings
import RemoteProvision.Text.Quoted

namespace RemoteProvision

-- ========================================================= records

/-- A record with its fields, each a name and a written value; `more`
says that fields are left out at the end. -/
def recordText (name : String) (fields : List (String × String))
    (more : Bool) : String :=
  let entries := fields.map fun f => f.1 ++ ": " ++ f.2
  name ++ " \x7b "
    ++ String.intercalate ", " (if more then entries ++ [".."] else entries)
    ++ " \x7d"

/-- A list of quoted texts. -/
def quotedList (texts : List String) : String :=
  Text.bracketed (texts.map Text.quoted)

-- ============================================================ types

def Environment.BuildIdentity.debugText
    (b : Environment.BuildIdentity) : String :=
  recordText "BuildIdentity"
    [("build_name", Text.quoted b.buildName),
     ("builder_type", Text.quoted b.builderType)] false

def Environment.Assembler.debugText
    (a : Environment.Assembler) : String :=
  recordText "EnvironmentAssembler"
    [("identity", a.identity.debugText),
     ("user_vars", quotedList a.userVars),
     ("format", Text.quoted a.format),
     ("elevated_format", Text.quoted a.elevatedFormat)] true

/-- The password is not shown. -/
def Credentials.debugText (c : Credentials) : String :=
  recordText "ElevatedCredentials"
    [("user", Text.quoted c.user),
     ("password", Text.quoted "<redacted>")] false

/-- An optional value. -/
def optionText (value : Option String) : String :=
  match value with
  | none => "None"
  | some text => "Some(" ++ text ++ ")"

def Settings.debugText (s : Settings) : String :=
  recordText "Settings"
    [("identity", s.identity.debugText),
     ("binary", Text.truthText s.binary),
     ("scripts", Text.bracketed (s.scripts.map Text.quotedPath)),
     ("inline", quotedList s.inlineCommands),
     ("environment_vars", quotedList s.environmentVars),
     ("remote_path", Text.quoted s.remotePath),
     ("execute_command", Text.quoted s.executeCommand),
     ("elevated_execute_command",
       Text.quoted s.elevatedExecuteCommand),
     ("start_retry_timeout", s.startRetryTimeout.debugText),
     ("env_var_format", Text.quoted s.envVarFormat),
     ("elevated_env_var_format", Text.quoted s.elevatedEnvVarFormat),
     ("elevated", optionText (s.elevated.map Credentials.debugText)),
     ("valid_exit_codes",
       Text.bracketed (s.validExitCodes.map fun c => toString c))]
    false

end RemoteProvision
