/-
Help, version and refusals.

Asking for help or for the version is answered on the standard output and
counts as success.  Every other refusal is answered on the standard error
stream, with the exit code 2.
-/
import RemoteProvision.Cli.Answer

namespace RemoteProvision.Cli

/-- The name of the program. -/
def programName : String := "psprov"

/-- The version of the program. -/
def programVersion : String := "0.1.0"

/-- The line that tells the version, also behind a verb. -/
def versionLine (verb : Option Verb) : String :=
  let name :=
    match verb with
    | none => programName
    | some v => programName ++ "-" ++ v.word
  name ++ " " ++ programVersion ++ "\n"

/-- How the program is used. -/
def usageText : String :=
  "Usage: psprov [-v] <COMMAND>\n\n"
    ++ "Commands:\n"
    ++ "  validate <CONFIG>\n"
    ++ "  render <CONFIG> [--http-addr <HTTP_ADDR>]\n"
    ++ "  run <CONFIG> [--machine-readable] [--http-addr <HTTP_ADDR>]"
    ++ " [--retry-delay-ms <RETRY_DELAY_MS>]\n"
    ++ "  decode <ENCODED>\n"
    ++ "  help [COMMAND]\n\n"
    ++ "Options:\n"
    ++ "  -v, --verbose\n"
    ++ "  -h, --help\n"
    ++ "  -V, --version\n"

/-- What a refusal says. -/
def Refusal.message : Refusal → String
  | help => "help was asked for"
  | version _ => "the version was asked for"
  | nothing => "a command is needed"
  | missingVerb => "a command is needed behind the options"
  | unknownVerb => "unrecognized command"
  | unknownArgument => "unexpected argument"
  | missingOperand => "a required argument is missing"
  | missingValue => "a value is required"
  | badValue => "invalid value"
  | unneededValue => "unexpected value"
  | repeated => "an option cannot be used multiple times"

/-- The answer to arguments that are no request. -/
def Refusal.answer (r : Refusal) : Answer :=
  match r with
  | help => ⟨0, usageText, ""⟩
  | version verb => ⟨0, versionLine verb, ""⟩
  | r => ⟨2, "", "error: " ++ r.message ++ "\n\n" ++ usageText⟩

/-- Answers arguments: the one way into the program.  `none` says that a
run was not followed to its end. -/
def answer (m : Machine) (arguments : List String) :
    Option (Answer × Disk) :=
  match Invocation.read arguments with
  | .error refusal => some (refusal.answer, m.disk)
  | .ok invocation => invocation.request.answer m

end RemoteProvision.Cli
