/-
Requests to the program.

The arguments name one verb, its operand and options.  They are read from
left to right.  Options may stand before the verb, as far as they are
known there, and on both sides of the operand; behind a divider
everything is an operand.  No option may be given twice at one place.

A value is looked at when the next option or operand has been recognised,
or at the end.  So an argument that nothing is known about is reported
before the value in front of it, and that value before the help that is
asked for behind it.
-/
import RemoteProvision.Cli.Word
import RemoteProvision.Duration.Reading

namespace RemoteProvision.Cli

-- ========================================================= requests

/-- What the program is asked to do. -/
inductive Request where
  | validate (config : String)
  | render (config : String) (httpAddr : Option String)
  /-- The pause between attempts is in milliseconds. -/
  | run (config : String) (machineReadable : Bool)
      (httpAddr : Option String) (retryDelay : Nat)
  | decode (argument : String)
deriving DecidableEq

/-- A request, and whether diagnostics are wanted. -/
structure Invocation where
  request : Request
  verbose : Bool
deriving DecidableEq

/-- The pause between attempts unless one is given, in milliseconds. -/
def defaultRetryDelay : Nat := 2000

/-- Why there is no request. -/
inductive Refusal where
  /-- The user asks for help. -/
  | help
  /-- The user asks for the version, perhaps behind a verb. -/
  | version (verb : Option Verb)
  /-- There are no arguments to speak of. -/
  | nothing
  | missingVerb
  | unknownVerb
  | unknownArgument
  | missingOperand
  /-- An option has no value, or a path is empty. -/
  | missingValue
  /-- A value is no number, or too large a one. -/
  | badValue
  /-- A switch has a value. -/
  | unneededValue
  | repeated
deriving DecidableEq

-- ============================================================ draft

/-- What has been recognised, but not yet looked at. -/
inductive Waiting where
  | nothing
  | operand (text : String)
  /-- A setting, with its value if that has come. -/
  | setting (setting : Setting) (value : Option String)
deriving DecidableEq

/-- What the arguments have said so far. -/
structure Draft where
  verbose : Bool := false
  machineReadable : Bool := false
  httpAddr : Option String := none
  retryDelay : Option Nat := none
  /-- Whether the operand has come. -/
  hasOperand : Bool := false
  operand : Option String := none
  waiting : Waiting := .nothing
deriving DecidableEq

/-- A number of milliseconds: digits, perhaps behind a `+`, for a number
of 64 bits. -/
def readMillis? (text : String) : Option Nat :=
  let digits :=
    match text.toList with
    | '+' :: rest => rest
    | cs => cs
  if digits ≠ [] ∧ digits.all Char.isDigit then
    let n := Duration.digitsValue digits
    if n < 0x10000000000000000 then some n else none
  else none

namespace Draft

/-- Notes the operand of a verb. -/
def setOperand (d : Draft) (verb : Option Verb) (text : String) :
    Except Refusal Draft :=
  if text = "" ∧ (verb.any Verb.takesPath) then .error .missingValue
  else .ok { d with operand := some text }

/-- Notes a setting. -/
def set (d : Draft) (setting : Setting) (value : String) :
    Except Refusal Draft :=
  match setting with
  | .httpAddr =>
    if d.httpAddr.isSome then .error .repeated
    else .ok { d with httpAddr := some value }
  | .retryDelay =>
    if d.retryDelay.isSome then .error .repeated
    else
      match readMillis? value with
      | some n => .ok { d with retryDelay := some n }
      | none => .error .badValue

/-- Looks at what is waiting. -/
def settle (d : Draft) (verb : Option Verb) : Except Refusal Draft :=
  let settled := { d with waiting := .nothing }
  match d.waiting with
  | .nothing => .ok settled
  | .operand text => settled.setOperand verb text
  | .setting _ none => .error .missingValue
  | .setting setting (some value) => settled.set setting value

/-- Notes a switch. -/
def flip (d : Draft) (verb : Option Verb) (switch : Switch) :
    Except Refusal Draft := do
  let d ← d.settle verb
  match switch with
  | .help => .error .help
  | .version => .error (.version verb)
  | .verbose =>
    if d.verbose then .error .repeated
    else .ok { d with verbose := true }
  | .machineReadable =>
    if d.machineReadable then .error .repeated
    else .ok { d with machineReadable := true }

/-- Notes the switches of a row of letters. -/
def flipAll (d : Draft) (verb : Option Verb) :
    List Char → Except Refusal Draft
  | [] => .ok d
  | letter :: rest =>
    match switch? letter with
    | none => .error .unknownArgument
    | some switch => do (← d.flip verb switch).flipAll verb rest

/-- Notes a long option. -/
def long (d : Draft) (verb : Option Verb) (name : String)
    (value : Option String) : Except Refusal Draft :=
  match named? verb name, value with
  | none, _ => .error .unknownArgument
  | some (.switch switch), none => d.flip verb switch
  | some (.switch _), some _ => .error .unneededValue
  | some (.setting setting), some value => do
    (← d.settle verb).set setting value
  | some (.setting setting), none => do
    let d ← d.settle verb
    return { d with waiting := .setting setting none }

/-- Notes plain text that belongs to no option. -/
def place (d : Draft) (verb : Verb) (text : String) :
    Except Refusal Draft :=
  if d.hasOperand then .error .unknownArgument
  else do
    let d ← d.settle (some verb)
    return { d with hasOperand := true, waiting := .operand text }

/-- Notes plain text: the value of the option in front of it, or else the
operand. -/
def plain (d : Draft) (verb : Verb) (text : String) :
    Except Refusal Draft :=
  match d.waiting with
  | .setting setting none =>
    .ok { d with waiting := .setting setting (some text) }
  | _ => d.place verb text

/-- Reads the arguments behind a verb and a divider. -/
def readOperands (verb : Verb) :
    List String → Draft → Except Refusal Draft
  | [], d => d.settle (some verb)
  | text :: rest, d => do readOperands verb rest (← d.place verb text)

/-- Reads the arguments behind a verb. -/
def readBehind (verb : Verb) : List String → Draft → Except Refusal Draft
  | [], d => d.settle (some verb)
  | text :: rest, d =>
    match Word.ofText text with
    | .divider => readOperands verb rest d
    | .long name value => do
      readBehind verb rest (← d.long (some verb) name value)
    | .letters letters => do
      readBehind verb rest (← d.flipAll (some verb) letters)
    | .plain => do readBehind verb rest (← d.plain verb text)

/-- The request of a verb and its arguments. -/
def request (d : Draft) (verb : Verb) : Except Refusal Request :=
  match d.operand with
  | none => .error .missingOperand
  | some operand =>
    .ok <|
      match verb with
      | .validate => .validate operand
      | .render => .render operand d.httpAddr
      | .run =>
        .run operand d.machineReadable d.httpAddr
          (d.retryDelay.getD defaultRetryDelay)
      | .decode => .decode operand

end Draft

-- ====================================================== all arguments

/-- Why help on some words gives no request: there is help on the program
and on every single verb, and on help itself. -/
def helpOn (words : List String) : Refusal :=
  match words with
  | [] => .help
  | [word] => if isVerbWord word then .help else .unknownVerb
  | _ :: _ :: _ => .unknownVerb

/-- Why a divider before any verb gives no request. -/
def refuseDivided (words : List String) (d : Draft) : Refusal :=
  match words with
  | [] => if d.verbose then .missingVerb else .nothing
  | word :: _ => if isVerbWord word then .unknownArgument else .unknownVerb

/-- Reads arguments from before the verb on. -/
def readFrom : List String → Draft → Except Refusal Invocation
  | [], d => .error (if d.verbose then .missingVerb else .nothing)
  | text :: rest, d =>
    if text = helpWord then .error (helpOn rest)
    else
      match Verb.ofWord? text with
      | some verb => do
        let behind ← Draft.readBehind verb rest {}
        return ⟨← behind.request verb, d.verbose || behind.verbose⟩
      | none =>
        match Word.ofText text with
        | .divider => .error (refuseDivided rest d)
        | .long name value => do readFrom rest (← d.long none name value)
        | .letters letters => do readFrom rest (← d.flipAll none letters)
        | .plain => .error .unknownVerb

/-- Reads the arguments of the program. -/
def Invocation.read (arguments : List String) :
    Except Refusal Invocation :=
  readFrom arguments {}

-- ====================================================== diagnostics

/-- Which diagnostics are written, as a filter text. -/
def diagnostics (verbose : Bool) : String :=
  if verbose then "psprov=debug" else "warn"

end RemoteProvision.Cli
