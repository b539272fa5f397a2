/-
Reading a configuration.

A configuration is a YAML mapping from the names of fields to their
values; an empty document is a configuration that says nothing.  A field
may be given once.  Names that are no fields are passed over with their
values, however deep those are.

A text field takes any scalar as it is written, so a number or a truth
value needs no quotes.  A list field takes a sequence; left empty, it is
the empty list.  A field that may be missing counts as missing when it
is empty or null, unless it is quoted or tagged as something else.
-/
import RemoteProvision.Config.Settings
import RemoteProvision.Yaml.Node
import RemoteProvision.Yaml.Number

namespace RemoteProvision.Config

open RemoteProvision.Yaml (Node Document Style)

-- ========================================================= values

/-- Why a value does not fit its field. -/
abbrev Misfit := String

/-- A scalar as a text. -/
def readText (d : Document) (n : Node) : Except Misfit String :=
  match d.deref n with
  | some (.scalar _ _ text) => .ok text
  | _ => .error "expected a string"

/-- Whether a scalar may be read as a value of a type: it is plain, or a
literal block with the tag of the type. -/
def readsAs (tag : String) (style : Style) (own : Option String) :
    Bool :=
  style == .plain || (style == .literal && own == some tag)

/-- The tags of types. -/
def typeTag (name : String) : String := "tag:yaml.org,2002:" ++ name

/-- A truth value. -/
def readTruth (d : Document) (n : Node) : Except Misfit Bool :=
  match d.deref n with
  | some (.scalar style tag text) =>
    if !readsAs (typeTag "bool") style tag then
      .error "expected a boolean"
    else if ["true", "True", "TRUE"].contains text then .ok true
    else if ["false", "False", "FALSE"].contains text then .ok false
    else .error "expected a boolean"
  | _ => .error "expected a boolean"

/-- A whole number of 32 bits. -/
def readCode (d : Document) (n : Node) : Except Misfit Int :=
  match d.deref n with
  | some (.scalar style tag text) =>
    if !readsAs (typeTag "int") style tag then
      .error "expected a number"
    else
      match Yaml.Number.read? text with
      | none => .error "expected a number"
      | some code =>
        if -2147483648 ≤ code ∧ code ≤ 2147483647 then .ok code
        else .error "expected a number of 32 bits"
  | _ => .error "expected a number"

/-- Whether a scalar is empty and plain. -/
def isBlankScalar (style : Style) (text : String) : Bool :=
  style == .plain && text.isEmpty

/-- A list of values. -/
def readList {α : Type} (d : Document)
    (entry : Node → Except Misfit α) (n : Node) :
    Except Misfit (List α) :=
  match d.deref n with
  | some (.sequence items) => items.mapM entry
  | some (.scalar style _ text) =>
    if isBlankScalar style text then .ok []
    else .error "expected a sequence"
  | _ => .error "expected a sequence"

/-- The texts that stand for nothing. -/
def isNull (text : String) : Bool :=
  ["null", "Null", "NULL", "~"].contains text

/-- A text that may be missing. -/
def readOptional (d : Document) (n : Node) :
    Except Misfit (Option String) :=
  match d.deref n with
  | some (.scalar .plain tag text) =>
    match tag with
    | some own =>
      if own ≠ typeTag "null" then .ok (some text)
      else if isNull text then .ok none
      else .error "expected null"
    | none => .ok (if text.isEmpty || isNull text then none else some text)
  | _ => (readText d n).map some

-- ========================================================== fields

/-- A field by its name: how its value changes a configuration. -/
def setField (d : Document) (name : String) (n : Node) (c : Config) :
    Option (Except Misfit Config) :=
  let text (set : String → Config) := some ((readText d n).map set)
  let texts (set : List String → Config) :=
    some ((readList d (readText d) n).map set)
  let optional (set : Option String → Config) :=
    some ((readOptional d n).map set)
  match name with
  | "packer_build_name" => text fun s => { c with buildName := s }
  | "packer_builder_type" => text fun s => { c with builderType := s }
  | "binary" => some ((readTruth d n).map fun b => { c with binary := b })
  | "inline" => texts fun l => { c with inlineCommands := l }
  | "script" => optional fun s => { c with script := s }
  | "scripts" => texts fun l => { c with scripts := l }
  | "environment_vars" => texts fun l => { c with environmentVars := l }
  | "remote_path" => optional fun s => { c with remotePath := s }
  | "execute_command" => text fun s => { c with executeCommand := s }
  | "elevated_execute_command" =>
    text fun s => { c with elevatedExecuteCommand := s }
  | "start_retry_timeout" =>
    text fun s => { c with startRetryTimeout := s }
  | "env_var_format" => text fun s => { c with envVarFormat := s }
  | "elevated_env_var_format" =>
    text fun s => { c with elevatedEnvVarFormat := s }
  | "elevated_user" => optional fun s => { c with elevatedUser := s }
  | "elevated_password" =>
    optional fun s => { c with elevatedPassword := s }
  | "valid_exit_codes" =>
    some ((readList d (readCode d) n).map fun l =>
      { c with validExitCodes := l })
  | _ => none

/-- Reads fields one after the other; `given` are those read before. -/
def readFields (d : Document) (given : List String) (c : Config) :
    List (Node × Node) → Except Misfit Config
  | [] => .ok c
  | (key, value) :: rest => do
    let name ← readText d key
    match setField d name value c with
    | none => readFields d given c rest
    | some result =>
      if given.contains name then
        throw ("duplicate field \x60" ++ name ++ "\x60")
      match result with
      | .ok c' => readFields d (name :: given) c' rest
      | .error misfit => throw (name ++ ": " ++ misfit)

/-- Reads the configuration of a document. -/
def ofDocument (d : Document) : Except Misfit Config :=
  match d.root with
  | none => .ok {}
  | some root =>
    match d.deref root with
    | some (.mapping entries) => readFields d [] {} entries
    | some (.scalar style _ text) =>
      if isBlankScalar style text then .ok {}
      else .error "expected a configuration"
    | _ => .error "expected a configuration"

-- ========================================================= loading

/-- The configuration that a text holds, before it is checked. -/
def parse (text : String) : Except Issue Config :=
  match Document.read text with
  | .error fault => .error (.parse fault.message)
  | .ok d =>
    match ofDocument d with
    | .error misfit => .error (.parse misfit)
    | .ok c => .ok c

/-- Reads a configuration from a text and checks it. -/
def ofYaml (disk : Disk) (text : String) :
    Except ProvisionError Config :=
  match parse text with
  | .error issue => .error (.config [issue])
  | .ok c => c.validate disk

/-- Reads a configuration from a file and checks it. -/
def load (disk : Disk) (path : String) :
    Except ProvisionError Config :=
  match disk.readText path with
  | .error fault => .error (.config [.unreadable path fault.message])
  | .ok text => ofYaml disk text

end RemoteProvision.Config
