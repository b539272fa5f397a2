/-
Commands of the shell itself that change its settings.

They set variables and mark them, set options and parameters, and keep
other names for commands.
-/
import RemoteProvision.Shell.Expansion
import RemoteProvision.Shell.Own.Words

namespace RemoteProvision.Shell

-- ======================================================= variables

/-- Lists variables, with a word in front of each. -/
def listVariables (front : String) (isIn : Variable → Bool) :
    Sh Unit := do
  let shown := (← get).bindings.filter fun b => isIn b.2
  let sorted := shown.mergeSort fun a b => decide (a.1 ≤ b.1)
  let gap := if front.isEmpty then "" else " "
  for b in sorted do
    let value :=
      match b.2.value with
      | none => ""
      | some text => "=" ++ quoted text
    out (front ++ gap ++ b.1 ++ value ++ "\n")

/-- Sets and marks variables. -/
def mark (command : String) (isIn : Variable → Bool)
    (change : Variable → Variable) (words : List String) : Sh Nat := do
  let (flags, names) ← options [('p', false)] words
  if names.isEmpty || !flags.isEmpty then
    listVariables command isIn
  else
    for word in names do
      let (name, value) := cutAtEquals word
      if ((← get).bindings.lookup name).isNone then checkName name
      match value with
      | some text => assign name text
      | none => pure ()
      modifyVariable name change
  return 0

/-- Makes variables local to the function that runs. -/
def localWords (words : List String) : Sh Nat := do
  if (← get).hidden.isEmpty then fault "not in a function"
  let (_, names) ← options [] words
  for word in names do
    let (name, value) := cutAtEquals word
    if ((← get).bindings.lookup name).isNone then checkName name
    hide name
    match value with
    | some text => assign name text
    | none => pure ()
  return 0

/-- Takes away variables, or functions. -/
def unsetWords (words : List String) : Sh Nat := do
  let (flags, names) ← options [('v', false), ('f', false)] words
  let functions := (flags.getLast?.map (·.1)) == some 'f'
  for name in names do
    if functions then
      modify fun s =>
        { s with functions := s.functions.filter (·.1 != name) }
    else
      match (← get).bindings.lookup name with
      | none => checkName name
      | some v =>
        if v.readOnly then fault (name ++ ": is read only")
        modify fun s =>
          { s with bindings := s.bindings.filter (·.1 != name) }
  return 0

-- ========================================================= options

/-- The options of a shell by name, with their letters. -/
def optionNames : List (String × Option Char) :=
  [("errexit", some 'e'), ("noglob", some 'f'),
   ("ignoreeof", some 'I'), ("interactive", some 'i'),
   ("monitor", some 'm'), ("noexec", some 'n'), ("stdin", some 's'),
   ("xtrace", some 'x'), ("verbose", some 'v'), ("vi", some 'V'),
   ("emacs", some 'E'), ("noclobber", some 'C'),
   ("allexport", some 'a'), ("notify", some 'b'),
   ("nounset", some 'u'), ("privileged", some 'p'), ("nolog", none),
   ("debug", none)]

/-- Sets or clears an option. -/
def setOption (letter : Char) (on : Bool) : Sh Unit := do
  if !(optionNames.any fun o => o.2 == some letter) then
    fault ("Illegal option -" ++ letter.toString)
  modify fun s =>
    { s with
      options := (if on then [letter] else [])
        ++ s.options.filter (· != letter) }

/-- Lists the options. -/
def listOptions (asCommands : Bool) : Sh Unit := do
  let s ← get
  if !asCommands then out "Current option settings\n"
  for o in optionNames do
    let isOn := o.2.any s.has
    if asCommands then
      out ("set " ++ (if isOn then "-o " else "+o ") ++ o.1 ++ "\n")
    else
      out (o.1 ++ String.ofList (List.replicate (16 - o.1.length) ' ')
        ++ (if isOn then "on" else "off") ++ "\n")

/-- Sets or clears the option of a name. -/
def setNamed (name : String) (on : Bool) : Sh Unit := do
  match optionNames.lookup name with
  | none => fault ("Illegal option -o " ++ name)
  | some none => pure ()
  | some (some letter) => setOption letter on

/-- Follows the letters of options, each of which may take a name from
the words behind. -/
def setLetters (on : Bool) : List Char → List String → Sh (List String)
  | [], words => return words
  | 'o' :: more, words => do
    match words with
    | [] =>
      listOptions (!on)
      setLetters on more []
    | name :: rest =>
      setNamed name on
      setLetters on more rest
  | c :: more, words => do
    setOption c on
    setLetters on more words

/-- Follows the words of `set` in front of the parameters; answers with
the parameters if they are given. -/
def setWords : Nat → List String → Sh (Option (List String))
  | 0, _ => return none
  | _, [] => return none
  | fuel + 1, word :: rest => do
    match word.toList with
    | ['-', '-'] => return some rest
    | ['-'] =>
      modify fun s =>
        { s with
          options := s.options.filter fun o => o != 'x' && o != 'v' }
      return if rest.isEmpty then none else some rest
    | '-' :: letters => setWords fuel (← setLetters true letters rest)
    | '+' :: letters => setWords fuel (← setLetters false letters rest)
    | _ => return some (word :: rest)

/-- Sets options and parameters, or lists the variables. -/
def setCommand (words : List String) : Sh Nat := do
  if words.isEmpty then listVariables "" fun v => v.value.isSome
  else
    match ← setWords (words.length + 1) words with
    | none => pure ()
    | some parameters =>
      modify fun s =>
        { s with parameters := parameters, nextOption := 1, letter := 0 }
  return 0

/-- Drops parameters at the front. -/
def shiftWords (words : List String) : Sh Nat := do
  let count ←
    match words with
    | [] => pure 1
    | word :: _ => number word
  if (← get).parameters.length < count then
    fault "can't shift that many"
  modify fun s =>
    { s with
      parameters := s.parameters.drop count, nextOption := 1, letter := 0 }
  return 0

/-- Takes the next option from parameters or words. -/
def getoptsWords (words : List String) : Sh Nat := do
  let (_, words) ← options [] words
  match words with
  | known :: name :: given =>
    let s ← get
    let given := if given.isEmpty then s.parameters else given
    let start := if given.length + 1 < s.nextOption then 1 else s.nextOption
    let off := if given.length + 1 < s.nextOption then 0 else s.letter
    let current : List Char :=
      if start ≤ 1 || off == 0 then []
      else ((given[start - 2]?).getD "").toList.drop off
    let silent := known.startsWith ":"
    let finish (next off : Nat) (c : Char) (code : Nat) : Sh Nat := do
      assign "OPTIND" (toString next)
      modify fun s => { s with nextOption := next, letter := off }
      assign name c.toString
      return code
    let unsetArgument : Sh Unit := modify fun s =>
      { s with bindings := s.bindings.filter (·.1 != "OPTARG") }
    let read (next off : Nat) (letters : List Char) : Sh Nat := do
      match letters with
      | [] => finish next 0 '?' 1
      | c :: behind =>
        let off := if behind.isEmpty then 0 else off + 1
        let spec := known.toList.dropWhile (· != c)
        match c == ':', spec with
        | false, _ :: ':' :: _ =>
          match behind, given[next - 1]? with
          | [], none =>
            if silent then
              assign "OPTARG" c.toString
              finish next 0 ':' 0
            else
              let _ ← write 2
                ("No arg for -" ++ c.toString ++ " option\n")
              unsetArgument
              finish next 0 '?' 0
          | [], some word =>
            assign "OPTARG" word
            finish (next + 1) 0 c 0
          | behind, _ =>
            assign "OPTARG" (String.ofList behind)
            finish next 0 c 0
        | false, _ :: _ =>
          assign "OPTARG" ""
          finish next off c 0
        | _, _ =>
          if silent then assign "OPTARG" c.toString
          else
            let _ ← write 2 ("Illegal option -" ++ c.toString ++ "\n")
            unsetArgument
          finish next off '?' 0
    if !current.isEmpty then read start off current
    else
      match given[start - 1]? with
      | none => finish start 0 '?' 1
      | some word =>
        match word.toList with
        | ['-', '-'] => finish (start + 1) 0 '?' 1
        | '-' :: c :: cs => read (start + 1) 1 (c :: cs)
        | _ => finish start 0 '?' 1
  | _ => fault "Usage: getopts optstring var [arg]"

-- ===================================================== other names

/-- Where the list of aliases begins to show a name. -/
def aliasRank (name : String) : Nat :=
  match name.toList with
  | [] => 0
  | c :: cs =>
    ((c :: cs).foldl (fun n d => n + d.toNat) (c.toNat * 16)) % 39

/-- Keeps other names for commands, or lists them. -/
def aliasWords (words : List String) : Sh Nat := do
  let shown (name value : String) : Sh Unit :=
    out (name ++ "=" ++ quoted value ++ "\n")
  if words.isEmpty then
    let sorted := (← get).aliases.mergeSort fun a b =>
      aliasRank a.1 ≤ aliasRank b.1
    for a in sorted do shown a.1 a.2
  let mut code := 0
  for word in words do
    match cutAtEquals word with
    | (name, some value) =>
      modify fun s => { s with aliases := setEntry name value s.aliases }
    | (name, none) =>
      match (← get).aliases.lookup name with
      | some value => shown name value
      | none =>
        let _ ← write 2 ("alias: " ++ name ++ " not found\n")
        code := 1
  return code

/-- Forgets other names. -/
def unaliasWords (words : List String) : Sh Nat := do
  let (flags, names) ← options [('a', false)] words
  if !flags.isEmpty then
    modify fun s => { s with aliases := [] }
    return 0
  let mut code := 0
  for name in names do
    if ((← get).aliases.lookup name).isSome then
      modify fun s => { s with aliases := s.aliases.filter (·.1 != name) }
    else
      let _ ← write 2 ("unalias: " ++ name ++ " not found\n")
      code := 1
  return code

-- ========================================================= folders

/-- The path of the folder that relative paths start from. -/
def homePath : Sh String := do
  let disk ← request .look
  return Text.packText ("/" ++ String.intercalate "/" disk.home)

/-- Goes to another folder. -/
def cdWords (words : List String) : Sh Nat := do
  let (_, names) ← options [('L', false), ('P', false)] words
  let s ← get
  let (target, shows) :=
    match names.head? with
    | none => ((s.binding? "HOME").getD "", false)
    | some "-" => ((s.binding? "OLDPWD").getD "", true)
    | some path => (path, false)
  let before ← homePath
  let path := if target.isEmpty then "." else target
  let moved ← request (.change fun disk =>
    match disk.find (Text.unpackText path) with
    | .ok (place, .folder) => (⟨[], [], 0⟩, { disk with home := place })
    | _ => (⟨[], [], 1⟩, disk))
  if moved.code != 0 then fault ("can't cd to " ++ target)
  let after ← homePath
  modifyVariable "OLDPWD" fun _ => ⟨some before, true, false⟩
  modifyVariable "PWD" fun _ => ⟨some after, true, false⟩
  if shows then out (after ++ "\n")
  return 0

/-- A number in base eight, with a zero in front. -/
def octal (n : Nat) : String :=
  let digits := Nat.toDigits 8 n
  String.ofList (List.replicate (4 - digits.length) '0' ++ digits)

/-- What the owners of a new file may do with it, in letters. -/
def maskLetters (mask : Nat) : String :=
  let letters (n : Nat) : String :=
    (if n % 8 / 4 = 0 then "r" else "")
      ++ (if n % 4 / 2 = 0 then "w" else "")
      ++ (if n % 2 = 0 then "x" else "")
  "u=" ++ letters (mask / 64) ++ ",g=" ++ letters (mask / 8) ++ ",o="
    ++ letters mask

/-- Shows or sets what new files may not be used for. -/
def umaskWords (words : List String) : Sh Nat := do
  let (flags, names) ← options [('S', false)] words
  match names.head? with
  | none =>
    let mask := (← get).mask
    out ((if flags.isEmpty then octal mask else maskLetters mask) ++ "\n")
  | some word =>
    if word.toList.head?.any Char.isDigit then
      let isOctal (c : Char) := '0' ≤ c && c ≤ '7'
      if !word.toList.all isOctal then fault ("Illegal number: " ++ word)
      modify fun s =>
        { s with
          mask := (word.toList.foldl
            (fun n c => 8 * n + (c.toNat - 48)) 0) % 512 }
  return 0

end RemoteProvision.Shell
