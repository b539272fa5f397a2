/-
Running shell commands.

Commands are run one after the other in the shell itself, except for
those that need a process of their own: programs, commands in
parentheses or in the background, the stages of a pipeline, and commands
whose output is wanted.

A command is run in a manner: its failure may be looked at, so that it
does not end a shell that is strict, and it may be the last thing that
a process split off does, so that none needs to be split off for it.

The steps of a shell are bounded by a number, since a script may loop for
ever.
-/
import RemoteProvision.Local.FileTools
import RemoteProvision.Local.Program
import RemoteProvision.Shell.Leaving
import RemoteProvision.Shell.Own.Names
import RemoteProvision.Shell.Own.Printing
import RemoteProvision.Shell.Own.Settings
import RemoteProvision.Shell.Reading

namespace RemoteProvision.Shell

open RemoteProvision.Kernel (Act Course)
open RemoteProvision.Local (Invocation Program)

-- =========================================================== types

/-- How a command is run. -/
structure Way where
  /-- Its failure is looked at. -/
  tested : Bool := false
  /-- Nothing comes behind it. -/
  last : Bool := false

/-- What happens to a loop. -/
inductive Turn where
  | goOn
  | again
  | stop
  /-- The function around it ends. -/
  | leave
deriving DecidableEq

-- =========================================================== loops

/-- What happens to the innermost loop. -/
def turn : Sh Turn := do
  let s ← get
  let set_ (skip : Skip) : Sh Unit := set { s with skip := skip }
  match s.skip with
  | .nothing => return .goOn
  | .body _ => return .leave
  | .loops n =>
    set_ (if n ≤ 1 then .nothing else .loops (n - 1))
    return .stop
  | .rounds n =>
    set_ (if n ≤ 1 then .nothing else .rounds (n - 1))
    return if n ≤ 1 then .again else .stop

/-- Ends loops, or goes on with their next round. -/
def loopWords (goesOn : Bool) (words : List String) : Sh Nat := do
  let count ←
    match words with
    | [] => pure 1
    | word :: _ => do
      let n ← number word
      if n = 0 then fault ("Illegal number: " ++ word)
      pure n
  let n := min count (← get).loops
  if n ≠ 0 then
    modify fun s =>
      { s with skip := if goesOn then .rounds n else .loops n }
  return 0

/-- Counts the loops around a command. -/
def inLoop (change : Nat → Nat) : Sh Unit :=
  modify fun s => { s with loops := change s.loops }

-- ========================================================= trivial

/-- Sets the status. -/
def setStatus (code : Nat) : Sh Unit :=
  modify fun s => { s with status := code }

/-- Ends a function or file. -/
def returnWords (words : List String) : Sh Nat := do
  match words with
  | [] =>
    modify fun s => { s with skip := .body false }
    return (← get).status
  | word :: _ =>
    let n ← number word
    modify fun s => { s with skip := .body true }
    return n

/-- Ends the shell. -/
def exitWords (words : List String) : Sh Nat := do
  match words with
  | [] => pure ()
  | word :: _ =>
    let n ← number word
    modify fun s => { s with savedStatus := some n }
  throw .exit

/-- A command of the shell itself that runs no others. -/
def runOwn (name : String) (words : List String) : Sh Nat := do
  match name with
  | ":" | "true" => return 0
  | "false" => return 1
  | "echo" => echoWords words
  | "printf" => printfWords words
  | "test" => testCommand false words
  | "[" => testCommand true words
  | "read" => readWords words
  | "pwd" =>
    out ((← homePath) ++ "\n")
    return 0
  | "cd" | "chdir" => cdWords words
  | "set" => setCommand words
  | "shift" => shiftWords words
  | "getopts" => getoptsWords words
  | "export" =>
    mark name (·.exported) (fun v => { v with exported := true }) words
  | "readonly" =>
    mark name (·.readOnly) (fun v => { v with readOnly := true }) words
  | "local" => localWords words
  | "unset" => unsetWords words
  | "alias" => aliasWords words
  | "unalias" => unaliasWords words
  | "umask" => umaskWords words
  | "ulimit" =>
    out "unlimited\n"
    return 0
  | "times" =>
    out "0m0.000000s 0m0.000000s\n0m0.000000s 0m0.000000s\n"
    return 0
  | "trap" => trapWords words
  | "kill" => killWords words
  | "wait" => waitWords words
  | "jobs" => listJobs
  | "fg" | "bg" => fault "No current job"
  | "type" => typeWords words
  | "hash" => hashWords words
  | "break" => loopWords false words
  | "continue" => loopWords true words
  | "return" => returnWords words
  | "exit" => exitWords words
  | _ => return 0

-- ======================================================== programs

/-- Another program takes the place of the shell. -/
def become {α : Type} (course : Course) : Sh α :=
  ExceptT.lift fun _ _ => .ask .become fun _ => course

/-- The places where a program is looked for. -/
def candidates (path name : String) : List String :=
  if name.toList.contains '/' then [name]
  else (path.splitOn ":").map fun folder => Local.inFolder folder name

/-- The first of some files that can be started, or why none can. -/
def startable (disk : Disk) : List String → IoFault →
    Except IoFault (String × Option Program)
  | [], problem => .error problem
  | path :: more, problem =>
    match Local.programAt disk Local.interpreterLimit
        (Text.unpackText path) with
    | .ok p => .ok (path, some p)
    | .error f =>
      if f = .notRunnable then .ok (path, none)
      else
        startable disk more
          (if f = .notFound ∨ f = .notFolder then problem else f)

/-- The status when a program cannot be started. -/
def startStatus (problem : IoFault) : Nat :=
  if problem = .notFound ∨ problem = .notFolder ∨ problem = .nameTooLong
      ∨ problem = .system 40 then 127
  else 126

/-- What a program is called and given. -/
def Program.invocation (p : Program) (name : String)
    (words : List String) (environment : List (String × String)) :
    Invocation :=
  { name := (p.interpreter.map Text.packText).getD name
    arguments := p.leading.map Text.packText ++ words
    environment := environment }

/-- The words of `env`: the variables of the program and its words. -/
def envWords : Nat → List (String × String) → List String →
    Except String (List (String × String) × List String)
  | 0, vars, words => .ok (vars, words)
  | _, vars, [] => .ok (vars, [])
  | fuel + 1, vars, word :: rest =>
    match word.toList with
    | ['-', '-'] => .ok (vars, rest)
    | ['-'] | ['-', 'i'] => envWords fuel [] rest
    | ['-', 'u'] =>
      envWords fuel (vars.filter (·.1 != rest.headD "")) rest.tail
    | '-' :: c :: _ => .error c.toString
    | _ =>
      match cutAtEquals word with
      | (name, some value) => envWords fuel (setEntry name value vars) rest
      | (_, none) => .ok (vars, word :: rest)

-- ========================================================= startup

/-- What a shell is asked to run. -/
inductive Script where
  | text (s : String)
  | file (path : String)
  | input

/-- Follows the words that a shell is started with. -/
def startWords : Nat → Bool → List String → Sh (Bool × List String)
  | 0, fromText, words => return (fromText, words)
  | _, fromText, [] => return (fromText, [])
  | fuel + 1, fromText, word :: rest => do
    match word.toList with
    | ['-', '-'] | ['-'] => return (fromText, rest)
    | '-' :: letters =>
      let left ← setLetters true (letters.filter (· != 'c')) rest
      startWords fuel (fromText || letters.contains 'c') left
    | '+' :: letters =>
      startWords fuel fromText (← setLetters false letters rest)
    | _ => return (fromText, word :: rest)

/-- Finds out what a shell is asked to run. -/
def startup (words : List String) : Sh Script := do
  let (fromText, rest) ← startWords (words.length + 1) false words
  let parameters (name : Option String) (words : List String) :
      Sh Unit :=
    modify fun s =>
      { s with name := name.getD s.name, parameters := words }
  match fromText, rest with
  | true, [] => fault "-c requires an argument"
  | true, text :: more =>
    parameters more.head? more.tail
    return .text text
  | false, [] =>
    modify fun s => { s with options := 's' :: s.options }
    return .input
  | false, path :: more =>
    if (← get).has 's' then
      parameters none rest
      return .input
    else
      let place ← newStream
      openPath place path { reads := true }
      request (.close place)
      parameters (some path) more
      return .file path

/-- The variables of a new shell. -/
def firstBindings (environment : List (String × String))
    (home : String) (parent : Nat) : List (String × Variable) :=
  let given := environment.filterMap fun v =>
    if isName v.1 then some (v.1, (⟨some v.2, true, false⟩ : Variable))
    else none
  let own (name value : String) : List (String × Variable) :=
    if (given.lookup name).isSome then []
    else [(name, ⟨some value, false, false⟩)]
  setEntry "PWD" ⟨some home, true, false⟩
    (setEntry "IFS" ⟨some " \t\n", false, false⟩
      (setEntry "OPTIND" ⟨some "1", false, false⟩ given))
    ++ own "PATH"
      "/usr/local/sbin:/usr/local/bin:/usr/sbin:/usr/bin:/sbin:/bin"
    ++ own "PS1" "# " ++ own "PS2" "> " ++ own "PS4" "+ "
    ++ own "PPID" (toString parent)

/-- Reads all of a stream. -/
def readStream (stream : Nat) : Nat → List String → Sh String
  | 0, found => return String.join found.reverse
  | fuel + 1, found => do
    match ← request (.read stream 65536) with
    | .ok bytes =>
      if bytes.isEmpty then return String.join found.reverse
      readStream stream fuel (Text.pack bytes :: found)
    | .error _ => return String.join found.reverse

/-- The content of a file. -/
def readPath (path : String) : Sh String := do
  let place ← newStream
  openPath place path { reads := true }
  let text ← readStream place lineLimit []
  request (.close place)
  return text

-- ========================================================= running

/-- Shows a command before it runs. -/
def showCommand (assignments : List (String × String))
    (words : List String) : Sh Unit := do
  let s ← get
  let target :=
    match s.kept with
    | top :: _ => (top.lookup 2).join.getD 2
    | [] => 2
  let shown := assignments.map (fun a => a.1 ++ "=" ++ a.2) ++ words
  let _ ← write target
    ((s.binding? "PS4").getD "" ++ String.intercalate " " shown ++ "\n")

/-- Whether a word is an assignment. -/
def isAssignment (w : Word) : Bool :=
  match w with
  | .text text false :: _ =>
    match cutAtEquals text with
    | (name, some _) => isName name
    | _ => false
  | _ => false

/-- Whether words that look like assignments are expanded as such. -/
def takesAssignments (name : String) : Bool :=
  ["export", "readonly", "local", "alias"].contains name

/-- The file that a name behind a point means. -/
def sourcePath (name : String) : Sh String := do
  if name.toList.contains '/' then return name
  let s ← get
  let disk ← request .look
  let isFile (path : String) : Bool :=
    match disk.find (Text.unpackText path) with
    | .ok (_, .file _ _) => true
    | _ => false
  match (candidates ((s.binding? "PATH").getD "") name).find? isFile with
  | some path => return path
  | none => fault (name ++ ": not found")

/-- Brings the shell back to where it was before a command that did not
come to its end. -/
def unwind (before : State) : Sh Unit := do
  unwindTo before.kept.length keepingLimit
  for _ in List.range ((← get).hidden.length - before.hidden.length) do
    reveal

mutual

/-- Runs a text, line by line. -/
def runText : Nat → Way → String → Sh Nat
  | 0, _, _ => return 0
  | fuel + 1, m, text => do
    let s ← get
    runLines fuel m
      { rest := text.toList, nextText := s.nextText } 0

/-- Runs the lines of a source; the status is that of the last of
them. -/
def runLines : Nat → Way → Source → Nat → Sh Nat
  | 0, _, _, status => return status
  | fuel + 1, m, source, status => do
    let s ← get
    match nextCommands { source with aliases := s.aliases } with
    | .error problem =>
      modify fun s => { s with line := problem.line }
      fault problem.problem
    | .ok (none, _) => return status
    | .ok (some commands, source) =>
      modify fun s =>
        { s with
          texts := source.texts ++ s.texts
          nextText := source.nextText
          reached := source.line }
      let code ← runAll fuel m commands
      let status := if commands.isEmpty then status else code
      if (← get).skip != .nothing then return status
      runLines fuel m { source with texts := [] } status

/-- What comes behind a command: signals are heeded, a strict shell ends
if the command failed, and so does one that has nothing else to do. -/
def behind : Nat → Way → Bool → Nat → Sh Nat
  | 0, _, _, status => return status
  | fuel + 1, m, counts, status => do
    if !(← get).traps.isEmpty then
      poll 0
      heedSignals (runText fuel {})
    let s ← get
    if s.has 'e' && counts && !m.tested && status ≠ 0 then
      throw .finished
    if m.last then throw .finished
    return s.status

/-- Runs commands one after the other. -/
def runAll : Nat → Way → List Command → Sh Nat
  | 0, _, _ => return 0
  | fuel + 1, m, [] => behind fuel m false 0
  | fuel + 1, m, [c] => run fuel m c
  | fuel + 1, m, c :: more => do
    let _ ← run fuel { m with last := false } c
    if (← get).skip != .nothing then behind fuel m false 0
    else runAll fuel m more

/-- Runs a command. -/
def run : Nat → Way → Command → Sh Nat
  | 0, _, _ => return 0
  | fuel + 1, m, c => do
    poll commandCost
    heedSignals (runText fuel {})
    let s ← get
    if s.has 'n' then behind fuel m false 0
    else
      let isTested : Way := { tested := true }
      let inner : Way := { tested := m.tested }
      let ends (counts : Bool) (status : Nat) : Sh Nat := do
        setStatus status
        behind fuel m counts status
      match c with
      | .simple line assignments words redirects =>
        modify fun s => { s with line := line }
        ends true (← runSimple fuel m assignments words redirects)
      | .redirected line c redirects =>
        modify fun s => { s with line := line }
        let found ← aims (capture fuel) redirects
        beginKeeping
        let status ←
          if ← follow true found then run fuel inner c else pure 2
        endKeeping false
        ends false status
      | .group body => runAll fuel m body
      | .subshell line body redirects =>
        modify fun s => { s with line := line }
        let found ← aims (capture fuel) redirects
        let act : Sh Nat := do
          if ← follow false found then
            runAll fuel { m with last := true } body
          else throw .fault
        if m.last && !s.hasTraps then
          becomeChild
          act
        else
          let child ← split (runText fuel {}) act
          ends true (← waitFor [child])
      | .branch condition body otherwise =>
        let status ← runAll fuel isTested condition
        if (← get).skip != .nothing then behind fuel m false status
        else if status = 0 then ends false (← runAll fuel m body)
        else if otherwise.isEmpty then ends false 0
        else ends false (← runAll fuel m otherwise)
      | .loop wanted condition body =>
        inLoop (· + 1)
        let status ← runLoop fuel inner wanted condition body 0
        inLoop (· - 1)
        ends false status
      | .each line name words body =>
        modify fun s => { s with line := line }
        let fields ← expandAll fuel words
        inLoop (· + 1)
        let status ← runEach fuel inner name fields body 0
        inLoop (· - 1)
        ends false status
      | .choice line word cases =>
        modify fun s => { s with line := line }
        let text ← expandText (capture fuel) word
        ends false (← runCases fuel m text cases)
      | .pipeline stages =>
        let children ← runStages fuel m false none stages
        ends true (← waitFor children)
      | .inverted c =>
        let status ← run fuel isTested c
        ends false (if status = 0 then 1 else 0)
      | .both first second =>
        let status ← run fuel isTested first
        if status ≠ 0 || (← get).skip != .nothing then
          behind fuel m false status
        else ends false (← run fuel m second)
      | .either first second =>
        let status ← run fuel isTested first
        if status = 0 || (← get).skip != .nothing then
          behind fuel m false status
        else ends false (← run fuel m second)
      | .background c =>
        let children ←
          match c with
          | .pipeline stages => runStages fuel m true none stages
          | c => do
            let (found, c) ←
              match c with
              | .redirected _ c redirects => do
                pure (← aims (capture fuel) redirects, c)
              | c => pure ([], c)
            let child ← split (runText fuel {}) do
              enterBackground true
              if ← follow false found then run fuel { last := true } c
              else throw .fault
            pure [child]
        addJob children
        ends true 0
      | .definition name body =>
        modify fun s =>
          { s with functions := setEntry name body s.functions }
        ends false 0

/-- Repeats a body as long as a condition has the wanted outcome. -/
def runLoop : Nat → Way → Bool → List Command → List Command →
    Nat → Sh Nat
  | 0, _, _, _, _, status => return status
  | fuel + 1, m, wanted, condition, body, status => do
    let found ← runAll fuel { tested := true } condition
    match ← turn with
    | .leave => return found
    | .stop => return status
    | .again => runLoop fuel m wanted condition body status
    | .goOn =>
      if (found = 0) ≠ wanted then return status
      let status ← runAll fuel m body
      match ← turn with
      | .goOn | .again => runLoop fuel m wanted condition body status
      | .stop | .leave => return status

/-- Repeats a body for words. -/
def runEach : Nat → Way → String → List String → List Command →
    Nat → Sh Nat
  | 0, _, _, _, _, status => return status
  | _, _, _, [], _, status => return status
  | fuel + 1, m, name, w :: more, body, _ => do
    assign name w
    let status ← runAll fuel m body
    match ← turn with
    | .goOn | .again => runEach fuel m name more body status
    | .stop | .leave => return status

/-- Runs the first case that matches. -/
def runCases : Nat → Way → String →
    List (List Word × List Command) → Sh Nat
  | 0, _, _, _ => return 0
  | _, _, _, [] => return 0
  | fuel + 1, m, text, (patterns, body) :: more => do
    if ← matchesAny fuel text patterns then
      if body.isEmpty then return 0
      runAll fuel m body
    else runCases fuel m text more

/-- Whether one of some patterns matches. -/
def matchesAny : Nat → String → List Word → Sh Bool
  | 0, _, _ => return false
  | _, _, [] => return false
  | fuel + 1, text, w :: more => do
    if Pattern.admits (← expandPattern (capture fuel) w) text then
      return true
    matchesAny fuel text more

/-- Splits off the stages of a pipeline, each with the output of the one
before as its input. -/
def runStages : Nat → Way → Bool → Option Nat → List Command →
    Sh (List Nat)
  | 0, _, _, _, _ => return []
  | _, _, _, _, [] => return []
  | fuel + 1, m, inBackground, input, c :: more => do
    let output ← newStream
    let nextInput ← newStream
    let goesOn := !more.isEmpty
    if goesOn then request (.pipe nextInput output)
    let child ← split (runText fuel {}) do
      if inBackground then enterBackground input.isNone
      if goesOn then request (.close nextInput)
      match input with
      | some stream => moveStream stream 0
      | none => pure ()
      if goesOn then moveStream output 1
      run fuel { m with last := true } c
    match input with
    | some stream => request (.close stream)
    | none => pure ()
    if goesOn then request (.close output)
    return child ::
      (← runStages fuel m inBackground (some nextInput) more)

/-- The output of commands. -/
def capture : Nat → List Command → Sh String
  | 0, _ => return ""
  | fuel + 1, body => do
    if body.isEmpty then return ""
    let input ← newStream
    let output ← newStream
    request (.pipe input output)
    let child ← split (runText fuel {}) do
      request (.close input)
      moveStream output 1
      runAll fuel { last := true } body
    request (.close output)
    let text ← readStream input lineLimit []
    request (.close input)
    let status ← waitFor [child]
    modify fun s => { s with outputStatus := status }
    return String.ofList (text.toList.filter (· != '\x00'))

/-- Words as fields. -/
def expandAll : Nat → List Word → Sh (List String)
  | 0, _ => return []
  | _, [] => return []
  | fuel + 1, w :: more => do
    let first ← expandFields (capture fuel) w
    return first ++ (← expandAll fuel more)

/-- Expands words until there are fields, unless there are some. -/
def fill : Nat → List String → List Word →
    Sh (List String × List Word)
  | 0, fields, words => return (fields, words)
  | fuel + 1, [], w :: more => do
    fill fuel (← expandFields (capture fuel) w) more
  | _, fields, words => return (fields, words)

/-- Skips the options behind `command`; nothing if they ask for more than
to run the command.  Answers also whether the usual search path is
wanted. -/
def commandOptions : Nat → Bool → List String → List Word →
    Sh (Option (Bool × List String × List Word))
  | 0, _, _, _ => return none
  | fuel + 1, usual, fields, words => do
    let (fields, words) ← fill fuel fields words
    match fields with
    | [] => return none
    | word :: more =>
      match word.toList with
      | ['-', '-'] =>
        let (fields, words) ← fill fuel more words
        return if fields.isEmpty then none else some (usual, fields, words)
      | '-' :: c :: cs =>
        if (c :: cs).all (· == 'p') then
          commandOptions fuel true more words
        else return none
      | _ => return some (usual, fields, words)

/-- What the first fields of a command stand for, and the fields and
words that belong to it.  The name of the first command says whether it
is special. -/
def resolve : Nat → Bool → Option String → Option String →
    List String → List Word →
    Sh (Meaning × Option String × Option String × List String
      × List Word)
  | 0, _, _, _, fields, words =>
    return (.missing .notFound, none, none, fields, words)
  | fuel + 1, withFunctions, path, first, fields, words => do
    let name := fields.headD ""
    let meaning ← meaningOf withFunctions path name
    match meaning with
    | .own =>
      let first := first.orElse fun () => some name
      if name == "command" then
        match ← commandOptions fuel false fields.tail words with
        | none => return (meaning, path, first, fields, words)
        | some (usual, fields, words) =>
          let path :=
            if usual then
              some "/usr/sbin:/usr/bin:/sbin:/bin"
            else path
          resolve fuel false path first fields words
      else return (meaning, path, first, fields, words)
    | _ => return (meaning, path, first, fields, words)

/-- The other words of a command as fields. -/
def expandOthers : Nat → Bool → List Word → Sh (List String)
  | 0, _, _ => return []
  | _, _, [] => return []
  | fuel + 1, asValues, w :: more => do
    let first ←
      if asValues && isAssignment w then do
        pure [← expandValue (capture fuel) w]
      else expandFields (capture fuel) w
    return first ++ (← expandOthers fuel asValues more)

/-- Assigns values in front of a command. -/
def assignAll : Nat → Bool → Bool → List (String × Word) →
    Sh (List (String × String))
  | 0, _, _, _ => return []
  | _, _, _, [] => return []
  | fuel + 1, forCommand, seen, (name, w) :: more => do
    let value ← expandValue (capture fuel) w
    if forCommand then hide name
    assign name value
    if forCommand || seen then
      modifyVariable name fun v => { v with exported := true }
    return (name, value) :: (← assignAll fuel forCommand seen more)

/-- Runs a simple command. -/
def runSimple : Nat → Way → List (String × Word) → List Word →
    List Redirect → Sh Nat
  | 0, _, _, _, _ => return 0
  | fuel + 1, m, assignments, words, redirects => do
    let before ← get
    modify fun s => { s with outputStatus := 0 }
    let (fields, rest) ← fill fuel [] words
    let (meaning, path, first, fields, rest) ←
      if fields.isEmpty then pure (Meaning.own, none, none, [], [])
      else resolve fuel true none none fields rest
    let special := first.any isSpecialName
    let asValues :=
      match meaning with
      | .own => takesAssignments (fields.headD "")
      | _ => false
    let fields := fields ++ (← expandOthers fuel asValues rest)
    let forCommand := !fields.isEmpty && !special
    let isExec := first.isSome && fields.head? == some "exec"
    if forCommand then
      modify fun s => { s with hidden := [] :: s.hidden }
    let found ← aims (capture fuel) redirects
    beginKeeping
    let opened ← follow true found
    let status ←
      if !opened then do
        setStatus 2
        if special then throw .fault
        pure 2
      else do
        let values ←
          assignAll fuel forCommand (isExec && 1 < fields.length)
            assignments
        if (← get).has 'x' then showCommand values fields
        match fields with
        | [] => return (← leaveSimple fuel before false
            (← get).outputStatus)
        | name :: arguments =>
          let meaning ←
            match meaning with
            | .own => pure meaning
            | .function _ => pure meaning
            | _ => meaningOf false path name
          match meaning with
          | .missing problem => do
            warn (startFault name problem)
            pure 127
          | .program _ =>
            if m.last && !(← get).hasTraps then do
              setStatus (← start fuel path name arguments)
              throw .finished
            else do
              let course : Sh Nat := do
                let code ← start fuel path name arguments
                ExceptT.lift (Act.finish (.exited code))
              let child ← ExceptT.lift
                (Act.fork fun s => courseOf (runText fuel {}) course s)
              waitFor [child]
          | .own => runCommand fuel m special before name arguments
          | .function body => runFunction fuel m body arguments
    leaveSimple fuel before isExec status

/-- Ends a simple command: streams and variables are as before. -/
def leaveSimple : Nat → State → Bool → Nat → Sh Nat
  | 0, _, _, status => return status
  | _ + 1, before, forGood, status => do
    endKeeping forGood
    unwind before
    return status

/-- Starts a program in the place of the shell; answers with the status
if that fails. -/
def start : Nat → Option String → String → List String → Sh Nat
  | 0, _, _, _ => return 126
  | fuel + 1, path, name, arguments => do
    let s ← get
    let disk ← request .look
    let path := path.getD ((s.binding? "PATH").getD "")
    match startable disk (candidates path name) .notFound with
    | .ok (_, some p) =>
      become (programCourse fuel p.tool
        (Program.invocation p name arguments s.environment))
    | .ok (found, none) =>
      become (programCourse fuel "sh"
        { name := "/bin/sh", arguments := found :: arguments
          environment := s.environment })
    | .error problem =>
      warn (startFault name problem)
      return startStatus problem

/-- Runs a command of the shell itself; faults of one that is not special
do not end the shell. -/
def runCommand : Nat → Way → Bool → State → String → List String →
    Sh Nat
  | 0, _, _, _, _, _ => return 126
  | fuel + 1, m, special, before, name, arguments => do
    let speaker := (← get).speaker
    modify fun s => { s with speaker := some name }
    let act : Sh Nat := do
      let code ← runInner fuel m name arguments
      flush
      let code ←
        if (← get).unprinted then do
          warn (name ++ ": I/O error")
          pure (code ||| 1)
        else pure code
      setStatus code
      return code
    let depth := (← get).kept.length
    let frames := (← get).hidden.length
    let result ← ExceptT.lift act.run
    modify fun s =>
      { s with held := [], unprinted := false, speaker := speaker }
    match result with
    | .ok code => return code
    | .error stop =>
      if stop = .fault && !special then
        unwindTo depth keepingLimit
        for _ in List.range ((← get).hidden.length - frames) do reveal
        modify fun s => { s with loops := before.loops }
        return (← get).status
      throw stop

/-- Runs a command of the shell itself that may run others. -/
def runInner : Nat → Way → String → List String → Sh Nat
  | 0, _, _, _ => return 126
  | fuel + 1, m, name, words => do
    match name with
    | "eval" =>
      if words.isEmpty then return 0
      runText fuel { tested := m.tested } (String.intercalate " " words)
    | "." =>
      match words with
      | [] => return 0
      | file :: _ =>
        let path ← sourcePath file
        let text ← readPath path
        modify fun s => { s with speaker := some path }
        let status ← runText fuel {} text
        modify fun s =>
          { s with
            skip :=
              match s.skip with
              | .body _ => .nothing
              | skip => skip }
        return status
    | "exec" =>
      let (_, words) ← options [] words
      match words with
      | [] => return 0
      | program :: arguments =>
        setStatus (← start fuel none program arguments)
        throw .finished
    | "command" =>
      let (flags, words) ←
        options [('p', false), ('v', false), ('V', false)] words
      let inFull := flags.any (·.1 == 'V')
      match words with
      | [] => return 0
      | word :: _ =>
        if inFull || flags.any (·.1 == 'v') then describe inFull none word
        else return 0
    | _ => runOwn name words

/-- Runs a function. -/
def runFunction : Nat → Way → Command → List String → Sh Nat
  | 0, _, _, _ => return 126
  | fuel + 1, m, body, words => do
    let s ← get
    set
      { s with
        parameters := words, loops := 0, nextOption := 1, letter := 0 }
    let result ←
      ExceptT.lift (run fuel { tested := m.tested } body).run
    modify fun t =>
      { t with
        parameters := s.parameters
        loops := s.loops
        nextOption := s.nextOption
        letter := s.letter
        skip :=
          match t.skip with
          | .body _ => .nothing
          | skip => skip }
    match result with
    | .ok _ => return (← get).status
    | .error stop => throw stop

/-- The course of a program of the system. -/
def programCourse : Nat → String → Invocation → Course
  | 0, _, _ => .ended (.exited 126)
  | fuel + 1, tool, i =>
    if tool == "sh" || tool == "dash" || tool == "bash" then
      courseOf (runText fuel {}) (runShell fuel i.arguments i.environment)
        { name := i.name, line := 0 }
    else if tool == "env" then
      courseOf (runText fuel {}) (runEnv fuel i) { name := i.name }
    else
      match Local.tool? tool with
      | none => .ended (.exited 0)
      | some act =>
        Act.course
          (do
            let code ← act i
            Act.finish (.exited code))
          ()

/-- Runs a shell that was started with some words and variables. -/
def runShell : Nat → List String → List (String × String) → Sh Nat
  | 0, _, _ => return 126
  | fuel + 1, words, environment => do
    let (process, parent) ← request .identity
    let home ← homePath
    modify fun s =>
      { s with
        bindings := firstBindings environment home parent
        mainProcess := process }
    match ← startup words with
    | .text text =>
      modify fun s => { s with line := 1 }
      runText fuel {} text
    | .file path =>
      let text ← readPath path
      modify fun s => { s with line := 1 }
      runText fuel {} text
    | .input =>
      let text ← readStream 0 lineLimit []
      modify fun s => { s with line := 1 }
      runText fuel {} text

/-- Runs a program with other variables, or shows the variables. -/
def runEnv : Nat → Invocation → Sh Nat
  | 0, _ => return 126
  | fuel + 1, i => do
    let ends {α : Type} (code : Nat) : Sh α :=
      ExceptT.lift (Act.finish (.exited code))
    match envWords (i.arguments.length + 1) i.environment i.arguments with
    | .error letter =>
      let _ ← write 2
        (i.name ++ ": invalid option -- '" ++ letter ++ "'\nTry '"
          ++ i.name ++ " --help' for more information.\n")
      ends 125
    | .ok (vars, []) =>
      let _ ← write 1
        (String.join (vars.map fun v => v.1 ++ "=" ++ v.2 ++ "\n"))
      ends 0
    | .ok (vars, name :: arguments) =>
      let disk ← request .look
      let path := (vars.lookup "PATH").getD "/bin:/usr/bin"
      match startable disk (candidates path name) .notFound with
      | .ok (_, some p) =>
        become (programCourse fuel p.tool
          (Program.invocation p name arguments vars))
      | .ok (found, none) =>
        become (programCourse fuel "sh"
          { name := "/bin/sh", arguments := found :: arguments
            environment := vars })
      | .error problem =>
        let _ ← write 2
          (i.name ++ ": " ++ Local.quote name ++ ": "
            ++ problem.bareMessage ++ "\n")
        let isBlank (c : Char) : Bool :=
          c == ' ' || (9 ≤ c.toNat && c.toNat ≤ 13)
        if problem = .notFound && name.toList.any isBlank then
          let _ ← write 2
            (i.name ++ ": use -[v]S to pass options in shebang lines\n")
        ends (startStatus problem)

end

-- ======================================================= processes

/-- How many steps a shell may take. -/
def stepLimit : Nat := 1000000000

/-- The course of a program with a name, words and variables. -/
def course (p : Program) (name : String) (words : List String)
    (environment : List (String × String)) : Course :=
  programCourse stepLimit p.tool
    (Program.invocation p name words environment)

end RemoteProvision.Shell
