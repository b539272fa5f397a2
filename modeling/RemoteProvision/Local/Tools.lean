/-
Programs of the system that print.

A few small programs come with every system.  A program is started with
a name, arguments and variables, all of them packed bytes, and ends with
an exit code; whatever it reads and prints goes through its streams.

What a program prints is written when it is complete, except where it
passes on what it reads.
-/
import RemoteProvision.Kernel.Course
import RemoteProvision.Local.Condition
import RemoteProvision.Local.Printf
import RemoteProvision.Local.Quoting

namespace RemoteProvision.Local

open RemoteProvision.Kernel (Act Call)
open RemoteProvision.Text (Bytes)

-- =========================================================== types

/-- What a program is started with. -/
structure Invocation where
  name : String
  arguments : List String
  environment : List (String × String)

/-- What a program does, up to its exit code. -/
abbrev Tool := Invocation → Act Unit Nat

/-- Writes to a stream, and tells why it cannot. -/
def put (stream : Nat) (bytes : Bytes) : Act Unit (Option IoFault) := do
  if bytes.isEmpty then return none
  match ← Act.ask (.write stream bytes) with
  | .ok _ => return none
  | .error fault => return some fault

/-- Says something in the name of the program. -/
def Invocation.say (i : Invocation) (text : String) : Act Unit Unit := do
  let _ ← put 2 (Text.unpack (i.name ++ ": " ++ text ++ "\n"))

/-- Points to the help of the program. -/
def Invocation.hint (i : Invocation) : Act Unit Unit := do
  let _ ← put 2
    (Text.unpack
      ("Try '" ++ i.name ++ " --help' for more information.\n"))

/-- Says what is wrong and ends. -/
def Invocation.fails (i : Invocation) (code : Nat) (text : String) :
    Act Unit Nat := do
  i.say text
  return code

/-- Says what is wrong with the arguments and ends. -/
def Invocation.refuses (i : Invocation) (text : String) :
    Act Unit Nat := do
  i.say text
  i.hint
  return 1

/-- Prints and ends with an exit code, if printing works. -/
def Invocation.prints (i : Invocation) (code : Nat) (bytes : Bytes) :
    Act Unit Nat := do
  match ← put 1 bytes with
  | none => return code
  | some fault => i.fails 1 ("write error: " ++ fault.bareMessage)

/-- A line of packed text as bytes. -/
def lineBytes (text : String) : Bytes := Text.unpack text ++ [10]

/-- A path as the disk knows it. -/
def pathOf (word : String) : String := Text.unpackText word

-- ========================================================= options

/-- Words behind a dash, up to the first that is none, and the words
behind them; `--` ends the options. -/
def takeFlags : List String → List Char × List String
  | [] => ([], [])
  | word :: rest =>
    match word.toList with
    | ['-', '-'] => ([], rest)
    | '-' :: c :: cs =>
      let (flags, words) := takeFlags rest
      (c :: cs ++ flags, words)
    | _ => ([], word :: rest)

/-- Words behind a dash, wherever they are, and the other words; behind
`--` there are only those. -/
def gatherFlags : List String → List Char × List String
  | [] => ([], [])
  | word :: rest =>
    match word.toList with
    | ['-', '-'] => ([], rest)
    | '-' :: c :: cs =>
      let (flags, words) := gatherFlags rest
      (c :: cs ++ flags, words)
    | _ =>
      let (flags, words) := gatherFlags rest
      (flags, word :: words)

/-- What is wrong with an option. -/
def badOption (letter : Char) : String :=
  if letter = '-' then "unrecognized option"
  else "invalid option -- '" ++ String.ofList [letter] ++ "'"

/-- Does something with the option letters and the other words, if the
letters are known. -/
def Invocation.withFlags (i : Invocation) (known : String)
    (act : List Char → List String → Act Unit Nat) : Act Unit Nat :=
  let (flags, words) := gatherFlags i.arguments
  match flags.find? (!known.toList.contains ·) with
  | some letter => i.refuses (badOption letter)
  | none => act flags words

-- ======================================================== printing

/-- Whether a word is an option of `echo`. -/
def isEchoOption (word : String) : Bool :=
  match word.toList with
  | '-' :: c :: cs =>
    (c :: cs).all fun o => o == 'n' || o == 'e' || o == 'E'
  | _ => false

/-- Prints its arguments with spaces between them. -/
def echo : Tool := fun i => do
  let options := i.arguments.takeWhile isEchoOption
  let words := i.arguments.drop options.length
  let flags := options.flatMap String.toList
  let escapes := flags.foldl
    (fun on c => if c = 'e' then true else if c = 'E' then false else on)
    false
  let text := String.intercalate " " words
  let (bytes, ended) :=
    if escapes then
      Printf.escapedText ⟨true, true⟩ (text.length + 1) text.toList
    else (Text.unpack text, false)
  i.prints 0 (if ended || flags.contains 'n' then bytes
    else bytes ++ [10])

/-- What is said of an argument that should be a number. -/
def badNumberText (word : String) : Printf.BadNumber → String
  | .notNumeric => quote word ++ ": expected a numeric value"
  | .partly => quote word ++ ": value not completely converted"
  | .outOfRange => quote word ++ ": " ++ faultText 34
  | .behindQuoted rest =>
    "warning: " ++ rest
      ++ ": character(s) following character constant have been ignored"

/-- What is said when printing has to end. -/
def printFaultText : Printf.PrintFault → String
  | .unknown conversion | .missing conversion =>
    conversion ++ ": invalid conversion specification"
  | .badWidth word => "invalid field width: " ++ quote word
  | .badPrecision word => "invalid precision: " ++ quote word

/-- Whether a complaint is only a warning. -/
def isWarning : Printf.BadNumber → Bool
  | .behindQuoted _ => true
  | _ => false

/-- Prints through a format. -/
def printf : Tool := fun i => do
  let arguments :=
    match i.arguments with
    | "--" :: rest => rest
    | all => all
  match arguments with
  | [] => i.refuses "missing operand"
  | format :: words =>
    let p := Printf.print true format words
    for c in p.complaints do i.say (badNumberText c.1 c.2)
    match p.fault with
    | some fault =>
      i.say (printFaultText fault)
      i.prints 1 p.out
    | none =>
      i.prints (if p.complaints.all (isWarning ·.2) then 0 else 1) p.out

/-- Prints the variables, or the value of one. -/
def printenv : Tool := fun i =>
  match i.arguments with
  | [] =>
    i.prints 0
      (i.environment.flatMap fun v => lineBytes (v.1 ++ "=" ++ v.2))
  | names =>
    let values := names.map fun n => i.environment.lookup n
    i.prints (if values.all Option.isSome then 0 else 1)
      (values.flatMap fun v => (v.map lineBytes).getD [])

/-- Prints the folder that relative paths start from. -/
def pwd : Tool := fun i => do
  let disk ← Act.ask .look
  i.prints 0 (lineBytes
    (Text.packText ("/" ++ String.intercalate "/" disk.home)))

/-- A path without the slashes at its end. -/
def bareEnd (path : String) : String :=
  let cs := (path.toList.reverse.dropWhile (· == '/')).reverse
  if cs.isEmpty && !path.isEmpty then "/" else String.ofList cs

/-- Prints the last name of a path, perhaps without an ending. -/
def basename : Tool := fun i =>
  match i.arguments with
  | [] => i.refuses "missing operand"
  | path :: more =>
    let bare := bareEnd path
    let name :=
      if bare == "/" then bare
      else
        String.ofList (bare.toList.reverse.takeWhile (· != '/')).reverse
    let ending := more.headD ""
    let cut := name.length - ending.length
    let name :=
      if ending.length < name.length && name.endsWith ending then
        (name.take cut).toString
      else name
    i.prints 0 (lineBytes name)

/-- Prints the folder of a path. -/
def dirname : Tool := fun i =>
  match i.arguments with
  | [] => i.refuses "missing operand"
  | paths =>
    i.prints 0 (paths.flatMap fun path =>
      let bare := bareEnd path
      let front := bare.toList.reverse.dropWhile (· != '/')
      lineBytes
        (if front.isEmpty then "."
          else bareEnd (String.ofList front.reverse)))

/-- How numbers are listed. -/
structure Listing where
  between : String := "\n"
  sameWidth : Bool := false

/-- Follows the options of `seq`; a number may begin with a dash. -/
def Listing.words : Nat → Listing → List String →
    Except String (Listing × List String)
  | 0, l, words => .ok (l, words)
  | _, l, [] => .ok (l, [])
  | fuel + 1, l, word :: rest =>
    match word.toList with
    | ['-', '-'] => .ok (l, rest)
    | ['-', 's'] =>
      match rest with
      | [] => .error "option requires an argument -- 's'"
      | text :: rest => words fuel { l with between := text } rest
    | '-' :: 's' :: text =>
      words fuel { l with between := String.ofList text } rest
    | ['-', 'w'] => words fuel { l with sameWidth := true } rest
    | '-' :: c :: _ =>
      if c.isDigit || c = '.' then .ok (l, word :: rest)
      else .error (badOption c)
    | _ => .ok (l, word :: rest)

/-- The numbers from one to another. -/
def Listing.text (l : Listing) (first step last : Int) : Bytes :=
  let count :=
    if 0 < step then (last - first) / step + 1
    else (first - last) / (-step) + 1
  let numbers := (List.range count.toNat).map fun (n : Nat) =>
    first + (n : Int) * step
  let width := max (toString first).length (toString last).length
  let shown (n : Int) : String :=
    let digits := (toString n.natAbs).toList
    let sign := if n < 0 then ['-'] else []
    let zeros :=
      if l.sameWidth then width - sign.length - digits.length else 0
    String.ofList (sign ++ List.replicate zeros '0' ++ digits)
  if numbers.isEmpty then []
  else lineBytes (String.intercalate l.between (numbers.map shown))

/-- Prints the whole numbers between two others. -/
def seq : Tool := fun i => do
  match Listing.words (i.arguments.length + 1) {} i.arguments with
  | .error text => i.refuses text
  | .ok (l, words) =>
    match words.find? (·.toInt?.isNone), words.filterMap String.toInt? with
    | some word, _ =>
      i.refuses ("invalid floating point argument: " ++ quote word)
    | none, [] => i.refuses "missing operand"
    | none, [last] => i.prints 0 (l.text 1 1 last)
    | none, [first, last] => i.prints 0 (l.text first 1 last)
    | none, [first, step, last] =>
      if step = 0 then i.refuses "invalid Zero increment value: '0'"
      else i.prints 0 (l.text first step last)
    | none, _ :: _ :: _ :: _ =>
      i.refuses ("extra operand " ++ quote (words[3]?.getD ""))

-- ======================================================= passing on

/-- How much is read at once. -/
def chunkSize : Nat := 131072

/-- How many chunks are read at most. -/
def chunkLimit : Nat := 1000000

/-- Passes on what a stream holds; tells why it cannot. -/
def passOn (i : Invocation) (stream : Nat) (name : String) :
    Nat → Act Unit Nat
  | 0 => return 0
  | fuel + 1 => do
    match ← Act.ask (.read stream chunkSize) with
    | .error fault =>
      i.fails 1 (quoteIfNeeded name ++ ": " ++ fault.bareMessage)
    | .ok [] => return 0
    | .ok bytes =>
      match ← put 1 bytes with
      | some fault =>
        i.say ("write error: " ++ fault.bareMessage)
        Act.finish (.exited 1)
      | none => passOn i stream name fuel

/-- All that a stream holds. -/
def readAll (stream : Nat) : Nat → Bytes → Act Unit (Except IoFault Bytes)
  | 0, found => return .ok found
  | fuel + 1, found => do
    match ← Act.ask (.read stream chunkSize) with
    | .error fault => return .error fault
    | .ok [] => return .ok found
    | .ok bytes => readAll stream fuel (found ++ bytes)

-- ========================================================= waiting

/-- The microseconds of a span such as `0.5`, `2s` or `1m`. -/
def spanOf? (word : String) : Option Nat :=
  let whole := word.toList.takeWhile Char.isDigit
  let behind := word.toList.drop whole.length
  let (part, behind) :=
    match behind with
    | '.' :: rest =>
      let part := rest.takeWhile Char.isDigit
      (part, rest.drop part.length)
    | _ => ([], behind)
  let micros :=
    ((String.ofList ((part ++ List.replicate 6 '0').take 6)).toNat?).getD 0
  let seconds := ((String.ofList whole).toNat?).getD 0
  let total := seconds * 1000000 + micros
  if whole.isEmpty && part.isEmpty then none
  else
    match behind with
    | [] | ['s'] => some total
    | ['m'] => some (total * 60)
    | ['h'] => some (total * 3600)
    | ['d'] => some (total * 86400)
    | _ => none

/-- Lets time pass. -/
def sleep : Tool := fun i => do
  if i.arguments.isEmpty then i.refuses "missing operand"
  else
    let bad := i.arguments.filter fun w => (spanOf? w).isNone
    if bad.isEmpty then
      let spans := i.arguments.filterMap spanOf?
      let _ ← Act.ask (.pause (spans.foldl (· + ·) 0))
      return 0
    else
      for word in bad do
        i.say ("invalid time interval " ++ quote word)
      i.hint
      return 1

-- ====================================================== conditions

/-- Looks at a condition; in its bracket form the last word closes it.
Answers with the status and perhaps what is wrong. -/
def testWords (inBrackets : Bool) (words : List String) (disk : Disk) :
    Nat × Option String :=
  if inBrackets && words.getLast? != some "]" then
    (2, some "missing ]")
  else
    let words := if inBrackets then words.dropLast else words
    match Condition.holds disk 4 words with
    | .ok true => (0, none)
    | .ok false => (1, none)
    | .error fault => (2, some fault.message)

/-- Looks at a condition. -/
def test (inBrackets : Bool) : Tool := fun i => do
  match testWords inBrackets i.arguments (← Act.ask .look) with
  | (code, none) => return code
  | (code, some "missing ]") => i.fails code "missing ']'"
  | (code, some text) => i.fails code text

end RemoteProvision.Local
