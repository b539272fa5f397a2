/-
Programs of the system that read text.

They print what they read, or some of it, or numbers about it.  Text
comes from the files that are named, or else from the input; a dash
names the input too.  A file that cannot be read is told of, and the
others are read all the same.
-/
import RemoteProvision.Local.Tools

namespace RemoteProvision.Local

open RemoteProvision.Kernel (Act)
open RemoteProvision.Text (Bytes)

-- ========================================================= reading

/-- Does something with a file that is read as stream 3, or with the
input; tells if the file cannot be opened. -/
def withInput {α : Type} (name : String) (act : Nat → Act Unit α) :
    Act Unit (Except IoFault α) := do
  if name == "-" then return .ok (← act 0)
  else
    match ← Act.ask (.openFile 3 (pathOf name) { reads := true }) with
    | .error fault => return .error fault
    | .ok _ => do
      let found ← act 3
      Act.ask (.close 3)
      return .ok found

/-- The names that are read from: the input if there are none. -/
def inputNames (names : List String) : List String :=
  if names.isEmpty then ["-"] else names

/-- Why a file cannot be opened. -/
def cannotOpen (name : String) (fault : IoFault) : String :=
  "cannot open " ++ quoteName name ++ " for reading: "
    ++ fault.bareMessage

/-- What a file, or the input, is called. -/
def calledInput (name : String) : String :=
  if name == "-" then "standard input" else name

/-- Why a file cannot be read. -/
def errorReading (name : String) (fault : IoFault) : String :=
  "error reading " ++ quoteName (calledInput name) ++ ": "
    ++ fault.bareMessage

/-- The line in front of each of several files. -/
def fileHeader (isFirst : Bool) (name : String) : Bytes :=
  (if isFirst then [] else [10])
    ++ lineBytes ("==> " ++ calledInput name ++ " <==")

-- ====================================================== passing on

/-- How `cat` shows what it passes on. -/
structure CatStyle where
  numbersAll : Bool
  numbersFull : Bool
  squeezes : Bool
  showsEnds : Bool
  showsTabs : Bool
  showsOthers : Bool

/-- The style that option letters ask for. -/
def CatStyle.ofFlags (flags : List Char) : CatStyle :=
  let asks (letters : List Char) := flags.any letters.contains
  { numbersAll := asks ['n']
    numbersFull := asks ['b']
    squeezes := asks ['s']
    showsEnds := asks ['e', 'A', 'E']
    showsTabs := asks ['t', 'A', 'T']
    showsOthers := asks ['v', 'e', 't', 'A'] }

/-- Where `cat` is in what it passes on. -/
structure CatPlace where
  /-- The number of the last line that got one. -/
  line : Nat := 0
  atStart : Bool := true
  /-- The line before was empty. -/
  behindEmpty : Bool := false

/-- A byte in a visible form. -/
def visible (b : UInt8) : Bytes :=
  let low := if b < 128 then b else b - 128
  (if b < 128 then [] else [77, 45])
    ++ (if low < 32 then [94, low + 64]
      else if low = 127 then [94, 63]
      else [low])

/-- The number of a line. -/
def lineNumber (n : Nat) : Bytes :=
  let digits := (toString n).toList
  Text.unpack (String.ofList
    (List.replicate (6 - digits.length) ' ' ++ digits ++ ['\t']))

/-- Bytes as they are shown, behind what has been shown already. -/
def showBytes (style : CatStyle) : CatPlace → Bytes → Bytes →
    Bytes × CatPlace
  | place, shown, [] => (shown.reverse, place)
  | place, shown, b :: rest =>
    let isEmpty := place.atStart && b == 10
    let numbered :=
      place.atStart
        && if style.numbersFull then b != 10 else style.numbersAll
    let line := if numbered then place.line + 1 else place.line
    let front := if numbered then (lineNumber line).reverse else []
    if b == 10 then
      if isEmpty && style.squeezes && place.behindEmpty then
        showBytes style place shown rest
      else
        showBytes style
          { line := line, atStart := true, behindEmpty := isEmpty }
          (10 :: (if style.showsEnds then [36] else []) ++ front ++ shown)
          rest
    else
      let form :=
        if b == 9 then if style.showsTabs then visible b else [b]
        else if style.showsOthers then visible b
        else if b == 13 && style.showsEnds && rest.head? == some 10 then
          visible b
        else [b]
      showBytes style { line := line, atStart := false }
        (form.reverse ++ front ++ shown) rest

/-- Shows what files hold, one behind the other. -/
def showFiles (i : Invocation) (style : CatStyle) :
    CatPlace → Nat → List String → Act Unit Nat
  | _, code, [] => return code
  | place, code, name :: more => do
    match ← withInput name fun n => readAll n chunkLimit [] with
    | .ok (.ok bytes) =>
      let (shown, place) := showBytes style place [] bytes
      let printed ← i.prints 0 shown
      showFiles i style place (max code printed) more
    | .ok (.error fault) | .error fault =>
      i.say (quoteIfNeeded name ++ ": " ++ fault.bareMessage)
      showFiles i style place 1 more

/-- Passes on what files hold, as it comes. -/
def passFiles (i : Invocation) : Nat → List String → Act Unit Nat
  | code, [] => return code
  | code, name :: more => do
    match ← withInput name fun n => passOn i n name chunkLimit with
    | .ok found => passFiles i (max code found) more
    | .error fault =>
      i.say (quoteIfNeeded name ++ ": " ++ fault.bareMessage)
      passFiles i 1 more

/-- Prints files, or its input. -/
def cat : Tool := fun i => i.withFlags "AbeEnstTuv" fun flags names => do
  let names := inputNames names
  let code ←
    if flags.all (· == 'u') then passFiles i 0 names
    else showFiles i (CatStyle.ofFlags flags) {} 0 names
  if names.contains "-" then
    match ← Act.ask (.read 0 0) with
    | .error (.system 9) =>
      i.fails 1 ("closing standard input: " ++ faultText 9)
    | _ => return code
  else return code

-- ================================================ beginning and end

/-- Which part of a text is wanted. -/
structure Part where
  /-- It is counted in lines, and in bytes if not. -/
  lines : Bool := true
  /-- The sign in front of the count. -/
  sign : Option Char := none
  count : Nat := 10
  /-- Files get a line in front: always, never, or if there are
  several. -/
  headers : Option Bool := none

/-- What is wrong with the words that ask for a part. -/
inductive PartFault where
  | badCount (lines : Bool) (word : String)
  | badLetter (letter : Char)
  | noCount (letter : Char)

/-- A part with a count that a word gives. -/
def Part.counted (p : Part) (lines : Bool) (word : String) :
    Except PartFault Part :=
  let (sign, digits) :=
    match word.toList with
    | '-' :: digits => (some '-', digits)
    | '+' :: digits => (some '+', digits)
    | digits => (none, digits)
  match (String.ofList digits).toNat? with
  | some count =>
    .ok { p with lines := lines, sign := sign, count := count }
  | none =>
    .error (.badCount lines
      (if sign = some '-' then String.ofList digits else word))

/-- Follows option letters in one word; says whether the last one wants
the next word. -/
def Part.letters : Part → List Char →
    Except PartFault (Part × Option Char)
  | p, [] => .ok (p, none)
  | p, 'q' :: rest => { p with headers := some false }.letters rest
  | p, 'v' :: rest => { p with headers := some true }.letters rest
  | p, c :: rest =>
    if c = 'n' || c = 'c' then
      if rest.isEmpty then .ok (p, some c)
      else (p.counted (c = 'n') (String.ofList rest)).map (·, none)
    else .error (.badLetter c)

/-- Follows the options; answers with the names behind them. -/
def Part.words : Part → List String →
    Except PartFault (Part × List String)
  | p, [] => .ok (p, [])
  | p, word :: rest =>
    match word.toList with
    | ['-', '-'] => .ok (p, rest)
    | '-' :: c :: cs =>
      match p.letters (c :: cs) with
      | .error fault => .error fault
      | .ok (p, none) => p.words rest
      | .ok (p, some c) =>
        match rest with
        | [] => .error (.noCount c)
        | count :: rest =>
          match p.counted (c = 'n') count with
          | .error fault => .error fault
          | .ok p => p.words rest
    | _ => .ok (p, word :: rest)

/-- The part that all words ask for.  The first may be just a count
behind one of some signs. -/
def Part.ofWords (signs : List Char) (words : List String) :
    Except PartFault (Part × List String) :=
  match words with
  | first :: rest =>
    match first.toList with
    | sign :: digit :: digits =>
      if signs.contains sign && digit.isDigit then
        let count := String.ofList (digit :: digits)
        let word := if sign = '+' then "+" ++ count else count
        match ({} : Part).counted true word with
        | .error fault => .error fault
        | .ok p => p.words rest
      else ({} : Part).words words
    | _ => ({} : Part).words words
  | [] => .ok ({}, [])

/-- Tells what is wrong. -/
def Invocation.refusesPart (i : Invocation) : PartFault → Act Unit Nat
  | .badCount lines word =>
    i.fails 1
      ("invalid number of " ++ (if lines then "lines" else "bytes")
        ++ ": " ++ quote word)
  | .badLetter letter => i.refuses (badOption letter)
  | .noCount letter =>
    i.refuses
      ("option requires an argument -- '" ++ String.ofList [letter] ++ "'")

/-- The first lines, or bytes, in front of others in reverse; how many
are still wanted. -/
def takeUnits (lines : Bool) : Nat → Bytes → Bytes → Bytes × Nat
  | 0, taken, _ => (taken.reverse, 0)
  | count, taken, [] => (taken.reverse, count)
  | count + 1, taken, b :: rest =>
    takeUnits lines (if lines && b != 10 then count + 1 else count)
      (b :: taken) rest

/-- What is behind the first lines, or bytes. -/
def dropUnits (lines : Bool) : Nat → Bytes → Bytes
  | 0, bytes => bytes
  | _, [] => []
  | count + 1, b :: rest =>
    dropUnits lines (if lines && b != 10 then count + 1 else count) rest

/-- How many lines, or bytes, there are. -/
def unitCount (lines : Bool) (bytes : Bytes) : Nat :=
  if lines then
    bytes.count 10
      + (if bytes.getLast?.all (· == 10) then 0 else 1)
  else bytes.length

/-- Passes on the first lines, or bytes, of a stream; tells why it
cannot.  What was read and is not wanted stays in the stream, if it is
one that can be moved back. -/
def passFirst (lines : Bool) (stream : Nat) :
    Nat → Nat → Act Unit (Except IoFault Nat)
  | 0, _ => return .ok 0
  | _, 0 => return .ok 0
  | fuel + 1, count => do
    match ← Act.ask (.read stream 8192) with
    | .error fault => return .error fault
    | .ok [] => return .ok 0
    | .ok bytes =>
      let (taken, left) := takeUnits lines count [] bytes
      match ← Act.ask (.locate stream none) with
      | none => pure ()
      | some (place, _) =>
        let _ ← Act.ask
          (.locate stream (some (place - (bytes.length - taken.length))))
      match ← put 1 taken with
      | some _ => return .ok 1
      | none => passFirst lines stream fuel left

/-- Passes on some of what a stream holds. -/
def passSome (stream : Nat) (some_ : Bytes → Bytes) :
    Act Unit (Except IoFault Nat) := do
  match ← readAll stream chunkLimit [] with
  | .error fault => return .error fault
  | .ok bytes =>
    match ← put 1 (some_ bytes) with
    | some _ => return .ok 1
    | none => return .ok 0

/-- Does something with each file, perhaps with a line in front. -/
def eachPart (i : Invocation) (headers : Bool)
    (act : Nat → Act Unit (Except IoFault Nat)) :
    Bool → Nat → List String → Act Unit Nat
  | _, code, [] => return code
  | isFirst, code, name :: more => do
    let shown := if headers then fileHeader isFirst name else []
    match ← withInput name fun n => do
      let _ ← put 1 shown
      act n with
    | .ok (.ok found) =>
      eachPart i headers act false (max code found) more
    | .ok (.error fault) =>
      i.say (errorReading name fault)
      eachPart i headers act false 1 more
    | .error fault =>
      i.say (cannotOpen name fault)
      eachPart i headers act isFirst 1 more

/-- Prints the beginning of files, or of its input. -/
def head : Tool := fun i => do
  match Part.ofWords ['-'] i.arguments with
  | .error fault => i.refusesPart fault
  | .ok (p, names) =>
    let act (stream : Nat) :=
      if p.sign = some '-' then
        passSome stream fun bytes =>
          (takeUnits p.lines (unitCount p.lines bytes - p.count) [] bytes).1
      else passFirst p.lines stream chunkLimit p.count
    eachPart i (p.headers.getD (1 < names.length)) act true 0
      (inputNames names)

/-- Prints the end of files, or of its input. -/
def tail : Tool := fun i => do
  match Part.ofWords ['-', '+'] i.arguments with
  | .error fault => i.refusesPart fault
  | .ok (p, names) =>
    let act (stream : Nat) :=
      passSome stream fun bytes =>
        dropUnits p.lines
          (if p.sign = some '+' then p.count - 1
            else unitCount p.lines bytes - p.count)
          bytes
    eachPart i (p.headers.getD (1 < names.length)) act true 0
      (inputNames names)

-- ======================================================== counting

/-- How many words, separated by blanks, some bytes hold. -/
def wordCount (bytes : Bytes) : Nat :=
  (bytes.foldl
    (fun (found, inWord) b =>
      if b == 32 || (9 ≤ b && b ≤ 13) then (found, false)
      else (if inWord then found else found + 1, true))
    ((0, false) : Nat × Bool)).1

/-- Numbers in columns of a width, with a name behind them. -/
def countLine (width : Nat) (counts : List Nat) (name : String) : Bytes :=
  let cells := counts.map fun n =>
    let digits := (toString n).toList
    String.ofList
      (List.replicate (width - digits.length) ' ' ++ digits)
  lineBytes (String.intercalate " "
    (if name.isEmpty then cells else cells ++ [name]))

/-- Prints counts for each file, and what they come to. -/
def countFiles (i : Invocation) (width : Nat)
    (countsOf : Bytes → List Nat) (named : Bool) :
    List Nat → Nat → List String → Act Unit (List Nat × Nat)
  | sums, code, [] => return (sums, code)
  | sums, code, name :: more => do
    let label := if named then name else ""
    match ← withInput name fun n => readAll n chunkLimit [] with
    | .error fault =>
      i.say
        (if name.isEmpty then "invalid zero-length file name"
        else quoteIfNeeded name ++ ": " ++ fault.bareMessage)
      countFiles i width countsOf named sums 1 more
    | .ok (.error fault) =>
      let called := if named then name else calledInput name
      i.say (quoteIfNeeded called ++ ": " ++ fault.bareMessage)
      let _ ← i.prints 0 (countLine width (countsOf []) label)
      countFiles i width countsOf named sums 1 more
    | .ok (.ok bytes) =>
      let counts := countsOf bytes
      let printed ← i.prints 0 (countLine width counts label)
      countFiles i width countsOf named
        (List.zipWith (· + ·) sums counts) (max code printed) more

/-- Counts lines, words and bytes. -/
def wc : Tool := fun i => i.withFlags "clmw" fun flags names => do
  let all := flags.isEmpty
  let countsOf (bytes : Bytes) : List Nat :=
    (if all || flags.contains 'l' then [bytes.count 10] else [])
      ++ (if all || flags.contains 'w' then [wordCount bytes] else [])
      ++ (if all || flags.contains 'c' || flags.contains 'm' then
        [bytes.length] else [])
  let disk ← Act.ask .look
  let input ← Act.ask (.locate 0 none)
  let sizes := (inputNames names).map fun name =>
    if name == "-" then input.map (·.2)
    else (disk.readBytes (pathOf name)).toOption.map List.length
  let isOdd (name : String) : Bool :=
    if name == "-" then input.isNone else disk.isFolder (pathOf name)
  let width :=
    if (countsOf []).length < 2 && names.length < 2 then 1
    else if (inputNames names).any isOdd then 7
    else (toString ((sizes.map (·.getD 0)).foldl (· + ·) 0)).length
  let (sums, code) ←
    countFiles i width countsOf (!names.isEmpty) (countsOf []) 0
      (inputNames names)
  if 1 < names.length then i.prints code (countLine width sums "total")
  else return code

-- ========================================================= sorting

/-- The lines of some bytes, without their ends. -/
def linesOf (bytes : Bytes) : List Bytes :=
  let parts := bytes.splitOn 10
  if parts.getLast? = some [] then parts.dropLast else parts

/-- A number in front of a line, as its sign, its whole part and the
digits behind its point. -/
def leadingNumber (line : Bytes) : Bool × Nat × List Char :=
  let cs := (line.map fun b => Char.ofNat b.toNat).dropWhile fun c =>
    c == ' ' || c == '\t'
  let (negative, cs) :=
    match cs with
    | '-' :: rest => (true, rest)
    | _ => (false, cs)
  let (whole, _, behind) := Printf.takeDigits 10 cs.length 0 0 cs
  match behind with
  | '.' :: rest => (negative, whole, rest.takeWhile Char.isDigit)
  | _ => (negative, whole, [])

/-- How the numbers in front of two lines compare. -/
def compareNumbers (a b : Bytes) : Ordering :=
  let (negativeA, wholeA, partA) := leadingNumber a
  let (negativeB, wholeB, partB) := leadingNumber b
  let places := max partA.length partB.length
  let scaled (negative : Bool) (whole : Nat) (part : List Char) : Int :=
    let digits := part ++ List.replicate (places - part.length) '0'
    let n : Nat := (Printf.takeDigits 10 places whole 0 digits).1
    if negative then -(n : Int) else n
  compare (scaled negativeA wholeA partA) (scaled negativeB wholeB partB)

/-- How two lines compare byte by byte. -/
def compareBytes : Bytes → Bytes → Ordering
  | [], [] => .eq
  | [], _ => .lt
  | _, [] => .gt
  | a :: more, b :: others =>
    (compare a b).then (compareBytes more others)

/-- Keeps the first of lines that count as the same. -/
def keepFirst (same : Bytes → Bytes → Bool) : List Bytes → List Bytes
  | a :: b :: rest =>
    let kept := keepFirst same (b :: rest)
    if same a b then a :: (kept.drop 1) else a :: kept
  | lines => lines

/-- All that files hold, each ending with a line end; nothing if one of
them cannot be read. -/
def gather (i : Invocation) :
    List Bytes → List String → Act Unit (Option (List Bytes))
  | found, [] => return some found
  | found, name :: more => do
    match ← withInput name fun n => readAll n chunkLimit [] with
    | .error fault =>
      i.say
        ("cannot read: " ++ quoteIfNeeded name ++ ": "
          ++ fault.bareMessage)
      return none
    | .ok (.error fault) =>
      i.say
        ("read failed: " ++ quoteIfNeeded name ++ ": "
          ++ fault.bareMessage)
      return none
    | .ok (.ok bytes) => gather i (found ++ linesOf bytes) more

/-- Sorts lines by their bytes, or by the numbers in front of them. -/
def sort : Tool := fun i => do
  let (flags, names) := gatherFlags i.arguments
  match flags.find? (!"nrsu".toList.contains ·) with
  | some letter =>
    i.say (badOption letter)
    i.hint
    return 2
  | none =>
    let key := if flags.contains 'n' then compareNumbers else compareBytes
    let full (a b : Bytes) : Ordering :=
      if flags.contains 'u' || flags.contains 's' then key a b
      else (key a b).then (compareBytes a b)
    let before (a b : Bytes) : Bool :=
      (if flags.contains 'r' then full b a else full a b) != .gt
    match ← gather i [] (inputNames names) with
    | none => return 2
    | some lines =>
      let sorted := lines.mergeSort before
      let kept :=
        if flags.contains 'u' then
          keepFirst (fun a b => key a b == .eq) sorted
        else sorted
      i.prints 0 (kept.flatMap (· ++ [10]))

-- =================================================== exchanging

/-- One piece of a set of bytes. -/
inductive SetItem where
  /-- A byte, and whether it was written without a backslash. -/
  | byte (b : UInt8) (plain : Bool)
  | bytes (bs : Bytes)

/-- All bytes in order. -/
def allBytes : Bytes := (List.range 256).map UInt8.ofNat

/-- The bytes of a class. -/
def classBytes? (name : String) : Option Bytes :=
  let inClass : Option (Nat → Bool) :=
    let upper (n : Nat) : Bool := 65 ≤ n && n ≤ 90
    let lower (n : Nat) : Bool := 97 ≤ n && n ≤ 122
    let digit (n : Nat) : Bool := 48 ≤ n && n ≤ 57
    let graph (n : Nat) : Bool := 33 ≤ n && n ≤ 126
    let alnum (n : Nat) : Bool := upper n || lower n || digit n
    match name with
    | "alnum" => some alnum
    | "alpha" => some fun n => upper n || lower n
    | "blank" => some fun n => n == 9 || n == 32
    | "cntrl" => some fun n => n < 32 || n == 127
    | "digit" => some digit
    | "graph" => some graph
    | "lower" => some lower
    | "print" => some fun n => n == 32 || graph n
    | "punct" => some fun n => graph n && !alnum n
    | "space" => some fun n => n == 32 || (9 ≤ n && n ≤ 13)
    | "upper" => some upper
    | "xdigit" => some fun n =>
      digit n || (65 ≤ n && n ≤ 70) || (97 ≤ n && n ≤ 102)
    | _ => none
  inClass.map fun f => allBytes.filter fun b => f b.toNat

/-- Takes the pieces of a set. -/
def setItems : Nat → List Char → List SetItem
  | 0, _ => []
  | _, [] => []
  | fuel + 1, '\x5c' :: rest =>
    match rest with
    | [] => [.byte 92 true]
    | c :: behind =>
      if (Printf.digit? 8 c).isSome then
        let (value, _, behind) := Printf.takeDigits 8 3 0 0 (c :: behind)
        .byte (UInt8.ofNat value) false :: setItems fuel behind
      else
        let b :=
          if c = 'e' || c = '\x22' then Printf.byteOf c
          else (Printf.letterEscape c).getD (Printf.byteOf c)
        .byte b false :: setItems fuel behind
  | fuel + 1, '[' :: ':' :: rest =>
    let name := rest.takeWhile (· != ':')
    match rest.drop name.length, classBytes? (String.ofList name) with
    | ':' :: ']' :: behind, some bs => .bytes bs :: setItems fuel behind
    | _, _ => .byte 91 true :: setItems fuel (':' :: rest)
  | fuel + 1, c :: rest => .byte (Printf.byteOf c) true :: setItems fuel rest

/-- The bytes of a set, ranges filled in; the ends of a range that runs
backwards if there is one. -/
def setBytes : List SetItem → Except (UInt8 × UInt8) Bytes
  | [] => .ok []
  | .byte a _ :: .byte 45 true :: .byte b _ :: rest =>
    if b < a then .error (a, b)
    else
      (setBytes rest).map fun more =>
        (allBytes.filter fun x => a ≤ x && x ≤ b) ++ more
  | .byte a _ :: rest => (setBytes rest).map (a :: ·)
  | .bytes bs :: rest => (setBytes rest).map (bs ++ ·)

/-- The bytes that a word stands for. -/
def setOf (word : String) : Except (UInt8 × UInt8) Bytes :=
  setBytes (setItems (word.length + 1) word.toList)

/-- What is done with bytes one by one. -/
structure Exchange where
  removed : UInt8 → Bool
  changed : UInt8 → UInt8
  /-- Of several in a row only one is kept. -/
  single : UInt8 → Bool

/-- Bytes exchanged, in front of others in reverse; the last byte that
was kept. -/
def Exchange.over (x : Exchange) :
    Option UInt8 → Bytes → Bytes → Option UInt8 × Bytes
  | last, done, [] => (last, done.reverse)
  | last, done, b :: rest =>
    if x.removed b then x.over last done rest
    else
      let c := x.changed b
      if last = some c && x.single c then x.over last done rest
      else x.over (some c) (c :: done) rest

/-- Exchanges the bytes of the input, as they come. -/
def exchangeInput (i : Invocation) (x : Exchange) :
    Nat → Option UInt8 → Act Unit Nat
  | 0, _ => return 0
  | fuel + 1, last => do
    match ← Act.ask (.read 0 chunkSize) with
    | .error fault => i.fails 1 ("read error: " ++ fault.bareMessage)
    | .ok [] => return 0
    | .ok bytes =>
      let (last, done) := x.over last [] bytes
      match ← put 1 done with
      | some fault => i.fails 1 ("write error: " ++ fault.bareMessage)
      | none => exchangeInput i x fuel last

/-- What option letters and two sets of bytes ask for. -/
def Exchange.ofSets (deletes squeezes : Bool) (first : Bytes)
    (second : Option Bytes) : Exchange :=
  let exchanges := !deletes && second.isSome
  let targets := second.getD []
  let last := targets.getLast?.getD 0
  let squeezed := second.getD first
  { removed := fun b => deletes && first.contains b
    changed := fun b =>
      if !exchanges then b
      else
        match first.reverse.idxOf? b with
        | none => b
        | some n => targets.getD (first.length - 1 - n) last
    single := fun b => squeezes && squeezed.contains b }

/-- Exchanges, removes or joins bytes of its input. -/
def tr : Tool := fun i => do
  let (flags, words) := takeFlags i.arguments
  let deletes := flags.contains 'd'
  let squeezes := flags.contains 's'
  let refuses (text : String) (why : List String) : Act Unit Nat := do
    i.say text
    for line in why do
      let _ ← put 2 (lineBytes line)
    i.hint
    return 1
  match flags.find? (!"cCdst".toList.contains ·), words with
  | some letter, _ => i.refuses (badOption letter)
  | none, [] => i.refuses "missing operand"
  | none, first :: others =>
    let wanted := if deletes == squeezes then 2 else 1
    let most := if deletes && !squeezes then 1 else 2
    if words.length < wanted then
      refuses ("missing operand after " ++ quote first)
        [if deletes then
            "Two strings must be given when both deleting and "
              ++ "squeezing repeats."
          else "Two strings must be given when translating."]
    else if most < words.length then
      refuses ("extra operand " ++ quote (words.getD most ""))
        (if most = 1 && words.length = 2 then
          ["Only one string may be given when deleting without "
            ++ "squeezing repeats."]
        else [])
    else
      let backwards (ends : UInt8 × UInt8) : Act Unit Nat :=
        i.fails 1
          ("range-endpoints of '" ++ Text.pack [ends.1, 45, ends.2]
            ++ "' are in reverse collating sequence order")
      match setOf first, others.head?.map setOf with
      | .error ends, _ => backwards ends
      | _, some (.error ends) => backwards ends
      | .ok found, second =>
        let found :=
          if flags.contains 'c' || flags.contains 'C' then
            allBytes.filter (!found.contains ·)
          else found
        let second : Option Bytes :=
          match second with
          | some (.ok bs) => some bs
          | _ => none
        let found :=
          if flags.contains 't' && !deletes then
            found.take (second.getD found).length
          else found
        if second = some [] && !deletes && !found.isEmpty then
          i.fails 1
            "when not truncating set1, string2 must be non-empty"
        else
          exchangeInput i (Exchange.ofSets deletes squeezes found second)
            chunkLimit none

-- ======================================================= repeating

/-- Writes bytes again and again; tells why it cannot any more. -/
def writeForever (bytes : Bytes) : Nat → Act Unit (Option IoFault)
  | 0 => return none
  | fuel + 1 => do
    match ← put 1 bytes with
    | some fault => return some fault
    | none => writeForever bytes fuel

/-- Prints a line for ever. -/
def yes : Tool := fun i => do
  let words := if i.arguments.isEmpty then ["y"] else i.arguments
  let line := lineBytes (String.intercalate " " words)
  let count := 4096 / line.length + 1
  match ← writeForever (List.replicate count line).flatten chunkLimit with
  | some fault =>
    i.fails 1 ("standard output: " ++ fault.bareMessage)
  | none => return 0

end RemoteProvision.Local
