/-
Conditions on files, texts and numbers.

A condition is a list of words: a text alone, which holds if it is not
empty, an operator and a word, or a word, an operator and a word.  `!`
turns a condition round, brackets hold one together, and `-a` and `-o`
join conditions, the former more tightly.

Whether a word is an operator depends on what stands around it, so that
any text can be compared.

Words are packed bytes.
-/
import RemoteProvision.Disk.Files
import RemoteProvision.Text.Packed

namespace RemoteProvision.Local.Condition

-- =========================================================== words

/-- What a word is used for. -/
inductive Role where
  | ending
  | operand
  | unary
  | binary
  | not
  | and
  | or
  | opening
  | closing
deriving DecidableEq

/-- The operators on one word. -/
def unaryNames : List String :=
  ["-r", "-w", "-x", "-e", "-f", "-d", "-c", "-b", "-p", "-u", "-g",
   "-k", "-s", "-t", "-z", "-n", "-h", "-O", "-G", "-L", "-S"]

/-- The operators between two words. -/
def binaryNames : List String :=
  ["=", "!=", "<", ">", "-eq", "-ne", "-ge", "-gt", "-le", "-lt", "-nt",
   "-ot", "-ef"]

/-- What a word can be used for by itself. -/
def roleOf (word : String) : Role :=
  match word with
  | "!" => .not
  | "-a" => .and
  | "-o" => .or
  | "(" => .opening
  | ")" => .closing
  | _ =>
    if unaryNames.contains word then .unary
    else if binaryNames.contains word then .binary
    else .operand

/-- Whether an operator on one word is no operator here. -/
def standsAlone (behind : List String) : Bool :=
  match behind with
  | [] => true
  | [_] => false
  | next :: _ => roleOf next == .binary

/-- What the first of some words is used for. -/
def role (words : List String) : Role :=
  match words with
  | [] => .ending
  | word :: behind =>
    match roleOf word with
    | .unary => if standsAlone behind then .operand else .unary
    | .opening => if behind.isEmpty then .operand else .opening
    | r => r

-- ========================================================== values

/-- What is wrong with a condition. -/
inductive Fault where
  | notNumber (word : String)
  | unexpected (word : String)
  | missing (operator : String)
  | unclosed
deriving DecidableEq

/-- The text of a fault. -/
def Fault.message : Fault → String
  | .notNumber word => "Illegal number: " ++ word
  | .unexpected word =>
    if word.isEmpty then "unexpected operator"
    else word ++ ": unexpected operator"
  | .missing operator => operator ++ ": argument expected"
  | .unclosed => "closing paren expected"

/-- A number with an optional sign and blanks around it. -/
def number (word : String) : Except Fault Int :=
  let isGap (c : Char) := c == ' ' || ('\t' ≤ c && c ≤ '\r')
  let cs := word.toList.dropWhile isGap
  let cs := (cs.reverse.dropWhile isGap).reverse
  let (negative, digits) :=
    match cs with
    | '+' :: rest => (false, rest)
    | '-' :: rest => (true, rest)
    | _ => (false, cs)
  match (String.ofList digits).toNat? with
  | some n =>
    if digits.all Char.isDigit && n ≤ 0x7FFFFFFFFFFFFFFF then
      .ok (if negative then -(n : Int) else n)
    else .error (.notNumber word)
  | none => .error (.notNumber word)

/-- Whether an item is a device. -/
def isDevice (place : Place) (item : Item) : Bool :=
  match place, item with
  | "dev" :: _, .tool _ => true
  | _, _ => false

/-- An operator on one word. -/
def unary (disk : Disk) (op word : String) : Except Fault Bool :=
  let found := (disk.find (Text.unpackText word)).toOption
  let item : Option Item := found.map (·.2)
  let device := found.any fun f => isDevice f.1 f.2
  match op with
  | "-n" => .ok (!word.isEmpty)
  | "-z" => .ok word.isEmpty
  | "-t" => (number word).map fun _ => false
  | "-f" =>
    .ok (!device &&
      match item with
      | some (.file _ _) | some (.tool _) => true
      | _ => false)
  | "-d" => .ok (item == some .folder)
  | "-c" => .ok device
  | "-e" | "-r" | "-w" | "-O" | "-G" => .ok item.isSome
  | "-s" =>
    .ok (!device &&
      match item with
      | some (.file bytes _) => !bytes.isEmpty
      | some _ => true
      | none => false)
  | "-x" =>
    .ok (!device &&
      match item with
      | some (.file _ runnable) => runnable
      | some _ => true
      | none => false)
  | _ => .ok false

/-- An operator between two words. -/
def binary (disk : Disk) (left op right : String) : Except Fault Bool :=
  let compare (holds : Int → Int → Bool) : Except Fault Bool := do
    let a ← number left
    let b ← number right
    return holds a b
  let place (word : String) : Option Place :=
    (disk.find (Text.unpackText word)).toOption.map (·.1)
  match op with
  | "=" => .ok (left == right)
  | "!=" => .ok (left != right)
  | "<" => .ok (decide (left < right))
  | ">" => .ok (decide (right < left))
  | "-eq" => compare fun a b => a == b
  | "-ne" => compare fun a b => a != b
  | "-lt" => compare fun a b => a < b
  | "-le" => compare fun a b => a ≤ b
  | "-gt" => compare fun a b => b < a
  | "-ge" => compare fun a b => b ≤ a
  | "-ef" => .ok ((place left).isSome && place left == place right)
  | _ => .ok false

-- ====================================================== conditions

/-- A value, and the words from the last one of the condition on. -/
abbrev Valued := Except Fault (Bool × List String)

mutual

/-- Conditions joined by `-o`, the first of which begins with a word of
some role. -/
def anyOf (disk : Disk) : Nat → Role → List String → Valued
  | 0, _, words => .error (.unexpected (words.headD ""))
  | fuel + 1, r, words => do
    let (a, words) ← allOf disk fuel r words
    if role words.tail = .or then
      let words := words.drop 2
      let (b, words) ← anyOf disk fuel (role words) words
      return (a || b, words)
    return (a, words)

/-- Conditions joined by `-a`. -/
def allOf (disk : Disk) : Nat → Role → List String → Valued
  | 0, _, words => .error (.unexpected (words.headD ""))
  | fuel + 1, r, words => do
    let (a, words) ← turned disk fuel r words
    if role words.tail = .and then
      let words := words.drop 2
      let (b, words) ← allOf disk fuel (role words) words
      return (a && b, words)
    return (a, words)

/-- A condition that may be turned round. -/
def turned (disk : Disk) : Nat → Role → List String → Valued
  | 0, _, words => .error (.unexpected (words.headD ""))
  | fuel + 1, .not, words => do
    let r := role words.tail
    let (b, words) ←
      turned disk fuel r (if r = .ending then words else words.tail)
    return (!b, words)
  | fuel + 1, r, words => single disk fuel r words

/-- A condition that nothing joins. -/
def single (disk : Disk) : Nat → Role → List String → Valued
  | 0, _, words => .error (.unexpected (words.headD ""))
  | fuel + 1, r, words =>
    match r, words with
    | .ending, _ => .ok (false, words)
    | .opening, _ => do
      let words := words.tail
      let r := role words
      if r = .closing then return (false, words)
      let (b, words) ← anyOf disk fuel r words
      let words := words.tail
      if role words = .closing then return (b, words)
      throw .unclosed
    | .unary, op :: behind =>
      match behind with
      | [] => .error (.missing op)
      | word :: _ => do return (← unary disk op word, behind)
    | _, left :: op :: rest =>
      if role (op :: rest) = .binary then
        match rest with
        | [] => .error (.missing op)
        | right :: _ => do return (← binary disk left op right, rest)
      else .ok (!left.isEmpty, words)
    | _, [left] => .ok (!left.isEmpty, words)
    | _, [] => .ok (false, words)

end

/-- Whether a condition of some words holds, beginning with a word of
some role; nothing may be left behind it. -/
def whole (disk : Disk) (r : Role) (words : List String) :
    Except Fault Bool := do
  let (b, left) ← anyOf disk (4 * words.length + 8) r words
  match left with
  | word :: _ :: _ => throw (.unexpected word)
  | _ => return b

/-- Whether a condition holds. -/
def holds (disk : Disk) : Nat → List String → Except Fault Bool
  | _, [] => .ok false
  | 0, words => whole disk (role words) words
  | fuel + 1, words =>
    let compared :=
      match words with
      | [_, op, _] => roleOf op == .binary
      | _ => false
    let few := words.length = 3 ∨ words.length = 4
    if compared = true then whole disk .operand words
    else if few ∧ words.head? = some "(" ∧ words.getLast? = some ")" then
      let inner := words.tail.dropLast
      whole disk (role inner) inner
    else if few ∧ words.head? = some "!" then
      (holds disk fuel words.tail).map (!·)
    else whole disk (role words) words

end RemoteProvision.Local.Condition
