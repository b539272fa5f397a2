/-
Shell arithmetic.

An expression is made of whole numbers, names of variables, operators and
brackets.  Operators bind as in most languages, and so do assignments to
variables; comparisons give one or zero.  Numbers have 64 bits.  A
variable that is not set counts as zero.

What an operator does not need is read but has no effect: the right side
of `&&` behind zero and of `||` behind another number, and one side of a
choice.
-/
import RemoteProvision.Local.Printf

namespace RemoteProvision.Shell.Arithmetic

-- ========================================================== tokens

/-- A part of an expression. -/
inductive Token where
  | ending
  | number (n : Int)
  | name (s : String)
  | op (s : String)
  /-- A character that has no meaning. -/
  | unknown
deriving DecidableEq

/-- The operators, longer ones first. -/
def operators : List String :=
  ["<<=", ">>=", "<<", ">>", "<=", ">=", "==", "!=", "&&", "||", "+=",
   "-=", "*=", "/=", "%=", "&=", "|=", "^=", "+", "-", "*", "/", "%",
   "<", ">", "!", "~", "&", "|", "^", "(", ")", "?", ":", "="]

/-- The largest number. -/
def largest : Nat := 0x7FFFFFFFFFFFFFFF

/-- Takes a number in decimal, or behind `0` and `0x` in another base,
and the rest. -/
def takeNumber (cs : List Char) : Nat × List Char :=
  let digits (base : Nat) (cs : List Char) : Nat × List Char :=
    let (n, _, rest) := Local.Printf.takeDigits base cs.length 0 0 cs
    (n, rest)
  let isHex (c : Char) := (Local.Printf.digit? 16 c).isSome
  match cs with
  | '0' :: 'x' :: c :: rest | '0' :: 'X' :: c :: rest =>
    if isHex c then digits 16 (c :: rest) else (0, cs.tail)
  | '0' :: rest => digits 8 ('0' :: rest)
  | _ => digits 10 cs

/-- Whether a character may stand around numbers and names. -/
def isGap (c : Char) : Bool :=
  c == ' ' || c == '\t' || c == '\n'

/-- Cuts an expression into tokens. -/
def tokens : Nat → List Char → List Token
  | _, [] => []
  | 0, _ => []
  | fuel + 1, c :: rest =>
    let isWord (c : Char) := c.isAlphanum || c == '_'
    if isGap c then tokens fuel rest
    else if c.isDigit then
      let (n, behind) := takeNumber (c :: rest)
      .number (min n largest : Nat) :: tokens fuel behind
    else if isWord c then
      let word := (c :: rest).takeWhile isWord
      .name (String.ofList word)
        :: tokens fuel ((c :: rest).drop word.length)
    else
      match operators.find? fun o => o.toList.isPrefixOf (c :: rest) with
      | none => [.unknown]
      | some o => .op o :: tokens fuel ((c :: rest).drop o.length)

-- ======================================================= operators

/-- Why an expression has no value. -/
inductive Fault where
  | expected (what : String)
  | divisionByZero
  | notNumber (text : String)
deriving DecidableEq

/-- The number of 64 bits, with a sign, that a number is cut to. -/
def wrap (n : Int) : Int := n.bmod 0x10000000000000000

/-- How loosely an operator between two numbers binds. -/
def looseness? (op : String) : Option Nat :=
  match op with
  | "*" | "/" | "%" => some 0
  | "+" | "-" => some 1
  | "<<" | ">>" => some 2
  | "<" | ">" | "<=" | ">=" => some 3
  | "==" | "!=" => some 4
  | "&" => some 5
  | "^" => some 6
  | "|" => some 7
  | _ => none

/-- Looser than any operator between two numbers. -/
def loosest : Nat := 8

/-- One for what holds. -/
def ofTruth (b : Bool) : Int := if b then 1 else 0

/-- The value of an operator between two numbers. -/
def apply (op : String) (a b : Int) : Except Fault Int :=
  let bits (f : Nat → Nat → Nat) : Int :=
    wrap (f (a % 0x10000000000000000).toNat
      (b % 0x10000000000000000).toNat)
  let step : Nat := 1 <<< (b % 64).toNat
  match op with
  | "|" => .ok (bits (· ||| ·))
  | "^" => .ok (bits (· ^^^ ·))
  | "&" => .ok (bits (· &&& ·))
  | "==" => .ok (ofTruth (a == b))
  | "!=" => .ok (ofTruth (a != b))
  | "<" => .ok (ofTruth (a < b))
  | ">" => .ok (ofTruth (b < a))
  | "<=" => .ok (ofTruth (a ≤ b))
  | ">=" => .ok (ofTruth (b ≤ a))
  | "<<" => .ok (wrap (a * step))
  | ">>" => .ok (a / step)
  | "+" => .ok (wrap (a + b))
  | "-" => .ok (wrap (a - b))
  | "*" => .ok (wrap (a * b))
  | "/" =>
    if b = 0 then .error .divisionByZero else .ok (wrap (a.tdiv b))
  | _ =>
    if b = 0 then .error .divisionByZero else .ok (wrap (a.tmod b))

-- ========================================================= reading

/-- The rest of an expression, the last token that was read, and the
variables that were set, the last one first. -/
structure Reader where
  rest : List Token
  last : Token := .ending
  assigned : List (String × Int) := []

/-- Reading that may fail. -/
abbrev Read (α : Type) := StateT Reader (Except Fault) α

/-- Takes the next token. -/
def next : Read Token := do
  let r ← get
  match r.rest with
  | [] => return .ending
  | t :: rest =>
    set { r with rest := rest }
    return t

/-- Remembers the last token. -/
def keep (t : Token) : Read Unit := modify fun r => { r with last := t }

/-- The whole number that a text is. -/
def wholeNumber (text : String) : Except Fault Int :=
  let cs := text.toList.dropWhile isGap
  let (negative, body) :=
    match cs with
    | '-' :: rest => (true, rest)
    | '+' :: rest => (false, rest)
    | _ => (false, cs)
  let isNumber := body.head?.any Char.isDigit
  let (n, behind) := if isNumber then takeNumber body else (0, cs)
  if (behind.dropWhile isGap).isEmpty && n ≤ largest then
    .ok (if negative then -(n : Int) else n)
  else .error (.notNumber text)

/-- The value of a variable. -/
def variableValue (lookup : String → Option String) (name : String) :
    Read Int := do
  match (← get).assigned.lookup name with
  | some n => return n
  | none =>
    match wholeNumber ((lookup name).getD "") with
    | .ok n => return n
    | .error fault => throw fault

/-- Sets a variable. -/
def setVariable (name : String) (n : Int) : Read Int := do
  modify fun r => { r with assigned := (name, n) :: r.assigned }
  return n

/-- The operator that an assignment operator goes with; nothing for the
plain one. -/
def assignment? (t : Token) : Option (Option String) :=
  match t with
  | .op "=" => some none
  | .op o =>
    if ["<<=", ">>=", "+=", "-=", "*=", "/=", "%=", "&=", "|=",
        "^="].contains o then
      some (some (String.ofList o.toList.dropLast))
    else none
  | _ => none

mutual

/-- An assignment or a choice, from its first token on.  An `idle` one
has no effect. -/
def assignment (lookup : String → Option String) :
    Nat → Token → Bool → Read Int
  | 0, _, _ => throw (.expected "expecting primary")
  | fuel + 1, t, idle => do
    let behind ← next
    match t, assignment? behind with
    | .name name, some op =>
      let n ← assignment lookup fuel (← next) idle
      if idle then return n
      match op with
      | none => setVariable name n
      | some op =>
        match apply op (← variableValue lookup name) n with
        | .ok n => setVariable name n
        | .error fault => throw fault
    | _, _ => choice lookup fuel t behind idle

/-- A choice between two values, or a value; from its first two tokens
on. -/
def choice (lookup : String → Option String) :
    Nat → Token → Token → Bool → Read Int
  | 0, _, _, _ => throw (.expected "expecting primary")
  | fuel + 1, t, behind, idle => do
    let a ← either lookup fuel t behind idle
    if (← get).last ≠ .op "?" then return a
    let b ← assignment lookup fuel (← next) (idle || a == 0)
    if (← get).last ≠ .op ":" then
      throw (.expected "expecting ':'")
    let t ← next
    let c ← choice lookup fuel t (← next) (idle || a != 0)
    return if a != 0 then b else c

/-- Values joined by `||`. -/
def either (lookup : String → Option String) :
    Nat → Token → Token → Bool → Read Int
  | 0, _, _, _ => throw (.expected "expecting primary")
  | fuel + 1, t, behind, idle => do
    let a ← both lookup fuel t behind idle
    if (← get).last ≠ .op "||" then return a
    let t ← next
    let b ← either lookup fuel t (← next) (idle || a != 0)
    return ofTruth (a != 0 || b != 0)

/-- Values joined by `&&`. -/
def both (lookup : String → Option String) :
    Nat → Token → Token → Bool → Read Int
  | 0, _, _, _ => throw (.expected "expecting primary")
  | fuel + 1, t, behind, idle => do
    let a ← operands lookup fuel t behind idle
    if (← get).last ≠ .op "&&" then return a
    let t ← next
    let b ← both lookup fuel t (← next) (idle || a == 0)
    return ofTruth (a != 0 && b != 0)

/-- Values joined by operators between two numbers. -/
def operands (lookup : String → Option String) :
    Nat → Token → Token → Bool → Read Int
  | 0, _, _, _ => throw (.expected "expecting primary")
  | fuel + 1, t, behind, idle => do
    let a ← atom lookup fuel t behind idle
    match (← get).last with
    | .op op =>
      if (looseness? op).isSome then
        operandsFrom lookup fuel a op loosest idle
      else return a
    | _ => return a

/-- Goes on behind a value and an operator, as long as operators bind
more tightly than a limit. -/
def operandsFrom (lookup : String → Option String) :
    Nat → Int → String → Nat → Bool → Read Int
  | 0, _, _, _, _ => throw (.expected "expecting primary")
  | fuel + 1, a, op, limit, idle => do
    let own := (looseness? op).getD loosest
    let t ← next
    let b ← atom lookup fuel t (← next) idle
    let b ←
      match (← get).last with
      | .op tighter =>
        if ((looseness? tighter).getD loosest) < own then
          operandsFrom lookup fuel b tighter own idle
        else pure b
      | _ => pure b
    let a ←
      if idle then pure b
      else
        match apply op a b with
        | .ok n => pure n
        | .error fault => throw fault
    match (← get).last with
    | .op op =>
      match looseness? op with
      | some l =>
        if l < limit then operandsFrom lookup fuel a op limit idle
        else return a
      | none => return a
    | _ => return a

/-- A number, a variable, a bracket, or a sign and what it is for. -/
def atom (lookup : String → Option String) :
    Nat → Token → Token → Bool → Read Int
  | 0, _, _, _ => throw (.expected "expecting primary")
  | fuel + 1, t, behind, idle => do
    match t with
    | .op "(" =>
      let n ← assignment lookup fuel behind idle
      if (← get).last ≠ .op ")" then
        throw (.expected "expecting ')'")
      keep (← next)
      return n
    | .number n => keep behind; return n
    | .name name =>
      keep behind
      if idle then return 0
      variableValue lookup name
    | .op "+" => atom lookup fuel behind (← next) idle
    | .op "-" => return wrap (-(← atom lookup fuel behind (← next) idle))
    | .op "!" =>
      return ofTruth ((← atom lookup fuel behind (← next) idle) == 0)
    | .op "~" => return -(← atom lookup fuel behind (← next) idle) - 1
    | _ => throw (.expected "expecting primary")

end

/-- The value of an expression, and the variables that it sets, in
order. -/
def value (lookup : String → Option String) (text : String) :
    Except Fault (Int × List (String × Int)) := do
  let ts := tokens (text.length + 1) text.toList
  let whole : Read Int := do
    let n ← assignment lookup (8 * ts.length + 16) (← next) false
    if (← get).last ≠ .ending then throw (.expected "expecting EOF")
    return n
  let (n, r) ← whole.run { rest := ts }
  return (n, r.assigned.reverse)

/-- What is said of a fault in an expression. -/
def Fault.message (text : String) : Fault → String
  | .expected what =>
    "arithmetic expression: " ++ what ++ ": \"" ++ text ++ "\""
  | .divisionByZero =>
    "arithmetic expression: division by zero: \"" ++ text ++ "\""
  | .notNumber word => "Illegal number: " ++ word

end RemoteProvision.Shell.Arithmetic
