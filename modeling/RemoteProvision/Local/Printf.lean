/-
Formatted printing.

A format is copied to the output; `%s`, `%b`, `%c` and the conversions
of numbers take the next argument, and backslash escapes stand for
characters.  While there are arguments left, the format is used again;
missing arguments count as empty or zero.

There are two dialects.  The plain one is that of a shell; the extended
one knows more escapes, is strict about what goes together, and computes
with more digits.

Formats and arguments are packed bytes.
-/
import RemoteProvision.Local.Decimal
import RemoteProvision.Local.Quoting
import RemoteProvision.Text.Packed

namespace RemoteProvision.Local.Printf

open RemoteProvision.Text (Bytes)

-- ========================================================= escapes

/-- The byte that a character stands for. -/
def byteOf (c : Char) : UInt8 := UInt8.ofNat c.toNat

/-- The value of a digit of a base up to sixteen. -/
def digit? (base : Nat) (c : Char) : Option Nat :=
  let value :=
    if c.isDigit then some (c.toNat - 48)
    else if 'a' ≤ c && c ≤ 'f' then some (c.toNat - 87)
    else if 'A' ≤ c && c ≤ 'F' then some (c.toNat - 55)
    else none
  value.filter fun d => d < base

/-- Takes at most `count` digits; their value, how many there were, and
the rest. -/
def takeDigits (base : Nat) :
    Nat → Nat → Nat → List Char → Nat × Nat × List Char
  | 0, value, taken, cs => (value, taken, cs)
  | _, value, taken, [] => (value, taken, [])
  | count + 1, value, taken, c :: rest =>
    match digit? base c with
    | some d => takeDigits base count (value * base + d) (taken + 1) rest
    | none => (value, taken, c :: rest)

/-- The byte of a one-letter escape. -/
def letterEscape (c : Char) : Option UInt8 :=
  match c with
  | 'a' => some 7
  | 'b' => some 8
  | 'e' => some 27
  | 'f' => some 12
  | 'n' => some 10
  | 'r' => some 13
  | 't' => some 9
  | 'v' => some 11
  | '\x5c' => some 92
  | '\x22' => some 34
  | _ => none

/-- Where escapes stand, and whether the ones beyond the standard are
known. -/
structure Dialect where
  /-- In an argument an octal number begins with a zero that is not one
  of its three digits. -/
  inArgument : Bool
  extended : Bool

/-- What a backslash and the text behind it stand for: bytes, or the end
of all output, and the rest. -/
def escape (d : Dialect) (cs : List Char) : Option Bytes × List Char :=
  match cs with
  | [] => (some [92], [])
  | c :: rest =>
    if c = 'c' && (d.inArgument || d.extended) then (none, [])
    else if !d.extended && (c = 'x' || c = '\x22') then
      (some [92, byteOf c], rest)
    else if c = 'x' then
      let (value, taken, behind) := takeDigits 16 2 0 0 rest
      if taken = 0 then (some [92, 120], rest)
      else (some [UInt8.ofNat value], behind)
    else
      match letterEscape c with
      | some b => (some [b], rest)
      | none =>
        if (digit? 8 c).isSome then
          let digits :=
            if d.inArgument && c == '0' then rest else c :: rest
          let (value, _, behind) := takeDigits 8 3 0 0 digits
          (some [UInt8.ofNat value], behind)
        else (some [92, byteOf c], rest)

/-- A text with its escapes replaced; whether all output ends there. -/
def escapedText (d : Dialect) : Nat → List Char → Bytes × Bool
  | 0, _ => ([], false)
  | _, [] => ([], false)
  | fuel + 1, '\x5c' :: rest =>
    match escape d rest with
    | (none, _) => ([], true)
    | (some bs, behind) =>
      let (more, ended) := escapedText d fuel behind
      (bs ++ more, ended)
  | fuel + 1, c :: rest =>
    let (more, ended) := escapedText d fuel rest
    (byteOf c :: more, ended)

-- ===================================================== conversions

/-- The flags, width and precision of a conversion. -/
structure Shape where
  left : Bool := false
  zero : Bool := false
  plus : Bool := false
  space : Bool := false
  alternate : Bool := false
  /-- Digits are to be grouped, which changes nothing here. -/
  grouped : Bool := false
  width : Nat := 0
  precision : Option Nat := none
  /-- Whether a precision was asked for at all. -/
  pointed : Bool := false

/-- Takes flags. -/
def takeFlags (extended : Bool) : Shape → List Char → Shape × List Char
  | s, [] => (s, [])
  | s, c :: rest =>
    match c with
    | '-' => takeFlags extended { s with left := true } rest
    | '0' => takeFlags extended { s with zero := true } rest
    | '+' => takeFlags extended { s with plus := true } rest
    | ' ' => takeFlags extended { s with space := true } rest
    | '#' => takeFlags extended { s with alternate := true } rest
    | '\x27' =>
      if extended then takeFlags extended { s with grouped := true } rest
      else (s, c :: rest)
    | _ => (s, c :: rest)

/-- Fills text up to a width. -/
def pad {α : Type} (blank : α) (shape : Shape) (text : List α) : List α :=
  let fill := List.replicate (shape.width - text.length) blank
  if shape.left then text ++ fill else fill ++ text

/-- A text conversion. -/
def convertText (shape : Shape) (bs : Bytes) : Bytes :=
  pad 32 shape
    (match shape.precision with | none => bs | some n => bs.take n)

/-- What a number is written with in front of its digits. -/
def signOf (shape : Shape) (negative : Bool) : List Char :=
  if negative then ['-']
  else if shape.plus then ['+']
  else if shape.space then [' ']
  else []

/-- Digits behind a sign, perhaps with zeros between them up to the
width. -/
def fillZeros (shape : Shape) (zeros : Bool) (sign digits : List Char) :
    Bytes :=
  let room := shape.width - sign.length - digits.length
  let fill :=
    if zeros && shape.zero && !shape.left then List.replicate room '0'
    else []
  (pad ' ' shape (sign ++ fill ++ digits)).map byteOf

/-- The digits of a number, at least as many as wanted; none of a zero
if none are wanted. -/
def digitsOf (shape : Shape) (base : Nat) (n : Nat) : List Char :=
  let least := shape.precision.getD 1
  let ds := if n = 0 then [] else Nat.toDigits base n
  List.replicate (least - ds.length) '0' ++ ds

/-- A whole number with a sign. -/
def convertSigned (shape : Shape) (n : Int) : Bytes :=
  fillZeros shape shape.precision.isNone (signOf shape (n < 0))
    (digitsOf shape 10 n.natAbs)

/-- A whole number in a base, perhaps with a mark of it. -/
def convertUnsigned (shape : Shape) (c : Char) (n : Nat) : Bytes :=
  let base := if c = 'o' then 8 else if c = 'u' then 10 else 16
  let ds := digitsOf shape base n
  let ds := if c = 'X' then ds.map Char.toUpper else ds
  let ds :=
    if c = 'o' && shape.alternate && ds.head? != some '0' then '0' :: ds
    else ds
  let mark :=
    if base = 16 && shape.alternate && n ≠ 0 then ['0', c] else []
  fillZeros shape shape.precision.isNone mark ds

/-- A number with a point. -/
def convertDecimal (shape : Shape) (c : Char) (n : Decimal.Number) :
    Bytes :=
  let style : Decimal.Style :=
    if c = 'e' || c = 'E' then .scientific
    else if c = 'f' || c = 'F' then .fixed
    else .general
  let text := n.size.text shape.alternate style shape.precision
  let text := if c.isUpper then text.map Char.toUpper else text
  let isFinite :=
    match n.size with
    | .quotient _ _ => true
    | _ => false
  fillZeros shape isFinite (signOf shape n.negative) text

-- ========================================================= numbers

/-- What is wrong with an argument that should be a number. -/
inductive BadNumber where
  | notNumeric
  | partly
  | outOfRange
  /-- A quoted character has more behind it. -/
  | behindQuoted (rest : String)
deriving DecidableEq

/-- The first of two complaints; which one that is differs. -/
def judge (extended : Bool) (text behind : String) (outOfRange : Bool) :
    Option BadNumber :=
  let whole : Option BadNumber :=
    if behind.isEmpty then none
    else if behind == text then some .notNumeric
    else some .partly
  let range : Option BadNumber :=
    if outOfRange then some .outOfRange else none
  if extended then range.or whole else whole.or range

/-- The character that a quote in front of it means, if that is what an
argument is. -/
def quoted (extended : Bool) (text : String) :
    Option (Nat × Option BadNumber) :=
  match text.toList with
  | q :: rest =>
    if q = '\x22' || q = '\x27' then
      match rest with
      | [] => if extended then none else some (0, none)
      | [c] => some (c.toNat, none)
      | c :: more =>
        some (c.toNat,
          if extended then some (.behindQuoted (String.ofList more))
          else none)
    else none
  | [] => none

/-- The whole number that an argument begins with, and what is wrong
with it.  Its range is that of 64 bits, with a sign or without. -/
def numberOf (extended signed : Bool) (text : String) :
    Int × Option BadNumber :=
  match quoted extended text with
  | some (n, fault) => (n, fault)
  | none =>
    let isBlank (c : Char) : Bool :=
      c == ' ' || (9 ≤ c.toNat && c.toNat ≤ 13)
    let (negative, body) :=
      match text.toList.dropWhile isBlank with
      | '-' :: rest => (true, rest)
      | '+' :: rest => (false, rest)
      | cs => (false, cs)
    let (base, digits) :=
      match body with
      | '0' :: x :: c :: rest =>
        if (x = 'x' || x = 'X') && (digit? 16 c).isSome then
          (16, c :: rest)
        else (8, body)
      | '0' :: _ => (8, body)
      | _ => (10, body)
    let (size, taken, behind) :=
      takeDigits base digits.length 0 0 digits
    let behind := if taken = 0 then text else String.ofList behind
    let top : Nat := 1 <<< 63
    let (n, outOfRange) : Int × Bool :=
      if signed then
        if negative then
          if top < size then (-(top : Int), true) else (-(size : Int), false)
        else if top ≤ size then ((top : Int) - 1, true)
        else ((size : Int), false)
      else if 2 * top ≤ size then ((2 * top : Nat) - 1, true)
      else if negative && size ≠ 0 then ((2 * top : Nat) - size, false)
      else ((size : Int), false)
    (n, judge extended text behind outOfRange)

/-- The number with a point that an argument begins with, and what is
wrong with it. -/
def decimalOf (extended : Bool) (text : String) :
    Decimal.Number × Option BadNumber :=
  match quoted extended text with
  | some (n, fault) => (⟨false, .quotient n 1⟩, fault)
  | none =>
    match Decimal.read text.toList with
    | none =>
      (⟨false, .quotient 0 1⟩, judge extended text text false)
    | some (n, behind) =>
      let format : Decimal.Format := if extended then .wide else .common
      let (size, outOfRange) :=
        match n.size with
        | .quotient num den => format.round num den
        | size => (size, false)
      (⟨n.negative, size⟩,
        judge extended text (String.ofList behind) outOfRange)

-- ========================================================= writing

/-- Why printing ends early. -/
inductive PrintFault where
  /-- A conversion that does not exist. -/
  | unknown (conversion : String)
  /-- The format ends within a conversion. -/
  | missing (conversion : String)
  | badWidth (word : String)
  | badPrecision (word : String)

/-- What was printed, what is wrong with arguments, and whether the
output was ended early. -/
structure Printed where
  out : Bytes := []
  complaints : List (String × BadNumber) := []
  ended : Bool := false
  fault : Option PrintFault := none

/-- More output. -/
def Printed.add (p : Printed) (bs : Bytes) : Printed :=
  { p with out := p.out ++ bs }

/-- With a complaint about an argument, if there is one. -/
def Printed.judged (p : Printed) (text : String)
    (fault : Option BadNumber) : Printed :=
  match fault with
  | none => p
  | some bad => { p with complaints := p.complaints ++ [(text, bad)] }

/-- Ended for a reason. -/
def Printed.stopped (p : Printed) (fault : PrintFault) : Printed :=
  { p with ended := true, fault := some fault }

/-- One conversion with its argument. -/
def convert (extended : Bool) (p : Printed) (shape : Shape) (c : Char)
    (argument : String) : Printed :=
  if c = 's' then p.add (convertText shape (Text.unpack argument))
  else if c = 'c' then
    let first := (Text.unpack argument).take 1
    p.add (pad 32 shape (if first = [] then [0] else first))
  else if c = 'b' then
    let (bs, ended) :=
      escapedText ⟨true, extended⟩ (argument.length + 1) argument.toList
    { p.add (convertText shape bs) with ended := ended }
  else if c = 'q' then p.add (Text.unpack (quoteForShell argument))
  else if c = 'd' || c = 'i' then
    let (n, fault) := numberOf extended true argument
    (p.judged argument fault).add (convertSigned shape n)
  else if c = 'o' || c = 'u' || c = 'x' || c = 'X' then
    let (n, fault) := numberOf extended false argument
    (p.judged argument fault).add (convertUnsigned shape c n.toNat)
  else
    let (n, fault) := decimalOf extended argument
    (p.judged argument fault).add (convertDecimal shape c n)

/-- The conversions there are, for a shape.  The extended dialect wants
that all of the shape means something. -/
def isConversion (extended : Bool) (shape : Shape) (bare : Bool)
    (c : Char) : Bool :=
  let points := ['e', 'E', 'f', 'F', 'g', 'G']
  let wholes := ['d', 'i', 'u', 'o', 'x', 'X']
  if !extended then
    c = 's' || c = 'b' || c = 'c' || wholes.contains c
      || points.contains c
  else if c = 'b' || c = 'q' then bare
  else if c = 's' then !shape.grouped && !shape.alternate && !shape.zero
  else if c = 'c' then
    !shape.grouped && !shape.alternate && !shape.zero && !shape.pointed
  else if c = 'd' || c = 'i' || c = 'u' then !shape.alternate
  else if c = 'f' || c = 'F' || c = 'g' || c = 'G' then true
  else if c = 'e' || c = 'E' || wholes.contains c then !shape.grouped
  else false

/-- A number for a shape from the next argument. -/
def starred (extended : Bool) (p : Printed) (arguments : List String) :
    Int × Printed :=
  match arguments with
  | [] => (0, p)
  | word :: _ =>
    let (n, fault) := numberOf extended true word
    (n, p.judged word fault)

/-- A whole number cut to 32 bits. -/
def cutWord (n : Int) : Int :=
  let half : Int := 0x80000000
  (n + half) % (2 * half) - half

/-- Takes a width. -/
def takeWidth (extended : Bool) (p : Printed) (shape : Shape)
    (cs : List Char) (arguments : List String) :
    Printed × Shape × List Char × List String :=
  match cs with
  | '*' :: rest =>
    let (n, p) := starred extended p arguments
    let word := arguments.headD ""
    let kept := cutWord n
    if extended && kept != n then
      (p.stopped (.badWidth word), shape, rest, [])
    else
      (p, { shape with
        left := shape.left || kept < 0
        width := kept.natAbs }, rest, arguments.tail)
  | _ =>
    let (width, _, rest) := takeDigits 10 9 0 0 cs
    (p, { shape with width := width }, rest, arguments)

/-- Takes a precision behind its point. -/
def takePrecision (extended : Bool) (p : Printed) (shape : Shape)
    (cs : List Char) (arguments : List String) :
    Printed × Shape × List Char × List String :=
  match cs with
  | '.' :: '*' :: rest =>
    let (n, p) := starred extended p arguments
    let word := arguments.headD ""
    let kept := cutWord n
    if extended && kept != n && 0 ≤ n then
      (p.stopped (.badPrecision word), shape, rest, [])
    else
      (p, { shape with
        pointed := true
        precision := if kept < 0 || n < 0 then none else some kept.toNat },
        rest, arguments.tail)
  | '.' :: rest =>
    let (precision, _, rest) := takeDigits 10 9 0 0 rest
    (p, { shape with pointed := true, precision := some precision },
      rest, arguments)
  | _ => (p, shape, cs, arguments)

/-- Uses a format once; answers with the arguments that are left. -/
def once (extended : Bool) : Nat → Printed → List Char → List String →
    Printed × List String
  | 0, p, _, arguments => (p, arguments)
  | _, p, [], arguments => (p, arguments)
  | fuel + 1, p, '%' :: '%' :: rest, arguments =>
    once extended fuel (p.add [37]) rest arguments
  | fuel + 1, p, '%' :: rest, arguments =>
    let (shape, behind) := takeFlags extended {} rest
    let (p, shape, behind, arguments) :=
      takeWidth extended p shape behind arguments
    let (p, shape, behind, arguments) :=
      if p.ended then (p, shape, behind, arguments)
      else takePrecision extended p shape behind arguments
    let behind :=
      if extended then
        behind.dropWhile ['l', 'L', 'h', 'j', 't', 'z'].contains
      else behind
    let shown (left : Nat) : String :=
      String.ofList ('%' :: rest.take (rest.length - left))
    if p.ended then (p, [])
    else
      match behind with
      | [] => (p.stopped (.missing (shown 0)), [])
      | c :: more =>
        let bare := behind.length == rest.length
        if isConversion extended shape bare c then
          let p :=
            if c = 'q' && arguments.isEmpty then p
            else convert extended p shape c (arguments.headD "")
          if p.ended then (p, [])
          else once extended fuel p more arguments.tail
        else (p.stopped (.unknown (shown more.length)), [])
  | fuel + 1, p, '\x5c' :: rest, arguments =>
    match escape ⟨false, extended⟩ rest with
    | (none, _) => ({ p with ended := true }, [])
    | (some bs, behind) => once extended fuel (p.add bs) behind arguments
  | fuel + 1, p, c :: rest, arguments =>
    once extended fuel (p.add [byteOf c]) rest arguments

/-- Uses a format as long as there are arguments and it takes some. -/
def rounds (extended : Bool) (format : List Char) :
    Nat → Printed → List String → Printed
  | 0, p, _ => p
  | fuel + 1, p, arguments =>
    let (p, left) := once extended (format.length + 1) p format arguments
    if p.ended || left = [] || left.length = arguments.length then p
    else rounds extended format fuel p left

/-- Prints arguments through a format. -/
def print (extended : Bool) (format : String) (arguments : List String) :
    Printed :=
  rounds extended format.toList (arguments.length + 1) {} arguments

end RemoteProvision.Local.Printf
