/-
Whole numbers.

A whole number is written in decimal digits, or behind `0x`, `0o` or
`0b` in another base, with an optional sign.  A decimal number of more
than one digit does not begin with a zero: such a text is taken for a
text.
-/

namespace RemoteProvision.Yaml.Number

/-- The value of a digit of a base up to sixteen. -/
def digit? (base : Nat) (c : Char) : Option Nat :=
  let value :=
    if c.isDigit then some (c.toNat - 48)
    else if 'a' ≤ c && c ≤ 'f' then some (c.toNat - 87)
    else if 'A' ≤ c && c ≤ 'F' then some (c.toNat - 55)
    else none
  value.filter fun d => d < base

/-- The value of digits, of which there is at least one. -/
def digits? (base : Nat) (cs : List Char) : Option Nat :=
  if cs = [] then none
  else
    cs.foldl
      (fun n c => n.bind fun v => (digit? base c).map fun d => v * base + d)
      (some 0)

/-- The base that a letter stands for. -/
def base? (c : Char) : Option Nat :=
  match c with
  | 'x' => some 16
  | 'o' => some 8
  | 'b' => some 2
  | _ => none

/-- The value of a number without its sign. -/
def magnitude? (cs : List Char) : Option Nat :=
  match cs with
  | '0' :: letter :: rest =>
    match base? letter with
    | some base => digits? base rest
    | none => none
  | _ => digits? 10 cs

/-- The value of a number. -/
def read? (text : String) : Option Int :=
  match text.toList with
  | '-' :: rest => (magnitude? rest).map fun n => -(n : Int)
  | '+' :: rest => (magnitude? rest).map fun n => (n : Int)
  | cs => (magnitude? cs).map fun n => (n : Int)

end RemoteProvision.Yaml.Number
