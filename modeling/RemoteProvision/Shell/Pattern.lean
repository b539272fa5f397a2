/-
Patterns.

In a pattern `*` stands for any text, `?` for any character and a list
in square brackets for one of its characters.  A backslash keeps the next
character from having a meaning.
-/

namespace RemoteProvision.Shell.Pattern

-- =========================================================== types

/-- A member of a list in brackets. -/
inductive Member where
  | range (first last : Char)
  | family (has : Char → Bool)

/-- A part of a pattern. -/
inductive Piece where
  | exactly (c : Char)
  | anyChar
  | anyText
  | oneOf (negated : Bool) (members : List Member)

/-- Whether a member of a list is a character. -/
def Member.admits (m : Member) (c : Char) : Bool :=
  match m with
  | .range first last => first ≤ c && c ≤ last
  | .family has => has c

/-- Whether a piece matches one character. -/
def Piece.admits (p : Piece) (c : Char) : Bool :=
  match p with
  | .exactly d => c == d
  | .anyChar => true
  | .anyText => true
  | .oneOf negated members => (members.any (·.admits c)) != negated

-- ========================================================= reading

/-- The characters of a family by its name. -/
def family? (name : String) : Option (Char → Bool) :=
  let isPunctuation (c : Char) :=
    '!' ≤ c && c ≤ '~' && !c.isAlphanum
  let isBlank (c : Char) := c == ' ' || c == '\t'
  let isControl (c : Char) := c.toNat < 32 || c.toNat == 127
  match name with
  | "alnum" => some Char.isAlphanum
  | "alpha" => some Char.isAlpha
  | "blank" => some isBlank
  | "cntrl" => some isControl
  | "digit" => some Char.isDigit
  | "graph" => some fun c => '!' ≤ c && c ≤ '~'
  | "lower" => some fun c => 'a' ≤ c && c ≤ 'z'
  | "print" => some fun c => ' ' ≤ c && c ≤ '~'
  | "punct" => some isPunctuation
  | "space" => some fun c =>
      c == ' ' || ('\t' ≤ c && c ≤ '\r')
  | "upper" => some fun c => 'A' ≤ c && c ≤ 'Z'
  | "xdigit" => some fun c =>
      c.isDigit || ('a' ≤ c && c ≤ 'f') || ('A' ≤ c && c ≤ 'F')
  | _ => none

/-- Takes a family in a list, such as `[:alpha:]`, behind its first
bracket. -/
def takeFamily (cs : List Char) :
    Option ((Char → Bool) × List Char) :=
  match cs with
  | ':' :: rest =>
    let name := rest.takeWhile Char.isAlpha
    match rest.drop name.length with
    | ':' :: ']' :: behind =>
      (family? (String.ofList name)).map fun has => (has, behind)
    | _ => none
  | _ => none

/-- Takes the members of a list up to its closing bracket, which cannot
come first. -/
def members : Nat → Bool → List Char →
    Option (List Member × List Char)
  | 0, _, _ => none
  | _, _, [] => none
  | fuel + 1, first, c :: rest =>
    if c == ']' && !first then some ([], rest)
    else
      let more (m : Member) (behind : List Char) :
          Option (List Member × List Char) :=
        (members fuel false behind).map fun r => (m :: r.1, r.2)
      let from_ (c : Char) (behind : List Char) :
          Option (List Member × List Char) :=
        match behind with
        | '-' :: '\x5c' :: d :: behind => more (.range c d) behind
        | '-' :: d :: behind' =>
          if d == ']' then more (.range c c) behind
          else more (.range c d) behind'
        | _ => more (.range c c) behind
      match c, takeFamily rest, rest with
      | '[', some (has, behind), _ => more (.family has) behind
      | '\x5c', _, d :: behind => from_ d behind
      | c, _, rest => from_ c rest

/-- Takes a list in brackets, the bracket taken already. -/
def bracket (cs : List Char) : Option (Piece × List Char) :=
  let (negated, body) :=
    match cs with
    | '!' :: rest => (true, rest)
    | _ => (false, cs)
  (members (body.length + 1) true body).map fun r =>
    (.oneOf negated r.1, r.2)

/-- The pieces of a pattern. -/
def pieces : Nat → List Char → List Piece
  | 0, _ => []
  | _, [] => []
  | fuel + 1, '\x5c' :: c :: rest => .exactly c :: pieces fuel rest
  | fuel + 1, '*' :: rest => .anyText :: pieces fuel rest
  | fuel + 1, '?' :: rest => .anyChar :: pieces fuel rest
  | fuel + 1, '[' :: rest =>
    match bracket rest with
    | some (p, behind) => p :: pieces fuel behind
    | none => .exactly '[' :: pieces fuel rest
  | fuel + 1, c :: rest => .exactly c :: pieces fuel rest

-- ======================================================== matching

/-- Whether pieces match a text. -/
def matchesAll : List Piece → List Char → Bool
  | [], cs => cs.isEmpty
  | .anyText :: more, [] => matchesAll more []
  | .anyText :: more, c :: cs =>
    matchesAll more (c :: cs) || matchesAll (.anyText :: more) cs
  | p :: more, c :: cs => p.admits c && matchesAll more cs
  | _ :: _, [] => false
termination_by ps cs => ps.length + cs.length

/-- Whether a pattern matches a text. -/
def admits (pattern text : String) : Bool :=
  matchesAll (pieces (pattern.length + 1) pattern.toList) text.toList

/-- What is left of a text when the shortest or longest part at one end
of it that a pattern matches is taken away. -/
def trim (atFront longest : Bool) (pattern text : String) : String :=
  let ps := pieces (pattern.length + 1) pattern.toList
  let cs := text.toList
  let sizes := List.range (cs.length + 1)
  let fits (n : Nat) :=
    matchesAll ps
      (if atFront then cs.take n else cs.drop (cs.length - n))
  match (if longest then sizes.reverse else sizes).find? fits with
  | none => text
  | some n =>
    String.ofList
      (if atFront then cs.drop n else cs.take (cs.length - n))

end RemoteProvision.Shell.Pattern
