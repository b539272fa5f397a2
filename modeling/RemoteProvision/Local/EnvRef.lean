/-
References to environment variables.

A path or an argument may name a variable as PowerShell does,
`${env:NAME}`, or as the command interpreter does, `%NAME%`.  A name has
ASCII letters, digits and `_` and does not begin with a digit.

A text is cut once, from left to right, into plain characters and
references; each reference begins at the leftmost possible place behind
the one before.  The cut does not depend on what the variables are.
Then every reference to a known variable is replaced by its value, which
is not looked at again, and every other one stays as it is written.
-/

namespace RemoteProvision.Local

-- =========================================================== types

/-- A part of a text with references. -/
inductive Piece where
  | plain (c : Char)
  /-- A reference, with the text it is written as. -/
  | reference (name : List Char) (written : List Char)
deriving DecidableEq

-- ========================================================= cutting

/-- What a name may begin with. -/
def isNameStart (c : Char) : Bool :=
  c.isAlpha || c == '_'

/-- What a name may go on with. -/
def isNameChar (c : Char) : Bool :=
  c.isAlphanum || c == '_'

/-- Takes a name and the character that closes it. -/
def takeName (close : Char) (cs : List Char) :
    Option (List Char × List Char) :=
  let name := cs.takeWhile isNameChar
  match name.head?, cs.dropWhile isNameChar with
  | some start, c :: behind =>
    if isNameStart start && c == close then some (name, behind)
    else none
  | _, _ => none

/-- Takes the reference at the front of a text: its name, how it is
written, and the text behind it. -/
def takeReference (cs : List Char) :
    Option (List Char × List Char × List Char) :=
  match cs with
  | '$' :: '\x7b' :: 'e' :: 'n' :: 'v' :: ':' :: body =>
    (takeName '\x7d' body).map fun p =>
      (p.1, ['$', '\x7b', 'e', 'n', 'v', ':'] ++ p.1 ++ ['\x7d'], p.2)
  | '%' :: body =>
    (takeName '%' body).map fun p =>
      (p.1, ['%'] ++ p.1 ++ ['%'], p.2)
  | _ => none

/-- Behind a name there is less than before it. -/
theorem takeName_length {close : Char} {cs name behind : List Char}
    (h : takeName close cs = some (name, behind)) :
    behind.length < cs.length := by
  unfold takeName at h
  simp only at h
  split at h
  · next hdrop =>
    split at h
    · simp only [Option.some.injEq, Prod.mk.injEq] at h
      obtain ⟨-, rfl⟩ := h
      have := (List.dropWhile_sublist isNameChar (l := cs)).length_le
      rw [hdrop] at this
      simp only [List.length_cons] at this
      omega
    · simp at h
  · simp at h

/-- Behind a reference there is less than before it. -/
theorem takeReference_length {cs name written behind : List Char}
    (h : takeReference cs = some (name, written, behind)) :
    behind.length < cs.length := by
  unfold takeReference at h
  split at h
  · simp only [Option.map_eq_some_iff, Prod.mk.injEq] at h
    obtain ⟨p, hp, -, -, rfl⟩ := h
    have := takeName_length hp
    simp only [List.length_cons]
    omega
  · simp only [Option.map_eq_some_iff, Prod.mk.injEq] at h
    obtain ⟨p, hp, -, -, rfl⟩ := h
    have := takeName_length hp
    simp only [List.length_cons]
    omega
  · simp at h

/-- The parts of a text. -/
def pieces (cs : List Char) : List Piece :=
  match cs with
  | [] => []
  | c :: rest =>
    match _h : takeReference (c :: rest) with
    | some (name, written, behind) =>
      .reference name written :: pieces behind
    | none => .plain c :: pieces rest
termination_by cs.length
decreasing_by
  · exact takeReference_length _h
  · simp

-- ======================================================= expansion

/-- The values of variables by name. -/
abbrev Lookup := String → Option String

/-- What a part is replaced by. -/
def Piece.expand (lookup : Lookup) : Piece → List Char
  | .plain c => [c]
  | .reference name written =>
    match lookup (String.ofList name) with
    | some value => value.toList
    | none => written

/-- Replaces the references in a text. -/
def expandRefs (lookup : Lookup) (text : String) : String :=
  String.ofList
    ((pieces text.toList).flatMap (Piece.expand lookup))

end RemoteProvision.Local
