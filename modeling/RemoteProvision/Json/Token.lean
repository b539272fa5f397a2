/-
JSON tokens.

A JSON text is cut into brackets, commas, colons, strings, numbers and the
three words `null`, `true` and `false`, with four kinds of blanks between
them.  A string is read into UTF-16 units, because an escape may name half
of a surrogate pair; whether its units form a text is asked later.

Every token takes at least one character from the text, so cutting ends.
-/
import RemoteProvision.Encoding.Utf16

namespace RemoteProvision.Json

-- ========================================================== strings

/-- The value of a hexadecimal digit. -/
def hexValue? (c : Char) : Option Nat :=
  if '0' ≤ c ∧ c ≤ '9' then some (c.toNat - 48)
  else if 'a' ≤ c ∧ c ≤ 'f' then some (c.toNat - 87)
  else if 'A' ≤ c ∧ c ≤ 'F' then some (c.toNat - 55)
  else none

/-- The unit of four hexadecimal digits. -/
def hexUnit? (a b c d : Char) : Option UInt16 := do
  let a ← hexValue? a
  let b ← hexValue? b
  let c ← hexValue? c
  let d ← hexValue? d
  return UInt16.ofNat (((a * 16 + b) * 16 + c) * 16 + d)

/-- The unit that a letter stands for behind a backslash. -/
def escapeUnit? (c : Char) : Option UInt16 :=
  match c with
  | '\x22' => some 0x22
  | '\x5c' => some 0x5c
  | '/' => some 0x2f
  | 'b' => some 0x08
  | 'f' => some 0x0c
  | 'n' => some 0x0a
  | 'r' => some 0x0d
  | 't' => some 0x09
  | _ => none

/-- The units of a string from behind its opening quote, and what comes
behind its closing quote. -/
def readString : List Char → Option (List UInt16 × List Char)
  | '\x22' :: rest => some ([], rest)
  | '\x5c' :: 'u' :: a :: b :: c :: d :: rest => do
    let unit ← hexUnit? a b c d
    let (units, behind) ← readString rest
    return (unit :: units, behind)
  | '\x5c' :: e :: rest => do
    let unit ← escapeUnit? e
    let (units, behind) ← readString rest
    return (unit :: units, behind)
  | c :: rest =>
    if c = '\x5c' ∨ c.toNat < 0x20 then none
    else do
      let (units, behind) ← readString rest
      return (Encoding.charUnits c ++ units, behind)
  | [] => none

-- ========================================================== numbers

/-- The characters that numbers are made of. -/
def isNumeric (c : Char) : Bool :=
  c.isDigit || c == '-' || c == '+' || c == '.' || c == 'e' || c == 'E'

/-- An exponent, or nothing. -/
def isExponent : List Char → Bool
  | [] => true
  | e :: rest =>
    let digits :=
      match rest with
      | '+' :: digits => digits
      | '-' :: digits => digits
      | digits => digits
    (e == 'e' || e == 'E') && !digits.isEmpty && digits.all Char.isDigit

/-- What comes behind the digits before the point. -/
def isNumberEnd : List Char → Bool
  | '.' :: rest =>
    !(rest.takeWhile Char.isDigit).isEmpty
      && isExponent (rest.dropWhile Char.isDigit)
  | cs => isExponent cs

/-- A number without its sign; only a lone zero begins with one. -/
def isMagnitude (cs : List Char) : Bool :=
  let whole := cs.takeWhile Char.isDigit
  !whole.isEmpty && (whole == ['0'] || whole.head? != some '0')
    && isNumberEnd (cs.dropWhile Char.isDigit)

/-- Whether a literal is a number. -/
def isNumber : List Char → Bool
  | '-' :: rest => isMagnitude rest
  | cs => isMagnitude cs

/-- The number at the front of a text, as it is written. -/
def readNumber (cs : List Char) : Option (List Char × List Char) :=
  let literal := cs.takeWhile isNumeric
  if isNumber literal then some (literal, cs.dropWhile isNumeric)
  else none

-- =========================================================== tokens

/-- A token of a JSON text. -/
inductive Token where
  | openList
  | closeList
  | openObject
  | closeObject
  | comma
  | colon
  | null
  | truth (value : Bool)
  /-- A number as it is written. -/
  | number (literal : List Char)
  | string (units : List UInt16)
deriving DecidableEq

/-- The blanks between tokens. -/
def isSpace (c : Char) : Bool :=
  c == ' ' || c == '\t' || c == '\n' || c == '\r'

/-- The token at the front of a text, and the rest. -/
def readToken : List Char → Option (Token × List Char)
  | '[' :: rest => some (.openList, rest)
  | ']' :: rest => some (.closeList, rest)
  | '\x7b' :: rest => some (.openObject, rest)
  | '\x7d' :: rest => some (.closeObject, rest)
  | ',' :: rest => some (.comma, rest)
  | ':' :: rest => some (.colon, rest)
  | 'n' :: 'u' :: 'l' :: 'l' :: rest => some (.null, rest)
  | 't' :: 'r' :: 'u' :: 'e' :: rest => some (.truth true, rest)
  | 'f' :: 'a' :: 'l' :: 's' :: 'e' :: rest => some (.truth false, rest)
  | '\x22' :: rest => do
    let (units, behind) ← readString rest
    return (.string units, behind)
  | cs => do
    let (literal, behind) ← readNumber cs
    return (.number literal, behind)

-- ========================================================== lengths

/-- A string takes its closing quote at least. -/
theorem readString_length {cs : List Char} {units : List UInt16}
    {behind : List Char} (h : readString cs = some (units, behind)) :
    behind.length < cs.length := by
  fun_induction readString cs generalizing units behind with
  | case1 rest =>
    obtain ⟨-, rfl⟩ := Prod.mk.inj (Option.some.inj h)
    simp
  | case2 a b c d rest ih =>
    simp only [Option.bind_eq_bind, Option.bind_eq_some_iff] at h
    obtain ⟨unit, -, ⟨us, r⟩, hr, hp⟩ := h
    obtain ⟨-, rfl⟩ := Prod.mk.inj (Option.some.inj hp)
    have := ih hr
    simp only [List.length_cons]
    omega
  | case3 e rest _ ih =>
    simp only [Option.bind_eq_bind, Option.bind_eq_some_iff] at h
    obtain ⟨unit, -, ⟨us, r⟩, hr, hp⟩ := h
    obtain ⟨-, rfl⟩ := Prod.mk.inj (Option.some.inj hp)
    have := ih hr
    simp only [List.length_cons]
    omega
  | case4 => simp at h
  | case5 c rest _ _ _ _ ih =>
    simp only [Option.bind_eq_bind, Option.bind_eq_some_iff] at h
    obtain ⟨⟨us, r⟩, hr, hp⟩ := h
    obtain ⟨-, rfl⟩ := Prod.mk.inj (Option.some.inj hp)
    have := ih hr
    simp only [List.length_cons]
    omega
  | case6 => simp at h

/-- A number has at least one character. -/
theorem readNumber_length {cs literal behind : List Char}
    (h : readNumber cs = some (literal, behind)) :
    behind.length < cs.length := by
  simp only [readNumber] at h
  split at h
  · next hn =>
    obtain ⟨hl, rfl⟩ := Prod.mk.inj (Option.some.inj h)
    have hsplit := congrArg List.length
      (List.takeWhile_append_dropWhile (p := isNumeric) (l := cs))
    rw [List.length_append] at hsplit
    have hpos : cs.takeWhile isNumeric ≠ [] := by
      intro e
      rw [e] at hn
      exact absurd hn (by decide)
    have := List.length_pos_iff.mpr hpos
    omega
  · simp at h

/-- A token has at least one character. -/
theorem readToken_length {cs behind : List Char} {token : Token}
    (h : readToken cs = some (token, behind)) :
    behind.length < cs.length := by
  unfold readToken at h
  split at h
  all_goals
    first
    | (obtain ⟨-, rfl⟩ := Prod.mk.inj (Option.some.inj h)
       simp only [List.length_cons]
       omega)
    | skip
  · simp only [Option.bind_eq_bind, Option.bind_eq_some_iff] at h
    obtain ⟨⟨us, r⟩, hr, hp⟩ := h
    obtain ⟨-, rfl⟩ := Prod.mk.inj (Option.some.inj hp)
    have := readString_length hr
    simp only [List.length_cons]
    omega
  · simp only [Option.bind_eq_bind, Option.bind_eq_some_iff] at h
    obtain ⟨⟨us, r⟩, hr, hp⟩ := h
    obtain ⟨-, rfl⟩ := Prod.mk.inj (Option.some.inj hp)
    exact readNumber_length hr

theorem skipSpaces_length (cs : List Char) :
    (cs.dropWhile isSpace).length ≤ cs.length :=
  (List.dropWhile_sublist isSpace).length_le

-- ======================================================== all tokens

/-- The tokens of a text; `none` if it cannot be cut into tokens. -/
def tokens (cs : List Char) : Option (List Token) :=
  match _hc : cs.dropWhile isSpace with
  | [] => some []
  | c :: rest =>
    match _ht : readToken (c :: rest) with
    | none => none
    | some (token, behind) => (tokens behind).map (token :: ·)
termination_by cs.length
decreasing_by
  have h := readToken_length _ht
  have := skipSpaces_length cs
  rw [_hc] at this
  omega

end RemoteProvision.Json
