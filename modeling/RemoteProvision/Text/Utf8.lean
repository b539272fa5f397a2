/-
Bytes and texts.

A text is written as bytes in UTF-8.  Reading goes the other way in two
manners.  The strict reader refuses bytes that are not UTF-8.  The
lenient reader never refuses: each maximal part of the input that begins
like a character and then breaks off is replaced by U+FFFD, and a byte
that begins nothing is replaced alone.

Both readers are built on one step, `takeChar`, which looks at the front
of a non-empty byte list and says how many bytes belong together and
whether they are a character.
-/

namespace RemoteProvision.Text

/-- Raw bytes, as files and streams hold them. -/
abbrev Bytes := List UInt8

-- ========================================================= writing

/-- The bytes of one character: one, two, three or four of them. -/
def charBytes (c : Char) : Bytes :=
  let n := c.toNat
  if n < 0x80 then [UInt8.ofNat n]
  else if n < 0x800 then
    [UInt8.ofNat (0xC0 + n / 64), UInt8.ofNat (0x80 + n % 64)]
  else if n < 0x10000 then
    [UInt8.ofNat (0xE0 + n / 4096), UInt8.ofNat (0x80 + n / 64 % 64),
      UInt8.ofNat (0x80 + n % 64)]
  else
    [UInt8.ofNat (0xF0 + n / 262144), UInt8.ofNat (0x80 + n / 4096 % 64),
      UInt8.ofNat (0x80 + n / 64 % 64), UInt8.ofNat (0x80 + n % 64)]

/-- The bytes of a text. -/
def toBytes (s : String) : Bytes :=
  s.toList.flatMap charBytes

-- ======================================================== one step

/-- The bytes that continue a character begun by some lead byte. -/
def isContinuation (b : UInt8) : Bool :=
  0x80 ≤ b && b ≤ 0xBF

/-- The second bytes that a lead byte admits.  They are narrower than
the continuation bytes where an overlong form, a surrogate or a value
past the last code point would begin. -/
def admitsSecond (lead second : UInt8) : Bool :=
  if lead == 0xE0 then 0xA0 ≤ second && second ≤ 0xBF
  else if lead == 0xED then 0x80 ≤ second && second ≤ 0x9F
  else if lead == 0xF0 then 0x90 ≤ second && second ≤ 0xBF
  else if lead == 0xF4 then 0x80 ≤ second && second ≤ 0x8F
  else isContinuation second

/-- How many bytes a lead byte announces; zero for a byte that begins
no character. -/
def announced (lead : UInt8) : Nat :=
  if lead < 0x80 then 1
  else if 0xC2 ≤ lead && lead ≤ 0xDF then 2
  else if 0xE0 ≤ lead && lead ≤ 0xEF then 3
  else if 0xF0 ≤ lead && lead ≤ 0xF4 then 4
  else 0

/-- The six payload bits of a continuation byte. -/
def payload (b : UInt8) : Nat :=
  b.toNat % 64

/-- Reads the front of `lead :: rest`: the character there, or `none`
for a broken one, with the bytes behind it.  A broken character ends
before the first byte that cannot continue it. -/
def takeChar (lead : UInt8) (rest : Bytes) : Option Char × Bytes :=
  match announced lead with
  | 1 => (some (Char.ofNat lead.toNat), rest)
  | 2 =>
    match rest with
    | b :: r =>
      if isContinuation b then
        (some (Char.ofNat ((lead.toNat - 0xC0) * 64 + payload b)), r)
      else (none, b :: r)
    | [] => (none, [])
  | 3 =>
    match rest with
    | b :: r =>
      if admitsSecond lead b then
        match r with
        | c :: r' =>
          if isContinuation c then
            (some (Char.ofNat ((lead.toNat - 0xE0) * 4096
              + payload b * 64 + payload c)), r')
          else (none, c :: r')
        | [] => (none, [])
      else (none, b :: r)
    | [] => (none, [])
  | 4 =>
    match rest with
    | b :: r =>
      if admitsSecond lead b then
        match r with
        | c :: r' =>
          if isContinuation c then
            match r' with
            | d :: r'' =>
              if isContinuation d then
                (some (Char.ofNat ((lead.toNat - 0xF0) * 262144
                  + payload b * 4096 + payload c * 64 + payload d)), r'')
              else (none, d :: r'')
            | [] => (none, [])
          else (none, c :: r')
        | [] => (none, [])
      else (none, b :: r)
    | [] => (none, [])
  | _ => (none, rest)

/-- A step never grows what is left. -/
theorem takeChar_length_le (lead : UInt8) (rest : Bytes) :
    (takeChar lead rest).2.length ≤ rest.length := by
  unfold takeChar
  split
  · exact Nat.le_refl _
  · split
    · split <;> simp
    · simp
  · split
    · split
      · split
        · split <;> simp
          omega
        · simp
      · simp
    · simp
  · split
    · split
      · split
        · split
          · split
            · split <;> simp
              omega
            · simp
          · simp
        · simp
      · simp
    · simp
  · exact Nat.le_refl _

-- ========================================================= reading

/-- The characters of a byte list, `none` in the place of each broken
one. -/
def pieces : Bytes → List (Option Char)
  | [] => []
  | b :: rest =>
    (takeChar b rest).1 :: pieces (takeChar b rest).2
termination_by bs => bs.length
decreasing_by
  have := takeChar_length_le b rest
  simp only [List.length_cons]
  omega

/-- The character written in the place of a broken one. -/
def replacement : Char := Char.ofNat 0xFFFD

/-- The lenient reading: every byte list has a text. -/
def ofBytesLossy (bs : Bytes) : String :=
  String.ofList ((pieces bs).map (·.getD replacement))

/-- The strict reading: only UTF-8 has a text. -/
def ofBytes? (bs : Bytes) : Option String :=
  ((pieces bs).mapM id).map String.ofList

end RemoteProvision.Text
