/-
JSON strings are read back.

What is written for a character is read as the units of that character,
whatever is behind it (`readString_stringChar`), so a text is read back
from its string as one token, and the closing quote is the one that was
written.  No control character is left in a string, so it stands on one
line (`le_quoted`).
-/
import RemoteProvision.Json.Quoted
import RemoteProvision.Json.Value
import RemoteProvision.Proofs.Encoding.Utf16
import RemoteProvision.Proofs.Ids

namespace RemoteProvision.Json

open Encoding (charUnits units)

variable {c e : Char} {cs rest behind : List Char} {n : Nat}

-- ============================================================= escapes

theorem hexValue?_hexDigit (h : n < 16) :
    hexValue? (Ids.hexDigit n) = some n := by
  revert n
  decide

/-- Four hexadecimal digits are read as the unit they are written for. -/
theorem hexUnit?_hexDigits (h : n < 65536) :
    ∃ a b c d, Ids.hexDigits 4 n = [a, b, c, d] ∧
      hexUnit? a b c d = some (UInt16.ofNat n) := by
  refine ⟨_, _, _, _, rfl, ?_⟩
  rw [hexUnit?, hexValue?_hexDigit (Nat.mod_lt _ (by decide)),
    hexValue?_hexDigit (Nat.mod_lt _ (by decide)),
    hexValue?_hexDigit (Nat.mod_lt _ (by decide)),
    hexValue?_hexDigit (Nat.mod_lt _ (by decide))]
  refine congrArg (fun k => some (UInt16.ofNat k)) ?_
  omega

/-- A letter behind a backslash is read as its unit. -/
theorem readString_letter {unit : UInt16} (h : escapeUnit? e = some unit)
    (rest : List Char) :
    readString ('\x5c' :: e :: rest)
      = (readString rest).map fun read => (unit :: read.1, read.2) := by
  have hletter : e ≠ 'u' := by
    rintro rfl
    cases h
  rw [readString.eq_3 e rest fun _ _ _ _ _ hu => absurd hu hletter, h]
  cases readString rest with
  | none => rfl
  | some read => rfl

/-- Four digits behind a backslash and a `u` are read as their unit. -/
theorem readString_hex (h : n < 65536) (rest : List Char) :
    readString ('\x5c' :: 'u' :: (Ids.hexDigits 4 n ++ rest))
      = (readString rest).map
          fun read => (UInt16.ofNat n :: read.1, read.2) := by
  obtain ⟨a, b, c, d, hdigits, hunit⟩ := hexUnit?_hexDigits h
  rw [hdigits]
  show readString ('\x5c' :: 'u' :: a :: b :: c :: d :: rest) = _
  rw [readString, hunit]
  cases readString rest with
  | none => rfl
  | some read => rfl

/-- Any other character is read as it stands. -/
theorem readString_plain (hquote : c ≠ '\x22') (hback : c ≠ '\x5c')
    (hcontrol : 0x20 ≤ c.toNat) (rest : List Char) :
    readString (c :: rest)
      = (readString rest).map
          fun read => (charUnits c ++ read.1, read.2) := by
  have hplain : ¬ (c = '\x5c' ∨ c.toNat < 0x20) := by
    rintro (hc | hc)
    · exact hback hc
    · omega
  rw [readString.eq_4 c rest hquote
    (fun _ _ _ _ _ hc => absurd hc hback)
    (fun _ _ hc => absurd hc hback), if_neg hplain]
  cases readString rest with
  | none => rfl
  | some read => rfl

/-- A character is written with a letter behind a backslash, with four
digits, or as it stands. -/
theorem stringChar_cases (c : Char) :
    (∃ e unit, escapeUnit? e = some unit ∧ 0x20 ≤ e.toNat ∧
      charUnits c = [unit] ∧ stringChar c = ['\x5c', e]) ∨
    (c.toNat < 0x20 ∧
      stringChar c = ['\x5c', 'u'] ++ Ids.hexDigits 4 c.toNat) ∨
    (c ≠ '\x22' ∧ c ≠ '\x5c' ∧ 0x20 ≤ c.toNat ∧ stringChar c = [c]) := by
  unfold stringChar
  split
  · next hc => subst hc; exact .inl ⟨_, _, rfl, by decide, rfl, rfl⟩
  split
  · next hc => subst hc; exact .inl ⟨_, _, rfl, by decide, rfl, rfl⟩
  split
  · next hc => subst hc; exact .inl ⟨_, _, rfl, by decide, rfl, rfl⟩
  split
  · next hc => subst hc; exact .inl ⟨_, _, rfl, by decide, rfl, rfl⟩
  split
  · next hc => subst hc; exact .inl ⟨_, _, rfl, by decide, rfl, rfl⟩
  split
  · next hc => subst hc; exact .inl ⟨_, _, rfl, by decide, rfl, rfl⟩
  split
  · next hc => subst hc; exact .inl ⟨_, _, rfl, by decide, rfl, rfl⟩
  split
  · next hcontrol => exact .inr (.inl ⟨hcontrol, rfl⟩)
  · next hquote hback _ _ _ _ _ hcontrol =>
      exact .inr (.inr ⟨hquote, hback, Nat.not_lt.1 hcontrol, rfl⟩)

/-- What is written for a character is read as its units. -/
theorem readString_stringChar (c : Char) (rest : List Char) :
    readString (stringChar c ++ rest)
      = (readString rest).map
          fun read => (charUnits c ++ read.1, read.2) := by
  rcases stringChar_cases c with ⟨e, unit, hletter, -, hunits, hwritten⟩ |
    ⟨hcontrol, hwritten⟩ | ⟨hquote, hback, hprinted, hwritten⟩
  · rw [hwritten, hunits]
    exact readString_letter hletter rest
  · have hunits : charUnits c = [UInt16.ofNat c.toNat] :=
      if_pos (by omega)
    rw [hwritten, hunits]
    exact readString_hex (by omega) rest
  · rw [hwritten]
    exact readString_plain hquote hback hprinted rest

-- ============================================================== tokens

/-- A text is read back up to the quote behind it. -/
theorem readString_text (cs rest : List Char) :
    readString (cs.flatMap stringChar ++ '\x22' :: rest)
      = some (units cs, rest) := by
  induction cs with
  | nil => exact readString.eq_1 rest
  | cons c cs ih =>
      rw [List.flatMap_cons, List.append_assoc, readString_stringChar, ih]
      rfl

/-- The first token is cut off. -/
theorem tokens_cons {token : Token} (hspace : isSpace c = false)
    (hread : readToken (c :: rest) = some (token, behind)) :
    tokens (c :: rest) = (tokens behind).map (token :: ·) := by
  have hfront : (c :: rest).dropWhile isSpace = c :: rest := by
    rw [List.dropWhile_cons, hspace]
    rfl
  rw [tokens]
  split
  · next hnil =>
      rw [hfront] at hnil
      cases hnil
  · next d more hcons =>
      rw [hfront] at hcons
      cases hcons
      split
      · next hnone =>
          rw [hread] at hnone
          cases hnone
      · next hsome =>
          rw [hread] at hsome
          cases hsome
          rfl

theorem toList_quoted (text : String) :
    (quoted text).toList
      = '\x22' :: (text.toList.flatMap stringChar ++ ['\x22']) := by
  rw [quoted, String.toList_append, String.toList_append]
  exact congrArg (fun cs => '\x22' :: (cs ++ ['\x22']))
    String.toList_ofList

/-- A string is one token. -/
theorem tokens_quoted (text : String) (rest : List Char) :
    tokens ((quoted text).toList ++ rest)
      = (tokens rest).map (.string (units text.toList) :: ·) := by
  rw [toList_quoted, List.cons_append, List.append_assoc]
  refine tokens_cons rfl ?_
  rw [readToken, List.singleton_append, readString_text]
  rfl

theorem textOfUnits?_units (text : String) :
    textOfUnits? (units text.toList) = some text := by
  rw [textOfUnits?, Encoding.ofUnits?_units, Option.map_some,
    String.ofList_toList]

-- ============================================================ controls

private theorem le_of_alphanum (h : c.isAlphanum = true) :
    0x20 ≤ c.toNat := by
  have hcontrols : ∀ n < 0x20, (Char.ofNat n).isAlphanum = false := by
    decide
  refine Nat.not_lt.1 fun hlt => ?_
  have hc := hcontrols c.toNat hlt
  rw [Char.ofNat_toNat, h] at hc
  cases hc

/-- No control character below the space is written. -/
theorem le_stringChar : ∀ d ∈ stringChar c, 0x20 ≤ d.toNat := by
  have hescape : ∀ {e : Char}, 0x20 ≤ e.toNat →
      ∀ d ∈ ['\x5c', e], 0x20 ≤ d.toNat := fun he =>
    List.forall_mem_cons.2 ⟨by decide, List.forall_mem_singleton.2 he⟩
  rcases stringChar_cases c with ⟨e, unit, -, hletter, -, hwritten⟩ |
    ⟨-, hwritten⟩ | ⟨-, -, hprinted, hwritten⟩
  · rw [hwritten]
    exact hescape hletter
  · rw [hwritten]
    exact List.forall_mem_append.2 ⟨hescape (by decide), fun d hd =>
      le_of_alphanum (Ids.hexDigits_alphanum 4 c.toNat d hd)⟩
  · rw [hwritten]
    exact List.forall_mem_singleton.2 hprinted

/-- So none is in a string. -/
theorem le_quoted (text : String) :
    ∀ d ∈ (quoted text).toList, 0x20 ≤ d.toNat := by
  rw [toList_quoted]
  have hquote : 0x20 ≤ '\x22'.toNat := by decide
  refine List.forall_mem_cons.2 ⟨hquote, List.forall_mem_append.2
    ⟨fun d hd => ?_, List.forall_mem_singleton.2 hquote⟩⟩
  obtain ⟨c, -, hc⟩ := List.mem_flatMap.1 hd
  exact le_stringChar d hc

end RemoteProvision.Json
