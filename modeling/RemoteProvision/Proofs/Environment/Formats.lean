/-
The reading of a format.

A format is a row of tokens: a doubled percent sign, a slot, or a single
character (`Tokens`).  It is read from the left, so a percent sign is a
character of its own only where neither of the other two begins; that
leaves one reading of every format (`Tokens.unique`), however long its
runs of percent signs are.

What is written for a token depends on the token and on how many slots
stand before it (`Token.written`).  Writing an assignment is that, token
by token (`fillSlots_written`): nothing of what went into a slot is read
again.  A text whose percent signs are doubled is read as that text, so
what stands around the two slots can be anything
(`Tokens.escaped`).
-/
import RemoteProvision.Environment.Assignment

namespace RemoteProvision.Environment

-- =========================================================== tokens

/-- What a format is read as. -/
inductive Token where
  /-- A percent sign, written twice. -/
  | percent
  /-- A place for the key or the value. -/
  | slot
  | char (c : Char)
deriving DecidableEq

/-- A format as the row of its tokens, read from the left. -/
inductive Tokens : List Char → List Token → Prop
  | nil : Tokens [] []
  | percent {rest : List Char} {tokens : List Token} :
      Tokens rest tokens →
      Tokens ('%' :: '%' :: rest) (.percent :: tokens)
  | slot {rest : List Char} {tokens : List Token} :
      Tokens rest tokens → Tokens ('%' :: 's' :: rest) (.slot :: tokens)
  | char {c : Char} {rest : List Char} {tokens : List Token} :
      (c = '%' → rest.head? ≠ some '%' ∧ rest.head? ≠ some 's') →
      Tokens rest tokens → Tokens (c :: rest) (.char c :: tokens)

/-- What a token is written as, behind a number of slots: the first slot
takes the key and the second the value, and the others take nothing. -/
def Token.written (key value : List Char) (slots : Nat) :
    Token → List Char
  | .percent => ['%']
  | .slot =>
    match slots with
    | 0 => key
    | 1 => value
    | _ => ['%', 's']
  | .char c => [c]

/-- How many slots stand before what follows on a token. -/
def Token.slotsBehind (slots : Nat) : Token → Nat
  | .slot => slots + 1
  | _ => slots

/-- What tokens are written as, behind a number of slots. -/
def writtenTokens (key value : List Char) : Nat → List Token → List Char
  | _, [] => []
  | slots, token :: rest =>
    token.written key value slots
      ++ writtenTokens key value (token.slotsBehind slots) rest

-- ========================================================== reading

variable {cs rest : List Char} {tokens tokens' : List Token}

/-- Every format can be read.  A token may take two characters, so what
stands behind the next one is read along. -/
theorem Tokens.exists (cs : List Char) :
    (∃ tokens, Tokens cs tokens) ∧ ∃ tokens, Tokens cs.tail tokens := by
  induction cs with
  | nil => exact ⟨⟨[], .nil⟩, ⟨[], .nil⟩⟩
  | cons c rest ih =>
      obtain ⟨⟨tokens, htokens⟩, tokens', htokens'⟩ := ih
      refine ⟨?_, tokens, htokens⟩
      by_cases hlone :
          c = '%' → rest.head? ≠ some '%' ∧ rest.head? ≠ some 's'
      · exact ⟨_, .char hlone htokens⟩
      · obtain ⟨rfl, hnext⟩ := Classical.not_imp.1 hlone
        rcases rest with _ | ⟨next, rest⟩
        · exact absurd ⟨nofun, nofun⟩ hnext
        · by_cases hpercent : next = '%'
          · subst hpercent
            exact ⟨_, .percent htokens'⟩
          · by_cases hslot : next = 's'
            · subst hslot
              exact ⟨_, .slot htokens'⟩
            · simp [hpercent, hslot] at hnext

/-- No format can be read in two ways. -/
theorem Tokens.unique (h : Tokens cs tokens) (h' : Tokens cs tokens') :
    tokens = tokens' := by
  induction h generalizing tokens' with
  | nil =>
      cases h'
      rfl
  | percent _ ih =>
      cases h' with
      | percent hrest => rw [ih hrest]
      | char hlone _ => exact absurd rfl (hlone rfl).1
  | slot _ ih =>
      cases h' with
      | slot hrest => rw [ih hrest]
      | char hlone _ => exact absurd rfl (hlone rfl).2
  | char hlone _ ih =>
      cases h' with
      | percent _ => exact absurd rfl (hlone rfl).1
      | slot _ => exact absurd rfl (hlone rfl).2
      | char _ hrest => rw [ih hrest]

-- ========================================================== writing

/-- The values for the slots behind a number of others. -/
def slotValues (key value : List Char) : Nat → List (List Char)
  | 0 => [key, value]
  | 1 => [value]
  | _ + 2 => []

/-- A single character is written as it is, whatever is left for the
slots. -/
theorem fillSlots_char {c : Char}
    (h : c = '%' → rest.head? ≠ some '%' ∧ rest.head? ≠ some 's')
    (slots : List (List Char)) :
    fillSlots slots (c :: rest) = c :: fillSlots slots rest := by
  rw [fillSlots]
  · rintro rest' rfl rfl
    exact (h rfl).1 rfl
  · rintro slot slots' rest' - rfl rfl
    exact (h rfl).2 rfl

/-- With nothing left for it, a slot is two characters. -/
theorem fillSlots_slot_copied (rest : List Char) :
    fillSlots [] ('%' :: 's' :: rest) = '%' :: 's' :: fillSlots [] rest := by
  have hpercent : fillSlots [] ('%' :: 's' :: rest)
      = '%' :: fillSlots [] ('s' :: rest) := by
    rw [fillSlots]
    · exact nofun
    · exact nofun
  rw [hpercent, fillSlots_char (fun h => absurd h (by decide))]

/-- What is written for a format is written token by token. -/
theorem fillSlots_written (key value : List Char)
    (h : Tokens cs tokens) (slots : Nat) :
    fillSlots (slotValues key value slots) cs
      = writtenTokens key value slots tokens := by
  induction h generalizing slots with
  | nil => simp [fillSlots, writtenTokens]
  | percent _ ih =>
      rw [fillSlots, ih]
      rfl
  | slot _ ih =>
      match slots with
      | 0 =>
          rw [slotValues, fillSlots]
          exact congrArg (key ++ ·) (ih 1)
      | 1 =>
          rw [slotValues, fillSlots]
          exact congrArg (value ++ ·) (ih 2)
      | slots + 2 =>
          show fillSlots [] _ = _
          rw [fillSlots_slot_copied]
          exact congrArg ('%' :: 's' :: ·) (ih (slots + 3))
  | char hlone _ ih =>
      rw [fillSlots_char hlone, ih]
      rfl

-- ========================================================= escaping

/-- A text with every percent sign written twice. -/
def escapePercent (text : String) : String :=
  String.ofList (text.toList.flatMap fun c =>
    if c = '%' then ['%', '%'] else [c])

/-- What a character is read as when its percent signs are doubled. -/
def tokenOf (c : Char) : Token :=
  if c = '%' then .percent else .char c

/-- A text with its percent signs doubled is read character by
character, whatever stands behind it. -/
theorem Tokens.escaped (text : String) (h : Tokens rest tokens) :
    Tokens ((escapePercent text).toList ++ rest)
      (text.toList.map tokenOf ++ tokens) := by
  rw [escapePercent, String.toList_ofList]
  induction text.toList with
  | nil => exact h
  | cons c cs ih =>
      rw [List.flatMap_cons, List.map_cons, tokenOf]
      by_cases hpercent : c = '%'
      · rw [if_pos hpercent, if_pos hpercent]
        exact .percent ih
      · rw [if_neg hpercent, if_neg hpercent]
        exact .char (fun h => absurd h hpercent) ih

/-- Written, it is the text again. -/
theorem writtenTokens_escaped (key value : List Char) (slots : Nat)
    (cs : List Char) (tokens : List Token) :
    writtenTokens key value slots (cs.map tokenOf ++ tokens)
      = cs ++ writtenTokens key value slots tokens := by
  induction cs with
  | nil => rfl
  | cons c cs ih =>
      rw [List.map_cons, List.cons_append, writtenTokens, tokenOf]
      by_cases hpercent : c = '%'
      · rw [if_pos hpercent, hpercent]
        exact congrArg ('%' :: ·) ih
      · rw [if_neg hpercent]
        exact congrArg (c :: ·) ih

theorem writtenTokens_slot (key value : List Char) (slots : Nat)
    (tokens : List Token) :
    writtenTokens key value slots (.slot :: tokens)
      = Token.slot.written key value slots
        ++ writtenTokens key value (slots + 1) tokens := rfl

-- ======================================================= the theorem

/-- Any texts around the two slots are written as they are, with the key
and the value between them, when their percent signs are doubled in the
format.  And any format is written as it is read from the left: token by
token, in the one way in which it can be read. -/
theorem formatAssignment_reads :
    (∀ a b c key value : String,
      formatAssignment
          (escapePercent a ++ "%s" ++ escapePercent b ++ "%s"
            ++ escapePercent c) key value
        = a ++ key ++ b ++ value ++ c) ∧
    ∀ format : String, ∃ tokens,
      Tokens format.toList tokens ∧
      (∀ tokens', Tokens format.toList tokens' → tokens' = tokens) ∧
      ∀ key value : String,
        formatAssignment format key value
          = String.ofList
              (writtenTokens key.toList value.toList 0 tokens) := by
  constructor
  · intro a b c key value
    have hreading := Tokens.escaped a
      (.slot (.escaped b (.slot (.escaped c .nil))))
    have hslot : "%s".toList = ['%', 's'] := rfl
    have hwritten :=
      fillSlots_written key.toList value.toList hreading 0
    rw [writtenTokens_escaped, writtenTokens_slot, writtenTokens_escaped,
      writtenTokens_slot, writtenTokens_escaped] at hwritten
    rw [← String.toList_inj, formatAssignment, String.toList_ofList]
    simpa [slotValues, Token.written, writtenTokens, hslot] using hwritten
  · intro format
    obtain ⟨⟨tokens, htokens⟩, -⟩ := Tokens.exists format.toList
    refine ⟨tokens, htokens, fun _ h => h.unique htokens, ?_⟩
    intro key value
    exact congrArg String.ofList (fillSlots_written _ _ htokens 0)

example :
    formatAssignment "%%s %%%s=%s %s %" "%s" "%%" = "%s %%s=%% %s %" := by
  decide

end RemoteProvision.Environment
