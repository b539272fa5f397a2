/-
The parts of a template.

A template is text with actions between `{{` and `}}`.  An action is
`.Name`, which stands for the value of a field, or a text in double
quotes, which stands for itself and may hold any braces.  A single brace
is an ordinary character.

Cutting a template into its parts needs the template alone, never the
fields: literal texts and actions, in order, each action with the byte
offset of its `{{`.  A `{{` that is never closed ends the list.
-/
import RemoteProvision.Text.Blank

namespace RemoteProvision.Template

open RemoteProvision.Text

-- =========================================================== types

/-- What stands between `{{` and `}}`, blanks around it removed. -/
inductive Action where
  /-- The value of a field. -/
  | field (name : String)
  /-- A text as it is written. -/
  | quoted (text : String)
  /-- Nothing. -/
  | empty
  /-- Anything else. -/
  | unsupported (text : String)
deriving DecidableEq

/-- One part of a template. -/
inductive Segment where
  /-- Text that is copied. -/
  | literal (text : List Char)
  /-- An action, with the offset of its `{{`. -/
  | action (position : Nat) (action : Action)
  /-- A `{{` without its `}}`. -/
  | unclosed (position : Nat)
deriving DecidableEq

-- ========================================================= cutting

/-- Cuts a text at the first place where `c` stands twice in a row: what
is before the two, and what is behind them. -/
def cutAtDouble (c : Char) :
    List Char → Option (List Char × List Char)
  | [] => none
  | a :: rest =>
    match rest with
    | [] => none
    | b :: rest' =>
      if a = c ∧ b = c then some ([], rest')
      else (cutAtDouble c rest).map fun p => (a :: p.1, p.2)

/-- Cuts a text at the first `c`. -/
def cutAt (c : Char) : List Char → Option (List Char × List Char)
  | [] => none
  | a :: rest =>
    if a = c then some ([], rest)
    else (cutAt c rest).map fun p => (a :: p.1, p.2)

/-- The double quote. -/
def quoteMark : Char := '\x22'

/-- Cuts the text behind a `{{` at the `}}` that closes it.  A quoted
text at the front of the action hides any `}}` inside it. -/
def cutAction (body : List Char) :
    Option (List Char × List Char) :=
  match body.dropWhile isBlank with
  | [] => none
  | c :: rest =>
    if c = quoteMark then
      match cutAt quoteMark rest with
      | none => none
      | some (inside, behind) =>
        (cutAtDouble '\x7d' behind).map fun p =>
          (body.takeWhile isBlank
            ++ c :: inside ++ quoteMark :: p.1, p.2)
    else cutAtDouble '\x7d' body

/-- A cut leaves less than there was. -/
theorem cutAtDouble_length {c : Char} {cs a b : List Char}
    (h : cutAtDouble c cs = some (a, b)) :
    a.length + b.length + 2 = cs.length := by
  induction cs generalizing a b with
  | nil => simp [cutAtDouble] at h
  | cons x rest ih =>
    cases rest with
    | nil => simp [cutAtDouble] at h
    | cons y rest' =>
      rw [cutAtDouble] at h
      split at h
      · simp only [Option.some.injEq, Prod.mk.injEq] at h
        obtain ⟨rfl, rfl⟩ := h
        simp
      · simp only [Option.map_eq_some_iff, Prod.mk.injEq] at h
        obtain ⟨p, hp, rfl, rfl⟩ := h
        have := ih hp
        simp only [List.length_cons] at this ⊢
        omega

/-- A cut leaves less than there was. -/
theorem cutAt_length {c : Char} {cs a b : List Char}
    (h : cutAt c cs = some (a, b)) :
    a.length + b.length + 1 = cs.length := by
  induction cs generalizing a b with
  | nil => simp [cutAt] at h
  | cons x rest ih =>
    rw [cutAt] at h
    split at h
    · simp only [Option.some.injEq, Prod.mk.injEq] at h
      obtain ⟨rfl, rfl⟩ := h
      simp
    · simp only [Option.map_eq_some_iff, Prod.mk.injEq] at h
      obtain ⟨p, hp, rfl, rfl⟩ := h
      have := ih hp
      simp only [List.length_cons]
      omega

/-- Behind an action there is less than behind its `{{`. -/
theorem cutAction_length {body a b : List Char}
    (h : cutAction body = some (a, b)) :
    b.length < body.length := by
  have hdrop : (body.dropWhile isBlank).length ≤ body.length :=
    (List.dropWhile_sublist _).length_le
  unfold cutAction at h
  split at h
  · simp at h
  · next c rest hrest =>
    rw [hrest] at hdrop
    simp only [List.length_cons] at hdrop
    split at h
    · split at h
      · simp at h
      · next inside behind hcut =>
        simp only [Option.map_eq_some_iff, Prod.mk.injEq] at h
        obtain ⟨p, hp, -, rfl⟩ := h
        have h1 := cutAt_length hcut
        have h2 := cutAtDouble_length hp
        omega
    · have := cutAtDouble_length h
      omega

-- ========================================================= reading

/-- Reads an action from its trimmed text. -/
def Action.read (text : List Char) : Action :=
  match text with
  | [] => .empty
  | c :: rest =>
    if c = quoteMark ∧ rest.getLast? = some quoteMark then
      .quoted (String.ofList rest.dropLast)
    else if c = '.' then .field (String.ofList (trim rest))
    else .unsupported (String.ofList text)

/-- The text before an action as a part, if there is any. -/
def literalPart (text : List Char) : List Segment :=
  if text.isEmpty then [] else [.literal text]

/-- The parts of a template that begins at an offset. -/
def segmentsFrom (offset : Nat) (cs : List Char) : List Segment :=
  match _h : cutAtDouble '\x7b' cs with
  | none => literalPart cs
  | some (before, body) =>
    let position := offset + width before
    match hb : cutAction body with
    | none => literalPart before ++ [.unclosed position]
    | some (text, behind) =>
      literalPart before
        ++ .action position (Action.read (trim text))
        :: segmentsFrom (position + 2 + width text + 2) behind
termination_by cs.length
decreasing_by
  have h1 := cutAtDouble_length _h
  have h2 := cutAction_length hb
  omega

/-- The parts of a template. -/
def segments (template : String) : List Segment :=
  segmentsFrom 0 template.toList

end RemoteProvision.Template
