/-
Filling part by part.

`segmentsFrom` cuts a template at its first action and goes on behind
it.  Its three cases are stated here as equations, each under what the
two cuts find.  What is filled to a text at every offset (`Fills`) can be
a piece of a template; the plainest piece is a text without `{{`, which
is copied.
-/
import RemoteProvision.Proofs.Text.Trim
import RemoteProvision.Template.Basic

namespace RemoteProvision.Template

open RemoteProvision.Text

variable {fields : Fields} {offset : Nat}
  {cs before body text behind rest out : List Char}

-- ============================================ the cases of a cutting

/-- A text without `{{` is one literal part. -/
theorem segmentsFrom_plain (h : cutAtDouble '\x7b' cs = none) :
    segmentsFrom offset cs = literalPart cs := by
  rw [segmentsFrom]
  split
  · rfl
  · next hcut => rw [h] at hcut; cases hcut

/-- An action is cut out with its offset, and the rest is cut on. -/
theorem segmentsFrom_action
    (h : cutAtDouble '\x7b' cs = some (before, body))
    (haction : cutAction body = some (text, behind)) :
    segmentsFrom offset cs
      = literalPart before
        ++ .action (offset + width before) (Action.read (trim text))
        :: segmentsFrom (offset + width before + 2 + width text + 2)
          behind := by
  rw [segmentsFrom]
  split
  · next hcut => rw [h] at hcut; cases hcut
  · next hcut =>
      rw [h] at hcut
      cases hcut
      split
      · next hbody => rw [haction] at hbody; cases hbody
      · next hbody => rw [haction] at hbody; cases hbody; rfl

/-- A `{{` that nothing closes is the last part. -/
theorem segmentsFrom_unclosed
    (h : cutAtDouble '\x7b' cs = some (before, body))
    (haction : cutAction body = none) :
    segmentsFrom offset cs
      = literalPart before ++ [.unclosed (offset + width before)] := by
  rw [segmentsFrom]
  split
  · next hcut => rw [h] at hcut; cases hcut
  · next hcut =>
      rw [h] at hcut
      cases hcut
      split
      · rfl
      · next hbody => rw [haction] at hbody; cases hbody

/-- A mark that is doubled only behind a text is found there. -/
theorem cutAtDouble_behind {c : Char}
    (h : cutAtDouble c (before ++ [c]) = none) :
    cutAtDouble c (before ++ c :: c :: rest) = some (before, rest) := by
  induction before with
  | nil => simp [cutAtDouble]
  | cons a before ih =>
      cases before with
      | nil =>
          have hne : ¬(a = c ∧ c = c) := by
            intro hac
            simp [cutAtDouble, hac.1] at h
          have hne : a ≠ c := fun hac => hne ⟨hac, rfl⟩
          simp [cutAtDouble, hne]
      | cons b before =>
          simp only [List.cons_append] at h ih ⊢
          rw [cutAtDouble] at h ⊢
          split at h
          · cases h
          · next hne =>
              rw [if_neg hne, ih (Option.map_eq_none_iff.1 h)]
              rfl

-- =========================================================== filling

/-- A part that can be filled stands in front of what the others are
filled to. -/
theorem fillAll_cons_ok {part : Segment} (h : part.fill fields = .ok text)
    (rest : List Segment) :
    fillAll fields (part :: rest)
      = (fillAll fields rest).map (text ++ ·) := by
  rw [fillAll, h]
  cases fillAll fields rest <;> rfl

/-- One that cannot is the end. -/
theorem fillAll_cons_error {part : Segment} {fault : Fault}
    (h : part.fill fields = .error fault) (rest : List Segment) :
    fillAll fields (part :: rest) = .error fault := by
  rw [fillAll, h]
  rfl

/-- Nothing is added for a literal part that is empty. -/
theorem fillAll_literalPart (parts : List Segment) :
    fillAll fields (literalPart before ++ parts)
      = (fillAll fields parts).map (before ++ ·) := by
  cases before with
  | nil =>
      show fillAll fields parts = _
      cases fillAll fields parts <;> rfl
  | cons c before => exact fillAll_cons_ok rfl parts

/-- A part of a template is filled to a text, whatever its offset. -/
def Fills (fields : Fields) (cs out : List Char) : Prop :=
  ∀ offset, fillAll fields (segmentsFrom offset cs) = .ok out

/-- A text without `{{` is copied. -/
theorem Fills.plain (h : cutAtDouble '\x7b' cs = none) :
    Fills fields cs cs := by
  intro offset
  have hfill : fillAll fields (literalPart cs ++ [])
      = (fillAll fields []).map (cs ++ ·) := fillAll_literalPart []
  rw [List.append_nil] at hfill
  rw [segmentsFrom_plain h, hfill]
  show Except.ok (cs ++ []) = _
  rw [List.append_nil]

/-- What a template is filled to. -/
theorem render_of_fills {template : String}
    (h : Fills fields template.toList out) :
    render template fields = .ok (String.ofList out) := by
  unfold render segments
  rw [h 0]
  rfl

-- ============================================== whatever the values

/-- A part that can be written can be written with other values of the
same fields. -/
theorem Segment.fill_ok {fields' : Fields} {part : Segment}
    (h : ∀ name, (fields name).isSome → (fields' name).isSome)
    (hfill : part.fill fields = .ok out) :
    ∃ other, part.fill fields' = .ok other := by
  cases part with
  | literal text => exact ⟨text, rfl⟩
  | unclosed position => cases hfill
  | action position action =>
      cases action with
      | empty => cases hfill
      | unsupported text => cases hfill
      | quoted text => exact ⟨text.toList, rfl⟩
      | field name =>
          cases hvalue : fields name with
          | none =>
              simp only [Segment.fill, hvalue] at hfill
              cases hfill
          | some value =>
              obtain ⟨other, hother⟩ :=
                Option.isSome_iff_exists.1 (h name (by rw [hvalue]; rfl))
              exact ⟨other.toList, by simp only [Segment.fill, hother]⟩

theorem fillAll_ok {fields' : Fields} {parts : List Segment}
    (h : ∀ name, (fields name).isSome → (fields' name).isSome)
    (hfill : fillAll fields parts = .ok out) :
    ∃ other, fillAll fields' parts = .ok other := by
  induction parts generalizing out with
  | nil => exact ⟨[], rfl⟩
  | cons part rest ih =>
      unfold fillAll at hfill ⊢
      cases hpart : part.fill fields with
      | error fault =>
          rw [hpart] at hfill
          cases hfill
      | ok text =>
          rw [hpart] at hfill
          cases hrest : fillAll fields rest with
          | error fault =>
              rw [hrest] at hfill
              cases hfill
          | ok more =>
              obtain ⟨text', hpart'⟩ := Segment.fill_ok h hpart
              obtain ⟨more', hrest'⟩ := ih hrest
              rw [hpart', hrest']
              exact ⟨text' ++ more', rfl⟩

/-- So can a template. -/
theorem render_ok {fields' : Fields} {template filled : String}
    (h : ∀ name, (fields name).isSome → (fields' name).isSome)
    (hfilled : render template fields = .ok filled) :
    ∃ other, render template fields' = .ok other := by
  unfold render at hfilled ⊢
  cases hfill : fillAll fields (segments template) with
  | error fault =>
      rw [hfill] at hfilled
      cases hfilled
  | ok text =>
      obtain ⟨other, hother⟩ := fillAll_ok h hfill
      rw [hother]
      exact ⟨String.ofList other, rfl⟩

end RemoteProvision.Template
