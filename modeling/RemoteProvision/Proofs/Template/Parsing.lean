/-
The one parse of a template.

What the parts of a template are can be said without a search.  A text
is cut at its first pair of a character (`FirstPair`): the pair stands
there, and none stands before.  An action is closed by its first `}}`,
but a quoted text at its front is passed over first (`Closes`), and what
it says is read off its text without the blanks around it
(`Action.Written`).  A template is then literal text, or literal text
with an action behind it and a template behind that (`Parsed`).

Each of these has exactly one solution, and the searches find it.  So
every template has one parse, which is `segments` (`parsed_iff`), and
filling the template is evaluating that parse: the parts are written one
after the other unless one of them has a fault, and then the first such
fault is the answer (`render_eq_evaluate`, `render_fault`).
-/
import RemoteProvision.Proofs.Template.Filling

namespace RemoteProvision.Template

open RemoteProvision.Text

variable {fields fields' : Fields} {offset : Nat}
  {cs before body text behind core : List Char} {action : Action}
  {part : Segment} {parts : List Segment}

-- ======================================================= first pairs

/-- Where a character stands twice in a row for the first time: what is
before the two, and what is behind them. -/
structure FirstPair (c : Char) (cs before behind : List Char) :
    Prop where
  text : cs = before ++ c :: c :: behind
  first : ¬ [c, c] <:+: before ++ [c]

variable {c : Char}

/-- A text is not cut if the character is nowhere doubled. -/
theorem cutAtDouble_eq_none_iff :
    cutAtDouble c cs = none ↔ ¬ [c, c] <:+: cs := by
  induction cs with
  | nil => simp [cutAtDouble]
  | cons a rest ih =>
      cases rest with
      | nil =>
          have hshort : ¬ [c, c] <:+: [a] := by
            intro h
            have := h.length_le
            simp at this
          simp [cutAtDouble, hshort]
      | cons b rest =>
          rw [cutAtDouble, List.infix_cons_iff]
          by_cases hpair : a = c ∧ b = c
          · obtain ⟨rfl, rfl⟩ := hpair
            have hhere : [b, b] <+: b :: b :: rest :=
              List.prefix_append [b, b] rest
            simp [hhere]
          · rw [if_neg hpair, Option.map_eq_none_iff, ih]
            have hhere : ¬ [c, c] <+: a :: b :: rest := by
              intro h
              obtain ⟨ha, h⟩ := List.cons_prefix_cons.1 h
              obtain ⟨hb, -⟩ := List.cons_prefix_cons.1 h
              exact hpair ⟨ha.symm, hb.symm⟩
            simp [hhere]

/-- What is before a cut does not make a pair with the first of the
two. -/
theorem firstPair_of_cut (h : cutAtDouble c cs = some (before, behind)) :
    cs = before ++ c :: c :: behind ∧
    cutAtDouble c (before ++ [c]) = none := by
  induction cs generalizing before behind with
  | nil => cases h
  | cons a rest ih =>
      cases rest with
      | nil => cases h
      | cons b rest =>
          rw [cutAtDouble] at h
          split at h
          · next hpair =>
              obtain ⟨rfl, rfl⟩ := hpair
              cases h
              exact ⟨rfl, rfl⟩
          · next hpair =>
              obtain ⟨⟨before, behind'⟩, hcut, hparts⟩ :=
                Option.map_eq_some_iff.1 h
              cases hparts
              obtain ⟨htext, hfirst⟩ := ih hcut
              refine ⟨by rw [htext]; rfl, ?_⟩
              cases before with
              | nil =>
                  obtain ⟨rfl, -⟩ := List.cons_eq_cons.1 htext
                  have ha : a ≠ b := fun ha => hpair ⟨ha, rfl⟩
                  simp [cutAtDouble, ha]
              | cons x before =>
                  obtain ⟨rfl, -⟩ := List.cons_eq_cons.1 htext
                  simp only [List.cons_append] at hfirst ⊢
                  rw [cutAtDouble, if_neg hpair, hfirst]
                  rfl

/-- The cut at a pair is the cut at the first pair. -/
theorem cutAtDouble_eq_some_iff :
    cutAtDouble c cs = some (before, behind)
      ↔ FirstPair c cs before behind := by
  constructor
  · intro h
    obtain ⟨htext, hfirst⟩ := firstPair_of_cut h
    exact ⟨htext, cutAtDouble_eq_none_iff.1 hfirst⟩
  · rintro ⟨rfl, hfirst⟩
    exact cutAtDouble_behind (cutAtDouble_eq_none_iff.2 hfirst)

/-- A text has no pair before its first pair. -/
theorem FirstPair.plain (h : FirstPair c cs before behind) :
    ¬ [c, c] <:+: before :=
  fun hpair => h.first (hpair.trans (List.prefix_append ..).isInfix)

/-- The cut at a character is the cut where it first stands. -/
theorem cutAt_eq_some_iff :
    cutAt c cs = some (before, behind)
      ↔ cs = before ++ c :: behind ∧ c ∉ before := by
  induction cs generalizing before with
  | nil => simp [cutAt]
  | cons a rest ih =>
      rw [cutAt]
      by_cases ha : a = c
      · subst ha
        rw [if_pos rfl, Option.some.injEq, Prod.mk.injEq]
        constructor
        · rintro ⟨rfl, rfl⟩
          exact ⟨rfl, List.not_mem_nil⟩
        · rintro ⟨htext, hbefore⟩
          cases before with
          | nil => exact ⟨rfl, (List.cons_eq_cons.1 htext).2⟩
          | cons x before =>
              obtain ⟨rfl, -⟩ := List.cons_eq_cons.1 htext
              exact absurd (List.mem_cons_self ..) hbefore
      · rw [if_neg ha, Option.map_eq_some_iff]
        constructor
        · rintro ⟨⟨front, behind'⟩, hcut, hparts⟩
          cases hparts
          obtain ⟨rfl, hfront⟩ := ih.1 hcut
          refine ⟨List.cons_append.symm, ?_⟩
          rw [List.mem_cons, not_or]
          exact ⟨Ne.symm ha, hfront⟩
        · rintro ⟨htext, hbefore⟩
          cases before with
          | nil => exact absurd (List.cons_eq_cons.1 htext).1 ha
          | cons x front =>
              obtain ⟨rfl, hrest⟩ := List.cons_eq_cons.1 htext
              rw [List.mem_cons, not_or] at hbefore
              exact ⟨(front, behind), ih.2 ⟨hrest, hbefore.2⟩, rfl⟩

-- =========================================================== actions

/-- The text of an action, and what is behind the `}}` that closes it.
The text behind a `{{` is read from its first character that is no
blank: a quote there begins a quoted text, and the search for `}}` goes
on behind that; otherwise the first `}}` closes the action. -/
inductive Closes : List Char → List Char → List Char → Prop
  | bare {blanks rest text behind : List Char} {c : Char} :
      AllBlank blanks → isBlank c = false → c ≠ quoteMark →
      FirstPair '\x7d' (blanks ++ c :: rest) text behind →
      Closes (blanks ++ c :: rest) text behind
  | quoted {blanks inside rest text behind : List Char} :
      AllBlank blanks → quoteMark ∉ inside →
      FirstPair '\x7d' rest text behind →
      Closes (blanks ++ quoteMark :: (inside ++ quoteMark :: rest))
        (blanks ++ quoteMark :: (inside ++ quoteMark :: text)) behind

/-- What is closed is the text, its `}}` and what is behind. -/
theorem Closes.split (h : Closes body text behind) :
    body = text ++ '\x7d' :: '\x7d' :: behind := by
  cases h with
  | bare _ _ _ hpair => exact hpair.text
  | quoted _ _ hpair => rw [hpair.text]; simp

/-- A text is what is before its first action, the action between its
braces, and what is behind. -/
theorem split_action (hpair : FirstPair '\x7b' cs before body)
    (hcloses : Closes body text behind) :
    cs = before ++ '\x7b' :: '\x7b' :: (text ++ ['\x7d', '\x7d'])
        ++ behind ∧
      width (before ++ '\x7b' :: '\x7b' :: (text ++ ['\x7d', '\x7d']))
        = width before + 2 + width text + 2 := by
  have hopen : ('\x7b' : Char).utf8Size = 1 := by decide
  have hclose : ('\x7d' : Char).utf8Size = 1 := by decide
  constructor
  · rw [hpair.text, hcloses.split]
    simp
  · simp only [width_append, width_cons, width_nil, hopen, hclose]
    omega

theorem isBlank_quoteMark : isBlank quoteMark = false := by decide

theorem cutAction_blank (h : AllBlank body) : cutAction body = none := by
  unfold cutAction
  rw [dropWhile_eq_nil_iff.2 h]

theorem cutAction_bare {blanks rest : List Char}
    (h : AllBlank blanks) (hc : isBlank c = false) (hquote : c ≠ quoteMark) :
    cutAction (blanks ++ c :: rest)
      = cutAtDouble '\x7d' (blanks ++ c :: rest) := by
  unfold cutAction
  rw [dropWhile_blanks h hc]
  simp only [if_neg hquote]

theorem cutAction_quoted {blanks rest : List Char} (h : AllBlank blanks) :
    cutAction (blanks ++ quoteMark :: rest)
      = (cutAt quoteMark rest).bind fun p =>
        (cutAtDouble '\x7d' p.2).map fun q =>
          (blanks ++ quoteMark :: (p.1 ++ quoteMark :: q.1), q.2) := by
  unfold cutAction
  rw [dropWhile_blanks h isBlank_quoteMark,
    takeWhile_blanks h isBlank_quoteMark]
  simp only [if_pos]
  cases cutAt quoteMark rest with
  | none => rfl
  | some p => simp

/-- An action is cut off where it is closed. -/
theorem cutAction_eq_some_iff :
    cutAction body = some (text, behind) ↔ Closes body text behind := by
  constructor
  · intro h
    rcases blank_or_split body with
      hblank | ⟨blanks, c, rest, rfl, hblanks, hc⟩
    · rw [cutAction_blank hblank] at h
      cases h
    · by_cases hquote : c = quoteMark
      · subst hquote
        rw [cutAction_quoted hblanks] at h
        obtain ⟨⟨inside, more⟩, hcut, h⟩ := Option.bind_eq_some_iff.1 h
        obtain ⟨⟨front, behind'⟩, hpair, hparts⟩ :=
          Option.map_eq_some_iff.1 h
        cases hparts
        obtain ⟨rfl, hinside⟩ := cutAt_eq_some_iff.1 hcut
        exact .quoted hblanks hinside (cutAtDouble_eq_some_iff.1 hpair)
      · rw [cutAction_bare hblanks hc hquote] at h
        exact .bare hblanks hc hquote (cutAtDouble_eq_some_iff.1 h)
  · intro h
    cases h with
    | bare hblanks hc hquote hpair =>
        rw [cutAction_bare hblanks hc hquote]
        exact cutAtDouble_eq_some_iff.2 hpair
    | quoted hblanks hinside hpair =>
        rw [cutAction_quoted hblanks, cutAt_eq_some_iff.2 ⟨rfl, hinside⟩,
          Option.bind_some, cutAtDouble_eq_some_iff.2 hpair]
        rfl

/-- An action that nothing closes is not cut off. -/
theorem cutAction_eq_none_iff :
    cutAction body = none ↔ ∀ text behind, ¬ Closes body text behind := by
  constructor
  · intro h text behind hcloses
    rw [cutAction_eq_some_iff.2 hcloses] at h
    cases h
  · intro h
    cases hcut : cutAction body with
    | none => rfl
    | some p => exact absurd (cutAction_eq_some_iff.1 hcut) (h p.1 p.2)

/-- What an action says, from its text without the blanks around it. -/
inductive Action.Written : List Char → Action → Prop
  | empty : Written [] .empty
  | quoted (inside : List Char) :
      Written (quoteMark :: (inside ++ [quoteMark]))
        (.quoted (String.ofList inside))
  | field {rest name : List Char} :
      Trims rest name → Written ('.' :: rest) (.field (String.ofList name))
  | unsupported {core : List Char} :
      core ≠ [] → (∀ rest, core ≠ '.' :: rest) →
      (∀ inside, core ≠ quoteMark :: (inside ++ [quoteMark])) →
      Written core (.unsupported (String.ofList core))

/-- An action is read as it is written. -/
theorem Action.read_eq_iff :
    Action.read core = action ↔ Action.Written core action := by
  constructor
  · rintro rfl
    cases core with
    | nil => exact .empty
    | cons c rest =>
        rw [Action.read]
        by_cases hquoted : c = quoteMark ∧ rest.getLast? = some quoteMark
        · obtain ⟨rfl, hlast⟩ := hquoted
          obtain ⟨inside, rfl⟩ := List.getLast?_eq_some_iff.1 hlast
          rw [if_pos ⟨rfl, hlast⟩, List.dropLast_concat]
          exact .quoted inside
        · rw [if_neg hquoted]
          by_cases hdot : c = '.'
          · subst hdot
            rw [if_pos rfl]
            exact .field (trim_eq_iff.1 rfl)
          · rw [if_neg hdot]
            refine .unsupported (List.cons_ne_nil c rest) ?_ ?_
            · intro rest' h
              exact hdot (List.cons_eq_cons.1 h).1
            · intro inside h
              obtain ⟨rfl, rfl⟩ := List.cons_eq_cons.1 h
              exact hquoted ⟨rfl, List.getLast?_concat⟩
  · intro h
    cases h with
    | empty => rfl
    | quoted inside =>
        rw [Action.read, if_pos ⟨rfl, List.getLast?_concat⟩,
          List.dropLast_concat]
    | field hname =>
        have hdot : ¬('.' = quoteMark) := by decide
        rw [Action.read, if_neg fun h => hdot h.1, if_pos rfl,
          trim_eq_iff.2 hname]
    | unsupported hne hdot hquote =>
        cases core with
        | nil => exact absurd rfl hne
        | cons c rest =>
            rw [Action.read, if_neg, if_neg]
            · rintro rfl
              exact hdot rest rfl
            · rintro ⟨rfl, hlast⟩
              obtain ⟨inside, rfl⟩ := List.getLast?_eq_some_iff.1 hlast
              exact hquote inside rfl

-- =========================================================== parsing

/-- The parts of a template that begins at an offset. -/
inductive Parsed : Nat → List Char → List Segment → Prop
  | plain {offset : Nat} {cs : List Char} :
      ¬ ['\x7b', '\x7b'] <:+: cs → Parsed offset cs (literalPart cs)
  | unclosed {offset : Nat} {cs before body : List Char} :
      FirstPair '\x7b' cs before body →
      (∀ text behind, ¬ Closes body text behind) →
      Parsed offset cs
        (literalPart before ++ [.unclosed (offset + width before)])
  | action {offset : Nat} {cs before body text behind core : List Char}
      {action : Action} {parts : List Segment} :
      FirstPair '\x7b' cs before body → Closes body text behind →
      Trims text core → Action.Written core action →
      Parsed (offset + width before + 2 + width text + 2) behind parts →
      Parsed offset cs
        (literalPart before
          ++ .action (offset + width before) action :: parts)

/-- Every template has a parse. -/
theorem parsed_segmentsFrom (offset : Nat) (cs : List Char) :
    Parsed offset cs (segmentsFrom offset cs) := by
  cases hcut : cutAtDouble '\x7b' cs with
  | none =>
      rw [segmentsFrom_plain hcut]
      exact .plain (cutAtDouble_eq_none_iff.1 hcut)
  | some cut =>
      obtain ⟨before, body⟩ := cut
      have hpair := cutAtDouble_eq_some_iff.1 hcut
      cases haction : cutAction body with
      | none =>
          rw [segmentsFrom_unclosed hcut haction]
          exact .unclosed hpair (cutAction_eq_none_iff.1 haction)
      | some closed =>
          obtain ⟨text, behind⟩ := closed
          rw [segmentsFrom_action hcut haction]
          exact .action hpair (cutAction_eq_some_iff.1 haction)
            (trim_eq_iff.1 rfl) (Action.read_eq_iff.1 rfl)
            (parsed_segmentsFrom _ behind)
termination_by cs.length
decreasing_by
  have h1 := cutAtDouble_length hcut
  have h2 := cutAction_length haction
  omega

/-- And it has no other. -/
theorem parsed_iff :
    Parsed offset cs parts ↔ parts = segmentsFrom offset cs := by
  constructor
  · intro h
    induction h with
    | plain hplain =>
        exact (segmentsFrom_plain
          (cutAtDouble_eq_none_iff.2 hplain)).symm
    | unclosed hpair hopen =>
        exact (segmentsFrom_unclosed (cutAtDouble_eq_some_iff.2 hpair)
          (cutAction_eq_none_iff.2 hopen)).symm
    | action hpair hcloses htrims hwritten _ ih =>
        rw [segmentsFrom_action (cutAtDouble_eq_some_iff.2 hpair)
          (cutAction_eq_some_iff.2 hcloses), trim_eq_iff.2 htrims,
          Action.read_eq_iff.2 hwritten, ih]
  · rintro rfl
    exact parsed_segmentsFrom offset cs

-- ================================================ what a parse says

/-- The bytes of a text are those of its characters. -/
theorem utf8ByteSize_ofList (cs : List Char) :
    (String.ofList cs).utf8ByteSize = width cs := by
  induction cs with
  | nil => rfl
  | cons c cs ih =>
      rw [String.ofList_cons, String.utf8ByteSize_append, ih,
        String.utf8ByteSize_singleton]
      rfl

/-- Where an action stands. -/
def Segment.position? : Segment → Option Nat
  | .literal _ => none
  | .action position _ => some position
  | .unclosed position => some position

theorem mem_literalPart (h : part ∈ literalPart cs) :
    part = .literal cs := by
  unfold literalPart at h
  split at h
  · cases h
  · exact List.mem_singleton.1 h

/-- A literal part holds no `{{`. -/
theorem Parsed.literal (h : Parsed offset cs parts)
    (hpart : .literal text ∈ parts) : ¬ ['\x7b', '\x7b'] <:+: text := by
  induction h with
  | plain hplain =>
      cases mem_literalPart hpart
      exact hplain
  | unclosed hpair _ =>
      rcases List.mem_append.1 hpart with hmem | hmem
      · cases mem_literalPart hmem
        exact hpair.plain
      · cases List.mem_singleton.1 hmem
  | action hpair _ _ _ _ ih =>
      rcases List.mem_append.1 hpart with hmem | hmem
      · cases mem_literalPart hmem
        exact hpair.plain
      · rcases List.mem_cons.1 hmem with hmem | hmem
        · cases hmem
        · exact ih hmem

/-- An action stands where the template has a `{{`: its position is the
width of what is before. -/
theorem Parsed.position {position : Nat} (h : Parsed offset cs parts)
    (hpart : part ∈ parts) (hposition : part.position? = some position) :
    ∃ before behind, cs = before ++ '\x7b' :: '\x7b' :: behind ∧
      position = offset + width before := by
  induction h with
  | plain _ =>
      cases mem_literalPart hpart
      cases hposition
  | unclosed hpair _ =>
      rcases List.mem_append.1 hpart with hmem | hmem
      · cases mem_literalPart hmem
        cases hposition
      · cases List.mem_singleton.1 hmem
        cases hposition
        exact ⟨_, _, hpair.text, rfl⟩
  | @action offset cs before body text behind _ _ _ hpair hcloses _ _ _
      ih =>
      rcases List.mem_append.1 hpart with hmem | hmem
      · cases mem_literalPart hmem
        cases hposition
      · rcases List.mem_cons.1 hmem with rfl | hmem
        · cases hposition
          exact ⟨_, _, hpair.text, rfl⟩
        · obtain ⟨front, rest, hbehind, hfront⟩ := ih hmem
          obtain ⟨hcs, hwidth⟩ := split_action hpair hcloses
          refine ⟨before ++ '\x7b' :: '\x7b' :: (text ++ ['\x7d', '\x7d'])
            ++ front, rest, ?_, ?_⟩
          · rw [hcs, hbehind, List.append_assoc _ front]
          · rw [hfront, width_append _ front, hwidth]
            omega

-- ======================================================== evaluating

/-- What is wrong with a part, if the fields have no value for it or if
it can have none. -/
def Segment.fault? (fields : Fields) : Segment → Option Fault
  | .literal _ => none
  | .action _ (.quoted _) => none
  | .action position (.field name) =>
    if (fields name).isSome then none
    else some (.undefinedField name position)
  | .action position .empty => some (.emptyAction position)
  | .action position (.unsupported text) =>
    some (.unsupportedAction text position)
  | .unclosed position => some (.unclosedAction position)

/-- What a part without a fault is written as. -/
def Segment.written (fields : Fields) : Segment → List Char
  | .literal text => text
  | .action _ (.quoted text) => text.toList
  | .action _ (.field name) => ((fields name).getD "").toList
  | .action _ _ => []
  | .unclosed _ => []

/-- The value of a parse: the first fault there is, or else all parts as
they are written. -/
def evaluate (fields : Fields) (parts : List Segment) :
    Except Fault String :=
  match parts.findSome? (Segment.fault? fields) with
  | some fault => .error fault
  | none => .ok (String.ofList (parts.flatMap (Segment.written fields)))

/-- Whether a part has a fault, and which, is a matter of the names that
have values. -/
theorem Segment.fault?_congr
    (h : ∀ name, (fields name).isSome = (fields' name).isSome) :
    part.fault? fields = part.fault? fields' := by
  cases part with
  | literal text => rfl
  | unclosed position => rfl
  | action position action =>
      cases action with
      | quoted text => rfl
      | empty => rfl
      | unsupported text => rfl
      | field name => simp only [Segment.fault?, h name]

/-- A part is filled unless it has a fault. -/
theorem Segment.fill_eq (part : Segment) :
    part.fill fields
      = match part.fault? fields with
        | some fault => .error fault
        | none => .ok (part.written fields) := by
  cases part with
  | literal text => rfl
  | unclosed position => rfl
  | action position action =>
      cases action with
      | quoted text => rfl
      | empty => rfl
      | unsupported text => rfl
      | field name =>
          cases hvalue : fields name with
          | none => simp [Segment.fill, Segment.fault?, hvalue]
          | some value =>
              simp [Segment.fill, Segment.fault?, Segment.written, hvalue]

/-- Filling a template is evaluating its parse. -/
theorem render_eq_evaluate (template : String) (fields : Fields) :
    render template fields = evaluate fields (segments template) := by
  unfold render evaluate
  generalize segments template = parts
  have hfill : fillAll fields parts
      = match parts.findSome? (Segment.fault? fields) with
        | some fault => .error fault
        | none => .ok (parts.flatMap (Segment.written fields)) := by
    induction parts with
    | nil => rfl
    | cons part rest ih =>
        rw [fillAll, ih, Segment.fill_eq, List.findSome?_cons]
        cases part.fault? fields with
        | some fault => rfl
        | none =>
            cases rest.findSome? (Segment.fault? fields) with
            | some fault => rfl
            | none => rfl
  rw [hfill]
  cases parts.findSome? (Segment.fault? fields) with
  | some fault => rfl
  | none => rfl

/-- A fault lies where its action stands. -/
theorem Segment.position_of_fault {fault : Fault}
    (h : part.fault? fields = some fault) :
    part.position? = some fault.position := by
  cases part with
  | literal text => cases h
  | unclosed position => cases h; rfl
  | action position action =>
      cases action with
      | quoted text => cases h
      | empty => cases h; rfl
      | unsupported text => cases h; rfl
      | field name =>
          simp only [Segment.fault?] at h
          by_cases hvalue : (fields name).isSome = true
          · rw [if_pos hvalue] at h
            cases h
          · rw [if_neg hvalue] at h
            cases h
            rfl

/-- The error of a template is the fault of a part of it, and lies where
that part stands. -/
theorem render_fault {template : String} {fault : Fault}
    (h : render template fields = .error fault) :
    ∃ part ∈ segments template, part.fault? fields = some fault ∧
      part.position? = some fault.position := by
  rw [render_eq_evaluate, evaluate] at h
  cases hfirst : (segments template).findSome? (Segment.fault? fields) with
  | none =>
      rw [hfirst] at h
      cases h
  | some fault' =>
      rw [hfirst] at h
      cases h
      obtain ⟨part, hpart, hfault⟩ := List.exists_of_findSome?_eq_some hfirst
      exact ⟨part, hpart, hfault, Segment.position_of_fault hfault⟩

/-- The error of a template is a matter of the names that have
values. -/
theorem render_error_congr {template : String} {fault : Fault}
    (h : ∀ name, (fields name).isSome = (fields' name).isSome) :
    render template fields = .error fault
      ↔ render template fields' = .error fault := by
  have hfaults : Segment.fault? fields = Segment.fault? fields' :=
    funext fun part => Segment.fault?_congr h
  rw [render_eq_evaluate, render_eq_evaluate, evaluate, evaluate, hfaults]
  cases (segments template).findSome? (Segment.fault? fields') with
  | some fault' => exact Iff.rfl
  | none => exact ⟨nofun, nofun⟩

end RemoteProvision.Template
