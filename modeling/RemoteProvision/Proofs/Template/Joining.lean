/-
Templates one behind the other.

A search that found something in a text finds the same when more text
follows: the first `{{`, the quote that closes a quoted text, and the
`}}` that closes an action (`FirstPair.append`, `Closes.append`).  So a
template that is filled stays filled as it was when another is put
behind it, the other is filled as if it stood alone, and only its
offsets move on (`Parsed.fill_append`).  A fault other than an open `{{`
stays the fault (`Parsed.fault_append`).

The one thing that can go wrong lies between the two: a brace that ends
the first and a brace that begins the second are a `{{` that neither has
(`pair_append_iff`).

So a template can be filled piece by piece (`Fills.append`), where a
piece is a text without `{{` or an action between its braces
(`Fills.of_action`).
-/
import RemoteProvision.Proofs.Template.Parsing

namespace RemoteProvision.Template

open RemoteProvision.Text

variable {fields : Fields} {offset k : Nat}
  {a b cs before body text behind core x y : List Char} {c : Char}
  {action : Action} {part : Segment} {parts : List Segment}
  {fault : Fault}

-- ========================================================= searches

/-- A pair lies in the first text, in the second, or across the two. -/
theorem pair_append_iff :
    [c, c] <:+: a ++ b ↔ [c, c] <:+: a ∨ [c, c] <:+: b ∨
      (a.getLast? = some c ∧ b.head? = some c) := by
  induction a with
  | nil => simp
  | cons x a ih =>
      rw [List.cons_append, List.infix_cons_iff, List.infix_cons_iff, ih]
      cases a with
      | nil =>
          have hshort : ¬ [c, c] <:+: ([] : List Char) := by simp
          cases b with
          | nil => simp
          | cons y b => simp [hshort, eq_comm, and_comm, or_comm]
      | cons y a =>
          have hhere : [c, c] <+: x :: (y :: a ++ b)
              ↔ [c, c] <+: x :: y :: a := by
            simp
          rw [hhere, List.getLast?_cons_cons, or_assoc]

/-- No brace ends the one text where one begins the other. -/
def Apart (a b : List Char) : Prop :=
  ¬ (a.getLast? = some '\x7b' ∧ b.head? = some '\x7b')

theorem FirstPair.append (h : FirstPair c cs before behind)
    (more : List Char) :
    FirstPair c (cs ++ more) before (behind ++ more) :=
  ⟨by rw [h.text, List.append_assoc]; rfl, h.first⟩

/-- A first pair is the first behind a text without pairs too. -/
theorem FirstPair.after (h : FirstPair '\x7b' b before behind)
    (hplain : ¬ ['\x7b', '\x7b'] <:+: a) (hapart : Apart a b) :
    FirstPair '\x7b' (a ++ b) (a ++ before) behind := by
  refine ⟨by rw [h.text, List.append_assoc], ?_⟩
  rw [List.append_assoc, pair_append_iff]
  rintro (hpair | hpair | ⟨hlast, hhead⟩)
  · exact hplain hpair
  · exact h.first hpair
  · refine hapart ⟨hlast, ?_⟩
    rw [h.text]
    cases before with
    | nil => rfl
    | cons x before => exact hhead

theorem Closes.append (h : Closes body text behind)
    (more : List Char) : Closes (body ++ more) text (behind ++ more) := by
  cases h with
  | bare hblanks hc hquote hpair =>
      have hpair := hpair.append more
      rw [List.append_assoc, List.cons_append] at hpair ⊢
      exact .bare hblanks hc hquote hpair
  | quoted hblanks hinside hpair =>
      have hclosed := Closes.quoted hblanks hinside (hpair.append more)
      simpa using hclosed

/-- An action is cut out of a longer text as before. -/
theorem segmentsFrom_append (hpair : FirstPair '\x7b' cs before body)
    (hcloses : Closes body text behind) (htrims : Trims text core)
    (hwritten : Action.Written core action) (more : List Char) :
    segmentsFrom offset (cs ++ more)
      = literalPart before ++ .action (offset + width before) action
        :: segmentsFrom (offset + width before + 2 + width text + 2)
          (behind ++ more) := by
  rw [segmentsFrom_action
      (cutAtDouble_eq_some_iff.2 (hpair.append more))
      (cutAction_eq_some_iff.2 (hcloses.append more)),
    trim_eq_iff.2 htrims, Action.read_eq_iff.2 hwritten]

/-- A text without `{{` only makes the first literal of what follows
longer. -/
theorem segmentsFrom_behind (hplain : ¬ ['\x7b', '\x7b'] <:+: a)
    (hapart : Apart a b) :
    ∃ front rest,
      segmentsFrom (offset + width a) b = literalPart front ++ rest ∧
      segmentsFrom offset (a ++ b) = literalPart (a ++ front) ++ rest := by
  cases hcut : cutAtDouble '\x7b' b with
  | none =>
      have hboth : cutAtDouble '\x7b' (a ++ b) = none := by
        rw [cutAtDouble_eq_none_iff] at hcut ⊢
        rw [pair_append_iff]
        rintro (hpair | hpair | hacross)
        · exact hplain hpair
        · exact hcut hpair
        · exact hapart hacross
      refine ⟨b, [], ?_, ?_⟩
      · rw [segmentsFrom_plain hcut, List.append_nil]
      · rw [segmentsFrom_plain hboth, List.append_nil]
  | some cut =>
      obtain ⟨front, body⟩ := cut
      have hboth := cutAtDouble_eq_some_iff.2
        ((cutAtDouble_eq_some_iff.1 hcut).after hplain hapart)
      have hoffset : offset + width (a ++ front)
          = offset + width a + width front := by
        rw [width_append, Nat.add_assoc]
      cases haction : cutAction body with
      | none =>
          refine ⟨front, _, segmentsFrom_unclosed hcut haction, ?_⟩
          rw [segmentsFrom_unclosed hboth haction, hoffset]
      | some closed =>
          obtain ⟨text, behind⟩ := closed
          refine ⟨front, _, segmentsFrom_action hcut haction, ?_⟩
          rw [segmentsFrom_action hboth haction, hoffset]

-- ========================================================== filling

/-- A text, an action behind it and the rest are filled together, part
by part. -/
theorem fillAll_eq_ok (h : fillAll fields (literalPart before
      ++ part :: parts) = .ok x) :
    ∃ value rest, part.fill fields = .ok value ∧
      fillAll fields parts = .ok rest ∧
      x = before ++ (value ++ rest) := by
  rw [fillAll_literalPart] at h
  cases hpart : part.fill fields with
  | error fault =>
      rw [fillAll_cons_error hpart] at h
      cases h
  | ok value =>
      rw [fillAll_cons_ok hpart] at h
      cases hrest : fillAll fields parts with
      | error fault =>
          rw [hrest] at h
          cases h
      | ok rest =>
          rw [hrest] at h
          cases h
          exact ⟨value, rest, rfl, rfl, rfl⟩

/-- Otherwise the action has a fault, or the rest has one. -/
theorem fillAll_eq_error (h : fillAll fields (literalPart before
      ++ part :: parts) = .error fault) :
    part.fill fields = .error fault ∨
    ((∃ value, part.fill fields = .ok value) ∧
      fillAll fields parts = .error fault) := by
  rw [fillAll_literalPart] at h
  cases hpart : part.fill fields with
  | error fault' =>
      rw [fillAll_cons_error hpart] at h
      cases h
      exact .inl rfl
  | ok value =>
      rw [fillAll_cons_ok hpart] at h
      cases hrest : fillAll fields parts with
      | error fault' =>
          rw [hrest] at h
          cases h
          exact .inr ⟨⟨value, rfl⟩, rfl⟩
      | ok rest =>
          rw [hrest] at h
          cases h

/-- The rest of a text has a brace at its end only if the text has. -/
theorem Apart.of_append (h : Apart (before ++ behind) b) :
    Apart behind b := by
  rintro ⟨hlast, hhead⟩
  refine h ⟨?_, hhead⟩
  rw [List.getLast?_append, hlast]
  rfl

/-- What is put behind a template that can be filled is filled as if it
stood alone, from where it begins. -/
theorem Parsed.fill_append (h : Parsed offset a parts)
    (hfill : fillAll fields parts = .ok x) (hapart : Apart a b) :
    fillAll fields (segmentsFrom offset (a ++ b))
      = (fillAll fields (segmentsFrom (offset + width a) b)).map
          (x ++ ·) := by
  induction h generalizing x with
  | @plain offset a hplain =>
      obtain ⟨front, rest, hb, hboth⟩ :=
        segmentsFrom_behind hplain hapart
      have hx : x = a := by
        rw [← List.append_nil (literalPart a), fillAll_literalPart] at hfill
        cases hfill
        exact List.append_nil a
      rw [hb, hboth, fillAll_literalPart, fillAll_literalPart, hx]
      cases fillAll fields rest with
      | error fault => rfl
      | ok more => exact congrArg Except.ok (List.append_assoc ..)
  | unclosed hpair _ =>
      obtain ⟨value, rest, hpart, -⟩ := fillAll_eq_ok hfill
      cases hpart
  | @action offset a before body text behind core action parts hpair
      hcloses htrims hwritten _ ih =>
      obtain ⟨value, rest, hpart, hparts, rfl⟩ := fillAll_eq_ok hfill
      obtain ⟨ha, hwidth⟩ := split_action hpair hcloses
      have hbehind : Apart behind b := by
        rw [ha] at hapart
        exact hapart.of_append
      have hoffset : offset + width before + 2 + width text + 2
          + width behind = offset + width a := by
        rw [ha, width_append, hwidth]
        omega
      rw [segmentsFrom_append hpair hcloses htrims hwritten,
        fillAll_literalPart, fillAll_cons_ok hpart,
        ih hparts hbehind, hoffset]
      cases fillAll fields (segmentsFrom (offset + width a) b) with
      | error fault => rfl
      | ok more =>
          have happend : before ++ (value ++ (rest ++ more))
              = before ++ (value ++ rest) ++ more := by simp
          exact congrArg Except.ok happend

/-- A fault other than an open `{{` is the fault whatever follows. -/
theorem Parsed.fault_append (h : Parsed offset a parts)
    (hfill : fillAll fields parts = .error fault)
    (hclosed : ∀ position, fault ≠ .unclosedAction position)
    (b : List Char) :
    fillAll fields (segmentsFrom offset (a ++ b)) = .error fault := by
  induction h with
  | @plain offset a _ =>
      rw [← List.append_nil (literalPart a), fillAll_literalPart] at hfill
      cases hfill
  | unclosed _ _ =>
      rw [fillAll_literalPart] at hfill
      cases hfill
      exact absurd rfl (hclosed _)
  | action hpair hcloses htrims hwritten _ ih =>
      rw [segmentsFrom_append hpair hcloses htrims hwritten,
        fillAll_literalPart]
      rcases fillAll_eq_error hfill with
        hpart | ⟨⟨value, hpart⟩, hparts⟩
      · rw [fillAll_cons_error hpart]
        rfl
      · rw [fillAll_cons_ok hpart, ih hparts]
        rfl

-- =========================================================== offsets

/-- A fault that lies further behind. -/
def Fault.shift (k : Nat) : Fault → Fault
  | .undefinedField name position => .undefinedField name (k + position)
  | .unclosedAction position => .unclosedAction (k + position)
  | .emptyAction position => .emptyAction (k + position)
  | .unsupportedAction action position =>
    .unsupportedAction action (k + position)

/-- A part that stands further behind. -/
def Segment.shift (k : Nat) : Segment → Segment
  | .literal text => .literal text
  | .action position action => .action (k + position) action
  | .unclosed position => .unclosed (k + position)

theorem map_shift_literalPart :
    (literalPart cs).map (Segment.shift k) = literalPart cs := by
  cases cs with
  | nil => rfl
  | cons c cs => rfl

/-- The parts of a template that begins further behind stand further
behind. -/
theorem Parsed.shift (h : Parsed offset cs parts) (k : Nat) :
    Parsed (k + offset) cs (parts.map (Segment.shift k)) := by
  induction h with
  | plain hplain =>
      rw [map_shift_literalPart]
      exact .plain hplain
  | @unclosed offset cs before body hpair hopen =>
      rw [List.map_append, map_shift_literalPart, List.map_singleton,
        Segment.shift, ← Nat.add_assoc]
      exact .unclosed hpair hopen
  | @action offset cs before body text behind core action parts hpair
      hcloses htrims hwritten _ ih =>
      rw [List.map_append, map_shift_literalPart, List.map_cons,
        Segment.shift, ← Nat.add_assoc]
      refine .action hpair hcloses htrims hwritten ?_
      simpa only [Nat.add_assoc] using ih

theorem Segment.fill_shift (part : Segment) (k : Nat) :
    (part.shift k).fill fields
      = (part.fill fields).mapError (Fault.shift k) := by
  cases part with
  | literal text => rfl
  | unclosed position => rfl
  | action position action =>
      cases action with
      | quoted text => rfl
      | empty => rfl
      | unsupported text => rfl
      | field name =>
          cases hvalue : fields name with
          | none =>
              simp only [Segment.shift, Segment.fill, hvalue]
              rfl
          | some value =>
              simp only [Segment.shift, Segment.fill, hvalue]
              rfl

/-- A template that begins further behind is filled alike; its faults
lie further behind. -/
theorem fillAll_shift (k offset : Nat) (cs : List Char) :
    fillAll fields (segmentsFrom (k + offset) cs)
      = (fillAll fields (segmentsFrom offset cs)).mapError
          (Fault.shift k) := by
  have hshift := (parsed_segmentsFrom offset cs).shift k
  rw [← parsed_iff.1 hshift]
  generalize segmentsFrom offset cs = parts
  induction parts with
  | nil => rfl
  | cons part parts ih =>
      have hpart : (part.shift k).fill fields
          = (part.fill fields).mapError (Fault.shift k) :=
        part.fill_shift k
      rw [List.map_cons]
      cases hfill : part.fill fields with
      | error fault =>
          rw [hfill] at hpart
          rw [fillAll_cons_error hpart, fillAll_cons_error hfill]
          rfl
      | ok value =>
          rw [hfill] at hpart
          rw [fillAll_cons_ok hpart, fillAll_cons_ok hfill, ih]
          cases fillAll fields parts with
          | error fault => rfl
          | ok rest => rfl

-- ============================================================ pieces

/-- What fills two pieces fills them joined, if no brace meets a
brace. -/
theorem Fills.append (ha : Fills fields a x) (hb : Fills fields b y)
    (hapart : Apart a b) : Fills fields (a ++ b) (x ++ y) := by
  intro offset
  rw [(parsed_segmentsFrom offset a).fill_append (ha offset) hapart, hb]
  rfl

theorem Apart.of_last (h : a.getLast? ≠ some '\x7b') (b : List Char) :
    Apart a b :=
  fun hmeet => h hmeet.1

/-- An action between its braces is a piece. -/
theorem Fills.of_action
    (hcloses : Closes (text ++ ['\x7d', '\x7d']) text [])
    (htrims : Trims text core) (hwritten : Action.Written core action)
    (hfill : ∀ position,
      (Segment.action position action).fill fields = .ok x) :
    Fills fields ('\x7b' :: '\x7b' :: (text ++ ['\x7d', '\x7d'])) x := by
  intro offset
  have hpair : FirstPair '\x7b'
      ('\x7b' :: '\x7b' :: (text ++ ['\x7d', '\x7d'])) []
      (text ++ ['\x7d', '\x7d']) := ⟨rfl, by decide⟩
  have hparsed : Parsed offset
      ('\x7b' :: '\x7b' :: (text ++ ['\x7d', '\x7d'])) _ :=
    .action hpair hcloses htrims hwritten (.plain (by decide))
  rw [← parsed_iff.1 hparsed, fillAll_literalPart,
    fillAll_cons_ok (hfill _)]
  show Except.ok ([] ++ (x ++ [])) = _
  rw [List.append_nil, List.nil_append]

/-- So is a reference to a field whose name has neither blanks nor
closing braces. -/
theorem Fills.reference {name value : String}
    (hname : ∀ c ∈ name.toList, isBlank c = false ∧ c ≠ '\x7d')
    (hvalue : fields name = some value) :
    Fills fields
      ('\x7b' :: '\x7b' :: ('.' :: name.toList ++ ['\x7d', '\x7d']))
      value.toList := by
  have hblank : ∀ c ∈ name.toList, isBlank c = false :=
    fun c hc => (hname c hc).1
  have hdot : isBlank '.' = false := by decide
  have hbrace : '\x7d' ∉ '.' :: name.toList := by
    intro hmem
    rcases List.mem_cons.1 hmem with hdot | hin
    · exact absurd hdot (by decide)
    · exact (hname _ hin).2 rfl
  have hpair : FirstPair '\x7d' ('.' :: name.toList ++ ['\x7d', '\x7d'])
      ('.' :: name.toList) [] := by
    refine ⟨rfl, ?_⟩
    rw [pair_append_iff]
    rintro (hpair | hpair | ⟨hlast, -⟩)
    · exact hbrace (hpair.mem (List.mem_cons_self ..))
    · exact absurd hpair (by decide)
    · exact hbrace (List.mem_of_getLast? hlast)
  have hnone : AllBlank [] := fun _ h => nomatch h
  have hcloses : Closes
      ([] ++ '.' :: (name.toList ++ ['\x7d', '\x7d']))
      ('.' :: name.toList) [] := .bare hnone hdot (by decide) hpair
  have htrims : Trims ('.' :: name.toList) ('.' :: name.toList) :=
    trim_eq_iff.1 (trim_of_noBlank (List.forall_mem_cons.2 ⟨hdot, hblank⟩))
  refine Fills.of_action hcloses htrims
    (.field (trim_eq_iff.1 (trim_of_noBlank hblank))) fun position => ?_
  simp only [String.ofList_toList, Segment.fill, hvalue]

-- ======================================================= the theorem

/-- A template that is filled may have another behind it, if no brace of
the one meets a brace of the other: both are filled as they are alone,
and a fault of the second lies as many bytes further behind as the first
has.  A fault of the first is the fault of both, unless it is a `{{`
that is still open. -/
theorem render_append (a b : String) (fields : Fields) :
    (∀ x, render a fields = .ok x →
      ¬ (a.toList.getLast? = some '\x7b' ∧
        b.toList.head? = some '\x7b') →
      (∀ y, render b fields = .ok y →
        render (a ++ b) fields = .ok (x ++ y)) ∧
      ∀ fault, render b fields = .error fault →
        render (a ++ b) fields = .error (fault.shift a.utf8ByteSize)) ∧
    ∀ fault, render a fields = .error fault →
      (∀ position, fault ≠ .unclosedAction position) →
      render (a ++ b) fields = .error fault := by
  have hparsed := parsed_segmentsFrom 0 a.toList
  have hwidth : a.utf8ByteSize = width a.toList := by
    rw [← utf8ByteSize_ofList, String.ofList_toList]
  unfold render segments
  rw [String.toList_append]
  constructor
  · intro x hx hapart
    cases ha : fillAll fields (segmentsFrom 0 a.toList) with
    | error fault =>
        rw [ha] at hx
        cases hx
    | ok out =>
        rw [ha] at hx
        cases hx
        rw [hparsed.fill_append ha hapart, Nat.zero_add, hwidth,
          ← Nat.add_zero (width a.toList), fillAll_shift]
        cases fillAll fields (segmentsFrom 0 b.toList) with
        | error fault =>
            refine ⟨nofun, fun fault' hfault => ?_⟩
            cases hfault
            rfl
        | ok more =>
            refine ⟨fun y hy => ?_, nofun⟩
            cases hy
            exact congrArg Except.ok String.ofList_append
  · intro fault hfault hclosed
    cases ha : fillAll fields (segmentsFrom 0 a.toList) with
    | error fault' =>
        rw [ha] at hfault
        cases hfault
        rw [hparsed.fault_append ha hclosed]
        rfl
    | ok out =>
        rw [ha] at hfault
        cases hfault

/-- An open action behind a text of one character and two bytes, and an
empty action with anything behind it. -/
theorem render_append_faults :
    render ("é" ++ "\x7b\x7b") (Fields.ofList [])
      = .error (.unclosedAction 2) ∧
    render ("\x7b\x7b\x7d\x7d" ++ "\x7b\x7b") (Fields.ofList [])
      = .error (.emptyAction 0) := by
  constructor
  · have hfirst : render "é" (Fields.ofList []) = .ok "é" := by
      rw [render_of_fills (.plain rfl), String.ofList_toList]
    have hcut : cutAtDouble '\x7b' "\x7b\x7b".toList = some ([], []) := by
      decide
    have hsecond : render "\x7b\x7b" (Fields.ofList [])
        = .error (.unclosedAction 0) := by
      rw [render, segments, segmentsFrom_unclosed hcut rfl]
      rfl
    exact ((render_append _ _ _).1 _ hfirst (by decide)).2 _ hsecond
  · have hcut : cutAtDouble '\x7b' "\x7b\x7b\x7d\x7d".toList
        = some ([], ['\x7d', '\x7d']) := by decide
    have haction : cutAction ['\x7d', '\x7d'] = some ([], []) := rfl
    have hfirst : render "\x7b\x7b\x7d\x7d" (Fields.ofList [])
        = .error (.emptyAction 0) := by
      rw [render, segments, segmentsFrom_action hcut haction]
      rfl
    exact (render_append _ _ _).2 _ hfirst nofun

end RemoteProvision.Template
