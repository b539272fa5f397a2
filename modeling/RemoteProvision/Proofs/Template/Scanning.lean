/-
Templates scanned by byte offsets.

A text is kept in UTF-8, and whoever scans it sees byte offsets: where a
mark begins, how long the blanks at the front are, where an action ends.
A slice between two offsets is a text only if both lie inside the text
and neither lies inside a character.

Here the filling of a template is written down as the one loop that does
this: it searches the next `{{`, cuts the text there, fills the action
at once, and goes on behind its `}}` with the offset moved on
(`scanFrom`).  Every slice may fail (`cutAtByte`).  None does, and what
the loop answers is what filling the parts of the template answers
(`scan_eq_render`): offsets only ever come from searches, and a search
ends where a character begins.

The last theorem puts this beside the parse of the template.
-/
import RemoteProvision.Proofs.Template.Parsing

namespace RemoteProvision.Template

open RemoteProvision.Text

variable {fields : Fields} {offset position : Nat}
  {cs before body text behind core : List Char} {c : Char}

-- ============================================================ slices

/-- Cuts a text at a byte offset, if that lies in the text and not inside
a character. -/
def cutAtByte : Nat → List Char → Option (List Char × List Char)
  | 0, cs => some ([], cs)
  | _ + 1, [] => none
  | n + 1, c :: cs =>
    if c.utf8Size ≤ n + 1 then
      (cutAtByte (n + 1 - c.utf8Size) cs).map fun p => (c :: p.1, p.2)
    else none

/-- The byte offset of the first place where a mark stands. -/
def offsetOf (mark : List Char) : List Char → Option Nat
  | [] => none
  | c :: cs =>
    if mark.isPrefixOf (c :: cs) then some 0
    else (offsetOf mark cs).map (c.utf8Size + ·)

/-- A text can be cut behind each of its beginnings, and nowhere
else. -/
theorem cutAtByte_eq_some_iff {n : Nat} :
    cutAtByte n cs = some (before, behind)
      ↔ cs = before ++ behind ∧ n = width before := by
  constructor
  · intro h
    induction cs generalizing n before with
    | nil =>
        cases n with
        | zero => cases h; exact ⟨rfl, rfl⟩
        | succ n => cases h
    | cons c cs ih =>
        cases n with
        | zero => cases h; exact ⟨rfl, rfl⟩
        | succ n =>
            rw [cutAtByte] at h
            split at h
            · next hle =>
              obtain ⟨⟨front, behind'⟩, hcut, hparts⟩ :=
                Option.map_eq_some_iff.1 h
              cases hparts
              obtain ⟨rfl, hwidth⟩ := ih hcut
              have hfront : n + 1 - c.utf8Size = width front := hwidth
              refine ⟨rfl, ?_⟩
              show n + 1 = c.utf8Size + width front
              omega
            · cases h
  · rintro ⟨rfl, rfl⟩
    induction before with
    | nil => simp [cutAtByte]
    | cons c before ih =>
        have hpos : 0 < c.utf8Size := c.utf8Size_pos
        obtain ⟨n, hn⟩ : ∃ n, c.utf8Size + width before = n + 1 :=
          ⟨c.utf8Size + width before - 1, by omega⟩
        have hrest : n + 1 - c.utf8Size = width before := by omega
        rw [width_cons, List.cons_append, hn, cutAtByte,
          if_pos (by omega), hrest, ih]
        rfl

/-- What is behind a cut that is not at the front is shorter. -/
theorem length_of_cutAtByte {n : Nat}
    (h : cutAtByte n cs = some (before, behind)) (hn : 0 < n) :
    behind.length < cs.length := by
  obtain ⟨rfl, rfl⟩ := cutAtByte_eq_some_iff.1 h
  cases before with
  | nil => exact absurd hn (Nat.lt_irrefl 0)
  | cons c before =>
      simp only [List.length_append, List.length_cons]
      omega

/-- Pairs are searched by their offset. -/
theorem offsetOf_pair (c : Char) (cs : List Char) :
    offsetOf [c, c] cs = (cutAtDouble c cs).map fun p => width p.1 := by
  induction cs with
  | nil => rfl
  | cons a rest ih =>
      cases rest with
      | nil => simp [offsetOf, cutAtDouble, List.isPrefixOf]
      | cons b rest =>
          rw [offsetOf, cutAtDouble]
          by_cases hpair : a = c ∧ b = c
          · obtain ⟨rfl, rfl⟩ := hpair
            simp [List.isPrefixOf]
          · have hhere : ¬ [c, c].isPrefixOf (a :: b :: rest) = true := by
              simp only [List.isPrefixOf, Bool.and_eq_true, beq_iff_eq,
                Bool.and_true]
              exact fun h => hpair ⟨h.1.symm, h.2.symm⟩
            rw [if_neg hhere, if_neg hpair, ih, Option.map_map,
              Option.map_map]
            rfl

/-- So are single characters. -/
theorem offsetOf_single (c : Char) (cs : List Char) :
    offsetOf [c] cs = (cutAt c cs).map fun p => width p.1 := by
  induction cs with
  | nil => rfl
  | cons a rest ih =>
      rw [offsetOf, cutAt]
      by_cases ha : a = c
      · subst ha
        simp [List.isPrefixOf]
      · have hhere : ¬ [c].isPrefixOf (a :: rest) = true := by
          simp only [List.isPrefixOf, Bool.and_true, beq_iff_eq]
          exact Ne.symm ha
        rw [if_neg hhere, if_neg ha, ih, Option.map_map, Option.map_map]
        rfl

-- ========================================================== scanning

/-- The offset of the `}}` that closes the action at the front.  A quoted
text at the front is passed over. -/
def actionEnd (body : List Char) : Option (Option Nat) := do
  let lead := width body - width (trimStart body)
  let front ← cutAtByte lead body
  if front.2.head? = some quoteMark then
    let inside ← cutAtByte (lead + 1) body
    match offsetOf [quoteMark] inside.2 with
    | none => return none
    | some close =>
      let start := lead + 1 + close + 1
      let rest ← cutAtByte start body
      return (offsetOf ['\x7d', '\x7d'] rest.2).map (start + ·)
  else
    return offsetOf ['\x7d', '\x7d'] body

theorem width_quoteMark : quoteMark.utf8Size = 1 := by decide

/-- The search ends where the action is closed. -/
theorem actionEnd_eq (body : List Char) :
    actionEnd body = some ((cutAction body).map fun p => width p.1) := by
  rcases blank_or_split body with
    hblank | ⟨blanks, c, rest, rfl, hblanks, hc⟩
  · have hlead : width body - width (trimStart body) = width body := by
      rw [trimStart, dropWhile_eq_nil_iff.2 hblank]
      rfl
    have hcut : cutAtByte (width body) body = some (body, []) :=
      cutAtByte_eq_some_iff.2 ⟨(List.append_nil body).symm, rfl⟩
    have hnone : cutAtDouble '\x7d' body = none := by
      refine cutAtDouble_eq_none_iff.2 fun hpair => ?_
      have hmem := hblank _ (hpair.mem (List.mem_cons_self ..))
      exact absurd hmem (by decide)
    simp only [actionEnd, hlead, hcut, Option.bind_eq_bind,
      Option.bind_some, List.head?_nil, reduceCtorEq, if_false,
      offsetOf_pair, hnone, cutAction_blank hblank]
    rfl
  · have hlead : width (blanks ++ c :: rest)
        - width (trimStart (blanks ++ c :: rest)) = width blanks := by
      rw [trimStart, dropWhile_blanks hblanks hc, width_append]
      omega
    have hfront : cutAtByte (width blanks) (blanks ++ c :: rest)
        = some (blanks, c :: rest) :=
      cutAtByte_eq_some_iff.2 ⟨rfl, rfl⟩
    by_cases hquote : c = quoteMark
    · subst hquote
      have hinside : cutAtByte (width blanks + 1)
          (blanks ++ quoteMark :: rest)
          = some (blanks ++ [quoteMark], rest) :=
        cutAtByte_eq_some_iff.2
          ⟨by simp, by simp [width_quoteMark]⟩
      rw [cutAction_quoted hblanks]
      cases hcut : cutAt quoteMark rest with
      | none =>
          simp only [actionEnd, hlead, hfront, hinside, hcut,
            Option.bind_eq_bind, Option.bind_some, List.head?_cons,
            if_true, offsetOf_single]
          rfl
      | some p =>
          obtain ⟨inside, more⟩ := p
          obtain ⟨rfl, -⟩ := cutAt_eq_some_iff.1 hcut
          have hmore : cutAtByte (width blanks + 1 + width inside + 1)
              (blanks ++ quoteMark :: (inside ++ quoteMark :: more))
              = some (blanks ++ quoteMark :: (inside ++ [quoteMark]),
                  more) := by
            refine cutAtByte_eq_some_iff.2 ⟨by simp, ?_⟩
            simp only [width_append, width_cons, width_nil,
              width_quoteMark]
            omega
          simp only [actionEnd, hlead, hfront, hinside, hcut, hmore,
            Option.bind_eq_bind, Option.bind_some, Option.map_some,
            List.head?_cons, if_true, offsetOf_single, offsetOf_pair,
            Option.map_map]
          congr 2
          funext q
          simp only [Function.comp_apply, width_append, width_cons,
            width_quoteMark]
          omega
    · rw [cutAction_bare hblanks hc hquote]
      simp only [actionEnd, hlead, hfront, Option.bind_eq_bind,
        Option.bind_some, List.head?_cons, Option.some.injEq, hquote,
        if_false, offsetOf_pair]
      rfl

/-- What an action is filled with, from its trimmed text. -/
def fillAction (fields : Fields) (position : Nat) (core : List Char) :
    Option (Except Fault (List Char)) :=
  if core = [] then some (.error (.emptyAction position))
  else if 2 ≤ width core ∧ core.head? = some quoteMark ∧
      core.getLast? = some quoteMark then do
    let rest ← cutAtByte 1 core
    let inside ← cutAtByte (width core - 1 - 1) rest.2
    return .ok inside.1
  else
    match core with
    | '.' :: name =>
      match fields (String.ofList (trim name)) with
      | some value => some (.ok value.toList)
      | none =>
        some (.error
          (.undefinedField (String.ofList (trim name)) position))
    | _ =>
      some (.error (.unsupportedAction (String.ofList core) position))

/-- Filling an action by offsets is filling it as it is read. -/
theorem fillAction_eq :
    fillAction fields position core
      = some ((Segment.action position (Action.read core)).fill
          fields) := by
  obtain ⟨action, hwritten⟩ : ∃ action, Action.Written core action :=
    ⟨_, Action.read_eq_iff.1 rfl⟩
  rw [Action.read_eq_iff.2 hwritten]
  cases hwritten with
  | empty => rfl
  | quoted inside =>
      have hwidth : width (quoteMark :: (inside ++ [quoteMark]))
          = width inside + 2 := by
        simp only [width_cons, width_append, width_nil, width_quoteMark]
        omega
      have hrest : cutAtByte 1 (quoteMark :: (inside ++ [quoteMark]))
          = some ([quoteMark], inside ++ [quoteMark]) :=
        cutAtByte_eq_some_iff.2 ⟨rfl, by simp [width_quoteMark]⟩
      have hinside : cutAtByte (width inside) (inside ++ [quoteMark])
          = some (inside, [quoteMark]) :=
        cutAtByte_eq_some_iff.2 ⟨rfl, rfl⟩
      have hlast : (quoteMark :: (inside ++ [quoteMark])).getLast?
          = some quoteMark := by
        rw [← List.cons_append, List.getLast?_concat]
      unfold fillAction
      rw [if_neg (List.cons_ne_nil _ _),
        if_pos ⟨by omega, rfl, hlast⟩, hrest, hwidth]
      simp [hinside, Segment.fill]
  | @field rest name htrims =>
      have hdot : ¬ ('.' = quoteMark) := by decide
      unfold fillAction
      rw [if_neg (List.cons_ne_nil _ _), if_neg]
      · simp only [trim_eq_iff.2 htrims, Segment.fill]
        cases fields (String.ofList name) with
        | none => rfl
        | some value => rfl
      · rintro ⟨-, hhead, -⟩
        exact hdot (Option.some.inj hhead)
  | unsupported hne hdot hquoted =>
      unfold fillAction
      rw [if_neg hne, if_neg]
      · split
        · next name => exact absurd rfl (hdot name)
        · rfl
      · rintro ⟨hwidth, hhead, hlast⟩
        obtain ⟨rest, rfl⟩ := List.head?_eq_some_iff.1 hhead
        rcases List.eq_nil_or_concat rest with
          rfl | ⟨inside, last, rfl⟩
        · rw [width_cons, width_nil, width_quoteMark] at hwidth
          omega
        · rw [List.concat_eq_append, ← List.cons_append,
            List.getLast?_concat] at hlast
          cases hlast
          exact hquoted inside (by rw [List.concat_eq_append])

/-- One turn of the loop, for the `{{` at an offset of what is left: the
text to be written, and where the action ends. -/
def scanAction (fields : Fields) (offset start : Nat)
    (rest : List Char) : Option (Except Fault (List Char × Nat)) := do
  let before ← cutAtByte start rest
  let body ← cutAtByte (start + 2) rest
  match ← actionEnd body.2 with
  | none => return .error (.unclosedAction (offset + start))
  | some stop =>
    let text ← cutAtByte stop body.2
    let filled ← fillAction fields (offset + start) (trim text.1)
    return filled.map fun value => (before.1 ++ value, stop)

/-- One turn of the loop fills the next action. -/
theorem scanAction_eq {rest : List Char}
    (h : cutAtDouble '\x7b' rest = some (before, body)) :
    scanAction fields offset (width before) rest
      = some (match cutAction body with
        | none => .error (.unclosedAction (offset + width before))
        | some (text, _) =>
          ((Segment.action (offset + width before)
              (Action.read (trim text))).fill fields).map
            fun value => (before ++ value, width text)) := by
  have hopen : ('\x7b' : Char).utf8Size = 1 := by decide
  have hrest := (cutAtDouble_eq_some_iff.1 h).text
  have hbefore : cutAtByte (width before) rest
      = some (before, '\x7b' :: '\x7b' :: body) :=
    cutAtByte_eq_some_iff.2 ⟨hrest, rfl⟩
  have hbody : cutAtByte (width before + 2) rest
      = some (before ++ ['\x7b', '\x7b'], body) :=
    cutAtByte_eq_some_iff.2 ⟨by simp [hrest], by simp [hopen]⟩
  simp only [scanAction, hbefore, hbody, Option.bind_eq_bind,
    Option.bind_some, actionEnd_eq]
  cases haction : cutAction body with
  | none => rfl
  | some closed =>
      obtain ⟨text, behind⟩ := closed
      have htext : cutAtByte (width text) body
          = some (text, '\x7d' :: '\x7d' :: behind) :=
        cutAtByte_eq_some_iff.2
          ⟨(cutAction_eq_some_iff.1 haction).split, rfl⟩
      simp only [Option.map_some, htext, Option.bind_some, fillAction_eq]
      rfl

/-- The loop: what was written so far, and what is left of the template
behind an offset. -/
def scanFrom (fields : Fields) (offset : Nat) (out rest : List Char) :
    Option (Except Fault (List Char)) :=
  match offsetOf ['\x7b', '\x7b'] rest with
  | none => some (.ok (out ++ rest))
  | some start =>
    match scanAction fields offset start rest with
    | none => none
    | some (.error fault) => some (.error fault)
    | some (.ok (text, stop)) =>
      let taken := start + 2 + stop + 2
      match _h : cutAtByte taken rest with
      | none => none
      | some (_, behind) =>
        scanFrom fields (offset + taken) (out ++ text) behind
termination_by rest.length
decreasing_by exact length_of_cutAtByte _h (by omega)

/-- Fills a template by scanning it; no answer if a slice fails. -/
def scan (template : String) (fields : Fields) :
    Option (Except Fault String) :=
  (scanFrom fields 0 [] template.toList).map fun filled =>
    filled.map String.ofList

-- The three ways a turn of the loop can go.

theorem scanFrom_plain {out rest : List Char}
    (h : offsetOf ['\x7b', '\x7b'] rest = none) :
    scanFrom fields offset out rest = some (.ok (out ++ rest)) := by
  rw [scanFrom]
  simp only [h]

theorem scanFrom_fault {out rest : List Char} {start : Nat}
    {fault : Fault} (h : offsetOf ['\x7b', '\x7b'] rest = some start)
    (hturn : scanAction fields offset start rest
      = some (.error fault)) :
    scanFrom fields offset out rest = some (.error fault) := by
  rw [scanFrom]
  simp only [h, hturn]

theorem scanFrom_turn {out rest front : List Char} {start stop : Nat}
    (h : offsetOf ['\x7b', '\x7b'] rest = some start)
    (hturn : scanAction fields offset start rest
      = some (.ok (text, stop)))
    (hcut : cutAtByte (start + 2 + stop + 2) rest
      = some (front, behind)) :
    scanFrom fields offset out rest
      = scanFrom fields (offset + (start + 2 + stop + 2)) (out ++ text)
          behind := by
  rw [scanFrom]
  simp only [h, hturn]
  split
  · next hnone => rw [hcut] at hnone; cases hnone
  · next hsome => rw [hcut] at hsome; cases hsome; rfl

/-- The loop writes what the parts are filled to, behind what it has
written. -/
theorem scanFrom_eq (fields : Fields) (offset : Nat)
    (out rest : List Char) :
    scanFrom fields offset out rest
      = some ((fillAll fields (segmentsFrom offset rest)).map
          (out ++ ·)) := by
  have hstart := offsetOf_pair '\x7b' rest
  cases hcut : cutAtDouble '\x7b' rest with
  | none =>
      rw [hcut] at hstart
      rw [scanFrom_plain hstart, segmentsFrom_plain hcut,
        ← List.append_nil (literalPart rest), fillAll_literalPart]
      show _ = some (Except.ok (out ++ (rest ++ [])))
      rw [List.append_nil]
  | some cut =>
      obtain ⟨before, body⟩ := cut
      rw [hcut] at hstart
      have hturn : scanAction fields offset (width before) rest = _ :=
        scanAction_eq hcut
      cases haction : cutAction body with
      | none =>
          rw [haction] at hturn
          rw [scanFrom_fault hstart hturn,
            segmentsFrom_unclosed hcut haction, fillAll_literalPart]
          rfl
      | some closed =>
          obtain ⟨text, behind⟩ := closed
          simp only [haction] at hturn
          rw [segmentsFrom_action hcut haction, fillAll_literalPart]
          cases hfill : (Segment.action (offset + width before)
              (Action.read (trim text))).fill fields with
          | error fault =>
              rw [hfill] at hturn
              rw [scanFrom_fault hstart hturn, fillAll_cons_error hfill]
              rfl
          | ok value =>
              rw [hfill] at hturn
              obtain ⟨hrest, hwidth⟩ := split_action
                (cutAtDouble_eq_some_iff.1 hcut)
                (cutAction_eq_some_iff.1 haction)
              have htaken := cutAtByte_eq_some_iff.2 ⟨hrest, hwidth.symm⟩
              rw [scanFrom_turn hstart hturn htaken, scanFrom_eq,
                fillAll_cons_ok hfill]
              have hoffset : offset + (width before + 2 + width text + 2)
                  = offset + width before + 2 + width text + 2 := by
                omega
              rw [hoffset]
              cases fillAll fields (segmentsFrom
                  (offset + width before + 2 + width text + 2) behind) with
              | error fault => rfl
              | ok more =>
                  have happend : out ++ (before ++ value) ++ more
                      = out ++ (before ++ (value ++ more)) := by simp
                  exact congrArg (fun cs => some (Except.ok cs)) happend
termination_by rest.length
decreasing_by
  have h1 := cutAtDouble_length hcut
  have h2 := cutAction_length haction
  omega

/-- No slice fails, and scanning a template is filling its parts. -/
theorem scan_eq_render (template : String) (fields : Fields) :
    scan template fields = some (render template fields) := by
  unfold scan render segments
  rw [scanFrom_eq]
  cases fillAll fields (segmentsFrom 0 template.toList) with
  | error fault => rfl
  | ok out => rfl

-- ======================================================= the theorem

/-- Every template has one parse, whatever the fields: literal texts
without `{{`, and actions, each with the number of bytes in front of its
`{{`.  Filling the template is evaluating the parse.  So the error of a
template, if there is one, is a matter of the names that have values, and
lies where its action stands; and what a value holds is never read.

Scanned by byte offsets, the template is filled alike, and no slice on
the way is cut outside of the text or inside a character. -/
theorem render_evaluates (template : String) :
    ∃ parts,
      (∀ others, Parsed 0 template.toList others ↔ others = parts) ∧
      (∀ fields, render template fields = evaluate fields parts) ∧
      (∀ text, .literal text ∈ parts → ¬ ['\x7b', '\x7b'] <:+: text) ∧
      (∀ part ∈ parts, ∀ position, part.position? = some position →
        ∃ before behind,
          template = before ++ "\x7b\x7b" ++ behind ∧
          position = before.utf8ByteSize) ∧
      (∀ fields fields' : Fields,
        (∀ name, (fields name).isSome = (fields' name).isSome) →
        ∀ fault, render template fields = .error fault
          ↔ render template fields' = .error fault) ∧
      (∀ fields fault, render template fields = .error fault →
        ∃ part ∈ parts, part.fault? fields = some fault ∧
          part.position? = some fault.position) ∧
      ∀ fields, scan template fields = some (render template fields) := by
  have hparsed := parsed_segmentsFrom 0 template.toList
  refine ⟨segments template, fun others => parsed_iff,
    render_eq_evaluate template, fun text => hparsed.literal, ?_,
    fun fields fields' h fault => render_error_congr h,
    fun fields fault => render_fault, scan_eq_render template⟩
  intro part hpart position hposition
  obtain ⟨before, behind, htemplate, hwidth⟩ :=
    hparsed.position hpart hposition
  refine ⟨String.ofList before, String.ofList behind, ?_, ?_⟩
  · have hopen : "\x7b\x7b".toList = ['\x7b', '\x7b'] := by decide
    rw [← String.toList_inj]
    simp [htemplate, hopen]
  · rw [utf8ByteSize_ofList, hwidth, Nat.zero_add]

end RemoteProvision.Template
