/-
Writing any text as a template.

A text is written as a template by putting each of its `{{` into an
action that quotes it (`escape`).  The quoted action renders to what it
quotes, and so does every quoted text, with whatever braces, that holds
no double quote itself (`Fills.quoted`).

That the escaped text renders to the text is an induction along the
escaping, with pieces joined as templates are joined.  Runs of braces are
the cases to look at.  The quoted action begins in a brace, but a single
brace never stands right before it, since the two would have been one
`{{` further left (`head?_escapeChars`).  It ends in a closing brace, so
what follows is apart from it.  With references between escaped texts one
condition is left: a text that ends in a brace cannot stand right before
a reference.
-/
import RemoteProvision.Proofs.Template.Joining
import RemoteProvision.Proofs.Command.Wrapper

namespace RemoteProvision.Template

open RemoteProvision.Text
open RemoteProvision.Command (toList_slot getLast?_slot)

variable {fields : Fields} {a b x y cs : List Char} {c : Char}

-- =========================================================== escaping

/-- An action that quotes a text. -/
def quotedAction (text : String) : String :=
  "\x7b\x7b \"" ++ text ++ "\" \x7d\x7d"

/-- A text with every `{{` in it quoted, the leftmost first. -/
def escapeChars : List Char → List Char
  | '\x7b' :: '\x7b' :: rest =>
    (quotedAction "\x7b\x7b").toList ++ escapeChars rest
  | c :: rest => c :: escapeChars rest
  | [] => []

/-- A text written as a template. -/
def escape (text : String) : String :=
  String.ofList (escapeChars text.toList)

/-- A text as a template with references in it, each with the text
behind it. -/
def withReferences (first : String) : List (String × String) → String
  | [] => escape first
  | (name, text) :: rest =>
    escape first ++ Command.slot name ++ withReferences text rest

/-- The same with values where the references stand. -/
def withValues (value : String → String) (first : String) :
    List (String × String) → String
  | [] => first
  | (name, text) :: rest =>
    first ++ value name ++ withValues value text rest

-- ============================================================= pieces

theorem toList_quotedAction (text : String) :
    (quotedAction text).toList
      = '\x7b' :: '\x7b' :: ' ' :: quoteMark :: (text.toList
        ++ quoteMark :: [' ', '\x7d', '\x7d']) := by
  have hopen : "\x7b\x7b \"".toList
      = ['\x7b', '\x7b', ' ', quoteMark] := by decide
  have hclose : "\" \x7d\x7d".toList
      = [quoteMark, ' ', '\x7d', '\x7d'] := by decide
  rw [quotedAction, String.toList_append, String.toList_append, hopen,
    hclose]
  rfl

theorem getLast?_quotedAction (text : String) :
    (quotedAction text).toList.getLast? = some '\x7d' := by
  have hclose : "\" \x7d\x7d".toList.getLast? = some '\x7d' := by decide
  rw [quotedAction, String.toList_append, List.getLast?_append, hclose]
  rfl

/-- A quoted text without a quote in it is copied, braces and all. -/
theorem Fills.quoted {text : String} (h : quoteMark ∉ text.toList) :
    Fills fields (quotedAction text).toList text.toList := by
  have hblank : AllBlank [' '] := List.forall_mem_singleton.2 (by decide)
  have hcloses : Closes ([' '] ++ quoteMark :: (text.toList
      ++ quoteMark :: [' ', '\x7d', '\x7d']))
      ([' '] ++ quoteMark :: (text.toList ++ quoteMark :: [' '])) [] :=
    .quoted hblank h ⟨rfl, by decide⟩
  have hlast : (quoteMark :: (text.toList ++ [quoteMark])).getLast?
      = some quoteMark := by
    rw [← List.cons_append]
    exact List.getLast?_concat
  have htrims : Trims ([' '] ++ quoteMark :: (text.toList
      ++ quoteMark :: [' '])) (quoteMark :: (text.toList ++ [quoteMark])) := by
    refine ⟨[' '], [' '], by simp, hblank, hblank, ?_, ?_⟩
    · rintro c ⟨⟩
      exact isBlank_quoteMark
    · intro c hc
      rw [hlast] at hc
      cases hc
      exact isBlank_quoteMark
  have hbody : [' '] ++ quoteMark :: (text.toList
        ++ quoteMark :: [' ', '\x7d', '\x7d'])
      = [' '] ++ quoteMark :: (text.toList ++ quoteMark :: [' '])
        ++ ['\x7d', '\x7d'] := by simp
  rw [hbody] at hcloses
  have hfills : Fills fields _ (String.ofList text.toList).toList :=
    .of_action hcloses htrims (.quoted text.toList) fun _ => rfl
  rw [String.toList_ofList] at hfills
  rw [toList_quotedAction]
  simpa using hfills

-- ============================================================== names

/-- The numbers of the ASCII letters and digits. -/
theorem toNat_alphanum (h : c.isAlphanum = true) :
    48 ≤ c.toNat ∧ c.toNat ≤ 57 ∨ 65 ≤ c.toNat ∧ c.toNat ≤ 90 ∨
      97 ≤ c.toNat ∧ c.toNat ≤ 122 := by
  rcases Bool.or_eq_true_iff.1 h with hletter | hdigit
  · rcases Bool.or_eq_true_iff.1 hletter with hupper | hlower
    · have hrange : c.val ≥ 'A'.val ∧ c.val ≤ 'Z'.val :=
        of_decide_eq_true hupper
      exact .inr (.inl hrange)
    · obtain ⟨hlow, hhigh⟩ := Bool.and_eq_true_iff.1 hlower
      exact .inr (.inr ⟨of_decide_eq_true hlow, of_decide_eq_true hhigh⟩)
  · obtain ⟨hlow, hhigh⟩ := Bool.and_eq_true_iff.1 hdigit
    exact .inl ⟨of_decide_eq_true hlow, of_decide_eq_true hhigh⟩

theorem isBlank_alphanum (h : c.isAlphanum = true) : isBlank c = false := by
  have hrange := toNat_alphanum h
  simp only [isBlank, Bool.or_eq_false_iff, Bool.and_eq_false_iff,
    decide_eq_false_iff_not, beq_eq_false_iff_ne]
  omega

/-- A reference is filled with the value of its name. -/
theorem Fills.slot {name value : String}
    (hname : name.toList.all Char.isAlphanum = true)
    (hvalue : fields name = some value) :
    Fills fields (Command.slot name).toList value.toList := by
  rw [toList_slot]
  refine .reference (fun c hc => ?_) hvalue
  have halphanum := List.all_eq_true.1 hname c hc
  refine ⟨isBlank_alphanum halphanum, ?_⟩
  rintro rfl
  exact absurd halphanum (by decide)

-- ====================================================== escaped texts

/-- A character that begins no `{{` is left as it is. -/
theorem escapeChars_cons {rest : List Char}
    (h : ∀ more, c = '\x7b' → rest = '\x7b' :: more → False) :
    escapeChars (c :: rest) = c :: escapeChars rest :=
  escapeChars.eq_2 c rest h

/-- The escape of a text begins as the text does. -/
theorem head?_escapeChars (cs : List Char) :
    (escapeChars cs).head? = cs.head? := by
  fun_cases escapeChars cs with
  | case1 rest => rw [toList_quotedAction]; rfl
  | case2 c rest _ => rfl
  | case3 => rfl

/-- It ends in a brace only if the text does. -/
theorem getLast?_escapeChars
    (h : (escapeChars cs).getLast? = some '\x7b') :
    cs.getLast? = some '\x7b' := by
  induction cs using escapeChars.induct with
  | case1 rest ih =>
      have hlast : (escapeChars rest).getLast? = some '\x7b' := by
        rw [escapeChars, List.getLast?_append, getLast?_quotedAction] at h
        cases hrest : (escapeChars rest).getLast? with
        | none =>
            rw [hrest] at h
            cases h
        | some c =>
            rw [hrest] at h
            exact h
      rw [List.getLast?_cons_cons, List.getLast?_cons, ih hlast]
      rfl
  | case2 c rest hsingle ih =>
      rw [escapeChars_cons hsingle, List.getLast?_cons] at h
      rw [List.getLast?_cons]
      cases hrest : (escapeChars rest).getLast? with
      | none =>
          have hnil : rest = [] := by
            rw [← List.head?_eq_none_iff, ← head?_escapeChars,
              List.getLast?_eq_none_iff.1 hrest]
            rfl
          rw [hrest] at h
          rw [hnil]
          exact h
      | some c' =>
          rw [hrest] at h
          rw [ih (hrest.trans h)]
          rfl
  | case3 => cases h

/-- An escaped text is filled to the text. -/
theorem fills_escapeChars (cs : List Char) :
    Fills fields (escapeChars cs) cs := by
  induction cs using escapeChars.induct with
  | case1 rest ih =>
      have hquoted : Fills fields (quotedAction "\x7b\x7b").toList
          ['\x7b', '\x7b'] := .quoted (by decide)
      refine hquoted.append ih (.of_last ?_ _)
      rw [getLast?_quotedAction]
      decide
  | case2 c rest hsingle ih =>
      have hplain : Fills fields [c] [c] := .plain rfl
      rw [escapeChars_cons hsingle]
      refine hplain.append ih ?_
      -- a brace behind `c` was there before the escaping
      rintro ⟨hc, hhead⟩
      rw [head?_escapeChars] at hhead
      obtain ⟨more, hrest⟩ := List.head?_eq_some_iff.1 hhead
      cases hc
      exact hsingle more rfl hrest
  | case3 => exact .plain rfl

theorem fills_escape (text : String) :
    Fills fields (escape text).toList text.toList := by
  rw [escape, String.toList_ofList]
  exact fills_escapeChars text.toList

/-- Texts and references are filled one after the other. -/
theorem fills_withReferences {value : String → String} {first : String}
    {rest : List (String × String)}
    (hnames : ∀ s ∈ rest, s.1.toList.all Char.isAlphanum = true ∧
      fields s.1 = some (value s.1))
    (hends : ∀ text ∈ (first :: rest.map Prod.snd).dropLast,
      text.toList.getLast? ≠ some '\x7b') :
    Fills fields (withReferences first rest).toList
      (withValues value first rest).toList := by
  induction rest generalizing first with
  | nil => exact fills_escape first
  | cons s rest ih =>
      obtain ⟨name, text⟩ := s
      obtain ⟨⟨hname, hvalue⟩, hnames⟩ := List.forall_mem_cons.1 hnames
      have hdrop : (first :: ((name, text) :: rest).map Prod.snd).dropLast
          = first :: (text :: rest.map Prod.snd).dropLast := rfl
      rw [hdrop] at hends
      obtain ⟨hfirst, hends⟩ := List.forall_mem_cons.1 hends
      rw [withReferences, withValues]
      simp only [String.toList_append]
      have hescaped : Apart (escape first).toList
          (Command.slot name).toList := by
        refine .of_last (fun hlast => hfirst ?_) _
        rw [escape, String.toList_ofList] at hlast
        exact getLast?_escapeChars hlast
      have hbehind : Apart ((escape first).toList
          ++ (Command.slot name).toList)
          (withReferences text rest).toList := by
        refine .of_last ?_ _
        rw [List.getLast?_append, getLast?_slot, Option.some_or]
        decide
      have hslot := Fills.slot hname hvalue
      exact ((fills_escape first).append hslot hescaped).append
        (ih hnames hends) hbehind

-- ======================================================= the theorem

/-- Every text can be written as a template: escaped, with references
to fields between the texts if none of the texts ends in a brace where a
reference follows.  A text without a double quote can also be quoted as
a whole. -/
theorem render_escape (fields : Fields) :
    (∀ (first : String) (rest : List (String × String))
        (value : String → String),
      (∀ s ∈ rest, s.1.toList.all Char.isAlphanum = true ∧
        fields s.1 = some (value s.1)) →
      (∀ text ∈ (first :: rest.map Prod.snd).dropLast,
        text.toList.getLast? ≠ some '\x7b') →
      render (withReferences first rest) fields
        = .ok (withValues value first rest)) ∧
    (∀ text : String, '"' ∉ text.toList →
      render (quotedAction text) fields = .ok text) ∧
    ∀ text, render (escape text) fields = .ok text := by
  refine ⟨fun first rest value hnames hends => ?_, fun text hquote => ?_,
    fun text => ?_⟩
  · rw [render_of_fills (fills_withReferences hnames hends),
      String.ofList_toList]
  · rw [render_of_fills (Fills.quoted hquote), String.ofList_toList]
  · rw [render_of_fills (fills_escape text), String.ofList_toList]

/-- Braces in the texts, behind a reference, and in the values. -/
theorem render_escape_braces :
    render (withReferences "if \x7b\x7b\x7b1"
        [("X9", "\x7d\x7d"), ("Y", "\x7b\x7b\x7b")])
      (Fields.ofList [("X9", "\x7b\x7b"), ("Y", "")])
      = .ok "if \x7b\x7b\x7b1\x7b\x7b\x7d\x7d\x7b\x7b\x7b" ∧
    render (quotedAction "\x7d\x7d \x7b\x7b") (Fields.ofList [])
      = .ok "\x7d\x7d \x7b\x7b" := by
  constructor
  · refine (render_escape _).1 _ _
      (fun name => if name = "X9" then "\x7b\x7b" else "") ?_ ?_
    · intro s hs
      rcases List.mem_cons.1 hs with rfl | hs
      · exact ⟨by decide, rfl⟩
      · cases List.mem_singleton.1 hs
        exact ⟨by decide, rfl⟩
    · intro text htext
      rcases List.mem_cons.1 htext with rfl | htext
      · decide
      · cases List.mem_singleton.1 htext
        decide
  · exact (render_escape _).2.1 _ (by decide)

end RemoteProvision.Template
