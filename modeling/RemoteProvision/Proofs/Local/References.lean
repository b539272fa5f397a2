/-
The one segmentation of a text at its references.

What the references in a text are can be said without a scan, and
without looking at any variable.  A reference is `${env:NAME}` or
`%NAME%` (`Reference`).  A text is cut at the leftmost place where one
begins, the text behind it is cut in the same way, and a text in which
none begins anywhere is plain (`Segmented`).

A percent sign may open a reference or close one, so the places alone do
not settle where the references are: in `%A%B%` two references overlap,
and the one further left is taken.  But at one place no two references
begin (`takeReference_eq_some_iff`), since a name cannot hold the
character that closes it.  So every text has exactly one segmentation
(`Segmented.unique`), and the scan follows it (`segmented_pieces`).
-/
import RemoteProvision.Proofs.Local.HelperFiles

namespace RemoteProvision.Local

variable {c close : Char} {text before behind name written : List Char}

-- ============================================================= names

/-- ASCII letters and the underscore. -/
def IsNameLetter (c : Char) : Prop :=
  'A' ≤ c ∧ c ≤ 'Z' ∨ 'a' ≤ c ∧ c ≤ 'z' ∨ c = '_'

/-- ASCII letters, digits and underscores, with no digit in front. -/
def SpellsName (name : List Char) : Prop :=
  ∃ first others, name = first :: others ∧ IsNameLetter first ∧
    ∀ c ∈ others, IsNameLetter c ∨ '0' ≤ c ∧ c ≤ '9'

theorem isNameStart_iff : isNameStart c = true ↔ IsNameLetter c := by
  have hupper : c.isUpper = true ↔ 'A' ≤ c ∧ c ≤ 'Z' := decide_eq_true_iff
  have hlower : c.isLower = true ↔ 'a' ≤ c ∧ c ≤ 'z' :=
    Bool.and_eq_true_iff.trans (and_congr decide_eq_true_iff
      decide_eq_true_iff)
  rw [isNameStart, Bool.or_eq_true, beq_iff_eq, IsNameLetter, ← or_assoc,
    ← hupper, ← hlower]
  exact or_congr Bool.or_eq_true_iff Iff.rfl

theorem isNameChar_iff :
    isNameChar c = true ↔ IsNameLetter c ∨ '0' ≤ c ∧ c ≤ '9' := by
  rw [← isNameStart_iff]
  simp only [isNameStart, isNameChar, Char.isAlphanum, Char.isDigit,
    Bool.or_eq_true, Bool.and_eq_true, decide_eq_true_eq, Char.le_def]
  constructor
  · rintro ((h | h) | h)
    · exact .inl (.inl h)
    · exact .inr h
    · exact .inl (.inr h)
  · rintro ((h | h) | h)
    · exact .inl (.inl h)
    · exact .inr h
    · exact .inl (.inr h)

theorem isName_iff : IsName name ↔ SpellsName name := by
  constructor
  · rintro ⟨⟨first, hfirst, hstart⟩, hchars⟩
    obtain ⟨others, rfl⟩ := List.head?_eq_some_iff.1 hfirst
    exact ⟨first, others, rfl, isNameStart_iff.1 hstart, fun c hc =>
      isNameChar_iff.1 (hchars c (List.mem_cons_of_mem _ hc))⟩
  · rintro ⟨first, others, rfl, hfirst, hothers⟩
    refine ⟨⟨first, rfl, isNameStart_iff.2 hfirst⟩, fun c hc => ?_⟩
    rcases List.mem_cons.1 hc with rfl | hc
    · exact isNameChar_iff.2 (.inl hfirst)
    · exact isNameChar_iff.2 (hothers c hc)

/-- A name that is taken is closed by the character asked for. -/
theorem takeName_eq_some_iff (hclose : isNameChar close = false) :
    takeName close text = some (name, behind)
      ↔ IsName name ∧ text = name ++ close :: behind := by
  constructor
  · intro h
    have hsplit : text.takeWhile isNameChar ++ text.dropWhile isNameChar
        = text := List.takeWhile_append_dropWhile
    have hchars : ∀ c ∈ text.takeWhile isNameChar, isNameChar c = true :=
      List.all_eq_true.1 List.all_takeWhile
    unfold takeName at h
    dsimp only at h
    split at h
    · next start c rest hhead hrest =>
        split at h
        · next hstart =>
            cases h
            rw [Bool.and_eq_true, beq_iff_eq] at hstart
            obtain ⟨hstart, rfl⟩ := hstart
            rw [hrest] at hsplit
            exact ⟨⟨⟨start, hhead, hstart⟩, hchars⟩, hsplit.symm⟩
        · cases h
    · cases h
  · rintro ⟨hname, rfl⟩
    exact takeName_of_isName hname hclose

-- ========================================================= references

/-- A reference to the variable of a name, in either of its two
forms. -/
inductive Reference (name : List Char) : List Char → Prop
  | dollar : SpellsName name →
      Reference name ("$\x7benv:".toList ++ name ++ "\x7d".toList)
  | percent : SpellsName name →
      Reference name ("%".toList ++ name ++ "%".toList)

/-- The scan takes a reference at the front of a text, if there is one.
There is no other one there. -/
theorem takeReference_eq_some_iff :
    takeReference text = some (name, written, behind)
      ↔ Reference name written ∧ text = written ++ behind := by
  have hbrace : isNameChar '\x7d' = false := by decide
  have hpercent : isNameChar '%' = false := by decide
  have hopen : "$\x7benv:".toList = ['$', '\x7b', 'e', 'n', 'v', ':'] := by
    decide
  constructor
  · intro h
    rw [takeReference.eq_def] at h
    split at h
    · next body =>
        obtain ⟨⟨name, behind⟩, htake, hparts⟩ :=
          Option.map_eq_some_iff.1 h
        cases hparts
        obtain ⟨hname, rfl⟩ := (takeName_eq_some_iff hbrace).1 htake
        refine ⟨.dollar (isName_iff.1 hname), ?_⟩
        rw [List.append_assoc]
        rfl
    · next body =>
        obtain ⟨⟨name, behind⟩, htake, hparts⟩ :=
          Option.map_eq_some_iff.1 h
        cases hparts
        obtain ⟨hname, rfl⟩ := (takeName_eq_some_iff hpercent).1 htake
        refine ⟨.percent (isName_iff.1 hname), ?_⟩
        rw [List.append_assoc]
        rfl
    · cases h
  · rintro ⟨hreference, rfl⟩
    cases hreference with
    | dollar hname =>
        rw [hopen, List.append_assoc, List.append_assoc]
        show (takeName '\x7d' (name ++ '\x7d' :: behind)).map _ = _
        rw [takeName_of_isName (isName_iff.2 hname) hbrace]
        rfl
    | percent hname =>
        rw [List.append_assoc, List.append_assoc]
        show (takeName '%' (name ++ '%' :: behind)).map _ = _
        rw [takeName_of_isName (isName_iff.2 hname) hpercent]
        rfl

/-- A reference begins at the front of a text. -/
def Begins (text : List Char) : Prop :=
  ∃ name written, Reference name written ∧ written <+: text

theorem begins_iff :
    Begins text ↔ ∃ taken, takeReference text = some taken := by
  constructor
  · rintro ⟨name, written, hreference, behind, rfl⟩
    exact ⟨_, takeReference_eq_some_iff.2 ⟨hreference, rfl⟩⟩
  · rintro ⟨⟨name, written, behind⟩, htake⟩
    obtain ⟨hreference, rfl⟩ := takeReference_eq_some_iff.1 htake
    exact ⟨name, written, hreference, List.prefix_append ..⟩

/-- A text holds a reference. -/
def HoldsReference (text : List Char) : Prop :=
  ∃ name written, Reference name written ∧ written <:+: text

/-- A reference that a text holds begins somewhere in it. -/
theorem holdsReference_iff :
    HoldsReference text ↔ ∃ rest, rest <:+ text ∧ Begins rest := by
  constructor
  · rintro ⟨name, written, hreference, before, behind, rfl⟩
    refine ⟨written ++ behind, ?_, name, written, hreference,
      List.prefix_append ..⟩
    rw [List.append_assoc]
    exact List.suffix_append ..
  · rintro ⟨rest, hrest, name, written, hreference, hwritten⟩
    exact ⟨name, written, hreference, hwritten.isInfix.trans hrest.isInfix⟩

theorem Begins.ne_nil (h : Begins text) : text ≠ [] := by
  rintro rfl
  obtain ⟨taken, htake⟩ := begins_iff.1 h
  cases htake

-- ======================================================= segmentation

/-- The leftmost reference in a text: it stands there, and none begins
in what is before it. -/
structure FirstReference (text before name written behind : List Char) :
    Prop where
  text : text = before ++ (written ++ behind)
  reference : Reference name written
  first : ∀ front rest, before = front ++ rest → rest ≠ [] →
    ¬ Begins (rest ++ (written ++ behind))

/-- A segment of a text. -/
inductive Stretch where
  | plain (text : List Char)
  | reference (name written : List Char)

/-- A text is cut at its leftmost reference, and behind that again; one
that holds no reference is plain. -/
inductive Segmented : List Char → List Stretch → Prop
  | plain {text : List Char} :
      ¬ HoldsReference text → Segmented text [.plain text]
  | reference {text before name written behind : List Char}
      {parts : List Stretch} :
      FirstReference text before name written behind →
      Segmented behind parts →
      Segmented text (.plain before :: .reference name written :: parts)

/-- What a segment is in the text. -/
def Stretch.source : Stretch → List Char
  | .plain text => text
  | .reference _ written => written

/-- What a segment is replaced by. -/
def Stretch.value (lookup : Lookup) : Stretch → List Char
  | .plain text => text
  | .reference name written =>
    match lookup (String.ofList name) with
    | some value => value.toList
    | none => written

variable {name' written' before' behind' : List Char}
  {parts parts' : List Stretch}

/-- The text before the leftmost reference holds none. -/
theorem FirstReference.plain
    (h : FirstReference text before name written behind) :
    ¬ HoldsReference before := by
  rw [holdsReference_iff]
  rintro ⟨rest, ⟨front, hfront⟩, hbegins⟩
  refine h.first front rest hfront.symm hbegins.ne_nil ?_
  obtain ⟨other, spelled, hreference, hspelled⟩ := hbegins
  exact ⟨other, spelled, hreference,
    hspelled.trans (List.prefix_append ..)⟩

theorem FirstReference.begins
    (h : FirstReference text before name written behind) :
    Begins (written ++ behind) :=
  ⟨name, written, h.reference, List.prefix_append ..⟩

theorem FirstReference.holds
    (h : FirstReference text before name written behind) :
    HoldsReference text :=
  holdsReference_iff.2 ⟨written ++ behind, ⟨before, h.text.symm⟩, h.begins⟩

/-- Of two leftmost references none is further left. -/
theorem FirstReference.before_eq
    (h : FirstReference text before name written behind)
    (h' : FirstReference text before' name' written' behind') :
    before = before' := by
  rcases List.append_eq_append_iff.1 (h.text.symm.trans h'.text) with
    ⟨rest, hbefore, hbehind⟩ | ⟨rest, hbefore, hbehind⟩
  · cases rest with
    | nil => rw [hbefore, List.append_nil]
    | cons c rest =>
        exact absurd (hbehind ▸ h.begins)
          (h'.first before _ hbefore (List.cons_ne_nil c rest))
  · cases rest with
    | nil => rw [hbefore, List.append_nil]
    | cons c rest =>
        exact absurd (hbehind ▸ h'.begins)
          (h.first before' _ hbefore (List.cons_ne_nil c rest))

/-- So there is one leftmost reference at most. -/
theorem FirstReference.unique
    (h : FirstReference text before name written behind)
    (h' : FirstReference text before' name' written' behind') :
    before = before' ∧ name = name' ∧ written = written' ∧
      behind = behind' := by
  have hbefore := h.before_eq h'
  subst hbefore
  have hrest : written ++ behind = written' ++ behind' :=
    List.append_cancel_left (h.text.symm.trans h'.text)
  have htake : takeReference (written ++ behind)
      = some (name, written, behind) :=
    takeReference_eq_some_iff.2 ⟨h.reference, rfl⟩
  rw [takeReference_eq_some_iff.2 ⟨h'.reference, hrest⟩] at htake
  cases htake
  exact ⟨rfl, rfl, rfl, rfl⟩

/-- A text has one segmentation at most. -/
theorem Segmented.unique (h : Segmented text parts)
    (h' : Segmented text parts') : parts' = parts := by
  induction h generalizing parts' with
  | plain hnone =>
      cases h' with
      | plain _ => rfl
      | reference hfirst _ => exact absurd hfirst.holds hnone
  | reference hfirst _ ih =>
      cases h' with
      | plain hnone => exact absurd hfirst.holds hnone
      | reference hfirst' hbehind' =>
          obtain ⟨rfl, rfl, rfl, rfl⟩ := hfirst.unique hfirst'
          rw [ih hbehind']

/-- A character at which no reference begins joins the plain segment
behind it. -/
theorem Segmented.cons (h : Segmented text parts)
    (hc : ¬ Begins (c :: text)) :
    ∃ front rest, parts = .plain front :: rest ∧
      Segmented (c :: text) (.plain (c :: front) :: rest) := by
  cases h with
  | plain hnone =>
      refine ⟨text, [], rfl, .plain ?_⟩
      rw [holdsReference_iff] at hnone ⊢
      rintro ⟨rest, hrest, hbegins⟩
      rcases List.suffix_cons_iff.1 hrest with rfl | hrest
      · exact hc hbegins
      · exact hnone ⟨rest, hrest, hbegins⟩
  | @reference _ before name written behind parts hfirst hbehind =>
      refine ⟨before, _, rfl, .reference ⟨?_, hfirst.reference, ?_⟩
        hbehind⟩
      · rw [hfirst.text, List.cons_append]
      · intro front rest hbefore hne
        cases front with
        | nil =>
            obtain rfl : c :: before = rest := hbefore
            rw [List.cons_append, ← hfirst.text]
            exact hc
        | cons d front =>
            exact hfirst.first front rest (List.cons.inj hbefore).2 hne

/-- Every text has a segmentation, and the scan expands it segment by
segment. -/
theorem segmented_pieces (text : List Char) :
    ∃ parts, Segmented text parts ∧ ∀ lookup,
      (pieces text).flatMap (Piece.expand lookup)
        = parts.flatMap (Stretch.value lookup) := by
  induction text using pieces.induct with
  | case1 =>
      refine ⟨[.plain []], .plain ?_, fun lookup => by rw [pieces]; rfl⟩
      rw [holdsReference_iff]
      rintro ⟨rest, hrest, hbegins⟩
      exact hbegins.ne_nil (List.eq_nil_of_suffix_nil hrest)
  | case2 c rest name written behind htake ih =>
      obtain ⟨parts, hparts, hexpand⟩ := ih
      obtain ⟨hreference, htext⟩ := takeReference_eq_some_iff.1 htake
      have hfirst : FirstReference (c :: rest) [] name written behind :=
        ⟨htext, hreference, fun front more hnil hne =>
          absurd (List.append_eq_nil_iff.1 hnil.symm).2 hne⟩
      refine ⟨_, .reference hfirst hparts, fun lookup => ?_⟩
      rw [pieces_of_reference htake, List.flatMap_cons, hexpand]
      rfl
  | case3 c rest htake ih =>
      obtain ⟨parts, hparts, hexpand⟩ := ih
      have hnone : ¬ Begins (c :: rest) := by
        rw [begins_iff, htake]
        rintro ⟨taken, h⟩
        cases h
      obtain ⟨front, others, rfl, hcons⟩ := hparts.cons hnone
      refine ⟨_, hcons, fun lookup => ?_⟩
      have hpieces : pieces (c :: rest) = .plain c :: pieces rest := by
        rw [pieces]
        split
        · next h => rw [htake] at h; cases h
        · rfl
      rw [hpieces, List.flatMap_cons, hexpand]
      rfl

/-- The segments joined are the text. -/
theorem Segmented.joined (h : Segmented text parts) :
    parts.flatMap Stretch.source = text := by
  induction h with
  | plain _ => exact List.append_nil _
  | reference hfirst _ ih =>
      rw [List.flatMap_cons, List.flatMap_cons, ih, hfirst.text]
      rfl

/-- A plain segment holds no reference, and the others are
references. -/
theorem Segmented.sound (h : Segmented text parts) :
    (∀ front, .plain front ∈ parts → ¬ HoldsReference front) ∧
    ∀ name written, .reference name written ∈ parts →
      Reference name written := by
  induction h with
  | plain hnone =>
      constructor
      · intro front hfront
        cases List.mem_singleton.1 hfront
        exact hnone
      · intro name written hmem
        cases List.mem_singleton.1 hmem
  | reference hfirst _ ih =>
      constructor
      · intro front hmem
        rcases List.mem_cons.1 hmem with heq | hmem
        · cases heq
          exact hfirst.plain
        rcases List.mem_cons.1 hmem with heq | hmem
        · cases heq
        · exact ih.1 front hmem
      · intro name written hmem
        rcases List.mem_cons.1 hmem with heq | hmem
        · cases heq
        rcases List.mem_cons.1 hmem with heq | hmem
        · cases heq
          exact hfirst.reference
        · exact ih.2 name written hmem

/-- If no name in a segmentation is known, nothing is replaced. -/
theorem value_unknown {lookup : Lookup}
    (h : ∀ name written, .reference name written ∈ parts →
      lookup (String.ofList name) = none) :
    parts.flatMap (Stretch.value lookup)
      = parts.flatMap Stretch.source := by
  have hsame : ∀ part ∈ parts, part.value lookup = part.source := by
    intro part hpart
    cases part with
    | plain text => rfl
    | reference name written =>
        rw [Stretch.value, h name written hpart]
        rfl
  rw [List.flatMap_def, List.flatMap_def, List.map_congr_left hsame]

-- ======================================================= the theorem

/-- Every text has one segmentation at its references, which no lookup
takes part in: plain segments that hold no reference, and references of
one of the two forms, each the leftmost behind the one before.  For
every lookup the expansion is the plain segments, the values as they are
and the unknown references as they are written, in the order of the
text.  So a text is left as it is by a lookup that knows no name, and
one without references by every lookup. -/
theorem expandRefs_segments (text : String) :
    (∃ parts, Segmented text.toList parts ∧
      (∀ others, Segmented text.toList others → others = parts) ∧
      parts.flatMap Stretch.source = text.toList ∧
      (∀ front, .plain front ∈ parts → ¬ HoldsReference front) ∧
      (∀ name written, .reference name written ∈ parts →
        Reference name written) ∧
      ∀ lookup, (expandRefs lookup text).toList
        = parts.flatMap (Stretch.value lookup)) ∧
    (∀ lookup, (∀ name, lookup name = none) →
      expandRefs lookup text = text) ∧
    (¬ HoldsReference text.toList →
      ∀ lookup, expandRefs lookup text = text) := by
  obtain ⟨parts, hparts, hexpand⟩ := segmented_pieces text.toList
  have htext : ∀ lookup, (expandRefs lookup text).toList
      = parts.flatMap (Stretch.value lookup) := by
    intro lookup
    rw [expandRefs, String.toList_ofList, hexpand]
  refine ⟨⟨parts, hparts, fun _ => hparts.unique, hparts.joined,
    hparts.sound.1, hparts.sound.2, htext⟩, ?_, ?_⟩
  · intro lookup hnone
    rw [← String.toList_inj, htext, value_unknown fun _ _ _ => hnone _,
      hparts.joined]
  · intro hplain lookup
    rw [← String.toList_inj, htext, ← hparts.unique (.plain hplain)]
    exact List.append_nil _

-- The reference further left is taken, and its value is not looked at.
example : expandRefs (fun name => if name = "A" then some "%B%" else none)
    "%A%B%" = "%B%B%" := by cbv

end RemoteProvision.Local
