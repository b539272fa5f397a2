/-
Words that need no quoting.

A word of plain characters is scanned as it stands, up to the space that
ends it or the end of the line.  So plain words with single spaces
between them are split into just these words (`splitWords_join`), and
since a name in a reference needs a `$` or a `%`, a word without these
is not changed by any variable (`expandRefs_plain`).
-/
import RemoteProvision.Local.Channel

namespace RemoteProvision.Local

-- ============================================================ scanning

/-- The characters that mean nothing to the scan, wherever they
stand. -/
def isPlain (c : Char) : Bool :=
  c != '\x27' && c != '\x22' && c != '\x5c' && c != '#'
    && !isSeparator c

/-- A word that needs no quoting. -/
def PlainWord (word : List Char) : Prop :=
  word ≠ [] ∧ ∀ c ∈ word, isPlain c = true

/-- What a plain character is not. -/
structure PlainChar (c : Char) : Prop where
  quote : c ≠ '\x27'
  double : c ≠ '\x22'
  escape : c ≠ '\x5c'
  hash : c ≠ '#'
  separator : isSeparator c = false

theorem PlainChar.of_isPlain {c : Char} (h : isPlain c = true) :
    PlainChar c := by
  simp only [isPlain, Bool.and_eq_true, bne_iff_ne, Bool.not_eq_true']
    at h
  exact ⟨h.1.1.1.1, h.1.1.1.2, h.1.1.2, h.1.2, h.2⟩

theorem scanWords_bare {c : Char} (h : PlainChar c) (rest : List Char) :
    scanWords .bare (c :: rest)
      = (scanWords .bare rest).map (Scanned.push c) := by
  rw [scanWords, if_neg h.quote, if_neg h.double, if_neg h.escape,
    h.separator, if_neg Bool.false_ne_true]

theorem scanWords_between {c : Char} (h : PlainChar c)
    (rest : List Char) :
    scanWords .between (c :: rest)
      = (scanWords .bare rest).map fun s => (s.push c).close := by
  rw [scanWords, if_neg h.quote, if_neg h.double, if_neg h.escape,
    h.separator, if_neg Bool.false_ne_true, if_neg h.hash]

/-- Plain characters are in the word they stand in. -/
theorem scanWords_bare_append {word : List Char}
    (h : ∀ c ∈ word, isPlain c = true) {rest : List Char}
    {s : Scanned} (hrest : scanWords .bare rest = some s) :
    scanWords .bare (word ++ rest) = some (word ++ s.1, s.2) := by
  induction word with
  | nil => exact hrest
  | cons c word ih =>
      obtain ⟨hc, hword⟩ := List.forall_mem_cons.1 h
      rw [List.cons_append, scanWords_bare (.of_isPlain hc), ih hword]
      rfl

/-- A plain word in front of what can be scanned. -/
theorem scanWords_word {word rest : List Char} {behind : List (List Char)}
    (h : PlainWord word) (hrest : scanWords .bare rest = some ([], behind)) :
    scanWords .between (word ++ rest) = some ([], word :: behind) := by
  obtain ⟨hne, hplain⟩ := h
  cases word with
  | nil => exact absurd rfl hne
  | cons c word =>
      obtain ⟨hc, hword⟩ := List.forall_mem_cons.1 hplain
      rw [List.cons_append, scanWords_between (.of_isPlain hc),
        scanWords_bare_append hword hrest, List.append_nil]
      rfl

/-- Plain words with single spaces between them. -/
theorem scanWords_join {words : List (List Char)}
    (h : ∀ word ∈ words, PlainWord word) :
    scanWords .between (List.intercalate [' '] words)
      = some ([], words) := by
  induction words with
  | nil => rfl
  | cons word words ih =>
      obtain ⟨hword, hwords⟩ := List.forall_mem_cons.1 h
      cases words with
      | nil =>
          have hlast : scanWords .bare [] = some ([], []) := rfl
          have hscan := scanWords_word hword hlast
          rw [List.append_nil] at hscan
          simpa using hscan
      | cons next words =>
          have hspace : scanWords .bare
              (' ' :: List.intercalate [' '] (next :: words))
                = some ([], next :: words) := by
            rw [scanWords]
            exact ih hwords
          have hscan := scanWords_word hword hspace
          rw [List.intercalate_cons_cons]
          simpa using hscan

/-- A line of plain words is split into these words. -/
theorem splitWords_join {words : List String}
    (h : ∀ word ∈ words, PlainWord word.toList) :
    splitWords (String.intercalate " " words) = some words := by
  have hspace : " ".toList = [' '] := by decide
  have hwords : ∀ word ∈ words.map String.toList, PlainWord word := by
    intro word hmem
    obtain ⟨text, htext, rfl⟩ := List.mem_map.1 hmem
    exact h text htext
  rw [splitWords, String.toList_intercalate, hspace,
    scanWords_join hwords]
  show some ((words.map String.toList).map String.ofList) = _
  have hid : String.ofList ∘ String.toList = id :=
    funext fun _ => String.ofList_toList
  rw [List.map_map, hid, List.map_id]

-- ========================================================== references

/-- No reference begins with another character than `$` or `%`. -/
theorem takeReference_plain {c : Char} (hdollar : c ≠ '$')
    (hpercent : c ≠ '%') (rest : List Char) :
    takeReference (c :: rest) = none := by
  rw [takeReference.eq_def]
  split
  · next h => exact absurd (List.cons.inj h).1 hdollar
  · next h => exact absurd (List.cons.inj h).1 hpercent
  · rfl

/-- So such a character stands for itself. -/
theorem pieces_cons_plain {c : Char} (hdollar : c ≠ '$')
    (hpercent : c ≠ '%') (rest : List Char) :
    pieces (c :: rest) = .plain c :: pieces rest := by
  rw [pieces]
  split
  · next hreference =>
    rw [takeReference_plain hdollar hpercent] at hreference
    cases hreference
  · rfl

/-- A text without `$` and `%` has no references. -/
theorem pieces_plain {cs : List Char}
    (h : ∀ c ∈ cs, c ≠ '$' ∧ c ≠ '%') : pieces cs = cs.map .plain := by
  induction cs with
  | nil => rw [pieces]; rfl
  | cons c cs ih =>
      obtain ⟨⟨hdollar, hpercent⟩, hcs⟩ := List.forall_mem_cons.1 h
      rw [pieces_cons_plain hdollar hpercent, ih hcs]
      rfl

/-- A text without `$` and `%` is left as it is. -/
theorem expandRefs_plain {text : String}
    (h : ∀ c ∈ text.toList, c ≠ '$' ∧ c ≠ '%') (lookup : Lookup) :
    expandRefs lookup text = text := by
  rw [expandRefs, pieces_plain h, List.flatMap_map]
  show String.ofList (text.toList.flatMap fun c => [c]) = text
  rw [List.flatMap_singleton', String.ofList_toList]

-- ============================================================ starting

/-- The words of a command line, with references expanded. -/
def expandedWords (lookup : Lookup) (line : String) :
    Option (List String) :=
  (splitWords line).map (List.map (expandRefs lookup))

/-- A command is started with the expanded words of its line. -/
theorem commandWords_of_expanded {env : Environment}
    {line program : String} {arguments : List String}
    (h : expandedWords (valueIn env) line = some (program :: arguments)) :
    commandWords env line = .ok (program, arguments) := by
  unfold expandedWords at h
  unfold commandWords
  cases hsplit : splitWords line with
  | none => rw [hsplit] at h; cases h
  | some words =>
      rw [hsplit] at h
      cases words with
      | nil => cases h
      | cons first rest => cases h; rfl

end RemoteProvision.Local
