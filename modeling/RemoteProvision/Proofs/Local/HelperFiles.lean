/-
The two names of a helper file.

A helper file is uploaded under one name and run under the other, and the
two go different ways to the disk.  The name for uploads is expanded as
it is.  The name on the command line stands between double quotes, where
a backslash may be dropped; the line is split into words, and each word is
expanded then.

Both names begin with a reference to the same variable.  A reference at
the front of a text is taken whole (`pieces_percent`, `pieces_dollar`),
so the expansions begin with the value, whatever it holds, and go on with
the same rest.  The backslash behind it is kept between the quotes, since
no file name begins with a character that it would hide
(`splitWords_fileLine`).  So what is run is the file that was uploaded
(`inTemp_agrees`).
-/
import RemoteProvision.Command.Lines
import RemoteProvision.Proofs.Local.Words

namespace RemoteProvision.Local

open RemoteProvision.Command

variable {c close : Char} {name rest text : List Char}

-- ========================================================== references

/-- A name of a variable. -/
def IsName (name : List Char) : Prop :=
  (∃ c ∈ name.head?, isNameStart c = true) ∧
    ∀ c ∈ name, isNameChar c = true

/-- A name is taken up to the character that closes it. -/
theorem takeName_of_isName (h : IsName name)
    (hclose : isNameChar close = false) :
    takeName close (name ++ close :: rest) = some (name, rest) := by
  obtain ⟨⟨c, hc, hstart⟩, hchars⟩ := h
  have hname : (name ++ close :: rest).takeWhile isNameChar = name := by
    rw [List.takeWhile_append_of_pos hchars, List.takeWhile_cons, hclose]
    exact List.append_nil name
  have hbehind : (name ++ close :: rest).dropWhile isNameChar
      = close :: rest := by
    rw [List.dropWhile_append_of_pos hchars, List.dropWhile_cons, hclose]
    rfl
  unfold takeName
  dsimp only
  rw [hname, hbehind, Option.mem_def.1 hc]
  dsimp only
  rw [hstart, beq_self_eq_true, Bool.and_self, if_pos rfl]

/-- A reference in front is one piece. -/
theorem pieces_of_reference {written : List Char}
    (h : takeReference (c :: text) = some (name, written, rest)) :
    pieces (c :: text) = .reference name written :: pieces rest := by
  rw [pieces]
  split
  · next htake =>
    rw [h] at htake
    cases htake
    rfl
  · next htake =>
    rw [h] at htake
    cases htake

theorem pieces_percent (h : IsName name) (rest : List Char) :
    pieces ('%' :: (name ++ '%' :: rest))
      = .reference name ('%' :: (name ++ ['%'])) :: pieces rest := by
  have hclose : isNameChar '%' = false := by decide
  refine pieces_of_reference ?_
  show (takeName '%' (name ++ '%' :: rest)).map _ = _
  rw [takeName_of_isName h hclose]
  rfl

theorem pieces_dollar (h : IsName name) (rest : List Char) :
    pieces ('$' :: '\x7b' :: 'e' :: 'n' :: 'v' :: ':' ::
        (name ++ '\x7d' :: rest))
      = .reference name
          (['$', '\x7b', 'e', 'n', 'v', ':'] ++ name ++ ['\x7d'])
        :: pieces rest := by
  have hclose : isNameChar '\x7d' = false := by decide
  refine pieces_of_reference ?_
  show (takeName '\x7d' (name ++ '\x7d' :: rest)).map _ = _
  rw [takeName_of_isName h hclose]
  rfl

-- =========================================================== expansion

variable {lookup : Lookup} {value fileName : String}

/-- The value of a variable, however the reference is written. -/
theorem expand_known {key : String} {written : List Char}
    (h : lookup key = some value) :
    Piece.expand lookup (.reference key.toList written)
      = value.toList := by
  rw [Piece.expand, String.ofList_toList, h]

/-- The variable of the helper files. -/
theorem isName_temp : IsName "TEMP".toList := by
  refine ⟨⟨'T', by decide, by decide⟩, ?_⟩
  exact List.all_eq_true.1 (by decide)

/-- A text that begins with a reference to the variable and a
backslash. -/
theorem expandRefs_below {written : List Char} {text : String}
    (hpieces : pieces text.toList
      = .reference "TEMP".toList written
        :: pieces ('\x5c' :: fileName.toList))
    (htemp : lookup "TEMP" = some value) :
    expandRefs lookup text
      = value ++ "\\" ++ expandRefs lookup fileName := by
  have hslash : "\\".toList = ['\x5c'] := by decide
  have hplain : pieces ('\x5c' :: fileName.toList)
      = .plain '\x5c' :: pieces fileName.toList :=
    pieces_cons_plain (by decide) (by decide) _
  rw [← String.toList_inj, String.toList_append, String.toList_append,
    hslash, expandRefs, expandRefs, String.toList_ofList,
    String.toList_ofList, hpieces, hplain, List.flatMap_cons,
    List.flatMap_cons, expand_known htemp, List.append_assoc]
  rfl

/-- Both names of a helper file are expanded to the value of the
variable, a backslash and what the file name is expanded to. -/
theorem expandRefs_inTemp (htemp : lookup "TEMP" = some value)
    (fileName : String) :
    expandRefs lookup (RemoteFile.inTemp fileName).uploadPath
        = value ++ "\\" ++ expandRefs lookup fileName ∧
    expandRefs lookup (RemoteFile.inTemp fileName).shellPath
        = value ++ "\\" ++ expandRefs lookup fileName := by
  have hupload : (RemoteFile.inTemp fileName).uploadPath.toList
      = '$' :: '\x7b' :: 'e' :: 'n' :: 'v' :: ':' ::
        ("TEMP".toList ++ '\x7d' :: '\x5c' :: fileName.toList) := by
    have hstart : "$\x7benv:TEMP\x7d\\".toList
        = '$' :: '\x7b' :: 'e' :: 'n' :: 'v' :: ':' ::
          ("TEMP".toList ++ ['\x7d', '\x5c']) := by decide
    unfold RemoteFile.inTemp
    rw [String.toList_append, hstart]
    rfl
  have hshell : (RemoteFile.inTemp fileName).shellPath.toList
      = '%' :: ("TEMP".toList ++ '%' :: '\x5c' :: fileName.toList) := by
    have hstart : "%TEMP%\\".toList
        = '%' :: ("TEMP".toList ++ ['%', '\x5c']) := by decide
    unfold RemoteFile.inTemp
    rw [String.toList_append, hstart]
    rfl
  have hdollar :=
    pieces_dollar isName_temp ('\x5c' :: fileName.toList)
  have hpercent :=
    pieces_percent isName_temp ('\x5c' :: fileName.toList)
  rw [← hupload] at hdollar
  rw [← hshell] at hpercent
  exact ⟨expandRefs_below hdollar htemp, expandRefs_below hpercent htemp⟩

-- ========================================================= quoted words

/-- A character that double quotes keep and that does not end them. -/
def IsQuoted (c : Char) : Prop :=
  c ≠ '\x22' ∧ c ≠ '\x5c'

theorem scanWords_doubleQuoted (h : IsQuoted c) (rest : List Char) :
    scanWords .doubleQuoted (c :: rest)
      = (scanWords .doubleQuoted rest).map (Scanned.push c) := by
  rw [scanWords, if_neg h.1, if_neg h.2]

/-- Such characters are in the word they stand in. -/
theorem scanWords_doubleQuoted_append (h : ∀ c ∈ text, IsQuoted c)
    {s : Scanned} (hrest : scanWords .doubleQuoted rest = some s) :
    scanWords .doubleQuoted (text ++ rest) = some (text ++ s.1, s.2) := by
  induction text with
  | nil => exact hrest
  | cons c text ih =>
      obtain ⟨hc, htext⟩ := List.forall_mem_cons.1 h
      rw [List.cons_append, scanWords_doubleQuoted hc, ih htext]
      rfl

/-- A backslash stays before a character that it does not hide. -/
theorem scanWords_backslash (hline : c ≠ '\n')
    (hkept : isKeptInDouble c = false) (rest : List Char) :
    scanWords .doubleQuoted ('\x5c' :: c :: rest)
      = (scanWords .doubleQuoted rest).map fun s =>
          (s.push c).push '\x5c' := by
  have hescape : scanWords .doubleQuoted ('\x5c' :: c :: rest)
      = scanWords .doubleEscaped (c :: rest) := by
    rw [scanWords, if_neg (by decide), if_pos rfl]
  rw [hescape, scanWords, if_neg hline, hkept, if_neg Bool.false_ne_true]

/-- Plain words, each with a space behind it, in front of what can be
split. -/
theorem scanWords_words {words behind : List (List Char)}
    (h : ∀ word ∈ words, PlainWord word)
    (hrest : scanWords .between rest = some ([], behind)) :
    scanWords .between (words.flatMap (· ++ [' ']) ++ rest)
      = some ([], words ++ behind) := by
  induction words with
  | nil => exact hrest
  | cons word words ih =>
      obtain ⟨hword, hwords⟩ := List.forall_mem_cons.1 h
      have hspace : scanWords .bare
          (' ' :: (words.flatMap (· ++ [' ']) ++ rest))
            = some ([], words ++ behind) := by
        rw [scanWords]
        exact ih hwords
      rw [List.flatMap_cons, List.append_assoc, List.append_assoc]
      exact scanWords_word hword hspace

/-- A word between double quotes at the end of a line. -/
theorem scanWords_quoted
    (h : scanWords .doubleQuoted (text ++ ['\x22']) = some (text, [])) :
    scanWords .between ('\x22' :: (text ++ ['\x22']))
      = some ([], [text]) := by
  rw [scanWords, if_neg (by decide), if_pos rfl, h]
  rfl

-- =========================================================== file names

/-- ASCII letters, digits, hyphens, underscores and points. -/
def isFileChar (c : Char) : Bool :=
  c.isAlphanum || c == '-' || c == '_' || c == '.'

/-- A file name of such characters. -/
def IsFileName (name : String) : Prop :=
  name ≠ "" ∧ ∀ c ∈ name.toList, isFileChar c = true

/-- What a character of a file name is not. -/
structure FileChar (c : Char) : Prop where
  quoted : IsQuoted c
  line : c ≠ '\n'
  kept : isKeptInDouble c = false
  dollar : c ≠ '$'
  percent : c ≠ '%'

theorem FileChar.of_isFileChar (h : isFileChar c = true) :
    FileChar c := by
  have hne : ∀ x, isFileChar x = false → c ≠ x := by
    rintro x hx rfl
    rw [h] at hx
    cases hx
  have hdollar := hne '$' (by decide)
  have hquote := hne '\x22' (by decide)
  have hescape := hne '\x5c' (by decide)
  have hback := hne '\x60' (by decide)
  refine ⟨⟨hquote, hescape⟩, hne '\n' (by decide), ?_, hdollar,
    hne '%' (by decide)⟩
  simp only [isKeptInDouble, beq_eq_false_iff_ne.2 hdollar,
    beq_eq_false_iff_ne.2 hback, beq_eq_false_iff_ne.2 hquote,
    beq_eq_false_iff_ne.2 hescape, Bool.or_self]

/-- Between double quotes the name of a helper file stays as it is. -/
theorem scanWords_shellPath (h : IsFileName fileName) :
    let path := (RemoteFile.inTemp fileName).shellPath.toList
    scanWords .doubleQuoted (path ++ ['\x22']) = some (path, []) := by
  obtain ⟨hne, hchars⟩ := h
  have hpath : (RemoteFile.inTemp fileName).shellPath.toList
      = "%TEMP%".toList ++ '\x5c' :: fileName.toList := by
    have hstart : "%TEMP%\\".toList = "%TEMP%".toList ++ ['\x5c'] := by
      decide
    unfold RemoteFile.inTemp
    rw [String.toList_append, hstart, List.append_assoc]
    rfl
  have hquote : '\x22' ∉ "%TEMP%".toList := by decide
  have hslash : '\x5c' ∉ "%TEMP%".toList := by decide
  have hreference : ∀ c ∈ "%TEMP%".toList, IsQuoted c := fun c hc =>
    ⟨fun h => hquote (h ▸ hc), fun h => hslash (h ▸ hc)⟩
  have hend : scanWords .doubleQuoted ['\x22'] = some ([], []) := by
    decide
  dsimp only
  rw [hpath, List.append_assoc]
  cases hname : fileName.toList with
  | nil => exact absurd (String.toList_inj.1 hname) hne
  | cons first others =>
      rw [hname] at hchars
      obtain ⟨hfirst, hothers⟩ := List.forall_mem_cons.1 hchars
      have hfirst := FileChar.of_isFileChar hfirst
      have hscan := scanWords_doubleQuoted_append
        (fun c hc => (FileChar.of_isFileChar (hothers c hc)).quoted) hend
      have hbehind : scanWords .doubleQuoted
          ('\x5c' :: first :: others ++ ['\x22'])
            = some ('\x5c' :: first :: others, []) := by
        rw [List.cons_append, List.cons_append,
          scanWords_backslash hfirst.line hfirst.kept, hscan,
          List.append_nil]
        rfl
      exact scanWords_doubleQuoted_append hreference hbehind

/-- The words in front of the file. -/
def fileStart : List String :=
  ["powershell", "-executionpolicy", "bypass", "-file"]

/-- The line that runs a helper file is five words, and the last of them
is its path. -/
theorem splitWords_fileLine (h : IsFileName fileName) :
    splitWords (fileLine (RemoteFile.inTemp fileName).shellPath)
      = some (fileStart ++ [(RemoteFile.inTemp fileName).shellPath]) := by
  have hscan := scanWords_shellPath h
  dsimp only at hscan
  generalize (RemoteFile.inTemp fileName).shellPath = path at hscan ⊢
  have hline : (fileLine path).toList
      = (fileStart.map String.toList).flatMap (· ++ [' '])
        ++ '\x22' :: (path.toList ++ ['\x22']) := by
    have hstart : "powershell -executionpolicy bypass -file \"".toList
        = (fileStart.map String.toList).flatMap (· ++ [' ']) ++ ['\x22'] := by
      decide +kernel
    have hquote : "\"".toList = ['\x22'] := by decide
    unfold fileLine
    simp only [String.toList_append, hstart, hquote, List.append_assoc,
      List.cons_append, List.nil_append]
  have hplain : ∀ word ∈ fileStart.map String.toList, PlainWord word := by
    have hwords : ((fileStart.map String.toList).all fun word =>
        !word.isEmpty && word.all isPlain) = true := by
      decide +kernel
    intro word hword
    have hword := List.all_eq_true.1 hwords word hword
    rw [Bool.and_eq_true, Bool.not_eq_true', List.all_eq_true] at hword
    exact ⟨List.isEmpty_eq_false_iff.1 hword.1, hword.2⟩
  rw [splitWords, hline, scanWords_words hplain (scanWords_quoted hscan)]
  show some ((fileStart.map String.toList ++ [path.toList]).map
    String.ofList) = _
  have hid : String.ofList ∘ String.toList = id :=
    funext fun _ => String.ofList_toList
  rw [List.map_append, List.map_map, hid, List.map_id, List.map_singleton,
    String.ofList_toList]

-- ========================================================= the theorem

/-- A file name has no references. -/
theorem expandRefs_fileName (h : IsFileName fileName) (lookup : Lookup) :
    expandRefs lookup fileName = fileName := by
  refine expandRefs_plain (fun c hc => ?_) lookup
  have hchar := FileChar.of_isFileChar (h.2 c hc)
  exact ⟨hchar.dollar, hchar.percent⟩

/-- Nor have the words in front of the file. -/
theorem expandRefs_fileStart (lookup : Lookup) :
    fileStart.map (expandRefs lookup) = fileStart := by
  have hwords : (fileStart.all fun word =>
      word.toList.all fun c => c != '$' && c != '%') = true := by
    decide +kernel
  rw [List.map_congr_left (g := id) fun word hword => ?_, List.map_id]
  have hword := List.all_eq_true.1 hwords word hword
  refine expandRefs_plain (fun c hc => ?_) lookup
  simpa using List.all_eq_true.1 hword c hc

/-- The two names of a helper file are expanded to the same path, for any
file name and any value of the variable, and so an upload under one is an
upload under the other.  When the file name has letters, digits, hyphens,
underscores and points only, the line that runs the file is five words,
and a channel starts it with the path that the upload writes to. -/
theorem inTemp_agrees (fileName : String) {lookup : Lookup}
    {value : String} (htemp : lookup "TEMP" = some value) :
    let file := RemoteFile.inTemp fileName
    let line := fileLine file.shellPath
    let target := expandRefs lookup file.uploadPath
    target = expandRefs lookup file.shellPath ∧
    (∀ env, valueIn env = lookup → ∀ system disk source,
      upload env system disk file.uploadPath source
        = upload env system disk file.shellPath source) ∧
    (IsFileName fileName →
      splitWords line
        = some ["powershell", "-executionpolicy", "bypass", "-file",
            file.shellPath] ∧
      expandedWords lookup line
        = some ["powershell", "-executionpolicy", "bypass", "-file",
            target] ∧
      (∀ env, valueIn env = lookup →
        commandWords env line
          = .ok ("powershell",
              ["-executionpolicy", "bypass", "-file", target])) ∧
      target = value ++ "\\" ++ fileName) := by
  obtain ⟨hupload, hshell⟩ := expandRefs_inTemp htemp fileName
  have hsame := hupload.trans hshell.symm
  refine ⟨hsame, ?_, fun hname => ?_⟩
  · rintro env rfl system disk source
    unfold upload
    rw [hsame]
  · have hsplit := splitWords_fileLine hname
    have hwords : expandedWords lookup
        (fileLine (RemoteFile.inTemp fileName).shellPath)
          = some (fileStart
              ++ [expandRefs lookup
                    (RemoteFile.inTemp fileName).uploadPath]) := by
      rw [expandedWords, hsplit, hsame]
      show some ((fileStart ++ [_]).map (expandRefs lookup)) = _
      rw [List.map_append, expandRefs_fileStart, List.map_singleton]
    refine ⟨hsplit, hwords, ?_, ?_⟩
    · rintro env rfl
      exact commandWords_of_expanded hwords
    · rw [hupload, expandRefs_fileName hname]

/-- A variable whose value holds blanks, quotes and references. -/
def hostileLookup : Lookup
  | "TEMP" => some "C:\\my \"temp\"\\%TEMP%\\$\x7benv:TEMP\x7d #"
  | _ => none

/-- The value is put in as it is. -/
theorem hostile_agrees :
    let file := RemoteFile.inTemp "psprov-env-vars-id1.ps1"
    let target := "C:\\my \"temp\"\\%TEMP%\\$\x7benv:TEMP\x7d #"
      ++ "\\" ++ "psprov-env-vars-id1.ps1"
    hostileLookup "TEMP"
      = some "C:\\my \"temp\"\\%TEMP%\\$\x7benv:TEMP\x7d #" ∧
    IsFileName "psprov-env-vars-id1.ps1" ∧
    expandRefs hostileLookup file.uploadPath = target ∧
    expandedWords hostileLookup (fileLine file.shellPath)
      = some ["powershell", "-executionpolicy", "bypass", "-file",
          target] := by
  have htemp : hostileLookup "TEMP"
    = some "C:\\my \"temp\"\\%TEMP%\\$\x7benv:TEMP\x7d #" := rfl
  have hname : IsFileName "psprov-env-vars-id1.ps1" :=
    ⟨by decide, List.all_eq_true.1 (by decide)⟩
  obtain ⟨-, -, hfile⟩ := inTemp_agrees "psprov-env-vars-id1.ps1" htemp
  obtain ⟨-, hwords, -, htarget⟩ := hfile hname
  refine ⟨htemp, hname, htarget, ?_⟩
  rw [← htarget]
  exact hwords

end RemoteProvision.Local
