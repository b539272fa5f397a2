/-
Credentials between quotes.

The wrapper hands the user and the password to the task scheduler as two
literals between single quotes.  PowerShell takes five characters for a
single quote: the apostrophe and four typographic ones.  A literal ends
at the first of them that is not followed by another, and two of them
side by side stand for the second (`readLiteral`).

The wrapper doubles apostrophes only.  So a credential is read back if
it holds no typographic quote, and only then: such a quote ends the
literal, or swallows the character behind it
(`credentials_read_iff`).  The second half is a count.  Every literal
holds its quotes in pairs, of which one character each is left, and one
closing quote; but doubling apostrophes makes pairs of apostrophes
alone, so the count comes out only if there are no other quotes.
-/
import RemoteProvision.Proofs.Command.Wrapper

namespace RemoteProvision.Command

-- ============================================================ reading

/-- The typographic single quotes. -/
def isTypographic (c : Char) : Bool :=
  c == '\u2018' || c == '\u2019' || c == '\u201a' || c == '\u201b'

/-- What PowerShell takes for a single quote. -/
def isSingleQuote (c : Char) : Bool :=
  c == '\x27' || isTypographic c

/-- Reads a literal behind its opening quote: its value, and the text
behind its closing quote. -/
def readLiteral : List Char → Option (List Char × List Char)
  | [] => none
  | c :: rest =>
    if isSingleQuote c then
      match rest with
      | [] => some ([], [])
      | d :: rest' =>
        if isSingleQuote d then
          (readLiteral rest').map fun p => (d :: p.1, p.2)
        else some ([], d :: rest')
    else (readLiteral rest).map fun p => (c :: p.1, p.2)

/-- Reads two literals with a comma and a space between them, behind the
opening quote of the first. -/
def readCredentials (text : List Char) :
    Option (List Char × List Char × List Char) :=
  match readLiteral text with
  | some (user, ',' :: ' ' :: quote :: rest) =>
    if isSingleQuote quote then
      (readLiteral rest).map fun p => (user, p.1, p.2)
    else none
  | _ => none

-- ========================================================= the literal

/-- A text with its apostrophes doubled. -/
def doubled (value : List Char) : List Char :=
  value.flatMap fun c => if c = '\x27' then ['\x27', '\x27'] else [c]

theorem doubled_apostrophe (value : List Char) :
    doubled ('\x27' :: value) = '\x27' :: '\x27' :: doubled value :=
  rfl

theorem doubled_cons {c : Char} (hc : c ≠ '\x27') (value : List Char) :
    doubled (c :: value) = c :: doubled value := by
  rw [doubled, List.flatMap_cons, if_neg hc]
  rfl

theorem toList_quoteSingle (value : String) :
    (quoteSingle value).toList = doubled value.toList :=
  String.toList_ofList

/-- A character that is no quote stands for itself. -/
theorem readLiteral_plain {c : Char} (hc : isSingleQuote c = false)
    (rest : List Char) :
    readLiteral (c :: rest)
      = (readLiteral rest).map fun p => (c :: p.1, p.2) := by
  rw [readLiteral.eq_def]
  simp only [hc, Bool.false_eq_true, if_false]

/-- Two quotes side by side stand for the second. -/
theorem readLiteral_pair {c d : Char} (hc : isSingleQuote c = true)
    (hd : isSingleQuote d = true) (rest : List Char) :
    readLiteral (c :: d :: rest)
      = (readLiteral rest).map fun p => (d :: p.1, p.2) := by
  rw [readLiteral.eq_def]
  simp only [hc, hd, if_true]

/-- A quote with another character behind it ends the literal. -/
theorem readLiteral_close {c d : Char} (hc : isSingleQuote c = true)
    (hd : isSingleQuote d = false) (rest : List Char) :
    readLiteral (c :: d :: rest) = some ([], d :: rest) := by
  rw [readLiteral.eq_def]
  simp only [hc, hd, if_true, Bool.false_eq_true, if_false]

/-- Without typographic quotes a literal is read back. -/
theorem readLiteral_doubled {value : List Char} {c : Char}
    {rest : List Char} (hvalue : ∀ c ∈ value, isTypographic c = false)
    (hc : isSingleQuote c = false) :
    readLiteral (doubled value ++ '\x27' :: c :: rest)
      = some (value, c :: rest) := by
  have hquote : isSingleQuote '\x27' = true := by decide
  induction value with
  | nil => exact readLiteral_close hquote hc rest
  | cons d value ih =>
      obtain ⟨hd, hrest⟩ := List.forall_mem_cons.1 hvalue
      by_cases hdouble : d = '\x27'
      · subst hdouble
        rw [doubled_apostrophe, List.cons_append, List.cons_append,
          readLiteral_pair hquote hquote, ih hrest]
        rfl
      · have hplain : isSingleQuote d = false := by
          rw [isSingleQuote, hd, Bool.or_false, beq_eq_false_iff_ne]
          exact hdouble
        rw [doubled_cons hdouble, List.cons_append,
          readLiteral_plain hplain, ih hrest]
        rfl

-- Two quotes of different kinds stand for the second.
example : readLiteral ['a', '\u2019', '\x27', 'b', '\x27']
    = some (['a', '\x27', 'b'], []) := by decide

-- ============================================================ counting

/-- How many quotes a text holds. -/
def quotes (text : List Char) : Nat := text.countP isSingleQuote

theorem quotes_append (a b : List Char) :
    quotes (a ++ b) = quotes a + quotes b :=
  List.countP_append

theorem quotes_cons (c : Char) (text : List Char) :
    quotes (c :: text) = quotes text + if isSingleQuote c then 1 else 0 :=
  List.countP_cons

/-- A literal that is read has its quotes in pairs, and one behind
them. -/
theorem readLiteral_counts {text value rest : List Char}
    (h : readLiteral text = some (value, rest)) :
    ∃ pairs, text.length = value.length + pairs + 1 + rest.length ∧
      quotes text = 2 * pairs + 1 + quotes rest := by
  fun_induction readLiteral text generalizing value rest with
  | case1 => cases h
  | case2 c hc =>
      cases h
      exact ⟨0, rfl, by rw [quotes_cons, if_pos hc]; rfl⟩
  | case3 c hc d rest' hd ih =>
      obtain ⟨p, hp, hread⟩ := Option.map_eq_some_iff.1 h
      cases hread
      obtain ⟨pairs, hlength, hquotes⟩ := ih hp
      refine ⟨pairs + 1, ?_, ?_⟩
      · simp only [List.length_cons, hlength]
        omega
      · rw [quotes_cons, if_pos hc, quotes_cons, if_pos hd, hquotes]
        omega
  | case4 c hc d rest' hd =>
      cases h
      refine ⟨0, ?_, ?_⟩
      · simp only [List.length_cons, List.length_nil]
        omega
      · rw [quotes_cons, if_pos hc]
        omega
  | case5 c rest' hc ih =>
      obtain ⟨p, hp, hread⟩ := Option.map_eq_some_iff.1 h
      cases hread
      obtain ⟨pairs, hlength, hquotes⟩ := ih hp
      refine ⟨pairs, ?_, ?_⟩
      · simp only [List.length_cons, hlength]
        omega
      · rw [quotes_cons, if_neg hc, hquotes]
        omega

/-- Doubling adds an apostrophe for each, and the typographic quotes
stay as they are. -/
theorem doubled_counts (value : List Char) :
    ∃ apostrophes,
      (doubled value).length = value.length + apostrophes ∧
      quotes (doubled value)
        = 2 * apostrophes + value.countP isTypographic := by
  have hquote : isSingleQuote '\x27' = true := by decide
  have hapostrophe : isTypographic '\x27' = false := by decide
  induction value with
  | nil => exact ⟨0, rfl, rfl⟩
  | cons c value ih =>
      obtain ⟨apostrophes, hlength, hquotes⟩ := ih
      by_cases hc : c = '\x27'
      · subst hc
        rw [doubled_apostrophe]
        refine ⟨apostrophes + 1, ?_, ?_⟩
        · simp only [List.length_cons, hlength]
          omega
        · simp only [quotes_cons, hquotes, List.countP_cons, hquote,
            hapostrophe, if_true, Bool.false_eq_true, if_false]
          omega
      · have hsame : isSingleQuote c = isTypographic c := by
          rw [isSingleQuote, beq_eq_false_iff_ne.2 hc, Bool.false_or]
        rw [doubled_cons hc]
        refine ⟨apostrophes, ?_, ?_⟩
        · simp only [List.length_cons, hlength]
          omega
        · rw [quotes_cons, hquotes, List.countP_cons, hsame, Nat.add_assoc]

/-- Two literals that are read to the right place hold no typographic
quotes. -/
theorem noTypographic_of_read {user password rest : List Char}
    (h : readCredentials (doubled user ++ '\x27' :: ',' :: ' ' :: '\x27'
        :: (doubled password ++ '\x27' :: rest))
      = some (user, password, rest)) :
    ∀ c ∈ user ++ password, isTypographic c = false := by
  unfold readCredentials at h
  split at h
  · next value quote behind hfirst =>
      split at h
      · next hquote =>
          obtain ⟨p, hsecond, hread⟩ := Option.map_eq_some_iff.1 h
          cases hread
          obtain ⟨n, hlength, hquotes⟩ := readLiteral_counts hfirst
          obtain ⟨m, hlength', hquotes'⟩ := readLiteral_counts hsecond
          obtain ⟨i, hi, hi'⟩ := doubled_counts user
          obtain ⟨j, hj, hj'⟩ := doubled_counts p.1
          have hapostrophe : isSingleQuote '\x27' = true := by decide
          have hcomma : isSingleQuote ',' = false := by decide
          have hspace : isSingleQuote ' ' = false := by decide
          simp only [List.length_append, List.length_cons, hi, hj,
            hlength'] at hlength
          simp only [quotes_append, quotes_cons, hi', hj', hquotes',
            hapostrophe, hcomma, hspace, hquote, if_true,
            Bool.false_eq_true, if_false] at hquotes
          have hnone : (user ++ p.1).countP isTypographic = 0 := by
            rw [List.countP_append]
            omega
          intro c hc
          exact eq_false_of_ne_true (List.countP_eq_zero.1 hnone c hc)
      · cases h
  · cases h

-- ========================================================== the script

/-- The line that registers the task, up to the first credential. -/
def registerStart : String := "$f.RegisterTaskDefinition($name, $t, 6, '"

/-- The line that registers the task, behind the credentials. -/
def registerEnd : String := ", 1, $null) | Out-Null\n"

/-- The credentials of a task, from behind the opening quote of the
first to the closing quote of the second. -/
def ElevatedTask.credentialText (task : ElevatedTask) : String :=
  quoteSingle task.user ++ "', '" ++ quoteSingle task.password ++ "'"

/-- The line is in the pieces around the credentials. -/
private theorem register_pieces :
    registerStart.toList <:+ wrapperRegister.toList ∧
    '\x27' :: registerEnd.toList <+: wrapperTail.toList := by
  rw [wrapperRegister, wrapperTail, String.toList_intercalate,
    String.toList_intercalate, registerStart, registerEnd]
  simp only [List.map, String.toList_append]
  repeat rw [String.toList_ofList]
  decide +kernel

/-- The script registers the task with its credentials. -/
theorem wrapper_registers (task : ElevatedTask) :
    ∃ before after : String,
      task.wrapper = .ok (before ++ registerStart ++ task.credentialText
        ++ registerEnd ++ after) := by
  obtain ⟨⟨start, hstart⟩, more, hmore⟩ := register_pieces
  have hregister : wrapperRegister = String.ofList start ++ registerStart := by
    rw [← String.toList_inj, String.toList_append, String.toList_ofList,
      hstart]
  have htail : wrapperTail = "'" ++ registerEnd ++ String.ofList more := by
    rw [← String.toList_inj, String.toList_append, String.toList_append,
      String.toList_ofList, String.toList_ofList, ← hmore]
    rfl
  refine ⟨wrapperHead ++ task.name ++ wrapperTask
    ++ escapeXml task.description ++ wrapperSettings
    ++ task.encodedCommand ++ wrapperLog ++ task.name
    ++ String.ofList start, String.ofList more, ?_⟩
  rw [ElevatedTask.wrapper_eq, ElevatedTask.script, hregister, htail,
    ElevatedTask.credentialText, wrapperPair]
  simp only [String.append_assoc]

/-- The two credentials in the line that registers the task are read
back, and the rest of the line stands behind them, if and only if
neither holds a typographic quote. -/
theorem credentials_read_iff (task : ElevatedTask) :
    ∃ before after : String,
      task.wrapper = .ok (before ++ registerStart ++ task.credentialText
        ++ registerEnd ++ after) ∧
      (readCredentials
          (task.credentialText ++ registerEnd ++ after).toList
          = some (task.user.toList, task.password.toList,
              (registerEnd ++ after).toList)
        ↔ ∀ c ∈ task.user.toList ++ task.password.toList,
            isTypographic c = false) := by
  obtain ⟨before, after, hwrapper⟩ := wrapper_registers task
  refine ⟨before, after, hwrapper, ?_⟩
  have hpair : "', '".toList = ['\x27', ',', ' ', '\x27'] := by decide
  have hclose : "'".toList = ['\x27'] := by decide
  have hend : registerEnd.toList
      = ',' :: " 1, $null) | Out-Null\n".toList := by
    rw [registerEnd, String.toList_ofList, String.toList_ofList]
  have htext : (task.credentialText ++ registerEnd ++ after).toList
      = doubled task.user.toList ++ '\x27' :: ',' :: ' ' :: '\x27'
        :: (doubled task.password.toList
          ++ '\x27' :: (registerEnd ++ after).toList) := by
    simp only [ElevatedTask.credentialText, String.toList_append,
      toList_quoteSingle, hpair, hclose, List.append_assoc,
      List.cons_append, List.nil_append]
  rw [htext]
  refine ⟨noTypographic_of_read, fun h => ?_⟩
  obtain ⟨huser, hpassword⟩ := List.forall_mem_append.1 h
  have hcomma : isSingleQuote ',' = false := by decide
  rw [String.toList_append, hend, List.cons_append]
  unfold readCredentials
  rw [readLiteral_doubled huser hcomma]
  show (readLiteral _).map _ = _
  rw [readLiteral_doubled hpassword hcomma]
  rfl

/-- A user whose name holds a typographic apostrophe. -/
def curlyTask : ElevatedTask where
  user := "o\u2019brien"
  password := "secret"
  description := taskDescription
  name := "psprov-1"
  encodedCommand := "AAAA"

/-- The apostrophe ends the literal. -/
theorem curly_ends_literal :
    ¬ ∀ before after : String,
      curlyTask.wrapper = .ok (before ++ registerStart
        ++ curlyTask.credentialText ++ registerEnd ++ after) →
      readCredentials
          (curlyTask.credentialText ++ registerEnd ++ after).toList
        = some (curlyTask.user.toList, curlyTask.password.toList,
            (registerEnd ++ after).toList) := by
  intro h
  obtain ⟨before, after, hwrapper⟩ := wrapper_registers curlyTask
  have hread := h before after hwrapper
  have huser : doubled curlyTask.user.toList
      = ['o', '\u2019', 'b', 'r', 'i', 'e', 'n'] := by
    rw [curlyTask, String.toList_ofList]
    decide
  have hplain : isSingleQuote 'o' = false := by decide
  have hquote : isSingleQuote '\u2019' = true := by decide
  have hnext : isSingleQuote 'b' = false := by decide
  simp only [ElevatedTask.credentialText, String.toList_append,
    toList_quoteSingle, huser, List.append_assoc, List.cons_append,
    List.nil_append] at hread
  rw [readCredentials, readLiteral_plain hplain,
    readLiteral_close hquote hnext] at hread
  change none = some _ at hread
  cases hread

end RemoteProvision.Command
