/-
How values stand in the wrapper.

The wrapper script is seven fixed pieces with six values between them
(`wrapper_embeds`).  The pieces are those of the template, so they are
known before any value is; a value is put in behind its piece and never
looked at for braces again.

Two kinds of values are escaped on the way in, and both escapes can be
undone.  A credential has its apostrophes doubled: the stretches between
them stay as they are, and two apostrophes stand where one was.  A
description becomes the text of an XML element.  There every character
that means something is written as an entity, and the ampersand is one of
these characters.  So each ampersand that is left begins an entity, and a
text that looks like an entity already is read back as it was.
-/
import RemoteProvision.Proofs.Command.Credentials

namespace RemoteProvision.Command

open RemoteProvision.Template (cutAtDouble cutAtDouble_eq_none_iff)

-- ========================================================== entities

/-- The entities that XML has from the start, each with the character it
stands for. -/
def entities : List (String × Char) :=
  [("&amp;", '&'), ("&lt;", '<'), ("&gt;", '>'), ("&quot;", '\x22'),
    ("&apos;", '\x27')]

/-- Reads the text of an XML element.  An entity is the character it
stands for; an ampersand that begins none, or an opening bracket, is no
text. -/
def readXml : List Char → Option (List Char)
  | '&' :: 'a' :: 'm' :: 'p' :: ';' :: rest =>
    (readXml rest).map ('&' :: ·)
  | '&' :: 'l' :: 't' :: ';' :: rest => (readXml rest).map ('<' :: ·)
  | '&' :: 'g' :: 't' :: ';' :: rest => (readXml rest).map ('>' :: ·)
  | '&' :: 'q' :: 'u' :: 'o' :: 't' :: ';' :: rest =>
    (readXml rest).map ('\x22' :: ·)
  | '&' :: 'a' :: 'p' :: 'o' :: 's' :: ';' :: rest =>
    (readXml rest).map ('\x27' :: ·)
  | c :: rest =>
    if c = '&' ∨ c = '<' then none else (readXml rest).map (c :: ·)
  | [] => some []

variable {c : Char} {rest : List Char}

/-- The characters that are written as entities. -/
def IsMarkup (c : Char) : Prop :=
  c = '&' ∨ c = '<' ∨ c = '>' ∨ c = '\x22' ∨ c = '\x27'

/-- A character is written as its entity, or stands as it is. -/
theorem xmlChar_cases (c : Char) :
    (∃ entity ∈ entities, entity.2 = c ∧ xmlChar c = entity.1.toList) ∨
    (¬ IsMarkup c ∧ xmlChar c = [c]) := by
  by_cases hmarkup : IsMarkup c
  · left
    rcases hmarkup with rfl | rfl | rfl | rfl | rfl
    · exact ⟨("&amp;", '&'), by decide, rfl, rfl⟩
    · exact ⟨("&lt;", '<'), by decide, rfl, rfl⟩
    · exact ⟨("&gt;", '>'), by decide, rfl, rfl⟩
    · exact ⟨("&quot;", '\x22'), by decide, rfl, rfl⟩
    · exact ⟨("&apos;", '\x27'), by decide, rfl, rfl⟩
  · have hplain := hmarkup
    simp only [IsMarkup, not_or] at hplain
    obtain ⟨hamp, hopen, hclose, hdouble, hsingle⟩ := hplain
    refine .inr ⟨hmarkup, ?_⟩
    rw [xmlChar, if_neg hamp, if_neg hopen, if_neg hclose,
      if_neg hdouble, if_neg hsingle]

/-- Behind its ampersand an entity holds no markup. -/
theorem entity_body {entity : String × Char} (h : entity ∈ entities) :
    ∃ body, entity.1.toList = '&' :: body ∧ ∀ c ∈ body, ¬ IsMarkup c := by
  have hall : (entities.all fun e =>
      e.1.toList.head? == some '&' && e.1.toList.tail.all fun c =>
        c != '&' && c != '<' && c != '>' && c != '\x22' && c != '\x27')
      = true := by decide +kernel
  have he := List.all_eq_true.1 hall entity h
  simp only [Bool.and_eq_true, beq_iff_eq] at he
  obtain ⟨hhead, htail⟩ := he
  obtain ⟨body, hbody⟩ := List.head?_eq_some_iff.1 hhead
  refine ⟨body, hbody, fun c hc => ?_⟩
  rw [hbody, List.tail_cons] at htail
  have hplain := List.all_eq_true.1 htail c hc
  simp only [Bool.and_eq_true, bne_iff_ne] at hplain
  obtain ⟨⟨⟨⟨hamp, hopen⟩, hclose⟩, hdouble⟩, hsingle⟩ := hplain
  simp only [IsMarkup, not_or]
  exact ⟨hamp, hopen, hclose, hdouble, hsingle⟩

/-- An entity is read as its character. -/
theorem readXml_entity {entity : String × Char} (h : entity ∈ entities)
    (rest : List Char) :
    readXml (entity.1.toList ++ rest)
      = (readXml rest).map (entity.2 :: ·) := by
  simp only [entities, List.mem_cons, List.not_mem_nil, or_false] at h
  rcases h with rfl | rfl | rfl | rfl | rfl <;> rfl

/-- Any other character stands for itself. -/
theorem readXml_plain (h : ¬ IsMarkup c) (rest : List Char) :
    readXml (c :: rest) = (readXml rest).map (c :: ·) := by
  simp only [IsMarkup, not_or] at h
  obtain ⟨hamp, hopen, -⟩ := h
  rw [readXml.eq_6 c rest (fun _ hc => absurd hc hamp)
    (fun _ hc => absurd hc hamp) (fun _ hc => absurd hc hamp)
    (fun _ hc => absurd hc hamp) (fun _ hc => absurd hc hamp),
    if_neg (not_or.2 ⟨hamp, hopen⟩)]

-- ====================================================== descriptions

/-- A description in XML is read back, whatever it holds. -/
theorem readXml_escapeXml (description : String) :
    readXml (escapeXml description).toList = some description.toList := by
  rw [escapeXml, String.toList_ofList]
  generalize description.toList = text
  induction text with
  | nil => rfl
  | cons c text ih =>
      rw [List.flatMap_cons]
      rcases xmlChar_cases c with
        ⟨entity, hentity, rfl, hwritten⟩ | ⟨hplain, hwritten⟩
      · rw [hwritten, readXml_entity hentity, ih]
        rfl
      · rw [hwritten, List.singleton_append, readXml_plain hplain, ih]
        rfl

-- What looks like an entity is text, too.
example : escapeXml "&lt;" = "&amp;lt;" := by decide

/-- The only markup in it are ampersands. -/
theorem notMem_escapeXml {description : String} (hc : IsMarkup c)
    (hamp : c ≠ '&') : c ∉ (escapeXml description).toList := by
  rw [escapeXml, String.toList_ofList, List.mem_flatMap]
  rintro ⟨d, -, hmem⟩
  rcases xmlChar_cases d with
    ⟨entity, hentity, -, hwritten⟩ | ⟨hplain, hwritten⟩
  · obtain ⟨body, hbody, hfree⟩ := entity_body hentity
    rw [hwritten, hbody] at hmem
    rcases List.mem_cons.1 hmem with rfl | hmem
    · exact hamp rfl
    · exact hfree c hmem hc
  · rw [hwritten, List.mem_singleton] at hmem
    exact hplain (hmem ▸ hc)

/-- A text that begins with a character is not inside a piece without
it. -/
private theorem suffix_of_notMem {piece text behind : List Char}
    (h : c :: behind <:+ piece ++ text) (hpiece : c ∉ piece) :
    c :: behind <:+ text := by
  induction piece with
  | nil => exact h
  | cons d piece ih =>
      rw [List.mem_cons, not_or] at hpiece
      rw [List.cons_append, List.suffix_cons_iff] at h
      rcases h with heq | hbehind
      · exact absurd (List.cons.inj heq).1 hpiece.1
      · exact ih hbehind hpiece.2

/-- And each of these begins an entity. -/
theorem entity_of_ampersand {description : String} {behind : List Char}
    (h : '&' :: behind <:+ (escapeXml description).toList) :
    ∃ entity ∈ entities, entity.1.toList <+: '&' :: behind := by
  rw [escapeXml, String.toList_ofList] at h
  revert h
  generalize description.toList = text
  intro h
  induction text with
  | nil => cases List.eq_nil_of_suffix_nil h
  | cons c text ih =>
      rw [List.flatMap_cons] at h
      rcases xmlChar_cases c with
        ⟨entity, hentity, -, hwritten⟩ | ⟨hplain, hwritten⟩
      · obtain ⟨body, hbody, hfree⟩ := entity_body hentity
        rw [hwritten, hbody, List.cons_append, List.suffix_cons_iff] at h
        rcases h with heq | hbehind
        · refine ⟨entity, hentity, text.flatMap xmlChar, ?_⟩
          rw [heq, hbody, List.cons_append]
        · exact ih (suffix_of_notMem hbehind
            fun hmem => hfree _ hmem (.inl rfl))
      · rw [hwritten] at h
        refine ih (suffix_of_notMem h fun hmem => ?_)
        rw [List.mem_singleton] at hmem
        exact hplain (.inl hmem.symm)

-- ======================================================= credentials

/-- A credential is the stretches between its apostrophes, with two
apostrophes between each two. -/
theorem quoteSingle_stretches (value : String) :
    (quoteSingle value).toList
      = List.intercalate ['\x27', '\x27'] (value.toList.splitOn '\x27') := by
  rw [toList_quoteSingle]
  generalize value.toList = text
  induction text with
  | nil => rfl
  | cons c text ih =>
      rw [List.splitOn_cons_eq_if_modifyHead]
      obtain ⟨stretch, more, hsplit⟩ :=
        List.exists_cons_of_ne_nil (List.splitOn_ne_nil '\x27' text)
      rw [hsplit] at ih ⊢
      by_cases hc : c = '\x27'
      · subst hc
        rw [doubled_apostrophe, ih, if_pos (beq_self_eq_true _),
          List.intercalate_cons_cons]
        rfl
      · rw [doubled_cons hc, ih, if_neg (by simpa using hc),
          List.modifyHead_cons]
        cases more with
        | nil => simp only [List.intercalate_singleton]
        | cons next more =>
            simp only [List.intercalate_cons_cons, List.cons_append]

-- ========================================================== the script

/-- Pieces with values between them, each value behind its piece. -/
def interleave : List String → List String → String
  | piece :: pieces, value :: values =>
    piece ++ (value ++ interleave pieces values)
  | pieces, _ => String.join pieces

/-- The fixed pieces of the wrapper. -/
def wrapperPieces : List String :=
  [wrapperHead, wrapperTask, wrapperSettings, wrapperLog,
    wrapperRegister, wrapperPair, wrapperTail]

/-- None of them holds `{{`. -/
theorem wrapperPieces_plain :
    ∀ piece ∈ wrapperPieces, ¬ ['\x7b', '\x7b'] <:+: piece.toList := by
  obtain ⟨hhead, htask, hsettings, hlog, hregister, hpair, htail⟩ :=
    pieces_plain
  have hfront : ∀ {piece : String},
      cutAtDouble '\x7b' (piece.toList ++ ['\x7b']) = none →
        ¬ ['\x7b', '\x7b'] <:+: piece.toList := fun h hpair =>
    cutAtDouble_eq_none_iff.1 h
      (hpair.trans (List.prefix_append ..).isInfix)
  simp only [wrapperPieces, List.forall_mem_cons]
  exact ⟨hfront hhead, hfront htask, hfront hsettings, hfront hlog,
    hfront hregister, hfront hpair, cutAtDouble_eq_none_iff.1 htail,
    List.forall_mem_nil _⟩

/-- Seven pieces with six values between them. -/
theorem interleave_wrapper (a b c d e f : String) :
    interleave wrapperPieces [a, b, c, d, e, f]
      = wrapperHead ++ (a ++ (wrapperTask ++ (b ++ (wrapperSettings
        ++ (c ++ (wrapperLog ++ (d ++ (wrapperRegister ++ (e
          ++ (wrapperPair ++ (f ++ wrapperTail))))))))))) := by
  simp only [wrapperPieces, interleave, String.join_cons,
    String.join_nil, String.append_empty]

/-- The wrapper script is the same seven pieces for every task, which
are the template's pieces around its slots and hold no `{{`, with six
values between them: the name, the description in XML, the encoded
command, the name again, and the two credentials with their apostrophes
doubled.  No value makes the filling fail, whatever braces it holds.

In XML a description has no raw markup: no bracket and no quote, and each
ampersand begins one of the five entities.  Reading the entities gives
back the description. -/
theorem wrapper_embeds :
    (∃ pieces : List String, pieces.length = 7 ∧
      (∀ piece ∈ pieces, ¬ ['\x7b', '\x7b'] <:+: piece.toList) ∧
      wrapperTemplate = interleave pieces
        (["TaskName", "TaskDescription", "EncodedCommand", "TaskName",
          "User", "Password"].map slot) ∧
      ∀ task : ElevatedTask, task.wrapper = .ok (interleave pieces
        [task.name, escapeXml task.description, task.encodedCommand,
          task.name, quoteSingle task.user,
          quoteSingle task.password])) ∧
    (∀ credential : String, (quoteSingle credential).toList
      = List.intercalate ['\x27', '\x27']
          (credential.toList.splitOn '\x27')) ∧
    ∀ description : String,
      (∀ c ∈ ['<', '>', '\x22', '\x27'],
        c ∉ (escapeXml description).toList) ∧
      (∀ before behind : List Char,
        (escapeXml description).toList = before ++ '&' :: behind →
          ∃ entity ∈ entities, entity.1.toList <+: '&' :: behind) ∧
      readXml (escapeXml description).toList
        = some description.toList := by
  refine ⟨⟨wrapperPieces, rfl, wrapperPieces_plain, ?_, fun task => ?_⟩,
    quoteSingle_stretches, fun description => ⟨?_, ?_, ?_⟩⟩
  · rw [List.map, List.map, List.map, List.map, List.map, List.map,
      List.map, interleave_wrapper]
    simp only [wrapperTemplate, String.append_assoc]
  · rw [interleave_wrapper]
    exact task.wrapper_eq
  · simp only [List.forall_mem_cons]
    exact ⟨notMem_escapeXml (by simp [IsMarkup]) (by decide),
      notMem_escapeXml (by simp [IsMarkup]) (by decide),
      notMem_escapeXml (by simp [IsMarkup]) (by decide),
      notMem_escapeXml (by simp [IsMarkup]) (by decide),
      List.forall_mem_nil _⟩
  · intro before behind htext
    exact entity_of_ampersand ⟨before, htext.symm⟩
  · exact readXml_escapeXml description

end RemoteProvision.Command
