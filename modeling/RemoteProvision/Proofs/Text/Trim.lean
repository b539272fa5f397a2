/-
What trimming leaves.

Trimming leaves the one piece of a text that has only blanks before and
behind it and neither begins nor ends in one (`trim_eq_iff`).  A text
without blanks is left as it is: so are the names in the actions of
templates and the arguments that carry commands.
-/
import RemoteProvision.Text.Blank

namespace RemoteProvision.Text

variable {cs : List Char}

-- ============================================================ blanks

/-- A text of blanks only. -/
def AllBlank (cs : List Char) : Prop :=
  ∀ c ∈ cs, isBlank c = true

/-- The blanks at the front of a text that goes on with another
character. -/
theorem dropWhile_blanks {blanks : List Char} {c : Char}
    (h : AllBlank blanks) (hc : isBlank c = false) (rest : List Char) :
    (blanks ++ c :: rest).dropWhile isBlank = c :: rest := by
  rw [List.dropWhile_append_of_pos h, List.dropWhile_cons, hc]
  rfl

theorem takeWhile_blanks {blanks : List Char} {c : Char}
    (h : AllBlank blanks) (hc : isBlank c = false) (rest : List Char) :
    (blanks ++ c :: rest).takeWhile isBlank = blanks := by
  rw [List.takeWhile_append_of_pos h, List.takeWhile_cons, hc]
  exact List.append_nil blanks

/-- The blanks that a text begins with. -/
theorem allBlank_takeWhile (cs : List Char) :
    AllBlank (cs.takeWhile isBlank) :=
  List.all_eq_true.1 List.all_takeWhile

/-- What stands behind the first blanks is not blank. -/
theorem notBlank_of_dropWhile {c : Char} {rest : List Char}
    (h : cs.dropWhile isBlank = c :: rest) : isBlank c = false := by
  have hhead := List.head?_dropWhile_not isBlank cs
  rw [h] at hhead
  exact hhead

theorem dropWhile_eq_nil_iff :
    cs.dropWhile isBlank = [] ↔ AllBlank cs := by
  constructor
  · intro h
    have hcs : cs.takeWhile isBlank ++ cs.dropWhile isBlank = cs :=
      List.takeWhile_append_dropWhile
    rw [h, List.append_nil] at hcs
    rw [← hcs]
    exact allBlank_takeWhile cs
  · intro h
    rw [← List.append_nil cs, List.dropWhile_append_of_pos h]
    rfl

/-- A text is blank, or goes on behind its first blanks. -/
theorem blank_or_split (cs : List Char) :
    AllBlank cs ∨ ∃ blanks c rest, cs = blanks ++ c :: rest ∧
      AllBlank blanks ∧ isBlank c = false := by
  have hcs : cs.takeWhile isBlank ++ cs.dropWhile isBlank = cs :=
    List.takeWhile_append_dropWhile
  cases hrest : cs.dropWhile isBlank with
  | nil => exact .inl (dropWhile_eq_nil_iff.1 hrest)
  | cons c rest =>
      rw [hrest] at hcs
      exact .inr ⟨_, c, rest, hcs.symm, allBlank_takeWhile cs,
        notBlank_of_dropWhile hrest⟩

-- ========================================================== trimming

/-- A piece of a text with only blanks around it, which neither begins
nor ends in a blank. -/
def Trims (cs core : List Char) : Prop :=
  ∃ front back, cs = front ++ core ++ back ∧
    AllBlank front ∧ AllBlank back ∧
    (∀ c ∈ core.head?, isBlank c = false) ∧
    (∀ c ∈ core.getLast?, isBlank c = false)

/-- Dropping the blanks at the front leaves nothing, or a text that
begins in no blank. -/
theorem head?_trimStart (cs : List Char) :
    ∀ c ∈ (trimStart cs).head?, isBlank c = false := by
  intro c hc
  obtain ⟨rest, hrest⟩ := List.head?_eq_some_iff.1 hc
  exact notBlank_of_dropWhile hrest

/-- The blanks at the back are cut off. -/
theorem trimEnd_split (cs : List Char) :
    ∃ back, cs = trimEnd cs ++ back ∧ AllBlank back := by
  refine ⟨(cs.reverse.takeWhile isBlank).reverse, ?_, ?_⟩
  · rw [trimEnd, ← List.reverse_append, List.takeWhile_append_dropWhile,
      List.reverse_reverse]
  · intro c hc
    exact allBlank_takeWhile cs.reverse c (List.mem_reverse.1 hc)

theorem getLast?_trimEnd (cs : List Char) :
    ∀ c ∈ (trimEnd cs).getLast?, isBlank c = false := by
  intro c hc
  rw [trimEnd, List.getLast?_reverse] at hc
  exact head?_trimStart cs.reverse c hc

/-- Behind its last character that is no blank a text is trimmed. -/
theorem trimEnd_blanks {core back : List Char} (hback : AllBlank back)
    (hlast : ∀ c ∈ core.getLast?, isBlank c = false) :
    trimEnd (core ++ back) = core := by
  have hrev : AllBlank back.reverse :=
    fun c hc => hback c (List.mem_reverse.1 hc)
  rw [trimEnd, List.reverse_append, List.dropWhile_append_of_pos hrev]
  cases hcore : core.reverse with
  | nil => rw [List.reverse_eq_nil_iff.1 hcore]; rfl
  | cons c rest =>
      have hc : isBlank c = false := by
        refine hlast c ?_
        rw [← List.head?_reverse, hcore]
        rfl
      rw [List.dropWhile_cons, hc, ← List.reverse_reverse core, hcore]
      rfl

/-- Trimming leaves the piece with only blanks around it. -/
theorem trim_eq_iff {core : List Char} : trim cs = core ↔ Trims cs core := by
  constructor
  · rintro rfl
    obtain ⟨back, hback, hblank⟩ := trimEnd_split (trimStart cs)
    refine ⟨cs.takeWhile isBlank, back, ?_, allBlank_takeWhile cs, hblank,
      ?_, getLast?_trimEnd _⟩
    · rw [List.append_assoc, trim, ← hback, trimStart,
        List.takeWhile_append_dropWhile]
    · intro c hc
      obtain ⟨rest, hrest⟩ := List.head?_eq_some_iff.1 hc
      refine head?_trimStart cs c ?_
      rw [hback, ← trim, hrest]
      rfl
  · rintro ⟨front, back, rfl, hfront, hback, hhead, hlast⟩
    rw [trim, trimStart, List.append_assoc,
      List.dropWhile_append_of_pos hfront]
    cases core with
    | nil =>
        rw [List.nil_append, dropWhile_eq_nil_iff.2 hback]
        rfl
    | cons c core =>
        have hnone : AllBlank [] := fun _ h => nomatch h
        have hstart : (c :: core ++ back).dropWhile isBlank
            = c :: core ++ back :=
          dropWhile_blanks hnone (hhead c rfl) (core ++ back)
        rw [hstart, trimEnd_blanks hback hlast]

/-- A text without blanks is trimmed to itself. -/
theorem trim_of_noBlank (h : ∀ c ∈ cs, isBlank c = false) :
    trim cs = cs := by
  have hnone : AllBlank [] := fun _ h => nomatch h
  refine trim_eq_iff.2 ⟨[], [], (List.append_nil cs).symm, hnone, hnone,
    fun c hc => h c ?_, fun c hc => h c ?_⟩
  · exact List.mem_of_mem_head? hc
  · exact List.mem_of_mem_getLast? hc

end RemoteProvision.Text
