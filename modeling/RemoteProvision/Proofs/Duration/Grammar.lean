/-
The grammar of durations.

What is read as a duration is said here without the reader: terms one
behind the other, each a number and one of seven units, perhaps with a
plus sign in front, or a zero alone (`Spelled`).  The reader cuts a text
twice for each term, behind its digits and points and before the next of
them.  Units hold neither, so the cut of a term is where the term ends
(`firstTerm_of_pair`, `pair_of_firstTerm`), and the terms of a text are
found one by one (`terms_ok_iff`).

The sign is taken away before the terms are counted.  So one text that is
not spelled is read as well, a sign alone (`read_spelled_or_plus`).
-/
import RemoteProvision.Duration.Reading

namespace RemoteProvision.Duration

variable {c : Char} {cs number rest : List Char} {unit : String}
  {t : Term} {fault : Fault}

-- ========================================================= the grammar

/-- ASCII digits, at least one, and at most one point. -/
structure IsNumber (cs : List Char) : Prop where
  chars : ∀ c ∈ cs, c.isDigit = true ∨ c = '.'
  points : cs.count '.' ≤ 1
  digit : ∃ c ∈ cs, c.isDigit = true

/-- The units of time. -/
def units : List String :=
  ["ns", "us", "µs", "ms", "s", "m", "h"]

/-- A number and a unit. -/
def IsPair (pair : List Char × String) : Prop :=
  IsNumber pair.1 ∧ pair.2 ∈ units

/-- Numbers and units, one behind the other. -/
def written (pairs : List (List Char × String)) : List Char :=
  pairs.flatMap fun pair => pair.1 ++ pair.2.toList

theorem written_cons (pair : List Char × String)
    (pairs : List (List Char × String)) :
    written (pair :: pairs)
      = pair.1 ++ (pair.2.toList ++ written pairs) := by
  rw [written, List.flatMap_cons, List.append_assoc, ← written]

/-- A zero alone, or one or more numbers with their units behind an
optional plus sign. -/
def Spelled (cs : List Char) : Prop :=
  cs = ['0'] ∨
  ∃ sign pairs, (sign = [] ∨ sign = ['+']) ∧ pairs ≠ [] ∧
    (∀ pair ∈ pairs, IsPair pair) ∧ cs = sign ++ written pairs

-- ============================================================= numbers

theorem isNumeric_iff : isNumeric c = true ↔ c.isDigit = true ∨ c = '.' := by
  rw [isNumeric, Bool.or_eq_true, beq_iff_eq]

/-- More than one point makes no number, and nothing else does. -/
theorem numberOf?_isSome_iff :
    (numberOf? cs).isSome = true ↔ cs.count '.' ≤ 1 := by
  have hcs : cs.takeWhile (· ≠ '.') ++ cs.dropWhile (· ≠ '.') = cs :=
    List.takeWhile_append_dropWhile
  have hwhole : (cs.takeWhile (· ≠ '.')).count '.' = 0 := by
    refine List.count_eq_zero.2 fun hmem => ?_
    have hpoint := List.all_eq_true.1 List.all_takeWhile _ hmem
    exact absurd hpoint (by decide)
  have hcount : cs.count '.' = (cs.dropWhile (· ≠ '.')).count '.' := by
    rw [← hcs, List.count_append, hwhole, Nat.zero_add, hcs]
  have hhead := List.head?_dropWhile_not (fun c => decide (c ≠ '.')) cs
  rw [hcount, numberOf?]
  generalize cs.dropWhile (fun c => decide (c ≠ '.')) = behind at hhead ⊢
  cases behind with
  | nil => simp
  | cons point places =>
      have hpoint : point = '.' := by simpa using hhead
      subst hpoint
      rw [List.count_cons_self]
      by_cases hmem : '.' ∈ places
      · have hpos := List.count_pos_iff.2 hmem
        simp [hmem, Nat.ne_of_gt hpos]
      · have hzero := List.count_eq_zero.2 hmem
        simp [hmem, hzero]

/-- Digits and points make a number when there is one point at most, and
more than a point alone. -/
theorem isNumber_iff :
    IsNumber cs ↔ (∀ c ∈ cs, isNumeric c = true) ∧
      ¬(cs = [] ∨ cs = ['.']) ∧ (numberOf? cs).isSome = true := by
  rw [numberOf?_isSome_iff]
  constructor
  · rintro ⟨hchars, hpoints, c, hc, hdigit⟩
    refine ⟨fun d hd => isNumeric_iff.2 (hchars d hd), ?_, hpoints⟩
    rintro (rfl | rfl)
    · cases hc
    · obtain rfl := List.mem_singleton.1 hc
      exact absurd hdigit (by decide)
  · rintro ⟨hchars, hmore, hpoints⟩
    refine ⟨fun d hd => isNumeric_iff.1 (hchars d hd), hpoints, ?_⟩
    by_cases hdigit : ∃ c ∈ cs, c.isDigit = true
    · exact hdigit
    -- without a digit there are only points, and one of them at most
    have hdots : ∀ c ∈ cs, c = '.' := fun c hc =>
      (isNumeric_iff.1 (hchars c hc)).resolve_left
        fun hc' => hdigit ⟨c, hc, hc'⟩
    have hrow := List.eq_replicate_of_mem hdots
    rw [hrow, List.count_replicate_self] at hpoints
    refine absurd ?_ hmore
    rcases Nat.le_one_iff_eq_zero_or_eq_one.1 hpoints with hzero | hone
    · exact .inl (List.eq_nil_of_length_eq_zero hzero)
    · rw [hone] at hrow
      exact .inr hrow

-- =============================================================== units

theorem unitNanos?_isSome_iff :
    (unitNanos? unit).isSome = true ↔ unit ∈ units := by
  unfold unitNanos? units
  grind

/-- A unit is not empty and holds nothing that a number is made of. -/
theorem units_plain (h : unit ∈ units) :
    unit.toList ≠ [] ∧ ∀ c ∈ unit.toList, isNumeric c = false := by
  have hplain : (units.all fun u => !u.toList.isEmpty
      && u.toList.all fun c => !isNumeric c) = true := by
    decide +kernel
  have hunit := List.all_eq_true.1 hplain unit h
  simp only [Bool.and_eq_true, Bool.not_eq_true', List.all_eq_true] at hunit
  exact ⟨List.isEmpty_eq_false_iff.1 hunit.1, hunit.2⟩

-- =============================================================== terms

/-- A text that does not go on with a unit: it ends, or a number
begins. -/
def EndsUnit (rest : List Char) : Prop :=
  ∀ c ∈ rest.head?, isNumeric c = true

/-- A number and a unit in front are cut off where they end. -/
theorem cut_pair {unit : List Char}
    (hnumber : ∀ c ∈ number, isNumeric c = true)
    (hunit : ∀ c ∈ unit, isNumeric c = false) (hne : unit ≠ [])
    (hrest : EndsUnit rest) :
    (number ++ (unit ++ rest)).takeWhile isNumeric = number ∧
    (number ++ (unit ++ rest)).dropWhile isNumeric = unit ++ rest ∧
    (unit ++ rest).takeWhile (fun c => !isNumeric c) = unit ∧
    (unit ++ rest).dropWhile (fun c => !isNumeric c) = rest := by
  have hunit' : ∀ c ∈ unit, (!isNumeric c) = true := fun c hc => by
    rw [hunit c hc]
    rfl
  rw [List.takeWhile_append_of_pos hnumber,
    List.dropWhile_append_of_pos hnumber,
    List.takeWhile_append_of_pos hunit',
    List.dropWhile_append_of_pos hunit']
  obtain ⟨first, others, rfl⟩ := List.exists_cons_of_ne_nil hne
  have hfirst := hunit first (List.mem_cons_self ..)
  have hbehind : rest.takeWhile (fun c => !isNumeric c) = [] ∧
      rest.dropWhile (fun c => !isNumeric c) = rest := by
    cases rest with
    | nil => exact ⟨rfl, rfl⟩
    | cons c rest =>
        have hc : isNumeric c = true := hrest c rfl
        simp [hc]
  rw [hbehind.1, hbehind.2, List.cons_append, List.takeWhile_cons,
    List.dropWhile_cons, hfirst]
  simp

/-- A number and a unit in front are the first term. -/
theorem firstTerm_of_pair (hnumber : IsNumber number)
    (hrest : EndsUnit rest)
    (hvalue : numberOf? number = some (t.digits, t.places))
    (hnanos : unitNanos? unit = some t.unitNanos) :
    firstTerm (number ++ (unit.toList ++ rest)) = .ok (t, rest) := by
  obtain ⟨hchars, hmore, -⟩ := isNumber_iff.1 hnumber
  obtain ⟨hne, hplain⟩ :=
    units_plain (unitNanos?_isSome_iff.1 (by rw [hnanos]; rfl))
  obtain ⟨hfront, hbehind, hunit, hrest⟩ :=
    cut_pair hchars hplain hne hrest
  unfold firstTerm
  dsimp only
  rw [hbehind, hfront, hunit, hrest, if_neg hmore, hvalue]
  dsimp only
  rw [if_neg hne, String.ofList_toList, hnanos]

/-- The first term is a number and a unit in front. -/
theorem pair_of_firstTerm (h : firstTerm cs = .ok (t, rest)) :
    ∃ number unit, cs = number ++ (unit.toList ++ rest) ∧
      IsNumber number ∧ unit ∈ units := by
  have hnumber : cs.takeWhile isNumeric ++ cs.dropWhile isNumeric = cs :=
    List.takeWhile_append_dropWhile
  have hunit : (cs.dropWhile isNumeric).takeWhile (fun c => !isNumeric c)
      ++ (cs.dropWhile isNumeric).dropWhile (fun c => !isNumeric c)
    = cs.dropWhile isNumeric := List.takeWhile_append_dropWhile
  have hchars : ∀ c ∈ cs.takeWhile isNumeric, isNumeric c = true :=
    List.all_eq_true.1 List.all_takeWhile
  unfold firstTerm at h
  dsimp only at h
  generalize cs.takeWhile isNumeric = number at *
  generalize cs.dropWhile isNumeric = tail at *
  generalize tail.takeWhile (fun c => !isNumeric c) = unit at *
  generalize tail.dropWhile (fun c => !isNumeric c) = behind at *
  subst hunit hnumber
  split at h
  · cases h
  · next hmore =>
    split at h
    · cases h
    · next digits places hvalue =>
      split at h
      · cases h
      · split at h
        · cases h
        · next nanos hnanos =>
          cases h
          refine ⟨number, String.ofList unit, ?_, ?_, ?_⟩
          · rw [String.toList_ofList]
          · exact isNumber_iff.2 ⟨hchars, hmore, by rw [hvalue]; rfl⟩
          · exact unitNanos?_isSome_iff.1 (by rw [hnanos]; rfl)

/-- No term is out of range, only a sum of terms can be. -/
theorem firstTerm_ne_outOfRange : firstTerm cs ≠ .error .outOfRange := by
  unfold firstTerm
  dsimp only
  intro h
  split at h
  · cases h
  split at h
  · cases h
  split at h
  · cases h
  split at h
  · cases h
  · cases h

theorem terms_ne_outOfRange : terms cs ≠ .error .outOfRange := by
  fun_induction terms cs with
  | case1 => exact nofun
  | case2 cs hne fault hfirst =>
      rintro ⟨⟩
      exact firstTerm_ne_outOfRange hfirst
  | case3 cs hne t rest hfirst ih =>
      cases hrest : terms rest with
      | ok ts => exact nofun
      | error fault =>
          rintro ⟨⟩
          exact ih hrest

/-- A number begins with a digit or a point. -/
theorem IsNumber.endsUnit (h : IsNumber number) :
    EndsUnit (number ++ rest) := by
  obtain ⟨c, hc, -⟩ := h.digit
  obtain ⟨first, others, rfl⟩ :=
    List.exists_cons_of_ne_nil (List.ne_nil_of_mem hc)
  rintro _ ⟨⟩
  exact isNumeric_iff.2 (h.chars first (List.mem_cons_self ..))

theorem endsUnit_written {pairs : List (List Char × String)}
    (h : ∀ pair ∈ pairs, IsPair pair) : EndsUnit (written pairs) := by
  cases pairs with
  | nil => exact nofun
  | cons pair pairs =>
      rw [written_cons]
      exact (h pair (List.mem_cons_self ..)).1.endsUnit

/-- Behind the first term come the others. -/
theorem terms_of_firstTerm (h : firstTerm cs = .ok (t, rest)) :
    terms cs = (terms rest).map (t :: ·) := by
  have hne : cs.isEmpty = false := by
    cases cs with
    | nil => exact absurd (firstTerm_length h) (Nat.not_lt_zero _)
    | cons c cs => rfl
  rw [terms, hne, if_neg Bool.false_ne_true]
  split
  · next hfirst =>
    rw [h] at hfirst
    cases hfirst
  · next hfirst =>
    rw [h] at hfirst
    cases hfirst
    rfl

/-- All terms of a text are found when it is made of numbers and
units. -/
theorem terms_ok_iff :
    (∃ ts, terms cs = .ok ts) ↔
      ∃ pairs, (∀ pair ∈ pairs, IsPair pair) ∧ cs = written pairs := by
  constructor
  · rintro ⟨ts, h⟩
    fun_induction terms cs generalizing ts with
    | case1 cs hnil =>
        exact ⟨[], nofun, List.isEmpty_iff.1 hnil⟩
    | case2 cs hne fault hfirst => cases h
    | case3 cs hne t rest hfirst ih =>
        cases hrest : terms rest with
        | error fault =>
            rw [hrest] at h
            cases h
        | ok others =>
            obtain ⟨pairs, hpairs, hwritten⟩ := ih others hrest
            obtain ⟨number, unit, rfl, hnumber, hunit⟩ :=
              pair_of_firstTerm hfirst
            refine ⟨(number, unit) :: pairs,
              List.forall_mem_cons.2 ⟨⟨hnumber, hunit⟩, hpairs⟩, ?_⟩
            rw [written_cons, hwritten]
  · rintro ⟨pairs, hpairs, rfl⟩
    induction pairs with
    | nil =>
        refine ⟨[], ?_⟩
        rw [written, List.flatMap_nil, terms]
        rfl
    | cons pair pairs ih =>
        obtain ⟨⟨hnumber, hunit⟩, hrest⟩ := List.forall_mem_cons.1 hpairs
        obtain ⟨ts, hts⟩ := ih hrest
        obtain ⟨⟨digits, places⟩, hvalue⟩ :=
          Option.isSome_iff_exists.1 (isNumber_iff.1 hnumber).2.2
        obtain ⟨nanos, hnanos⟩ :=
          Option.isSome_iff_exists.1 (unitNanos?_isSome_iff.2 hunit)
        have hfirst : firstTerm (written (pair :: pairs))
            = .ok (⟨digits, places, nanos⟩, written pairs) := by
          rw [written_cons]
          exact firstTerm_of_pair hnumber (endsUnit_written hrest) hvalue
            hnanos
        refine ⟨⟨digits, places, nanos⟩ :: ts, ?_⟩
        rw [terms_of_firstTerm hfirst, hts]
        rfl

-- ============================================================= reading

/-- A text is taken for a duration, though perhaps for one that is out
of range. -/
def Taken (text : String) : Prop :=
  (∃ d, read text = .ok d) ∨ read text = .error .outOfRange

theorem not_taken {text : String} (h : read text = .error fault)
    (hfault : fault ≠ .outOfRange) : ¬ Taken text := by
  rintro (⟨d, hd⟩ | hrange)
  · rw [h] at hd
    cases hd
  · rw [h] at hrange
    cases hrange
    exact hfault rfl

/-- Terms behind an optional sign are taken if they are all found. -/
theorem taken_iff_terms {text : String}
    (h : read text
      = (terms (dropPlus cs)).bind fun ts => ofMagnitude (total ts)) :
    Taken text ↔ ∃ ts, terms (dropPlus cs) = .ok ts := by
  unfold Taken
  rw [h]
  cases hterms : terms (dropPlus cs) with
  | error fault =>
      refine ⟨?_, fun ⟨ts, hts⟩ => nomatch hts⟩
      rintro (⟨d, hd⟩ | hrange)
      · cases hd
      · cases hrange
        exact absurd hterms terms_ne_outOfRange
  | ok ts =>
      refine ⟨fun _ => ⟨ts, rfl⟩, fun _ => ?_⟩
      show (∃ d, ofMagnitude (total ts) = .ok d) ∨
        ofMagnitude (total ts) = .error .outOfRange
      cases total ts with
      | infinite => exact .inr rfl
      | finite nanos =>
          unfold ofMagnitude
          dsimp only
          split
          · exact .inr rfl
          · exact .inl ⟨_, rfl⟩

/-- No number begins with a sign. -/
theorem head_written {pairs : List (List Char × String)}
    (h : ∀ pair ∈ pairs, IsPair pair) {c : Char}
    (hc : c ∈ (written pairs).head?) : c ≠ '+' ∧ c ≠ '-' := by
  have hnumeric : isNumeric c = true := endsUnit_written h c hc
  exact ⟨by rintro rfl; exact absurd hnumeric (by decide),
    by rintro rfl; exact absurd hnumeric (by decide)⟩

theorem dropPlus_written {pairs : List (List Char × String)}
    (h : ∀ pair ∈ pairs, IsPair pair) :
    dropPlus (written pairs) = written pairs := by
  unfold dropPlus
  split
  · next rest hplus =>
    have hhead : '+' ∈ (written pairs).head? := by
      rw [hplus]
      rfl
    exact absurd rfl (head_written h hhead).1
  · rfl

theorem written_ne_nil {pairs : List (List Char × String)}
    (h : ∀ pair ∈ pairs, IsPair pair) (hne : pairs ≠ []) :
    written pairs ≠ [] := by
  obtain ⟨pair, others, rfl⟩ := List.exists_cons_of_ne_nil hne
  obtain ⟨c, hc, -⟩ := (h pair (List.mem_cons_self ..)).1.digit
  exact List.ne_nil_of_mem
    (List.mem_append_left _ (List.mem_append_left _ hc))

/-- A sign without numbers behind it is no spelling. -/
theorem not_spelled_plus : ¬ Spelled ['+'] := by
  rintro (hzero | ⟨sign, pairs, rfl | rfl, hne, hpairs, hplus⟩)
  · cases hzero
  · have hhead : '+' ∈ (written pairs).head? := by
      rw [show written pairs = ['+'] from hplus.symm]
      rfl
    exact (head_written hpairs hhead).1 rfl
  · exact written_ne_nil hpairs hne (List.cons.inj hplus).2.symm

/-- Behind an optional sign there are numbers with units, or, after a
sign, nothing. -/
theorem spelled_or_plus_iff (hne : cs ≠ []) (hzero : cs ≠ ['0']) :
    Spelled cs ∨ cs = ['+'] ↔
      ∃ pairs, (∀ pair ∈ pairs, IsPair pair) ∧
        dropPlus cs = written pairs := by
  constructor
  · rintro ((hcs | ⟨sign, pairs, hsign, -, hpairs, rfl⟩) | rfl)
    · exact absurd hcs hzero
    · refine ⟨pairs, hpairs, ?_⟩
      rcases hsign with rfl | rfl
      · exact dropPlus_written hpairs
      · rfl
    · exact ⟨[], nofun, rfl⟩
  · rintro ⟨pairs, hpairs, hwritten⟩
    have hsign : (∃ rest, cs = '+' :: rest) ∨ dropPlus cs = cs := by
      unfold dropPlus
      split
      · next rest => exact .inl ⟨rest, rfl⟩
      · exact .inr rfl
    rcases hsign with ⟨rest, rfl⟩ | hsame
    · have hrest : rest = written pairs := hwritten
      subst hrest
      cases pairs with
      | nil => exact .inr rfl
      | cons pair others =>
          exact .inl (.inr ⟨['+'], pair :: others, .inr rfl,
            List.cons_ne_nil _ _, hpairs, rfl⟩)
    · rw [hsame] at hwritten
      subst hwritten
      refine .inl (.inr ⟨[], pairs, .inl rfl, ?_, hpairs, rfl⟩)
      rintro rfl
      exact hne rfl

/-- A spelling does not begin with a minus sign. -/
theorem not_spelled_minus {rest : List Char} :
    ¬ (Spelled ('-' :: rest) ∨ '-' :: rest = ['+']) := by
  rw [spelled_or_plus_iff (List.cons_ne_nil _ _) (by simp)]
  rintro ⟨pairs, hpairs, hwritten⟩
  have hminus : '-' :: rest = written pairs := hwritten
  have hhead : '-' ∈ (written pairs).head? := by
    rw [← hminus]
    rfl
  exact (head_written hpairs hhead).2 rfl

theorem not_spelled_nil : ¬ (Spelled [] ∨ ([] : List Char) = ['+']) := by
  rintro ((hzero | ⟨sign, pairs, -, hne, hpairs, hnil⟩) | hplus)
  · cases hzero
  · exact written_ne_nil hpairs hne (List.append_eq_nil_iff.1 hnil.symm).2
  · cases hplus

/-- Reading cuts the blanks off first. -/
theorem read_eq {text : String} :
    Text.trim text.toList = cs → read text = match cs with
      | [] => .error .empty
      | ['0'] => .ok ⟨0⟩
      | '-' :: _ => .error .negative
      | cs => (terms (dropPlus cs)).bind fun ts =>
          ofMagnitude (total ts) := by
  rintro rfl
  rfl

/-- Behind a sign alone there are no terms, and their sum is zero. -/
theorem read_plus {text : String} (h : Text.trim text.toList = ['+']) :
    read text = .ok ⟨0⟩ := by
  rw [read_eq h]
  show (terms []).bind _ = _
  rw [terms]
  rfl

/-- The texts that are taken are, but for the blanks around them, the
spellings of durations and the plus sign alone, which is read as
zero. -/
theorem read_spelled_or_plus (text : String) :
    let core := Text.trim text.toList
    (Taken text ↔ Spelled core ∨ core = ['+']) ∧
    (core = ['+'] → read text = .ok ⟨0⟩ ∧ ¬ Spelled core) := by
  obtain ⟨core, hcore⟩ : ∃ core, Text.trim text.toList = core := ⟨_, rfl⟩
  have hread := read_eq hcore
  have hplus : core = ['+'] → read text = .ok ⟨0⟩ := by
    rintro rfl
    exact read_plus hcore
  rw [hcore]
  refine ⟨?_, fun h => ⟨hplus h, h ▸ not_spelled_plus⟩⟩
  split at hread
  · exact iff_of_false (not_taken hread nofun) not_spelled_nil
  · exact iff_of_true (.inl ⟨_, hread⟩) (.inl (.inl rfl))
  · exact iff_of_false (not_taken hread nofun) not_spelled_minus
  · next hne hzero _ =>
    rw [taken_iff_terms hread, terms_ok_iff, spelled_or_plus_iff hne hzero]

/-- A plus sign alone is taken, and it is no spelling. -/
theorem plus_taken :
    ¬ (Taken "+" ↔ Spelled (Text.trim "+".toList)) := by
  have hcore : Text.trim "+".toList = ['+'] := by decide
  intro h
  rw [hcore] at h
  exact not_spelled_plus (h.1 (.inl ⟨⟨0⟩, read_plus hcore⟩))

end RemoteProvision.Duration
