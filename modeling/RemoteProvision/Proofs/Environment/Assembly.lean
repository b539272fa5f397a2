/-
Bindings of variables.

Setting a variable changes the binding of its own key and no other
(`lookup_set`); that the variables are kept in order plays no part.  So
the entries of the user are set one after the other, and an entry stays
bound as long as no later one has its key (`lookup_variables`).

Which entries bind anything is said without the splitting: those that
are a key, an equals sign and a value, where the key is not empty and
holds no equals sign itself (`splitAssignment_iff`).
-/
import RemoteProvision.Environment.Assembly

namespace RemoteProvision.Environment

variable {text key value other : String}

-- ========================================================= splitting

theorem toList_assignment (key value : String) :
    (key ++ "=" ++ value).toList
      = key.toList ++ '=' :: value.toList := by
  rw [String.toList_append, String.toList_append, List.append_assoc]
  rfl

/-- An entry is split at its first equals sign, if a key stands in front
of that. -/
theorem splitAssignment_iff :
    splitAssignment text = some (key, value)
      ↔ text = key ++ "=" ++ value ∧ key ≠ "" ∧ '=' ∉ key.toList := by
  constructor
  · intro h
    have hparts := List.takeWhile_append_dropWhile
      (p := (· ≠ '=')) (l := text.toList)
    have hfirst := List.head?_dropWhile_not (· ≠ '=') text.toList
    have hfront := List.all_takeWhile
      (p := (· ≠ '=')) (l := text.toList)
    unfold splitAssignment at h
    dsimp only at h
    split at h
    · cases h
    · next c rest hbehind =>
      split at h
      · cases h
      · next hkey =>
        cases h
        rw [hbehind] at hparts hfirst
        obtain rfl : c = '=' := by simpa using hfirst
        refine ⟨?_, fun hnil => ?_, fun hmem => ?_⟩
        · rw [← String.toList_inj, toList_assignment,
            String.toList_ofList, String.toList_ofList]
          exact hparts.symm
        · rw [← String.toList_inj, String.toList_ofList] at hnil
          exact hkey (List.isEmpty_iff.2 hnil)
        · rw [String.toList_ofList] at hmem
          simpa using List.all_eq_true.1 hfront _ hmem
  · rintro ⟨rfl, hne, hkey⟩
    have hfront : ∀ c ∈ key.toList, decide (c ≠ '=') = true := by
      intro c hmem
      refine decide_eq_true ?_
      rintro rfl
      exact hkey hmem
    have hnotEmpty : key.toList.isEmpty = false := by
      rw [List.isEmpty_eq_false_iff]
      intro hnil
      exact hne (String.toList_inj.1 hnil)
    unfold splitAssignment
    dsimp only
    rw [toList_assignment, List.takeWhile_append_of_pos hfront,
      List.dropWhile_append_of_pos hfront]
    simp [hnotEmpty]

-- ========================================================== bindings

theorem lookup_front (key value other : String) (vars : Variables) :
    List.lookup other ((key, value) :: vars)
      = if other = key then some value else vars.lookup other := by
  rw [List.lookup_cons]
  by_cases hkey : other = key
  · simp [hkey]
  · simp [hkey, beq_eq_false_iff_ne.2 hkey]

/-- A variable that is set is bound to its value, and the others are
bound as before. -/
theorem lookup_set (key value other : String) (vars : Variables) :
    (Variables.set key value vars).lookup other
      = if other = key then some value else vars.lookup other := by
  induction vars with
  | nil =>
      rw [Variables.set, lookup_front]
  | cons first rest ih =>
      obtain ⟨k, v⟩ := first
      rw [Variables.set]
      split
      · next hreplaced =>
          subst hreplaced
          rw [lookup_front, lookup_front]
          by_cases hkey : other = key
          · rw [if_pos hkey, if_pos hkey]
          · rw [if_neg hkey, if_neg hkey, if_neg hkey]
      · next hdifferent =>
          split
          · rw [lookup_front]
          · rw [lookup_front, ih, lookup_front]
            by_cases hkey : other = key
            · subst hkey
              rw [if_neg hdifferent, if_pos rfl, if_pos rfl]
            · rw [if_neg hkey, if_neg hkey]

/-- What one entry of the user does. -/
def setEntry (vars : Variables) (text : String) : Variables :=
  match splitAssignment text with
  | none => vars
  | some (key, value) => Variables.set key value vars

/-- An entry changes no binding but that of its own key. -/
theorem lookup_setEntry_other {vars : Variables}
    (h : (splitAssignment text).map Prod.fst ≠ some other) :
    (setEntry vars text).lookup other = vars.lookup other := by
  unfold setEntry
  cases hsplit : splitAssignment text with
  | none => rfl
  | some entry =>
      obtain ⟨key, value⟩ := entry
      rw [hsplit] at h
      dsimp only
      rw [lookup_set, if_neg]
      rintro rfl
      exact h rfl

/-- Nor do more entries, if none of them has the key. -/
theorem lookup_setEntries_other {vars : Variables} {entries : List String}
    (h : ∀ entry ∈ entries,
      (splitAssignment entry).map Prod.fst ≠ some other) :
    (entries.foldl setEntry vars).lookup other = vars.lookup other := by
  induction entries generalizing vars with
  | nil => rfl
  | cons entry rest ih =>
      obtain ⟨hentry, hrest⟩ := List.forall_mem_cons.1 h
      rw [List.foldl_cons, ih hrest, lookup_setEntry_other hentry]

/-- An entry is bound, unless a later one has its key. -/
theorem lookup_variables {assembler : Assembler}
    {front behind : List String}
    (hentries : assembler.userVars = front ++ text :: behind)
    (hsplit : splitAssignment text = some (key, value))
    (hbehind : ∀ entry ∈ behind,
      (splitAssignment entry).map Prod.fst ≠ some key)
    (address : Option String) :
    (assembler.variables address).lookup key = some value := by
  show ((assembler.userVars.foldl setEntry
    (assembler.reserved address)).lookup key) = _
  rw [hentries, List.foldl_append, List.foldl_cons,
    lookup_setEntries_other hbehind]
  unfold setEntry
  rw [hsplit]
  dsimp only
  rw [lookup_set, if_pos rfl]

end RemoteProvision.Environment
