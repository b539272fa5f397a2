/-
The bindings of a build.

What the variables of a build are is said without putting them together
(`Assembler.Binds`): a key has the value that the last entry of the user
for it gives, or else its reserved value.  An entry that is no assignment
plays no part.  The variables are these bindings, each once, in strictly
increasing order of their keys (`Variables.Increasing`).

A list in that order is known from its bindings
(`Variables.Increasing.ext`).  So the text that is written depends on the
bindings alone, and these depend, for each key, on the entries for that
key in their order (`lookup_setEntries_filter`): the order in which the
user lists entries for different keys is lost.
-/
import RemoteProvision.Proofs.Environment.Assembly

namespace RemoteProvision.Environment

variable {text key value other : String} {vars vars' : Variables}

-- ============================================================ order

/-- The keys grow strictly from each variable to those behind it. -/
def Variables.Increasing (vars : Variables) : Prop :=
  vars.Pairwise fun a b => a.1 < b.1

/-- A variable is set in one place, and no other variable is new. -/
theorem Variables.mem_set {entry : String × String}
    (h : entry ∈ Variables.set key value vars) :
    entry = (key, value) ∨ entry ∈ vars := by
  induction vars with
  | nil => simpa [Variables.set] using h
  | cons first rest ih =>
      obtain ⟨k, v⟩ := first
      rw [Variables.set] at h
      split at h
      · rcases List.mem_cons.1 h with h | h
        · exact .inl h
        · exact .inr (List.mem_cons_of_mem _ h)
      · split at h
        · exact List.mem_cons.1 h
        · rcases List.mem_cons.1 h with h | h
          · exact .inr (h ▸ List.mem_cons_self ..)
          · exact (ih h).imp_right (List.mem_cons_of_mem _)

/-- Setting a variable keeps the order. -/
theorem Variables.Increasing.set (h : vars.Increasing) :
    (Variables.set key value vars).Increasing := by
  induction vars with
  | nil => exact List.pairwise_singleton _ _
  | cons first rest ih =>
      obtain ⟨k, v⟩ := first
      obtain ⟨hfirst, hrest⟩ := List.pairwise_cons.1 h
      rw [Variables.set]
      split
      · next hsame =>
        subst hsame
        exact List.pairwise_cons.2 ⟨hfirst, hrest⟩
      · next hdifferent =>
        split
        · next hbefore =>
          refine List.pairwise_cons.2 ⟨fun entry hentry => ?_, h⟩
          rcases List.mem_cons.1 hentry with rfl | hentry
          · exact hbefore
          · exact String.lt_trans hbefore (hfirst entry hentry)
        · next hbehind =>
          have hkey : k < key := by
            by_cases hlt : k < key
            · exact hlt
            · exact absurd (String.le_antisymm (String.not_lt.1 hlt)
                (String.not_lt.1 hbehind)) hdifferent
          refine List.pairwise_cons.2 ⟨fun entry hentry => ?_, ih hrest⟩
          rcases Variables.mem_set hentry with rfl | hentry
          · exact hkey
          · exact hfirst entry hentry

/-- The reserved variables are in order. -/
theorem Assembler.increasing_reserved (a : Assembler)
    (address : Option String) : (a.reserved address).Increasing := by
  have hnamed : (Variables.set builderTypeVar a.identity.builderType
      (Variables.set buildNameVar a.identity.buildName [])).Increasing :=
    Variables.Increasing.set (Variables.Increasing.set List.Pairwise.nil)
  unfold Assembler.reserved
  cases address with
  | none => exact hnamed
  | some addr =>
      dsimp only
      split
      · exact hnamed
      · exact hnamed.set

/-- So they are behind any entries. -/
theorem increasing_setEntries {entries : List String}
    (h : vars.Increasing) : (entries.foldl setEntry vars).Increasing := by
  induction entries generalizing vars with
  | nil => exact h
  | cons entry rest ih =>
      refine ih ?_
      unfold setEntry
      split
      · exact h
      · exact h.set

theorem Assembler.increasing_variables (a : Assembler)
    (address : Option String) : (a.variables address).Increasing :=
  increasing_setEntries (a.increasing_reserved address)

-- ------------------------------------------------- lists as bindings

/-- In order, the variables hold a key at most once. -/
theorem Variables.Increasing.mem_iff (h : vars.Increasing) :
    (key, value) ∈ vars ↔ vars.lookup key = some value := by
  induction vars with
  | nil => simp
  | cons first rest ih =>
      obtain ⟨k, v⟩ := first
      obtain ⟨hfirst, hrest⟩ := List.pairwise_cons.1 h
      rw [List.mem_cons, lookup_front, ih hrest]
      by_cases hkey : key = k
      · subst hkey
        have hnone : rest.lookup key ≠ some value := by
          intro hbound
          exact String.lt_irrefl key (hfirst _ ((ih hrest).2 hbound))
        simp [hnone, eq_comm]
      · simp [hkey]

/-- In order, no variable stands twice. -/
theorem Variables.Increasing.nodup (h : vars.Increasing) :
    vars.Nodup := by
  refine List.Pairwise.imp ?_ h
  rintro a _ hlt rfl
  exact String.lt_irrefl a.1 hlt

/-- Variables in order are known from what they hold. -/
theorem Variables.Increasing.ext (h : vars.Increasing)
    (h' : vars'.Increasing)
    (hmem : ∀ key value, (key, value) ∈ vars ↔ (key, value) ∈ vars') :
    vars = vars' := by
  refine List.Perm.eq_of_pairwise ?_ h h' ?_
  · intro a b _ _ hab hba
    exact absurd hba (String.lt_asymm hab)
  · exact (List.perm_ext_iff_of_nodup h.nodup h'.nodup).2
      fun entry => hmem entry.1 entry.2

-- ========================================================== bindings

/-- A text that assigns a value to a key: the key, which is not empty,
stands before the first equals sign and the value behind it. -/
def Assigns (text key value : String) : Prop :=
  text = key ++ "=" ++ value ∧ key ≠ "" ∧ '=' ∉ key.toList

/-- The values that are there without the user.  An empty address counts
as none. -/
inductive Assembler.Reserves (a : Assembler) (address : Option String) :
    String → String → Prop
  | buildName :
      Reserves a address "PACKER_BUILD_NAME" a.identity.buildName
  | builderType :
      Reserves a address "PACKER_BUILDER_TYPE" a.identity.builderType
  | httpAddr {addr : String} :
      address = some addr → addr ≠ "" →
      Reserves a address "PACKER_HTTP_ADDR" addr

/-- What a key is bound to: what the last text for it assigns, and its
reserved value if there is none. -/
inductive Assembler.Binds (a : Assembler) (address : Option String) :
    String → String → Prop
  | user {front behind : List String} {text key value : String} :
      a.userVars = front ++ text :: behind →
      Assigns text key value →
      (∀ later ∈ behind, ∀ v, ¬ Assigns later key v) →
      Binds a address key value
  | reserved {key value : String} :
      (∀ text ∈ a.userVars, ∀ v, ¬ Assigns text key v) →
      a.Reserves address key value →
      Binds a address key value

/-- The key of a text that is an assignment. -/
def keyOf? (text : String) : Option String :=
  (splitAssignment text).map Prod.fst

theorem keyOf?_eq_some :
    keyOf? text = some key ↔ ∃ value, Assigns text key value := by
  unfold keyOf?
  rw [Option.map_eq_some_iff]
  constructor
  · intro hkey
    obtain ⟨⟨k, v⟩, hsplit, rfl⟩ := hkey
    exact ⟨v, splitAssignment_iff.1 hsplit⟩
  · intro hkey
    obtain ⟨v, hassigns⟩ := hkey
    exact ⟨(key, v), splitAssignment_iff.2 hassigns, rfl⟩

theorem keyOf?_ne_some :
    keyOf? text ≠ some key ↔ ∀ v, ¬ Assigns text key v := by
  rw [Ne, keyOf?_eq_some, not_exists]

/-- Of the texts for a key there is a last. -/
theorem exists_last_for {entries : List String}
    (h : ∃ text ∈ entries, keyOf? text = some key) :
    ∃ front text behind, entries = front ++ text :: behind ∧
      keyOf? text = some key ∧
      ∀ later ∈ behind, keyOf? later ≠ some key := by
  induction entries with
  | nil =>
      obtain ⟨text, hnone, -⟩ := h
      exact absurd hnone List.not_mem_nil
  | cons entry rest ih =>
      by_cases hrest : ∃ text ∈ rest, keyOf? text = some key
      · obtain ⟨front, text, behind, rfl, hkey, hbehind⟩ := ih hrest
        exact ⟨entry :: front, text, behind, rfl, hkey, hbehind⟩
      · obtain ⟨text, hmem, hkey⟩ := h
        rcases List.mem_cons.1 hmem with rfl | hmem
        · exact ⟨[], text, rest, rfl, hkey,
            fun later hlater hsome => hrest ⟨later, hlater, hsome⟩⟩
        · exact absurd ⟨text, hmem, hkey⟩ hrest

variable {a : Assembler} {address : Option String}

/-- What a key was reserved for. -/
theorem lookup_reserved :
    (a.reserved address).lookup key
      = if key = "PACKER_HTTP_ADDR" ∧ address.getD "" ≠ "" then address
        else if key = "PACKER_BUILDER_TYPE" then
          some a.identity.builderType
        else if key = "PACKER_BUILD_NAME" then
          some a.identity.buildName
        else none := by
  unfold Assembler.reserved
  cases address with
  | none => simp [lookup_set, builderTypeVar, buildNameVar]
  | some addr =>
      by_cases hempty : addr = ""
      · simp [hempty, lookup_set, builderTypeVar, buildNameVar]
      · simp [hempty, lookup_set, builderTypeVar, buildNameVar,
          httpAddrVar]

/-- The reserved variables are the reserved values. -/
theorem lookup_reserved_iff :
    (a.reserved address).lookup key = some value
      ↔ a.Reserves address key value := by
  rw [lookup_reserved]
  constructor
  · intro h
    split at h
    · next haddr =>
      obtain ⟨rfl, hne⟩ := haddr
      subst h
      exact .httpAddr rfl hne
    · split at h
      · next hkey =>
        subst hkey
        cases h
        exact .builderType
      · split at h
        · next hkey =>
          subst hkey
          cases h
          exact .buildName
        · cases h
  · intro h
    cases h with
    | buildName => simp
    | builderType => simp
    | httpAddr haddr hne => simp [haddr, hne]

/-- Without a text for it, a key is as it was reserved. -/
theorem lookup_variables_none
    (h : ∀ text ∈ a.userVars, keyOf? text ≠ some key) :
    (a.variables address).lookup key
      = (a.reserved address).lookup key :=
  lookup_setEntries_other h

/-- The variables are the bindings. -/
theorem lookup_variables_iff :
    (a.variables address).lookup key = some value
      ↔ a.Binds address key value := by
  constructor
  · intro h
    by_cases huser : ∃ text ∈ a.userVars, keyOf? text = some key
    · obtain ⟨front, text, behind, hentries, hkey, hbehind⟩ :=
        exists_last_for huser
      obtain ⟨v, hassigns⟩ := keyOf?_eq_some.1 hkey
      have hbound := lookup_variables hentries
        (splitAssignment_iff.2 hassigns) hbehind address
      rw [h] at hbound
      cases hbound
      exact .user hentries hassigns
        fun later hlater => keyOf?_ne_some.1 (hbehind later hlater)
    · have hnone : ∀ text ∈ a.userVars, keyOf? text ≠ some key :=
        fun text hmem hkey => huser ⟨text, hmem, hkey⟩
      rw [lookup_variables_none hnone] at h
      exact .reserved (fun text hmem => keyOf?_ne_some.1 (hnone text hmem))
        (lookup_reserved_iff.1 h)
  · intro h
    cases h with
    | user hentries hassigns hbehind =>
        exact lookup_variables hentries (splitAssignment_iff.2 hassigns)
          (fun later hlater => keyOf?_ne_some.2 (hbehind later hlater))
          address
    | reserved hnone hreserved =>
        rw [lookup_variables_none fun text hmem =>
          keyOf?_ne_some.2 (hnone text hmem)]
        exact lookup_reserved_iff.2 hreserved

-- ======================================================== reordering

/-- The texts for a key, in their order. -/
def entriesFor (key : String) (entries : List String) : List String :=
  entries.filter fun text => keyOf? text = some key

/-- What an entry does to a key depends on the binding of that key
only. -/
theorem lookup_setEntry_congr (text : String)
    (h : vars.lookup other = vars'.lookup other) :
    (setEntry vars text).lookup other
      = (setEntry vars' text).lookup other := by
  unfold setEntry
  cases splitAssignment text with
  | none => exact h
  | some entry =>
      dsimp only
      rw [lookup_set, lookup_set, h]

/-- What entries do to a key is done by those for that key. -/
theorem lookup_setEntries_filter (entries : List String)
    (h : vars.lookup key = vars'.lookup key) :
    (entries.foldl setEntry vars).lookup key
      = ((entriesFor key entries).foldl setEntry vars').lookup key := by
  induction entries generalizing vars vars' with
  | nil => exact h
  | cons entry rest ih =>
      rw [entriesFor, List.filter_cons, List.foldl_cons]
      by_cases hkey : keyOf? entry = some key
      · rw [if_pos (decide_eq_true hkey), List.foldl_cons]
        exact ih (lookup_setEntry_congr entry h)
      · rw [if_neg (by simpa using hkey)]
        exact ih ((lookup_setEntry_other hkey).trans h)

/-- Entries that agree for each key make the same variables. -/
theorem variables_congr (address : Option String) {entries : List String}
    (h : ∀ key, entriesFor key entries = entriesFor key a.userVars) :
    ({ a with userVars := entries } : Assembler).variables address
      = a.variables address := by
  have hincreasing :=
    ({ a with userVars := entries } : Assembler).increasing_variables
      address
  refine hincreasing.ext (a.increasing_variables address) ?_
  intro key value
  have hlookup : (entries.foldl setEntry (a.reserved address)).lookup key
      = (a.userVars.foldl setEntry (a.reserved address)).lookup key := by
    rw [lookup_setEntries_filter entries rfl, h key,
      ← lookup_setEntries_filter a.userVars rfl]
  rw [hincreasing.mem_iff, (a.increasing_variables address).mem_iff]
  exact hlookup ▸ Iff.rfl

-- ======================================================= the theorem

/-- The variables of any build, with any entries of the user, formats
and answer of the address source.  They are the bindings, in strictly
increasing order of their keys, and the text is those written one behind
the other in that order, with the format of the run.  So it does not
change when the entries are given in another order, as long as those for
one key keep theirs. -/
theorem assemble_bindings (a : Assembler) (address : Option String) :
    (a.variables address).Increasing ∧
    (∀ key value, (key, value) ∈ a.variables address
      ↔ a.Binds address key value) ∧
    (∀ bindings : Variables, bindings.Increasing →
      (∀ key value, (key, value) ∈ bindings
        ↔ a.Binds address key value) →
      ∀ elevated, a.assemble elevated address
        = String.join (bindings.map fun binding =>
            formatAssignment
              (if elevated then a.elevatedFormat else a.format)
              binding.1 binding.2)) ∧
    ∀ entries : List String,
      (∀ key, entriesFor key entries = entriesFor key a.userVars) →
      ∀ elevated,
        ({ a with userVars := entries } : Assembler).assemble elevated
            address
          = a.assemble elevated address := by
  have hincreasing := a.increasing_variables address
  have hbinds : ∀ key value, (key, value) ∈ a.variables address
      ↔ a.Binds address key value := by
    intro key value
    rw [hincreasing.mem_iff, lookup_variables_iff]
  refine ⟨hincreasing, hbinds, ?_, ?_⟩
  · intro bindings hordered hsame elevated
    have heq : bindings = a.variables address :=
      hordered.ext hincreasing fun key value =>
        (hsame key value).trans (hbinds key value).symm
    rw [heq]
    rfl
  · intro entries hentries elevated
    have hvariables := variables_congr address hentries
    unfold Assembler.assemble
    rw [hvariables]
    rfl

/-- A build with two entries for one key and one for another between
them. -/
def interleaved : Assembler :=
  ⟨⟨"win", "iso"⟩, ["A=1", "B=2", "A=3"], "%s=%s;", "%s is %s;"⟩

/-- The entry between the two may as well come first. -/
theorem interleaved_assembles :
    (∀ key, entriesFor key ["B=2", "A=1", "A=3"]
      = entriesFor key interleaved.userVars) ∧
    ({ interleaved with userVars := ["B=2", "A=1", "A=3"] }
        : Assembler).assemble true (some "10.0.2.2:8080")
      = interleaved.assemble true (some "10.0.2.2:8080") := by
  have hentries : ∀ key, entriesFor key ["B=2", "A=1", "A=3"]
      = entriesFor key interleaved.userVars := by
    intro key
    have hfirst : keyOf? "A=1" = some "A" := by decide
    have hbetween : keyOf? "B=2" = some "B" := by decide
    have hlast : keyOf? "A=3" = some "A" := by decide
    by_cases hkey : "A" = key
    · subst hkey
      simp [entriesFor, interleaved, hfirst, hbetween, hlast]
    · simp [entriesFor, interleaved, List.filter_cons, hfirst, hbetween,
        hlast, hkey]
  exact ⟨hentries,
    (assemble_bindings interleaved (some "10.0.2.2:8080")).2.2.2 _ hentries
      true⟩

end RemoteProvision.Environment
