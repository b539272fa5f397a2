/-
What resolving guarantees.

A configuration is checked in one place and its defaults are filled in
in another.  A run relies on both: that there is something to run, and
only of one kind, that no text it works with is empty, that the time for
retries is positive and fits into 64 bits, and that every variable is
bound.  The checks and the defaults agree on this, whatever the fields
of the configuration are (`resolve_resolved`).

The settings of a configuration without problems are known
(`resolve_clean`), so each fact is about the one function that fills its
field.
-/
import RemoteProvision.Config.Reading
import RemoteProvision.Proofs.Environment.Assembly
import RemoteProvision.Run.Provision

namespace RemoteProvision

-- ======================================================= durations

/-- A duration that was read fits into 64 bits of nanoseconds. -/
theorem Duration.read_le_largest {text : String} {d : Duration}
    (h : Duration.read text = .ok d) : d.nanos ≤ Duration.largest := by
  have hmagnitude : ∀ m : Magnitude, ofMagnitude m = .ok d →
      d.nanos ≤ largest := by
    intro m hm
    cases m with
    | infinite => cases hm
    | finite units =>
        unfold ofMagnitude at hm
        dsimp only at hm
        split at hm
        · cases hm
        · cases hm
          exact Nat.min_le_right _ _
  unfold read at h
  split at h
  · cases h
  · cases h
    exact Nat.zero_le _
  · cases h
  · cases hterms : terms (dropPlus (Text.trim text.toList)) with
    | error fault =>
        rw [hterms] at h
        cases h
    | ok ts =>
        rw [hterms] at h
        exact hmagnitude _ h

namespace Config

variable {disk : Disk} {c : Config} {ids : Feed String}

-- ==================================================== empty fields

theorem nonEmpty_eq_some {value : Option String} {text : String} :
    nonEmpty value = some text ↔ value = some text ∧ text ≠ "" := by
  unfold nonEmpty
  rw [Option.filter_eq_some_iff]
  simp

theorem nonEmpty_eq_none {value : Option String} :
    nonEmpty value = none ↔ value = none ∨ value = some "" := by
  cases value with
  | none => simp [nonEmpty]
  | some text => simp [nonEmpty]

theorem orDefault_ne_empty {value default : String} (h : default ≠ "") :
    orDefault value default ≠ "" := by
  unfold orDefault
  split
  · exact h
  · next hne =>
    rintro rfl
    exact hne rfl

-- ======================================================= the checks

/-- There are no problems when no concern has any. -/
theorem issues_eq_nil :
    c.issues disk = [] ↔
      c.namingIssues = [] ∧ c.credentialIssues = [] ∧
      c.sourceIssues = [] ∧ c.fileIssues disk = [] ∧
      c.variableIssues = [] ∧ c.timeoutIssues = [] := by
  simp only [issues, List.append_eq_nil_iff, and_assoc]

/-- Without a problem there is one kind of things to run. -/
theorem source_of_clean (h : c.sourceIssues = []) :
    (c.scriptFiles = [] ∧ c.inlineCommands ≠ []) ∨
    (c.scriptFiles ≠ [] ∧ c.inlineCommands = []) := by
  unfold sourceIssues at h
  by_cases hscripts : c.scriptFiles = []
  · by_cases hcommands : c.inlineCommands = []
    · rw [if_pos ⟨hscripts, hcommands⟩] at h
      cases h
    · exact .inl ⟨hscripts, hcommands⟩
  · by_cases hcommands : c.inlineCommands = []
    · exact .inr ⟨hscripts, hcommands⟩
    · rw [if_neg fun both => hscripts both.1,
        if_pos ⟨hscripts, hcommands⟩] at h
      cases h

/-- Without a problem every variable is an assignment. -/
theorem split_of_clean (h : c.variableIssues = []) {entry : String}
    (hentry : entry ∈ c.environmentVars) :
    ∃ key value,
      Environment.splitAssignment entry = some (key, value) := by
  unfold variableIssues at h
  rw [List.map_eq_nil_iff, List.filter_eq_nil_iff] at h
  have hsplit := h entry hentry
  cases hkey : Environment.splitAssignment entry with
  | none =>
      rw [hkey] at hsplit
      exact absurd rfl hsplit
  | some parts => exact ⟨parts.1, parts.2, rfl⟩

-- ===================================================== the defaults

/-- The time for retries is positive and fits into 64 bits, even where
it cannot be read. -/
theorem retryTimeout_bounds (c : Config) :
    0 < c.retryTimeout.nanos ∧
    c.retryTimeout.nanos ≤ Duration.largest := by
  have hdefault : 0 < (Duration.ofSeconds 300).nanos ∧
      (Duration.ofSeconds 300).nanos ≤ Duration.largest := by decide
  unfold retryTimeout
  cases hread : Duration.read c.startRetryTimeout with
  | error fault => exact hdefault
  | ok timeout =>
      dsimp only
      split
      · exact hdefault
      · next hpos =>
        exact ⟨Nat.pos_of_ne_zero hpos, Duration.read_le_largest hread⟩

/-- The credentials are those of the configuration, if neither part is
empty. -/
theorem credentials_eq_some {user password : String} :
    c.credentials = some ⟨user, password⟩ ↔
      (c.elevatedUser = some user ∧ user ≠ "") ∧
      c.elevatedPassword = some password ∧ password ≠ "" := by
  rw [← nonEmpty_eq_some, ← nonEmpty_eq_some]
  unfold credentials
  cases nonEmpty c.elevatedUser with
  | none => simp
  | some u =>
      cases nonEmpty c.elevatedPassword with
      | none => simp
      | some p => simp

theorem remotePath_ne_empty (id : String) :
    Defaults.remotePath id ≠ "" := by
  have hfolder : "c:/Windows/Temp/script-" ≠ "" := by decide
  unfold Defaults.remotePath
  intro h
  exact hfolder (String.append_eq_empty_iff.1
    (String.append_eq_empty_iff.1 h).1).1

/-- The upload path is not empty. -/
theorem uploadPath_ne_empty (c : Config) (ids : Feed String) :
    (c.uploadPath ids).1 ≠ "" := by
  unfold uploadPath
  cases hpath : nonEmpty c.remotePath with
  | none => exact remotePath_ne_empty _
  | some path => exact (nonEmpty_eq_some.1 hpath).2

/-- An id is drawn for the upload path only if none is given. -/
theorem uploadPath_ids (c : Config) (ids : Feed String) :
    (c.uploadPath ids).2
      = if c.remotePath = none ∨ c.remotePath = some "" then ids.next.2
        else ids := by
  unfold uploadPath
  cases hpath : nonEmpty c.remotePath with
  | none => rw [if_pos (nonEmpty_eq_none.1 hpath)]
  | some path =>
      rw [if_neg]
      intro hnone
      rw [nonEmpty_eq_none.2 hnone] at hpath
      cases hpath

-- ======================================================= resolving

/-- A configuration without problems has settings. -/
theorem resolve_clean (h : c.issues disk = []) :
    c.resolve disk ids
      = (.ok (c.settingsAt (c.uploadPath ids).1),
          (c.uploadPath ids).2) := by
  simp only [resolve, validate, if_pos h]

/-- One with problems is refused with all of them. -/
theorem resolve_refused (h : c.issues disk ≠ []) :
    c.resolve disk ids = (.error (.config (c.issues disk)), ids) := by
  simp only [resolve, validate, if_neg h]

/-- What is resolved is what a configuration without problems has. -/
theorem resolve_ok {settings : Settings} {left : Feed String}
    (h : c.resolve disk ids = (.ok settings, left)) :
    c.issues disk = [] ∧
    settings = c.settingsAt (c.uploadPath ids).1 ∧
    left = (c.uploadPath ids).2 := by
  by_cases hclean : c.issues disk = []
  · rw [resolve_clean hclean] at h
    cases h
    exact ⟨hclean, rfl, rfl⟩
  · rw [resolve_refused hclean] at h
    cases h

/-- A text that was accepted holds a configuration without problems. -/
theorem clean_of_ofYaml {text : String}
    (h : ofYaml disk text = .ok c) : c.issues disk = [] := by
  unfold ofYaml at h
  cases hparse : parse text with
  | error issue =>
      rw [hparse] at h
      cases h
  | ok parsed =>
      rw [hparse] at h
      dsimp only [validate] at h
      split at h
      · next hclean =>
        cases h
        exact hclean
      · cases h

/-- What the settings of a configuration are good for. -/
structure Resolved (c : Config) (settings : Settings) : Prop where
  /-- Script files or inline commands, and not both. -/
  source :
    (settings.scripts = [] ∧ settings.inlineCommands ≠ []) ∨
    (settings.scripts ≠ [] ∧ settings.inlineCommands = [])
  /-- So there is a script in every run. -/
  runs : ∀ disk scripts disk',
    Run.collect settings disk = .ok (scripts, disk') →
    scripts.paths ≠ []
  elevated : ∀ user password,
    settings.elevated = some ⟨user, password⟩ ↔
      (c.elevatedUser = some user ∧ user ≠ "") ∧
      c.elevatedPassword = some password ∧ password ≠ ""
  codes : settings.validExitCodes ≠ []
  remotePath : settings.remotePath ≠ ""
  executeCommand : settings.executeCommand ≠ ""
  elevatedExecuteCommand : settings.elevatedExecuteCommand ≠ ""
  envVarFormat : settings.envVarFormat ≠ ""
  elevatedEnvVarFormat : settings.elevatedEnvVarFormat ≠ ""
  /-- The time for retries in nanoseconds is positive and has 64
  bits. -/
  timeout :
    0 < settings.startRetryTimeout.nanos ∧
    settings.startRetryTimeout.nanos ≤ 18446744073709551615
  /-- Every entry is a key and a value around its first equals sign, and
  is bound unless a later entry has the same key. -/
  bound : ∀ front entry behind,
    settings.environmentVars = front ++ entry :: behind →
    ∃ key value,
      Environment.splitAssignment entry = some (key, value) ∧
      entry = key ++ "=" ++ value ∧ key ≠ "" ∧ '=' ∉ key.toList ∧
      ((∀ later ∈ behind,
          (Environment.splitAssignment later).map Prod.fst
            ≠ some key) →
        ∀ address,
          (settings.environment.variables address).lookup key
            = some value)

/-- The scripts of a run are those files, or the one that is staged. -/
theorem collect_paths_ne_nil {settings : Settings} {disk' : Disk}
    {scripts : Run.Scripts}
    (hsource : settings.scripts ≠ [] ∨ settings.inlineCommands ≠ [])
    (h : Run.collect settings disk = .ok (scripts, disk')) :
    scripts.paths ≠ [] := by
  unfold Run.collect at h
  split at h
  · next hinline =>
    cases h
    exact hsource.resolve_right fun hne => hne hinline
  · split at h
    · cases h
    · cases h
      exact List.append_ne_nil_of_right_ne_nil _ (List.cons_ne_nil _ _)

theorem resolved_of_clean (h : c.issues disk = []) (ids : Feed String) :
    Resolved c (c.settingsAt (c.uploadPath ids).1) := by
  obtain ⟨-, -, hsource, -, hvariables, -⟩ := issues_eq_nil.1 h
  have hkinds := source_of_clean hsource
  refine ⟨hkinds, ?_, fun _ _ => credentials_eq_some, ?_,
    uploadPath_ne_empty c ids, orDefault_ne_empty (by decide),
    orDefault_ne_empty (by decide), orDefault_ne_empty (by decide),
    orDefault_ne_empty (by decide), c.retryTimeout_bounds, ?_⟩
  · intro disk scripts disk' hcollect
    refine collect_paths_ne_nil ?_ hcollect
    rcases hkinds with ⟨-, hcommands⟩ | ⟨hscripts, -⟩
    · exact .inr hcommands
    · exact .inl hscripts
  · show (if c.validExitCodes = [] then Defaults.validExitCodes
      else c.validExitCodes) ≠ []
    split
    · exact List.cons_ne_nil _ _
    · next hcodes => exact hcodes
  · intro front entry behind hentries
    have hentry : entry ∈ c.environmentVars := by
      rw [show c.environmentVars = front ++ entry :: behind from hentries]
      exact List.mem_append_right _ (List.mem_cons_self ..)
    obtain ⟨key, value, hsplit⟩ := split_of_clean hvariables hentry
    obtain ⟨htext, hkey, hequals⟩ :=
      Environment.splitAssignment_iff.1 hsplit
    exact ⟨key, value, hsplit, htext, hkey, hequals,
      Environment.lookup_variables hentries hsplit⟩

/-- Over any configuration, local files and ids: resolving succeeds
exactly when there are no problems, so it does for what was accepted
when it was read.  What it then gives is good for a run.  An id is drawn
only for an upload path that is not given, and none when resolving
fails. -/
theorem resolve_resolved (disk : Disk) (c : Config)
    (ids : Feed String) :
    ((∃ settings, (c.resolve disk ids).1 = .ok settings) ↔
      c.issues disk = []) ∧
    (∀ text, ofYaml disk text = .ok c →
      ∃ settings, (c.resolve disk ids).1 = .ok settings) ∧
    (∀ settings, (c.resolve disk ids).1 = .ok settings →
      Resolved c settings ∧
      (c.resolve disk ids).2
        = if c.remotePath = none ∨ c.remotePath = some "" then
            ids.next.2
          else ids) ∧
    ∀ e, (c.resolve disk ids).1 = .error e →
      (c.resolve disk ids).2 = ids := by
  by_cases hclean : c.issues disk = []
  · rw [resolve_clean hclean]
    refine ⟨⟨fun _ => hclean, fun _ => ⟨_, rfl⟩⟩, fun _ _ => ⟨_, rfl⟩,
      ?_, nofun⟩
    rintro settings ⟨⟩
    exact ⟨resolved_of_clean hclean ids, uploadPath_ids c ids⟩
  · rw [resolve_refused hclean]
    refine ⟨⟨nofun, fun h => absurd h hclean⟩, fun text htext => ?_,
      nofun, fun _ _ => rfl⟩
    exact absurd (clean_of_ofYaml htext) hclean

end Config

end RemoteProvision
