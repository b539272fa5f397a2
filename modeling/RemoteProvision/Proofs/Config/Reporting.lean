/-
What is reported of a configuration.

A problem is there or not there for reasons of its own fields
(`Config.Problem`), and it is reported exactly then, whatever else is
wrong (`mem_issues_iff`).  The problems stand in six groups, one behind
the other.  Four of the groups hold one problem at most; the script files
and the variables have one for each entry that is wrong, in the order of
the entries (`Config.Reported`).

A group is made from the fields of its concern alone, so each of the four
concerns can be mended without a change to what is said of the others
(`issuesOf_congr`).  That the groups are put together in one order is
used in taking them apart again, group by group (`filter_group`) or by
what a group's problems hold (`filterMap_issues`).
-/
import RemoteProvision.Proofs.Config.Resolving
import RemoteProvision.Proofs.Duration.Grammar
import RemoteProvision.Proofs.Environment.Bindings

namespace RemoteProvision

open RemoteProvision.Environment (Assigns)

-- =========================================================== groups

/-- What the fields of a configuration are about. -/
inductive Concern where
  | source
  | credentials
  | environment
  | timeout
deriving DecidableEq

/-- The groups that problems are reported in. -/
inductive Group where
  /-- Both ways of naming script files. -/
  | naming
  | credentials
  /-- Nothing to run, or two kinds of things. -/
  | source
  | files
  | environment
  | timeout
deriving DecidableEq

/-- All groups, in the order of the report. -/
def Group.all : List Group :=
  [.naming, .credentials, .source, .files, .environment, .timeout]

/-- The concern of a group. -/
def Group.concern : Group → Concern
  | .naming => .source
  | .credentials => .credentials
  | .source => .source
  | .files => .source
  | .environment => .environment
  | .timeout => .timeout

/-- The group of a problem.  A text that is no configuration is a problem
of another kind. -/
def Issue.group? : Issue → Option Group
  | .unreadable _ _ => none
  | .parse _ => none
  | .scriptAndScripts => some .naming
  | .missingElevatedPassword => some .credentials
  | .missingElevatedUser => some .credentials
  | .noScripts => some .source
  | .scriptAndInline => some .source
  | .badScript _ _ => some .files
  | .badEnvironmentVar _ => some .environment
  | .badRetryTimeout _ _ => some .timeout

/-- The concern of a problem. -/
def Issue.concern? (issue : Issue) : Option Concern :=
  issue.group?.map Group.concern

/-- The path of a script file that is not there. -/
def Issue.file? : Issue → Option String
  | .badScript path _ => some path
  | _ => none

/-- The text of a variable that is no assignment. -/
def Issue.variable? : Issue → Option String
  | .badEnvironmentVar text => some text
  | _ => none

namespace Config

variable {disk : Disk} {c c' : Config} {issue : Issue} {group : Group}

-- ======================================================= conditions

/-- A field that holds a text, and not the empty one. -/
def Given (value : Option String) : Prop :=
  ∃ text, value = some text ∧ text ≠ ""

theorem given_iff {value : Option String} :
    Given value ↔ (nonEmpty value).isSome = true := by
  rw [Option.isSome_iff_exists]
  exact exists_congr fun _ => nonEmpty_eq_some.symm

/-- When a problem is there, by the fields that it is about. -/
inductive Problem (disk : Disk) (c : Config) : Issue → Prop
  | scriptAndScripts :
      Given c.script → c.scripts ≠ [] →
      Problem disk c .scriptAndScripts
  | missingElevatedPassword :
      Given c.elevatedUser → ¬ Given c.elevatedPassword →
      Problem disk c .missingElevatedPassword
  | missingElevatedUser :
      ¬ Given c.elevatedUser → Given c.elevatedPassword →
      Problem disk c .missingElevatedUser
  | noScripts :
      ¬ Given c.script → c.scripts = [] → c.inlineCommands = [] →
      Problem disk c .noScripts
  | scriptAndInline :
      (Given c.script ∨ c.scripts ≠ []) → c.inlineCommands ≠ [] →
      Problem disk c .scriptAndInline
  | badScript {path : String} {fault : IoFault} :
      path ∈ c.scriptFiles → disk.check path = .error fault →
      Problem disk c (.badScript path fault.message)
  | badEnvironmentVar {text : String} :
      text ∈ c.environmentVars →
      (∀ key value, ¬ Assigns text key value) →
      Problem disk c (.badEnvironmentVar text)
  | badRetryTimeout {fault : Duration.Fault} :
      c.startRetryTimeout ≠ "" →
      Duration.read c.startRetryTimeout = .error fault →
      Problem disk c (.badRetryTimeout c.startRetryTimeout fault.message)

/-- There are script files when a script or a list is given. -/
theorem scriptFiles_eq_nil :
    c.scriptFiles = [] ↔ ¬ Given c.script ∧ c.scripts = [] := by
  rw [given_iff]
  unfold scriptFiles
  cases nonEmpty c.script with
  | none => simp
  | some script => simp

-- ------------------------------------------------- group by group

theorem mem_namingIssues :
    issue ∈ c.namingIssues ↔
      issue = .scriptAndScripts ∧ Given c.script ∧ c.scripts ≠ [] := by
  rw [given_iff]
  unfold namingIssues
  split
  · next hboth => simp [hboth]
  · next hone => simp [hone]

theorem mem_credentialIssues :
    issue ∈ c.credentialIssues ↔
      (issue = .missingElevatedPassword ∧ Given c.elevatedUser ∧
        ¬ Given c.elevatedPassword) ∨
      (issue = .missingElevatedUser ∧ ¬ Given c.elevatedUser ∧
        Given c.elevatedPassword) := by
  rw [given_iff, given_iff]
  unfold credentialIssues
  cases nonEmpty c.elevatedUser with
  | none =>
      cases nonEmpty c.elevatedPassword with
      | none => simp
      | some password => simp
  | some user =>
      cases nonEmpty c.elevatedPassword with
      | none => simp
      | some password => simp

theorem mem_sourceIssues :
    issue ∈ c.sourceIssues ↔
      (issue = .noScripts ∧ ¬ Given c.script ∧ c.scripts = [] ∧
        c.inlineCommands = []) ∨
      (issue = .scriptAndInline ∧ (Given c.script ∨ c.scripts ≠ []) ∧
        c.inlineCommands ≠ []) := by
  have hfiles : c.scriptFiles ≠ [] ↔ Given c.script ∨ c.scripts ≠ [] := by
    rw [Ne, scriptFiles_eq_nil, Classical.not_and_iff_not_or_not,
      Classical.not_not]
  rw [← hfiles, ← and_assoc (a := ¬ Given c.script),
    ← scriptFiles_eq_nil]
  unfold sourceIssues
  by_cases hnone : c.scriptFiles = []
  · by_cases hinline : c.inlineCommands = []
    · simp [hnone, hinline]
    · simp [hnone, hinline]
  · by_cases hinline : c.inlineCommands = []
    · simp [hnone, hinline]
    · simp [hnone, hinline]

theorem mem_fileIssues :
    issue ∈ c.fileIssues disk ↔
      ∃ path fault, issue = .badScript path fault.message ∧
        path ∈ c.scriptFiles ∧ disk.check path = .error fault := by
  unfold fileIssues fileIssue
  rw [List.mem_filterMap]
  constructor
  · intro h
    obtain ⟨path, hpath, hissue⟩ := h
    cases hcheck : disk.check path with
    | ok =>
        rw [hcheck] at hissue
        cases hissue
    | error fault =>
        rw [hcheck] at hissue
        cases hissue
        exact ⟨path, fault, rfl, hpath, hcheck⟩
  · intro h
    obtain ⟨path, fault, rfl, hpath, hcheck⟩ := h
    refine ⟨path, hpath, ?_⟩
    rw [hcheck]

/-- A text is split unless it is no assignment. -/
theorem splitAssignment_isNone {text : String} :
    (Environment.splitAssignment text).isNone = true ↔
      ∀ key value, ¬ Assigns text key value := by
  rw [Option.isNone_iff_eq_none, Option.eq_none_iff_forall_ne_some]
  constructor
  · intro h key value hassigns
    exact h (key, value) (Environment.splitAssignment_iff.2 hassigns)
  · rintro h ⟨key, value⟩ hsplit
    exact h key value (Environment.splitAssignment_iff.1 hsplit)

theorem mem_variableIssues :
    issue ∈ c.variableIssues ↔
      ∃ text, issue = .badEnvironmentVar text ∧
        text ∈ c.environmentVars ∧
        ∀ key value, ¬ Assigns text key value := by
  unfold variableIssues
  rw [List.mem_map]
  refine exists_congr fun text => ?_
  rw [List.mem_filter, splitAssignment_isNone, eq_comm, and_comm]

theorem mem_timeoutIssues :
    issue ∈ c.timeoutIssues ↔
      ∃ fault : Duration.Fault,
        issue = .badRetryTimeout c.startRetryTimeout fault.message ∧
        c.startRetryTimeout ≠ "" ∧
        Duration.read c.startRetryTimeout = .error fault := by
  unfold timeoutIssues
  by_cases hempty : c.startRetryTimeout = ""
  · simp [hempty]
  · cases Duration.read c.startRetryTimeout with
    | ok d => simp [hempty]
    | error fault => simp [hempty]

-- ================================================= the whole report

/-- The problems of a group. -/
def issuesOf (disk : Disk) (c : Config) : Group → List Issue
  | .naming => c.namingIssues
  | .credentials => c.credentialIssues
  | .source => c.sourceIssues
  | .files => c.fileIssues disk
  | .environment => c.variableIssues
  | .timeout => c.timeoutIssues

/-- They are reported group by group. -/
theorem issues_eq (disk : Disk) (c : Config) :
    c.issues disk = Group.all.flatMap (c.issuesOf disk) := by
  simp [issues, Group.all, issuesOf]

/-- A problem of a group is there and belongs to it. -/
theorem mem_issuesOf :
    issue ∈ c.issuesOf disk group ↔
      c.Problem disk issue ∧ issue.group? = some group := by
  cases group with
  | naming =>
      rw [issuesOf, mem_namingIssues]
      constructor
      · intro h
        obtain ⟨rfl, hscript, hscripts⟩ := h
        exact ⟨.scriptAndScripts hscript hscripts, rfl⟩
      · intro h
        obtain ⟨hproblem, hgroup⟩ := h
        cases hproblem with
        | scriptAndScripts hscript hscripts =>
            exact ⟨rfl, hscript, hscripts⟩
        | _ => cases hgroup
  | credentials =>
      rw [issuesOf, mem_credentialIssues]
      constructor
      · intro h
        rcases h with ⟨rfl, huser, hpassword⟩ | ⟨rfl, huser, hpassword⟩
        · exact ⟨.missingElevatedPassword huser hpassword, rfl⟩
        · exact ⟨.missingElevatedUser huser hpassword, rfl⟩
      · intro h
        obtain ⟨hproblem, hgroup⟩ := h
        cases hproblem with
        | missingElevatedPassword huser hpassword =>
            exact .inl ⟨rfl, huser, hpassword⟩
        | missingElevatedUser huser hpassword =>
            exact .inr ⟨rfl, huser, hpassword⟩
        | _ => cases hgroup
  | source =>
      rw [issuesOf, mem_sourceIssues]
      constructor
      · intro h
        rcases h with ⟨rfl, hscript, hscripts, hinline⟩
          | ⟨rfl, hfiles, hinline⟩
        · exact ⟨.noScripts hscript hscripts hinline, rfl⟩
        · exact ⟨.scriptAndInline hfiles hinline, rfl⟩
      · intro h
        obtain ⟨hproblem, hgroup⟩ := h
        cases hproblem with
        | noScripts hscript hscripts hinline =>
            exact .inl ⟨rfl, hscript, hscripts, hinline⟩
        | scriptAndInline hfiles hinline =>
            exact .inr ⟨rfl, hfiles, hinline⟩
        | _ => cases hgroup
  | files =>
      rw [issuesOf, mem_fileIssues]
      constructor
      · intro h
        obtain ⟨path, fault, rfl, hpath, hcheck⟩ := h
        exact ⟨.badScript hpath hcheck, rfl⟩
      · intro h
        obtain ⟨hproblem, hgroup⟩ := h
        cases hproblem with
        | badScript hpath hcheck => exact ⟨_, _, rfl, hpath, hcheck⟩
        | _ => cases hgroup
  | environment =>
      rw [issuesOf, mem_variableIssues]
      constructor
      · intro h
        obtain ⟨text, rfl, hentry, hassigns⟩ := h
        exact ⟨.badEnvironmentVar hentry hassigns, rfl⟩
      · intro h
        obtain ⟨hproblem, hgroup⟩ := h
        cases hproblem with
        | badEnvironmentVar hentry hassigns =>
            exact ⟨_, rfl, hentry, hassigns⟩
        | _ => cases hgroup
  | timeout =>
      rw [issuesOf, mem_timeoutIssues]
      constructor
      · intro h
        obtain ⟨fault, rfl, hgiven, hread⟩ := h
        exact ⟨.badRetryTimeout hgiven hread, rfl⟩
      · intro h
        obtain ⟨hproblem, hgroup⟩ := h
        cases hproblem with
        | badRetryTimeout hgiven hread => exact ⟨_, rfl, hgiven, hread⟩
        | _ => cases hgroup

/-- A problem that is there is in some group. -/
theorem Problem.exists_group (h : c.Problem disk issue) :
    ∃ g ∈ Group.all, issue.group? = some g := by
  cases h <;> exact ⟨_, by decide, rfl⟩

/-- A problem is reported exactly when it is there. -/
theorem mem_issues_iff :
    issue ∈ c.issues disk ↔ c.Problem disk issue := by
  rw [issues_eq, List.mem_flatMap]
  constructor
  · intro h
    obtain ⟨g, -, hissue⟩ := h
    exact (mem_issuesOf.1 hissue).1
  · intro hproblem
    obtain ⟨g, hall, hgroup⟩ := hproblem.exists_group
    exact ⟨g, hall, mem_issuesOf.2 ⟨hproblem, hgroup⟩⟩

/-- What only one group has a part in is that part. -/
theorem flatMap_groups {α : Type} {parts : Group → List α}
    (h : ∀ other, other ≠ group → parts other = []) :
    Group.all.flatMap parts = parts group := by
  cases group <;> simp [Group.all, h]

/-- The problems of one group stand in that group. -/
theorem filter_group (disk : Disk) (c : Config) (group : Group) :
    (c.issues disk).filter (·.group? = some group)
      = c.issuesOf disk group := by
  rw [issues_eq, List.filter_flatMap, flatMap_groups]
  · refine List.filter_eq_self.2 fun issue hissue => ?_
    exact decide_eq_true (mem_issuesOf.1 hissue).2
  · intro other hother
    refine List.filter_eq_nil_iff.2 fun issue hissue hgroup => ?_
    rw [(mem_issuesOf.1 hissue).2] at hgroup
    exact hother (by simpa using hgroup)

/-- What is looked for in one group only is found there. -/
theorem filterMap_issues {α : Type} {f : Issue → Option α}
    (h : ∀ issue, issue.group? ≠ some group → f issue = none) :
    (c.issues disk).filterMap f
      = (c.issuesOf disk group).filterMap f := by
  rw [issues_eq, List.filterMap_flatMap, flatMap_groups]
  intro other hother
  refine List.filterMap_eq_nil_iff.2 fun issue hissue => h issue ?_
  rw [(mem_issuesOf.1 hissue).2]
  exact fun hsame => hother (Option.some.inj hsame)

-- ------------------------------------------------ entry by entry

/-- Every script file that is not there is named, as often as it is
listed. -/
theorem files_reported :
    (c.issues disk).filterMap Issue.file?
      = c.scriptFiles.filter fun path => !(disk.check path).isOk := by
  have hnone : ∀ issue : Issue, issue.group? ≠ some .files →
      issue.file? = none := by
    intro issue hgroup
    cases issue <;> first | rfl | exact absurd rfl hgroup
  have hfile : ∀ path, (fileIssue disk path).bind Issue.file?
      = if !(disk.check path).isOk then some path else none := by
    intro path
    unfold fileIssue
    cases disk.check path with
    | ok => rfl
    | error fault => rfl
  rw [filterMap_issues hnone]
  show (c.scriptFiles.filterMap (fileIssue disk)).filterMap _ = _
  rw [List.filterMap_filterMap, funext hfile, ← List.filterMap_eq_filter]
  rfl

/-- So is every variable that is no assignment. -/
theorem variables_reported :
    (c.issues disk).filterMap Issue.variable?
      = c.environmentVars.filter fun text =>
          (Environment.splitAssignment text).isNone := by
  have hnone : ∀ issue : Issue, issue.group? ≠ some .environment →
      issue.variable? = none := by
    intro issue hgroup
    cases issue <;> first | rfl | exact absurd rfl hgroup
  rw [filterMap_issues hnone]
  show List.filterMap _ ((c.environmentVars.filter _).map _) = _
  rw [List.filterMap_map]
  exact List.filterMap_some

/-- In the other groups there is one problem at most. -/
theorem length_issuesOf_le (hfiles : group ≠ .files)
    (hvariables : group ≠ .environment) :
    (c.issuesOf disk group).length ≤ 1 := by
  cases group with
  | naming =>
      show c.namingIssues.length ≤ 1
      unfold namingIssues
      split <;> simp
  | credentials =>
      show c.credentialIssues.length ≤ 1
      unfold credentialIssues
      split <;> simp
  | source =>
      show c.sourceIssues.length ≤ 1
      unfold sourceIssues
      split
      · simp
      · split <;> simp
  | files => exact absurd rfl hfiles
  | environment => exact absurd rfl hvariables
  | timeout =>
      show c.timeoutIssues.length ≤ 1
      unfold timeoutIssues
      split
      · simp
      · split <;> simp

-- ========================================================= concerns

/-- Two configurations that say the same of a concern.  An empty text
says nothing. -/
def SameOn (c c' : Config) : Concern → Prop
  | .source =>
    nonEmpty c.script = nonEmpty c'.script ∧ c.scripts = c'.scripts ∧
      c.inlineCommands = c'.inlineCommands
  | .credentials =>
    nonEmpty c.elevatedUser = nonEmpty c'.elevatedUser ∧
      nonEmpty c.elevatedPassword = nonEmpty c'.elevatedPassword
  | .environment => c.environmentVars = c'.environmentVars
  | .timeout => c.startRetryTimeout = c'.startRetryTimeout

theorem scriptFiles_congr (h : c.SameOn c' .source) :
    c.scriptFiles = c'.scriptFiles := by
  obtain ⟨hscript, hscripts, -⟩ := h
  rw [scriptFiles, scriptFiles, hscript, hscripts]

/-- A group is known from what is said of its concern. -/
theorem issuesOf_congr (h : c.SameOn c' group.concern) :
    c.issuesOf disk group = c'.issuesOf disk group := by
  cases group with
  | naming =>
      obtain ⟨hscript, hscripts, -⟩ := h
      simp only [issuesOf, namingIssues, hscript, hscripts]
  | credentials =>
      obtain ⟨huser, hpassword⟩ := h
      simp only [issuesOf, credentialIssues, huser, hpassword]
  | source =>
      have hfiles := scriptFiles_congr h
      obtain ⟨-, -, hinline⟩ := h
      simp only [issuesOf, sourceIssues, hfiles, hinline]
  | files => simp only [issuesOf, fileIssues, scriptFiles_congr h]
  | environment =>
      have hvariables : c.environmentVars = c'.environmentVars := h
      simp only [issuesOf, variableIssues, hvariables]
  | timeout =>
      have htimeout : c.startRetryTimeout = c'.startRetryTimeout := h
      simp only [issuesOf, timeoutIssues, htimeout]

/-- So are the problems of a concern. -/
theorem filter_concern_congr {concern : Concern}
    (h : c.SameOn c' concern) :
    (c.issues disk).filter (·.concern? = some concern)
      = (c'.issues disk).filter (·.concern? = some concern) := by
  have hnone : ∀ (c : Config) (group : Group), group.concern ≠ concern →
      (c.issuesOf disk group).filter (·.concern? = some concern) = [] := by
    intro c group hother
    refine List.filter_eq_nil_iff.2 fun issue hissue hconcern => ?_
    rw [Issue.concern?, (mem_issuesOf.1 hissue).2] at hconcern
    exact hother (by simpa using hconcern)
  have hparts : ∀ group,
      (c.issuesOf disk group).filter (·.concern? = some concern)
        = (c'.issuesOf disk group).filter (·.concern? = some concern) := by
    intro group
    by_cases hsame : group.concern = concern
    · rw [issuesOf_congr (hsame ▸ h)]
    · rw [hnone c group hsame, hnone c' group hsame]
  rw [issues_eq, issues_eq, List.filter_flatMap, List.filter_flatMap,
    funext hparts]

-- ===================================================== empty fields

/-- The fields that may be left empty or left out. -/
inductive Field where
  | buildName
  | builderType
  | inlineCommands
  | script
  | scripts
  | environmentVars
  | remotePath
  | executeCommand
  | elevatedExecuteCommand
  | startRetryTimeout
  | envVarFormat
  | elevatedEnvVarFormat
  | elevatedUser
  | elevatedPassword
  | validExitCodes

/-- A configuration with an empty text or an empty list in a field. -/
def emptied (c : Config) : Field → Config
  | .buildName => { c with buildName := "" }
  | .builderType => { c with builderType := "" }
  | .inlineCommands => { c with inlineCommands := [] }
  | .script => { c with script := some "" }
  | .scripts => { c with scripts := [] }
  | .environmentVars => { c with environmentVars := [] }
  | .remotePath => { c with remotePath := some "" }
  | .executeCommand => { c with executeCommand := "" }
  | .elevatedExecuteCommand => { c with elevatedExecuteCommand := "" }
  | .startRetryTimeout => { c with startRetryTimeout := "" }
  | .envVarFormat => { c with envVarFormat := "" }
  | .elevatedEnvVarFormat => { c with elevatedEnvVarFormat := "" }
  | .elevatedUser => { c with elevatedUser := some "" }
  | .elevatedPassword => { c with elevatedPassword := some "" }
  | .validExitCodes => { c with validExitCodes := [] }

/-- A configuration with a field as it is when it is left out. -/
def without (c : Config) : Field → Config :=
  let absent : Config := {}
  fun
  | .buildName => { c with buildName := absent.buildName }
  | .builderType => { c with builderType := absent.builderType }
  | .inlineCommands => { c with inlineCommands := absent.inlineCommands }
  | .script => { c with script := absent.script }
  | .scripts => { c with scripts := absent.scripts }
  | .environmentVars =>
    { c with environmentVars := absent.environmentVars }
  | .remotePath => { c with remotePath := absent.remotePath }
  | .executeCommand => { c with executeCommand := absent.executeCommand }
  | .elevatedExecuteCommand =>
    { c with elevatedExecuteCommand := absent.elevatedExecuteCommand }
  | .startRetryTimeout =>
    { c with startRetryTimeout := absent.startRetryTimeout }
  | .envVarFormat => { c with envVarFormat := absent.envVarFormat }
  | .elevatedEnvVarFormat =>
    { c with elevatedEnvVarFormat := absent.elevatedEnvVarFormat }
  | .elevatedUser => { c with elevatedUser := absent.elevatedUser }
  | .elevatedPassword =>
    { c with elevatedPassword := absent.elevatedPassword }
  | .validExitCodes => { c with validExitCodes := absent.validExitCodes }

open Duration in
/-- The time for retries that stands in for none can be read. -/
theorem read_startRetryTimeout :
    ∃ d, Duration.read Defaults.startRetryTimeout = .ok d := by
  have hfirst : firstTerm ['5', 'm'] = .ok (⟨5, 0, 60000000000⟩, []) :=
    rfl
  have hterms : terms ['5', 'm'] = .ok [⟨5, 0, 60000000000⟩] := by
    rw [terms_of_firstTerm hfirst, terms]
    rfl
  have hrange :
      (ofMagnitude (total [⟨5, 0, 60000000000⟩])).isOk = true := by
    decide +kernel
  have hbind : ∀ ts : List Term,
      (Except.ok ts : Except Fault (List Term)).bind
        (fun ts => ofMagnitude (total ts)) = ofMagnitude (total ts) :=
    fun _ => rfl
  have hread : Duration.read Defaults.startRetryTimeout
      = ofMagnitude (total [⟨5, 0, 60000000000⟩]) := by
    rw [read_eq (show Text.trim Defaults.startRetryTimeout.toList
      = ['5', 'm'] by decide)]
    show (terms ['5', 'm']).bind _ = _
    rw [hterms, hbind]
  rw [hread]
  cases hmagnitude : ofMagnitude (total [⟨5, 0, 60000000000⟩]) with
  | ok d => exact ⟨d, rfl⟩
  | error fault =>
      rw [hmagnitude] at hrange
      cases hrange

/-- Group by group, an empty field has the problems of one that is left
out. -/
theorem issuesOf_emptied (field : Field) :
    (c.emptied field).issuesOf disk group
      = (c.without field).issuesOf disk group := by
  have hnothing : nonEmpty (some "") = nonEmpty none := by decide
  cases field with
  | script =>
      refine issuesOf_congr ?_
      cases group with
      | naming => exact ⟨hnothing, rfl, rfl⟩
      | source => exact ⟨hnothing, rfl, rfl⟩
      | files => exact ⟨hnothing, rfl, rfl⟩
      | credentials => exact ⟨rfl, rfl⟩
      | environment => rfl
      | timeout => rfl
  | elevatedUser =>
      refine issuesOf_congr ?_
      cases group with
      | credentials => exact ⟨hnothing, rfl⟩
      | environment => rfl
      | timeout => rfl
      | _ => exact ⟨rfl, rfl, rfl⟩
  | elevatedPassword =>
      refine issuesOf_congr ?_
      cases group with
      | credentials => exact ⟨rfl, hnothing⟩
      | environment => rfl
      | timeout => rfl
      | _ => exact ⟨rfl, rfl, rfl⟩
  | startRetryTimeout =>
      cases group with
      | timeout =>
          -- An empty time is not read, and the one that stands in for
          -- it can be.
          obtain ⟨d, hd⟩ := read_startRetryTimeout
          show [] = ({ c with
            startRetryTimeout := Defaults.startRetryTimeout }
              : Config).timeoutIssues
          simp [timeoutIssues, hd]
      | _ => rfl
  | _ => rfl

-- ======================================================= the theorem

/-- What is reported of a configuration. -/
structure Reported (disk : Disk) (c : Config) (issues : List Issue) :
    Prop where
  /-- Each problem is reported exactly when it is there. -/
  problems : ∀ issue, issue ∈ issues ↔ c.Problem disk issue
  /-- They are reported group by group. -/
  grouped : issues = Group.all.flatMap fun group =>
    issues.filter (·.group? = some group)
  /-- Of most groups there is one problem at most. -/
  single : ∀ group : Group, group ≠ .files → group ≠ .environment →
    (issues.filter (·.group? = some group)).length ≤ 1
  /-- Each script file that is not there is named, as often as it is
  listed and in that order. -/
  files : issues.filterMap Issue.file?
    = c.scriptFiles.filter fun path => !(disk.check path).isOk
  /-- So is each variable that is no assignment. -/
  environment : issues.filterMap Issue.variable?
    = c.environmentVars.filter fun text =>
        (Environment.splitAssignment text).isNone

/-- Over any configuration and local files, each problem is reported
exactly when it is there, in its place.  What is reported of a concern is
known from what the configuration says of that concern, and leaving a
field empty is leaving it out. -/
theorem issues_reported (disk : Disk) (c : Config) :
    Reported disk c (c.issues disk) ∧
    (∀ concern c', c.SameOn c' concern →
      (c.issues disk).filter (·.concern? = some concern)
        = (c'.issues disk).filter (·.concern? = some concern)) ∧
    ∀ field,
      (c.emptied field).issues disk = (c.without field).issues disk := by
  refine ⟨⟨fun _ => mem_issues_iff, ?_, ?_, files_reported,
    variables_reported⟩, fun _ _ => filter_concern_congr, ?_⟩
  · rw [funext (filter_group disk c)]
    exact issues_eq disk c
  · intro group hfiles hvariables
    rw [filter_group]
    exact length_issuesOf_le hfiles hvariables
  · intro field
    rw [issues_eq, issues_eq]
    exact congrArg (Group.all.flatMap ·)
      (funext fun _ => issuesOf_emptied field)

/-- A configuration with something wrong in each concern. -/
def troubled : Config where
  inlineCommands := ["dir"]
  scripts := ["setup.ps1", "missing.ps1", "missing.ps1"]
  environmentVars := ["MODE", "LEVEL=3", "=3"]
  startRetryTimeout := "soon"
  elevatedUser := some "admin"

/-- Local files with one of its scripts. -/
def oneScript : Disk where
  items := [(["setup.ps1"], .file [] false)]
  home := []
  staging := "/"
  spare := none

/-- With a password its credentials are right, and the rest is as wrong
as before. -/
theorem troubled_mended :
    troubled.SameOn { troubled with elevatedPassword := some "secret" }
      .source ∧
    (troubled.issues oneScript).filter (·.concern? = some .source)
      = (Config.issues oneScript
          { troubled with elevatedPassword := some "secret" }).filter
            (·.concern? = some .source) :=
  have hsame : troubled.SameOn
      { troubled with elevatedPassword := some "secret" } .source :=
    ⟨rfl, rfl, rfl⟩
  ⟨hsame, (issues_reported oneScript troubled).2.1 _ _ hsame⟩

/-- All that is wrong with it is reported. -/
example : (troubled.issues oneScript).map Issue.group?
    = [some .credentials, some .source, some .files, some .files,
        some .environment, some .environment, some .timeout] := by
  decide +kernel

end Config

end RemoteProvision
