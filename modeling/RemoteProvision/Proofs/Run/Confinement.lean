/-
Where a password goes.

Two configurations that differ in a password have the same problems.
Without problems they become settings that differ in the password of
their credentials only (`resolve_withPassword`), and no debugging text
shows that (`Settings.debugText_runAs`).

The run of such settings reads the password at one place, when it fills
the wrapper script.  So over channels that do not look at what is
uploaded (`UpToContent`), two runs with two passwords go the same way
(`provision_agree`): they tell the user the same, end with the same
verdict, and ask their channels for the same, but for the contents of the
wrapper scripts (`UpToPassword`).
-/
import RemoteProvision.Channel.Recording
import RemoteProvision.Proofs.Config.Resolving
import RemoteProvision.Proofs.Run.Twins

namespace RemoteProvision

open RemoteProvision.Command

variable {password password' : String}

-- ==================================================== configurations

/-- A configuration with another password. -/
def Config.withPassword (c : Config) (password : String) : Config :=
  { c with elevatedPassword := some password }

namespace Config

variable {c : Config} {disk : Disk}

theorem elevatedPassword_withPassword (h : password ≠ "") :
    nonEmpty (c.withPassword password).elevatedPassword = some password :=
  nonEmpty_eq_some.2 ⟨rfl, h⟩

theorem elevatedUser_withPassword :
    (c.withPassword password).elevatedUser = c.elevatedUser := rfl

theorem credentialIssues_withPassword (h : password ≠ "") :
    (c.withPassword password).credentialIssues
      = match nonEmpty c.elevatedUser with
        | some _ => []
        | none => [.missingElevatedUser] := by
  rw [credentialIssues, elevatedPassword_withPassword h,
    elevatedUser_withPassword]
  cases nonEmpty c.elevatedUser with
  | none => rfl
  | some user => rfl

theorem credentials_withPassword (h : password ≠ "") :
    (c.withPassword password).credentials
      = (nonEmpty c.elevatedUser).map fun user => ⟨user, password⟩ := by
  rw [credentials, elevatedPassword_withPassword h,
    elevatedUser_withPassword]
  cases nonEmpty c.elevatedUser with
  | none => rfl
  | some user => rfl

/-- The problems of a configuration are the same for every password. -/
theorem issues_withPassword (h : password ≠ "") (h' : password' ≠ "") :
    (c.withPassword password).issues disk
      = (c.withPassword password').issues disk := by
  unfold issues
  rw [credentialIssues_withPassword h, credentialIssues_withPassword h']
  rfl

/-- So are the settings, but for the credentials, and the ids that are
left. -/
theorem resolve_withPassword (h : password ≠ "") (h' : password' ≠ "")
    (ids : Feed String) :
    (c.withPassword password').resolve disk ids
      = Prod.map
          (Except.map fun settings =>
            settings.runAs (c.withPassword password').credentials)
          id ((c.withPassword password).resolve disk ids) := by
  unfold resolve validate
  rw [issues_withPassword h' h]
  by_cases hissues : (c.withPassword password).issues disk = []
  · rw [if_pos hissues, if_pos hissues]
    rfl
  · rw [if_neg hissues, if_neg hissues]
    rfl

/-- The credentials that are resolved. -/
theorem elevated_of_resolve {settings : Settings} {left ids : Feed String}
    (h : c.resolve disk ids = (.ok settings, left)) :
    settings.elevated = c.credentials := by
  obtain ⟨-, rfl, -⟩ := resolve_ok h
  rfl

end Config

-- =================================================== debugging texts

/-- A debugging text shows of the credentials what their own text
shows. -/
theorem Settings.debugText_runAs {settings : Settings}
    {elevated : Option Credentials}
    (h : elevated.map Credentials.debugText
      = settings.elevated.map Credentials.debugText) :
    (settings.runAs elevated).debugText = settings.debugText := by
  unfold Settings.debugText
  rw [← h]
  rfl

-- ============================================================== runs

/-- Sources that are the same, or differ in nothing but the bytes to
upload. -/
inductive Source.UpToContent : Source → Source → Prop
  | same (source : Source) : UpToContent source source
  | bytes (content content' : Text.Bytes) :
      UpToContent (.bytes content) (.bytes content')

namespace Run

/-- Steps that are the same, or upload the wrapper of one command to one
file, filled with one password or with the other. -/
inductive Step.UpToPassword (password password' : String) :
    Step → Step → Prop
  | same (step : Step) : UpToPassword password password' step step
  | wrapper (user command taskId fileId : String)
      (result : Except ChannelFault Unit) :
      UpToPassword password password'
        (.upload (wrapperFile fileId).uploadPath
          (.ok (Text.toBytes
            (taskOf ⟨user, password⟩ command taskId).script))
          false result)
        (.upload (wrapperFile fileId).uploadPath
          (.ok (Text.toBytes
            (taskOf ⟨user, password'⟩ command taskId).script))
          false result)

theorem Step.UpToPassword.entry? {step step' : Step}
    (h : Step.UpToPassword password password' step step') :
    step.entry? = step'.entry? := by
  cases h with
  | same => rfl
  | wrapper =>
      -- `rfl` alone would compare the two scripts first
      show none = none
      rfl

variable {σ σ' τ π : Type} {ch : Channel σ π} {ch' : Channel σ' π}
  {R : σ → σ' → Prop}

/-- The user is told the same. -/
theorem State.Alike.entries {s : State σ τ} {s' : State σ' τ}
    (h : s.Alike R (Step.UpToPassword password password') s') :
    s.entries = s'.entries := by
  have hjournal := h.journal
  unfold State.entries
  generalize s.journal = journal at hjournal ⊢
  generalize s'.journal = journal' at hjournal ⊢
  induction hjournal with
  | nil => rfl
  | cons hstep _ ih =>
      rw [List.filterMap_cons, List.filterMap_cons, hstep.entry?, ih]

theorem exchangeable_passwords (user : String) :
    Exchangeable Source.UpToContent (Step.UpToPassword password password')
      ⟨user, password⟩ ⟨user, password'⟩ where
  offer _ _ := .bytes _ _
  step command taskId fileId result :=
    .wrapper user command taskId fileId result

/-- Two plans whose runs cannot be told apart without the contents of
the wrapper scripts: their debugging texts are the same, and over
channels that answer alike they run alike. -/
structure Confined (ch : Channel σ π) (ch' : Channel σ' π)
    (R : σ → σ' → Prop) (password password' : String)
    (plan plan' : Plan) : Prop where
  planText : plan.debugText = plan'.debugText
  settingsText : plan.settings.debugText = plan'.settings.debugText
  credentialsText : plan.settings.elevated.map Credentials.debugText
    = plan'.settings.elevated.map Credentials.debugText
  run {τ : Type} (clock : Clock τ) (limit : Nat) (s : State σ τ)
      (s' : State σ' τ) :
    s.Alike R (Step.UpToPassword password password') s' →
    Agree (State.Alike R (Step.UpToPassword password password'))
        (provision ch clock limit plan s)
        (provision ch' clock limit plan' s') ∧
      (provision ch clock limit plan s).2.entries
        = (provision ch' clock limit plan' s').2.entries

/-- Plans for one user with two passwords are such plans. -/
theorem confined_runAs (htwins : ch.Twins ch' Source.UpToContent R)
    {plan : Plan} {user : Option String}
    (helevated : plan.settings.elevated
      = user.map fun name => ⟨name, password⟩) :
    Confined ch ch' R password password' plan
      (plan.runAs (user.map fun name => ⟨name, password'⟩)) := by
  have htext : (user.map fun name => (⟨name, password'⟩ : Credentials)).map
        Credentials.debugText
      = plan.settings.elevated.map Credentials.debugText := by
    rw [helevated, Option.map_map, Option.map_map]
    rfl
  have hsettings := Settings.debugText_runAs htext
  have hexchange : Option.Rel (Exchangeable Source.UpToContent
      (Step.UpToPassword password password')) plan.settings.elevated
      (user.map fun name => ⟨name, password'⟩) := by
    rw [helevated]
    cases user with
    | none => exact .none
    | some name => exact .some (exchangeable_passwords name)
  refine ⟨?_, hsettings.symm, htext.symm, ?_⟩
  · unfold Plan.debugText
    rw [← hsettings]
    rfl
  · intro τ clock limit s s' halike
    have hrun := provision_agree htwins .same hexchange clock limit halike
    exact ⟨hrun, hrun.2.entries⟩

/-- The password of two configurations is confined to the wrapper
scripts, if the answers of the channel do not depend on contents.  The
problems are the same; either there are problems, or both configurations
become settings with the same ids left, and whatever the clock, their
runs differ in the contents of these scripts only. -/
theorem password_confined (htwins : ch.Twins ch' Source.UpToContent R)
    (c : Config) (h : password ≠ "") (h' : password' ≠ "") (disk : Disk)
    (ids : Feed String) :
    (c.withPassword password).issues disk
      = (c.withPassword password').issues disk ∧
    ∃ left,
      (∃ e, (c.withPassword password).resolve disk ids
          = (.error e, left) ∧
        (c.withPassword password').resolve disk ids
          = (.error e, left)) ∨
      ∃ settings settings',
        (c.withPassword password).resolve disk ids
          = (.ok settings, left) ∧
        (c.withPassword password').resolve disk ids
          = (.ok settings', left) ∧
        ∀ delay, Confined ch ch' R password password' ⟨settings, delay⟩
          ⟨settings', delay⟩ := by
  refine ⟨Config.issues_withPassword h h', ?_⟩
  have hother : (c.withPassword password').resolve disk ids = _ :=
    Config.resolve_withPassword h h' ids
  rcases hresolve : (c.withPassword password).resolve disk ids
    with ⟨result, left⟩
  rw [hresolve] at hother
  refine ⟨left, ?_⟩
  cases result with
  | error e => exact .inl ⟨e, rfl, hother⟩
  | ok settings =>
      refine .inr ⟨settings, _, rfl, hother, fun delay => ?_⟩
      have helevated : settings.elevated
          = (nonEmpty c.elevatedUser).map fun user => ⟨user, password⟩ := by
        rw [Config.elevated_of_resolve hresolve,
          Config.credentials_withPassword h]
      rw [Config.credentials_withPassword h']
      have hplan : (⟨settings, delay⟩ : Plan).settings.elevated
        = (nonEmpty c.elevatedUser).map fun user => ⟨user, password⟩ :=
        helevated
      exact confined_runAs htwins hplan

end Run

-- =========================================== a channel of this kind

namespace Recording

/-- Recording channels with the same scripts, whatever they have
recorded. -/
def SameScripts (r r' : Recording) : Prop :=
  ∃ events, r' = { r with events := events }

/-- What can be read is accepted or rejected whatever it is. -/
theorem upload_readable {r : Recording} {disk : Disk}
    {source source' : Source} {content content' : Text.Bytes}
    (hread : source.read disk = .ok content)
    (hread' : source'.read disk = .ok content') (path : String)
    (events : List Recorded) :
    (r.upload disk path source).result
        = ({ r with events := events }.upload disk path source').result ∧
      (r.upload disk path source).disk
        = ({ r with events := events }.upload disk path source').disk ∧
      SameScripts (r.upload disk path source).state
        ({ r with events := events }.upload disk path source').state := by
  unfold upload
  rw [hread, hread']
  dsimp only
  rcases nextOutcome r.uploadOutcomes with ⟨outcome, rest⟩
  cases outcome with
  | reject => exact ⟨rfl, rfl, _, rfl⟩
  | accept => exact ⟨rfl, rfl, _, rfl⟩

/-- What cannot be read is no call. -/
theorem upload_unreadable {r : Recording} {disk : Disk} {source : Source}
    {fault : IoFault} (hread : source.read disk = .error fault)
    (path : String) :
    r.upload disk path source = ⟨.error (.io fault), 0, r, disk⟩ := by
  unfold upload
  rw [hread]

/-- Nor does a start depend on what is recorded. -/
theorem start_events (r : Recording) (disk : Disk) (command : String)
    (events : List Recorded) :
    (r.start disk command).result
        = ({ r with events := events }.start disk command).result ∧
      (r.start disk command).disk
        = ({ r with events := events }.start disk command).disk ∧
      SameScripts (r.start disk command).state
        ({ r with events := events }.start disk command).state := by
  have houtcome : startOutcome { r with events := events }
    = r.startOutcome := rfl
  unfold start
  rw [houtcome]
  rcases r.startOutcome with ⟨outcome, rest⟩
  cases outcome with
  | reject => exact ⟨rfl, rfl, _, rfl⟩
  | accept => exact ⟨rfl, rfl, _, rfl⟩

/-- A recording channel does not look at contents. -/
theorem channel_twins :
    channel.Twins channel Source.UpToContent SameScripts where
  own := .same
  upload := by
    rintro r _ source source' disk path binary ⟨events, rfl⟩ hsource
    cases hsource with
    | bytes content content' => exact upload_readable rfl rfl path events
    | same =>
        cases hread : source.read disk with
        | ok content => exact upload_readable hread hread path events
        | error fault =>
            have hnone : ∀ r : Recording,
                channel.upload r disk path source binary
                  = ⟨.error (.io fault), 0, r, disk⟩ :=
              fun r => upload_unreadable hread path
            rw [hnone, hnone]
            exact ⟨rfl, rfl, events, rfl⟩
  start := by
    rintro r _ disk command ⟨events, rfl⟩
    exact r.start_events disk command events
  wait := by
    rintro r _ disk p ⟨events, rfl⟩
    exact ⟨rfl, rfl, rfl, _, rfl⟩

end Recording

namespace Run

/-- A configuration with a user and one command, and a disk for it. -/
def administrator : Config where
  elevatedUser := some "Administrator"
  inlineCommands := ["dir"]
  startRetryTimeout := ""

def emptyDisk : Disk where
  items := []
  home := []
  staging := "/"
  spare := none

/-- With two passwords it is prepared twice, and runs alike on recording
channels. -/
theorem administrator_confined :
    (administrator.withPassword "one").issues emptyDisk = [] ∧
    (administrator.withPassword "two").issues emptyDisk = [] ∧
    ∃ settings settings' left,
      (administrator.withPassword "one").resolve emptyDisk
          (Feed.fresh toString) = (.ok settings, left) ∧
      (administrator.withPassword "two").resolve emptyDisk
          (Feed.fresh toString) = (.ok settings', left) ∧
      Confined Recording.channel Recording.channel Recording.SameScripts
        "one" "two" ⟨settings, defaultDelay⟩ ⟨settings', defaultDelay⟩ := by
  have hone : "one" ≠ "" := by decide
  have htwo : "two" ≠ "" := by decide
  have hclean : (administrator.withPassword "one").issues emptyDisk = [] := by
    decide
  obtain ⟨hissues, left, hrefused | ⟨settings, settings', hfirst, hsecond,
    hconfined⟩⟩ := password_confined Recording.channel_twins administrator
      hone htwo emptyDisk (Feed.fresh toString)
  · obtain ⟨e, hrefused, -⟩ := hrefused
    unfold Config.resolve Config.validate at hrefused
    rw [if_pos hclean] at hrefused
    cases hrefused
  · exact ⟨hclean, hissues ▸ hclean, settings, settings', left, hfirst,
      hsecond, hconfined defaultDelay⟩

end Run

end RemoteProvision
