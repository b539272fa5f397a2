/-
The list of a dry run.

Every event of a rehearsal can be listed.  An upload and the end of a
command always can.  The argument of a plain command line is what its
command was written as, so the command is read back from it and shown
below the line (`eventText_encoded`); an elevated command line has no
such argument (`eventText_file`).  So the list is known from what each
script finds (`listed_scripts`): its helper files, the script itself,
and the command line that is rendered for it.
-/
import RemoteProvision.Cli.Answer
import RemoteProvision.Proofs.Encoding.Command
import RemoteProvision.Proofs.Run.Rehearsal

namespace RemoteProvision.Cli

open RemoteProvision.Text (Bytes)
open RemoteProvision.Run
open RemoteProvision.Command (encodedStart encodedLine fileLine)

-- ============================================================ events

/-- Events that can be listed, and their list. -/
def Listed (events : List Recorded) (text : String) : Prop :=
  listEvents events = (text, .ok ())

theorem Listed.nil : Listed [] "" := rfl

theorem Listed.cons {event : Recorded} {events : List Recorded}
    {text behind : String} (h : eventText event = .ok text)
    (h' : Listed events behind) :
    Listed (event :: events) (text ++ behind) := by
  unfold Listed listEvents
  rw [h, show listEvents events = (behind, .ok ()) from h']

/-- The list of an event and of those behind it. -/
theorem Listed.of_cons {event : Recorded} {events : List Recorded}
    {text : String} (h : Listed (event :: events) text) :
    ∃ first behind, eventText event = .ok first ∧
      Listed events behind ∧ text = first ++ behind := by
  unfold Listed listEvents at h
  cases hevent : eventText event with
  | error e =>
      rw [hevent] at h
      cases h
  | ok first =>
      rw [hevent] at h
      rcases hrest : listEvents events with ⟨behind, result⟩
      rw [hrest] at h
      cases h
      exact ⟨first, behind, rfl, hrest, rfl⟩

theorem Listed.append {events events' : List Recorded}
    {text text' : String} (h : Listed events text)
    (h' : Listed events' text') :
    Listed (events ++ events') (text ++ text') := by
  induction events generalizing text with
  | nil =>
      cases h
      rw [String.empty_append]
      exact h'
  | cons event events ih =>
      obtain ⟨first, behind, hevent, hrest, rfl⟩ := h.of_cons
      rw [String.append_assoc]
      exact .cons hevent (ih hrest)

/-- The list of some events and of those behind them. -/
theorem Listed.of_append {events events' : List Recorded}
    {text : String} (h : Listed (events ++ events') text) :
    ∃ front behind, Listed events front ∧ Listed events' behind ∧
      text = front ++ behind := by
  induction events generalizing text with
  | nil => exact ⟨"", text, .nil, h, (String.empty_append).symm⟩
  | cons event events ih =>
      obtain ⟨first, rest, hfirst, hrest, rfl⟩ := h.of_cons
      obtain ⟨front, behind, hfront, hbehind, rfl⟩ := ih hrest
      exact ⟨first ++ front, behind, .cons hfirst hfront, hbehind,
        (String.append_assoc ..).symm⟩

/-- Events have one list. -/
theorem Listed.unique {events : List Recorded} {text text' : String}
    (h : Listed events text) (h' : Listed events text') : text = text' :=
  congrArg Prod.fst (h.symm.trans h')

/-- How an upload is listed. -/
def uploadLine (path : String) (content : Bytes) : String :=
  "upload  " ++ path ++ " ("
    ++ toString (Text.toBytes (Text.ofBytesLossy content)).length
    ++ " bytes)\n"

/-- How a start is listed. -/
def startLine (command : String) : String := "start   " ++ command ++ "\n"

/-- How the command that a line carries is listed below it. -/
def carriedLine (command : String) : String :=
  "        # " ++ command ++ "\n"

theorem encodedArgument?_encodedLine (command : String) :
    encodedArgument? (encodedLine command)
      = some (Encoding.encodeCommand command) := by
  unfold encodedArgument? encodedLine
  simp only [String.toList_append]
  rw [if_pos (List.isPrefixOf_iff_prefix.2 (List.prefix_append _ _)),
    List.drop_left, String.ofList_toList]

theorem encodedArgument?_fileLine (path : String) :
    encodedArgument? (fileLine path) = none := by
  have hother :
      ¬ encodedStart.toList <+:
          "powershell -executionpolicy bypass -file \"".toList ∧
      ¬ "powershell -executionpolicy bypass -file \"".toList <+:
          encodedStart.toList := by
    decide +kernel
  unfold encodedArgument? fileLine
  simp only [String.toList_append, List.append_assoc]
  rw [if_neg]
  intro hstart
  rcases List.prefix_or_prefix_of_prefix
    (List.isPrefixOf_iff_prefix.1 hstart) (List.prefix_append _ _)
    with hlong | hshort
  · exact hother.1 hlong
  · exact hother.2 hshort

theorem eventText_encoded (command : String) :
    eventText (.start (encodedLine command))
      = .ok (startLine (encodedLine command) ++ carriedLine command) := by
  simp only [eventText, encodedArgument?_encodedLine,
    Encoding.decodeCommand_encodeCommand, startLine, carriedLine,
    String.append_assoc]
  rfl

theorem eventText_file (path : String) :
    eventText (.start (fileLine path)) = .ok (startLine (fileLine path)) := by
  simp only [eventText, encodedArgument?_fileLine, startLine]
  rfl

-- =========================================================== scripts

variable {settings : Settings} {scene : Scene} {path line : String}
  {paths : List String} {content : Bytes}

/-- How helper files are listed. -/
def helpersText (helpers : List (String × Bytes)) : String :=
  String.join (helpers.map fun helper => uploadLine helper.1 helper.2)

theorem listed_helpers (helpers : List (String × Bytes)) :
    Listed (helperEvents helpers) (helpersText helpers) := by
  induction helpers with
  | nil => exact .nil
  | cons helper helpers ih =>
      unfold helpersText
      rw [List.map_cons, String.join_cons]
      exact .cons rfl ih

/-- What is listed below a command line: the command that a plain one
carries. -/
def carriedText (settings : Settings) (scene : Scene) : String :=
  match settings.elevated with
  | none =>
    match fillCommand settings.executeCommand
      (settings.environment.assemble false scene.address)
      settings.remotePath with
    | .ok command => carriedLine command
    | .error _ => ""
  | some _ => ""

/-- How the start of a script is listed: the command line that is
rendered for it, and what comes below. -/
def startText (settings : Settings) (scene : Scene) : String :=
  match scene.line settings with
  | .ok line => startLine line ++ carriedText settings scene
  | .error _ => ""

theorem listed_start (h : scene.line settings = .ok line) :
    eventText (.start line) = .ok (startText settings scene) := by
  unfold startText
  rw [h]
  unfold Scene.line at h
  unfold carriedText
  cases helevated : settings.elevated with
  | none =>
      simp only [helevated, plainLine] at h ⊢
      cases hfill : fillCommand settings.executeCommand
        (settings.environment.assemble false scene.address)
        settings.remotePath with
      | error e =>
          rw [hfill] at h
          cases h
      | ok command =>
          rw [hfill] at h
          cases h
          exact eventText_encoded command
  | some credentials =>
      simp only [helevated, String.append_empty] at h ⊢
      cases hfill : fillElevated settings scene.varsPath with
      | error e =>
          rw [hfill] at h
          cases h
      | ok command =>
          rw [hfill] at h
          cases h
          exact eventText_file _

/-- The list of a script: its helper files, the script itself, and its
command line. -/
def scriptText (settings : Settings) (scene : Scene) (path : String) :
    String :=
  helpersText (scene.helpers settings) ++
    match scene.disk.readBytes path with
    | .ok content =>
      uploadLine settings.remotePath content ++ startText settings scene
    | .error _ => ""

/-- The list of scripts in their order. -/
def scriptsText (settings : Settings) : Scene → List String → String
  | _, [] => ""
  | scene, path :: rest =>
    scriptText settings scene path
      ++ scriptsText settings (scene.next settings scene.disk) rest

theorem listed_script (h : scene.Ready settings path) :
    Listed (scene.rehearsal settings path)
      (scriptText settings scene path) := by
  obtain ⟨⟨content, hread⟩, line, hline⟩ := h
  unfold Scene.rehearsal scriptText
  rw [hread, hline]
  refine (listed_helpers _).append ?_
  have hlist := Listed.cons (listed_start hline)
    (.cons (show eventText (.exited line 0) = .ok "" from rfl) .nil)
  rw [String.append_empty, String.append_empty] at hlist
  exact .cons rfl hlist

theorem listed_scripts (h : AllReady settings scene.disk paths) :
    Listed (scene.rehearsals settings paths)
      (scriptsText settings scene paths) := by
  induction paths generalizing scene with
  | nil => exact .nil
  | cons path rest ih =>
      obtain ⟨hread, hrest⟩ := List.forall_mem_cons.1 h.1
      have hbehind : AllReady settings
          (scene.next settings scene.disk).disk rest := ⟨hrest, h.2⟩
      exact (listed_script ⟨hread, h.2 scene⟩).append (ih hbehind)

end RemoteProvision.Cli
