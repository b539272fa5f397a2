/-
A plain command arrives as it was filled.

A plain command line is five words, and the last of them carries the
command (`encodedLine_eq`).  None of the five holds a quote, a blank or
a reference, whatever the command holds, so a shell in between finds
these five words and no variable changes them (`expandedWords_line`);
and the argument is read back as the command.

Rendering the line needs the address of the file server and nothing
else: neither the channel nor an id (`renderCommand_carries`).
-/
import RemoteProvision.Channel.Scripted
import RemoteProvision.Proofs.Encoding.Command
import RemoteProvision.Proofs.Local.Words
import RemoteProvision.Proofs.Run.Follows

namespace RemoteProvision.Run

open RemoteProvision.Command
open RemoteProvision.Encoding
open RemoteProvision.Local (PlainWord isPlain expandedWords expandRefs
  splitWords splitWords_join expandRefs_plain commandWords
  commandWords_of_expanded Lookup)

variable {σ τ π : Type}

-- ============================================================ the line

/-- The words in front of the argument. -/
def lineStart : List String :=
  ["powershell", "-executionpolicy", "bypass", "-encodedCommand"]

/-- A plain command line is its words. -/
theorem encodedLine_eq (command : String) :
    encodedLine command
      = String.intercalate " " (lineStart ++ [encodeCommand command]) := by
  rw [encodedLine, ← String.toList_inj, String.toList_append,
    String.toList_intercalate, lineStart]
  generalize encodeCommand command = argument
  have hspace : " ".toList = [' '] := by decide
  have hstart : encodedStart.toList
      = "powershell".toList ++ (' ' :: "-executionpolicy".toList
          ++ (' ' :: "bypass".toList
            ++ (' ' :: "-encodedCommand".toList ++ [' ']))) := by
    decide +kernel
  rw [hspace, hstart]
  simp [List.intercalate]

/-- The characters that mean nothing to a shell. -/
def isCarried (c : Char) : Bool :=
  isPlain c && c != '$' && c != '%'

/-- What is made of such characters is a plain word without
references. -/
theorem plain_of_carried {word : String} (hne : word.toList ≠ [])
    (h : ∀ c ∈ word.toList, isCarried c = true) :
    PlainWord word.toList ∧ ∀ c ∈ word.toList, c ≠ '$' ∧ c ≠ '%' := by
  simp only [isCarried, Bool.and_eq_true, bne_iff_ne] at h
  exact ⟨⟨hne, fun c hc => (h c hc).1.1⟩,
    fun c hc => ⟨(h c hc).1.2, (h c hc).2⟩⟩

/-- No character of the line means anything to a shell. -/
theorem plain_lineWords {command : String} (h : command ≠ "") :
    ∀ word ∈ lineStart ++ [encodeCommand command],
      PlainWord word.toList ∧
        ∀ c ∈ word.toList, c ≠ '$' ∧ c ≠ '%' := by
  have hstart : (lineStart.all fun word =>
      !word.toList.isEmpty && word.toList.all isCarried) = true := by
    decide +kernel
  have halphabet : ('=' :: Base64.alphabet).all isCarried = true := by
    decide +kernel
  intro word hword
  rcases List.mem_append.1 hword with hmem | hmem
  · have hcarried := List.all_eq_true.1 hstart word hmem
    rw [Bool.and_eq_true, Bool.not_eq_true', List.all_eq_true] at hcarried
    exact plain_of_carried
      (List.isEmpty_eq_false_iff.1 hcarried.1) hcarried.2
  · obtain rfl := List.mem_singleton.1 hmem
    refine plain_of_carried (fun hnil => ?_)
      (encodeCommand_all halphabet command)
    have hempty : encodeCommand command = encodeCommand "" := by
      rw [← String.toList_inj, hnil]
      rfl
    have hread := decodeCommand_encodeCommand command
    rw [hempty, decodeCommand_encodeCommand] at hread
    cases hread
    exact h rfl

/-- Splitting the line and expanding its words gives the words. -/
theorem expandedWords_line {command : String} (h : command ≠ "")
    (lookup : Lookup) :
    expandedWords lookup (encodedLine command)
      = some (lineStart ++ [encodeCommand command]) := by
  have hwords := plain_lineWords h
  rw [expandedWords, encodedLine_eq,
    splitWords_join fun word hmem => (hwords word hmem).1]
  show some ((lineStart ++ [encodeCommand command]).map
    (expandRefs lookup)) = _
  rw [List.map_congr_left (g := id) fun word hmem =>
    expandRefs_plain (hwords word hmem).2 lookup, List.map_id]

-- ========================================================= the theorem

/-- What a plain command is filled to. -/
def filledPlain (settings : Settings) (address : Option String) :
    Except Template.Fault String :=
  Template.render settings.executeCommand
    (Template.Fields.ofList
      [("Vars", settings.environment.assemble false address),
        ("Path", settings.remotePath)])

/-- The plain line carries what was filled, or passes on the mistake. -/
theorem plainLine_eq (settings : Settings) (address : Option String) :
    plainLine settings address
      = ((filledPlain settings address).mapError .template).map
          encodedLine := rfl

/-- Without credentials a command line is rendered without the channel
and without an id.  A command that is not empty becomes a line of five
words, under any variables, and the last of them is read back as the
command; a mistake in the template is the error. -/
theorem renderCommand_carries (ch : Channel σ π) {settings : Settings}
    (s : State σ τ) (helevated : settings.elevated = none) :
    let rendered := renderCommand ch.watched settings s.watched
    let filled := filledPlain settings s.scene.address
    renderCommand ch settings s = unwatch rendered ∧
    rendered.2.log = [] ∧
    rendered.2.ids = s.ids ∧
    (∀ command, filled = .ok command → command ≠ "" →
      ∃ line argument, rendered.1 = .ok line ∧
        decodeCommand argument = .ok command ∧
        (∀ lookup, expandedWords lookup line
          = some ["powershell", "-executionpolicy", "bypass",
              "-encodedCommand", argument]) ∧
        ∀ env, commandWords env line
          = .ok ("powershell", ["-executionpolicy", "bypass",
              "-encodedCommand", argument])) ∧
    ∀ fault, filled = .error fault →
      rendered.1 = .error (.template fault) := by
  refine ⟨renderCommand_unwatched ch settings s.watched, ?_⟩
  rw [renderCommand_plain helevated]
  refine ⟨rfl, rfl, fun command hfilled hne => ?_,
    fun fault hfilled => ?_⟩
  · have hwords := expandedWords_line hne
    refine ⟨encodedLine command, encodeCommand command, ?_,
      decodeCommand_encodeCommand command, hwords, fun env =>
        commandWords_of_expanded (hwords _)⟩
    show plainLine settings s.scene.address = _
    rw [plainLine_eq, hfilled]
    rfl
  · show plainLine settings s.scene.address = _
    rw [plainLine_eq, hfilled]
    rfl

/-- A command with quotes, references and a slot. -/
def quotingSettings : Settings where
  identity := ⟨"box", "virtualbox"⟩
  binary := false
  scripts := ["setup.ps1"]
  inlineCommands := []
  environmentVars := []
  remotePath := "c:/my script.ps1"
  executeCommand := "&'\x7b\x7b.Path\x7d\x7d' \"%TEMP%\" $\x7benv:X\x7d #é"
  elevatedExecuteCommand := ""
  startRetryTimeout := .ofSeconds 1
  envVarFormat := ""
  elevatedEnvVarFormat := ""
  elevated := none
  validExitCodes := [0]

/-- A run that has not begun. -/
def quotingState : State Scripted Nat where
  channel := {}
  disk := { items := [], home := [], staging := "/", spare := none }
  time := 0
  ids := Feed.fresh toString
  addresses := Feed.fresh fun _ => none
  journal := []

/-- The command is carried with its quotes and references. -/
theorem quoting_carried :
    quotingSettings.elevated = none ∧
    filledPlain quotingSettings quotingState.scene.address
      = .ok "&'c:/my script.ps1' \"%TEMP%\" $\x7benv:X\x7d #é" ∧
    ∃ line argument,
      (renderCommand Scripted.channel.watched quotingSettings
        quotingState.watched).1 = .ok line ∧
      decodeCommand argument
        = .ok "&'c:/my script.ps1' \"%TEMP%\" $\x7benv:X\x7d #é" ∧
      (∀ lookup, expandedWords lookup line
        = some ["powershell", "-executionpolicy", "bypass",
            "-encodedCommand", argument]) ∧
      ∀ env, commandWords env line
        = .ok ("powershell", ["-executionpolicy", "bypass",
            "-encodedCommand", argument]) := by
  have hparts : Template.segments quotingSettings.executeCommand
      = [.literal ['&', '\x27'], .action 2 (.field "Path"),
          .literal "' \"%TEMP%\" $\x7benv:X\x7d #é".toList] := by
    decide +kernel
  have hfilled : filledPlain quotingSettings quotingState.scene.address
      = .ok "&'c:/my script.ps1' \"%TEMP%\" $\x7benv:X\x7d #é" := by
    rw [filledPlain, Template.render, hparts]
    rfl
  obtain ⟨-, -, -, hcarried, -⟩ :=
    renderCommand_carries Scripted.channel quotingState
      (show quotingSettings.elevated = none from rfl)
  exact ⟨rfl, hfilled, hcarried _ hfilled (by decide)⟩

end RemoteProvision.Run
