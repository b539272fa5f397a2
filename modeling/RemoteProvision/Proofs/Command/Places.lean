/-
Where the wrapper says what it runs.

The wrapper names its task twice, once for the scheduler and once for
the log file, and carries the command once.  Each of these places is
found by the marks around it: in front of it stands nothing in which its
mark could begin, and the values themselves are free of the marks that
close them.

The credentials stand behind all three places.  So it does not matter
here what they hold.
-/
import RemoteProvision.Proofs.Command.Wrapper
import RemoteProvision.Proofs.Ids
import RemoteProvision.Proofs.Text.Between

namespace RemoteProvision.Command

open RemoteProvision.Text (between between_eq between_behind cutAtMark
  cutAtMark_skip_head cutAtMark_skip_closed cutAtMark_append)

-- ============================================================ pieces

/-- The script between the task's name and the encoded command. -/
def wrapperMiddle : String :=
  wrapperTask ++ (escapeXml taskDescription ++ wrapperSettings)

private theorem toList_wrapperMiddle :
    wrapperMiddle.toList
      = wrapperTask.toList
        ++ (taskDescription.toList.flatMap xmlChar
          ++ wrapperSettings.toList) := by
  rw [wrapperMiddle, String.toList_append, String.toList_append,
    escapeXml, String.toList_ofList]

/-- The encoded command is behind the first mark for it, and no mark for
the log file is in front of it. -/
private theorem wrapperMiddle_marks :
    (cutAtMark "-EncodedCommand ".toList wrapperMiddle.toList).map
      Prod.snd = some [] ∧
    '%' ∉ wrapperMiddle.toList := by
  rw [toList_wrapperMiddle, wrapperTask, wrapperSettings,
    taskDescription, String.toList_intercalate,
    String.toList_intercalate]
  simp only [List.map, String.toList_append]
  repeat rw [String.toList_ofList]
  decide +kernel

private theorem wrapperMiddle_front :
    ∃ more, wrapperMiddle.toList = "'".toList ++ more := by
  rw [toList_wrapperMiddle, wrapperTask, String.toList_intercalate,
    List.map_cons, List.map_cons, List.intercalate_cons_cons,
    List.append_assoc, List.append_assoc]
  exact ⟨_, rfl⟩

private theorem wrapperRegister_front :
    ∃ more, wrapperRegister.toList = ".out".toList ++ more := by
  have hline : ".out 2&gt;&amp;1</Arguments>".toList
      = ".out".toList ++ " 2&gt;&amp;1</Arguments>".toList := by
    repeat rw [String.toList_ofList]
    rfl
  rw [wrapperRegister, String.toList_intercalate, List.map_cons,
    List.map_cons, List.intercalate_cons_cons, hline, List.append_assoc,
    List.append_assoc]
  exact ⟨_, rfl⟩

private theorem wrapperLog_eq :
    wrapperLog.toList = " &gt; ".toList ++ "%TEMP%\\".toList := by
  rw [wrapperLog]
  repeat rw [String.toList_ofList]
  rfl

-- ============================================================ places

namespace ElevatedTask

variable {task : ElevatedTask}

/-- The script behind the second of its two names. -/
def scriptEnd (task : ElevatedTask) : List Char :=
  wrapperRegister.toList ++ ((quoteSingle task.user).toList
    ++ (wrapperPair.toList ++ ((quoteSingle task.password).toList
      ++ wrapperTail.toList)))

theorem scriptEnd_front (task : ElevatedTask) :
    ∃ more, task.scriptEnd = ".out".toList ++ more := by
  obtain ⟨more, hmore⟩ := wrapperRegister_front
  rw [scriptEnd, hmore, List.append_assoc]
  exact ⟨_, rfl⟩

/-- The script of a task with the description of every task. -/
theorem toList_script (hdescription : task.description = taskDescription) :
    task.script.toList
      = wrapperHead.toList ++ (task.name.toList
        ++ (wrapperMiddle.toList ++ (task.encodedCommand.toList
          ++ (wrapperLog.toList
            ++ (task.name.toList ++ task.scriptEnd))))) := by
  simp only [script, wrapperMiddle, scriptEnd, hdescription,
    String.toList_append, List.append_assoc]

/-- The name for the scheduler. -/
theorem between_name (hname : Ids.Plain task.name)
    (hdescription : task.description = taskDescription) :
    between "$name = '" "'" task.script = some task.name := by
  obtain ⟨more, hmiddle⟩ := wrapperMiddle_front
  have hscript : task.script.toList
      = [] ++ ("$name = '".toList ++ (task.name.toList
          ++ ("'".toList ++ (more ++ (task.encodedCommand.toList
            ++ (wrapperLog.toList
              ++ (task.name.toList ++ task.scriptEnd))))))) := by
    rw [toList_script hdescription, hmiddle, List.append_assoc,
      List.nil_append, wrapperHead]
  exact between_behind hscript (String.toList_ofList ..)
    (String.toList_ofList ..) List.not_mem_nil
    (hname.notMem (by decide) (by decide))

/-- The first mark for a command has the encoded command behind it: the
mark has a blank, and the task's name has none and is closed by a
quote. -/
theorem cut_argument (hname : Ids.Plain task.name)
    (hdescription : task.description = taskDescription) :
    ∃ before, cutAtMark "-EncodedCommand ".toList task.script.toList
      = some (before, task.encodedCommand.toList
          ++ (wrapperLog.toList
            ++ (task.name.toList ++ task.scriptEnd))) := by
  obtain ⟨more, hmiddle⟩ := wrapperMiddle_front
  obtain ⟨⟨before, _⟩, hcut, rfl⟩ :=
    Option.map_eq_some_iff.1 wrapperMiddle_marks.1
  have hmark : "-EncodedCommand ".toList
      = '-' :: "EncodedCommand ".toList := by decide
  have hhead : '-' ∉ wrapperHead.toList := by
    rw [wrapperHead, String.toList_ofList]
    decide
  have hquote : "'".toList = ['\x27'] := by decide
  have hfound := cutAtMark_append hcut (task.encodedCommand.toList
    ++ (wrapperLog.toList ++ (task.name.toList ++ task.scriptEnd)))
  rw [hmiddle, hquote, List.singleton_append, List.cons_append] at hfound
  refine ⟨wrapperHead.toList ++ (task.name.toList ++ before), ?_⟩
  rw [toList_script hdescription, hmark, cutAtMark_skip_head hhead,
    ← hmark, hmiddle, hquote, List.singleton_append, List.cons_append,
    cutAtMark_skip_closed (m := ' ') (by decide) (by decide)
      (hname.notMem (by decide) (by decide)), hfound, Option.map_some,
    Option.map_some, List.nil_append]

/-- The encoded command. -/
theorem between_argument (hname : Ids.Plain task.name)
    (hdescription : task.description = taskDescription)
    (hargument : ' ' ∉ task.encodedCommand.toList) :
    between "-EncodedCommand " " " task.script
      = some task.encodedCommand := by
  have hlog : wrapperLog.toList
      = " ".toList ++ ("&gt; ".toList ++ "%TEMP%\\".toList) := by
    rw [wrapperLog_eq]
    repeat rw [String.toList_ofList]
    rfl
  obtain ⟨before, hopening⟩ := cut_argument hname hdescription
  rw [hlog, List.append_assoc] at hopening
  exact between_eq hopening (String.toList_ofList ..) hargument

/-- The name for the log file. -/
theorem between_log (hname : Ids.Plain task.name)
    (hdescription : task.description = taskDescription)
    (hargument : '%' ∉ task.encodedCommand.toList) :
    between "%TEMP%\\" ".out" task.script = some task.name := by
  have hhead : '%' ∉ wrapperHead.toList := by
    rw [wrapperHead, String.toList_ofList]
    decide
  have hlog : '%' ∉ " &gt; ".toList := by
    rw [String.toList_ofList]
    decide
  obtain ⟨more, hend⟩ := task.scriptEnd_front
  have hscript : task.script.toList
      = (wrapperHead.toList ++ (task.name.toList
          ++ (wrapperMiddle.toList ++ (task.encodedCommand.toList
            ++ " &gt; ".toList))))
        ++ ("%TEMP%\\".toList ++ (task.name.toList
          ++ (".out".toList ++ more))) := by
    rw [toList_script hdescription, wrapperLog_eq, hend]
    simp only [List.append_assoc]
  refine between_behind hscript (String.toList_ofList ..)
    (String.toList_ofList ..) ?_
    (hname.notMem (by decide) (by decide))
  simp only [List.mem_append, not_or]
  exact ⟨hhead, hname.notMem (by decide) (by decide),
    wrapperMiddle_marks.2, hargument, hlog⟩

end ElevatedTask

end RemoteProvision.Command
