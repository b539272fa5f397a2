/-
Elevated commands.

A remote channel often runs commands as a user with few rights.  To run
a command with all rights, a wrapper script registers a scheduled task
under the elevated user's credentials, runs it once, passes on what it
prints, and ends with its result.

The wrapper is a template with fixed pieces of script around six slots.
Each field is escaped for the place where it lands: the credentials
stand between single quotes, the description in an XML text.  Neither
the task's name nor the encoded command needs escaping, since both are
made of characters that mean nothing there.
-/
import RemoteProvision.Template.Basic

namespace RemoteProvision.Command

-- ======================================================== escaping

/-- A text between single quotes: each quote is doubled. -/
def quoteSingle (value : String) : String :=
  String.ofList <| value.toList.flatMap fun c =>
    if c = '\x27' then ['\x27', '\x27'] else [c]

/-- A character in an XML text. -/
def xmlChar (c : Char) : List Char :=
  if c = '&' then "&amp;".toList
  else if c = '<' then "&lt;".toList
  else if c = '>' then "&gt;".toList
  else if c = '\x22' then "&quot;".toList
  else if c = '\x27' then "&apos;".toList
  else [c]

/-- A text in XML. -/
def escapeXml (value : String) : String :=
  String.ofList (value.toList.flatMap xmlChar)

-- ========================================================== pieces

/-- The script before the task's name. -/
def wrapperHead : String :=
  "$name = '"

/-- From the task's name to the task's description. -/
def wrapperTask : String :=
  String.intercalate "\n"
    ["'",
     "$log = \"$env:TEMP\\$name.out\"",
     "$s = New-Object -ComObject 'Schedule.Service'",
     "$s.Connect()",
     "$t = $s.NewTask($null)",
     "$t.XmlText = @'",
     "<?xml version=\"1.0\" encoding=\"UTF-16\"?>",
     "<Task version=\"1.2\" xmlns=\"http://schemas.microsoft"
        ++ ".com/windows/2004/02/mit/task\">",
     "  <RegistrationInfo>",
     "    <Description>"]

/-- From the task's description to the encoded command. -/
def wrapperSettings : String :=
  String.intercalate "\n"
    ["</Description>",
     "  </RegistrationInfo>",
     "  <Principals>",
     "    <Principal id=\"Author\">",
     "      <LogonType>Password</LogonType>",
     "      <RunLevel>HighestAvailable</RunLevel>",
     "    </Principal>",
     "  </Principals>",
     "  <Settings>",
     "    <MultipleInstancesPolicy>IgnoreNew</MultipleInstan"
        ++ "cesPolicy>",
     "    <DisallowStartIfOnBatteries>false</DisallowStartIf"
        ++ "OnBatteries>",
     "    <StopIfGoingOnBatteries>false</StopIfGoingOnBatteries>",
     "    <AllowHardTerminate>true</AllowHardTerminate>",
     "    <StartWhenAvailable>false</StartWhenAvailable>",
     "    <RunOnlyIfNetworkAvailable>false</RunOnlyIfNetwork"
        ++ "Available>",
     "    <IdleSettings>",
     "      <StopOnIdleEnd>false</StopOnIdleEnd>",
     "      <RestartOnIdle>false</RestartOnIdle>",
     "    </IdleSettings>",
     "    <AllowStartOnDemand>true</AllowStartOnDemand>",
     "    <Enabled>true</Enabled>",
     "    <Hidden>false</Hidden>",
     "    <RunOnlyIfIdle>false</RunOnlyIfIdle>",
     "    <WakeToRun>false</WakeToRun>",
     "    <ExecutionTimeLimit>PT24H</ExecutionTimeLimit>",
     "    <Priority>4</Priority>",
     "  </Settings>",
     "  <Actions Context=\"Author\">",
     "    <Exec>",
     "      <Command>cmd</Command>",
     "      <Arguments>/c powershell.exe -EncodedCommand "]

/-- Between the encoded command and the name of the log file. -/
def wrapperLog : String :=
  " &gt; %TEMP%\\"

/-- From the name of the log file to the user. -/
def wrapperRegister : String :=
  String.intercalate "\n"
    [".out 2&gt;&amp;1</Arguments>",
     "    </Exec>",
     "  </Actions>",
     "</Task>",
     "'@",
     "if (Test-Path variable:global:ProgressPreference)\x7b$"
        ++ "ProgressPreference='SilentlyContinue'\x7d",
     "$f = $s.GetFolder('\\')",
     "$f.RegisterTaskDefinition($name, $t, 6, '"]

/-- Between the user and the password. -/
def wrapperPair : String :=
  "', '"

/-- The script behind the password. -/
def wrapperTail : String :=
  String.intercalate "\n"
    ["', 1, $null) | Out-Null",
     "$t = $f.GetTask(\"\\$name\")",
     "$t.Run($null) | Out-Null",
     "$timeout = 10",
     "$sec = 0",
     "while ((!($t.state -eq 4)) -and ($sec -lt $timeout)) \x7b",
     "  Start-Sleep -s 1",
     "  $sec++",
     "\x7d",
     "$line = 0",
     "do \x7b",
     "  Start-Sleep -m 100",
     "  if (Test-Path $log) \x7b",
     "    Get-Content $log | select -skip $line | ForEach \x7b",
     "      $line += 1",
     "      Write-Output \"$_\"",
     "    \x7d",
     "  \x7d",
     "\x7d while (!($t.state -eq 3))",
     "$result = $t.LastTaskResult",
     "$f.DeleteTask($name, 0)",
     "[System.Runtime.Interopservices.Marshal]::ReleaseComOb"
        ++ "ject($s) | Out-Null",
     "exit $result",
     ""]

-- ========================================================= wrapper

/-- A slot of a template. -/
def slot (name : String) : String :=
  "\x7b\x7b." ++ name ++ "\x7d\x7d"

/-- The wrapper script, with its slots. -/
def wrapperTemplate : String :=
  wrapperHead ++ slot "TaskName"
    ++ wrapperTask ++ slot "TaskDescription"
    ++ wrapperSettings ++ slot "EncodedCommand"
    ++ wrapperLog ++ slot "TaskName"
    ++ wrapperRegister ++ slot "User"
    ++ wrapperPair ++ slot "Password"
    ++ wrapperTail

/-- What the task scheduler shows for every task. -/
def taskDescription : String := "psprov elevated task"

/-- A task that runs one command elevated. -/
structure ElevatedTask where
  user : String
  password : String
  description : String
  name : String
  encodedCommand : String

namespace ElevatedTask

/-- The fields of the wrapper, each escaped for its place. -/
def fields (task : ElevatedTask) : List (String × String) :=
  [("User", quoteSingle task.user),
   ("Password", quoteSingle task.password),
   ("TaskDescription", escapeXml task.description),
   ("TaskName", task.name),
   ("EncodedCommand", task.encodedCommand)]

/-- The wrapper script of a task. -/
def wrapper (task : ElevatedTask) : Except Template.Fault String :=
  Template.render wrapperTemplate (Template.Fields.ofList task.fields)

end ElevatedTask

end RemoteProvision.Command
