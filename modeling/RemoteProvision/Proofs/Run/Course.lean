/-
The course of a run.

What a run asks of its channel, and how it ends, said without the run:
how a command line is rendered from the next id and address
(`Rendered`), how attempts fail one behind the other (`Refusals`) until
the window is done with them (`Launched`), what becomes of one script
(`Course`), and what becomes of the scripts in their order (`Courses`).

These are relations, since the channel may answer anything and the clock
may show anything.  Every run over a watched channel stands in them
(`provision_courses`): each function of the run is a leg whose calls
are as its relation says.  What holds of all courses then holds of all
runs.
-/
import RemoteProvision.Proofs.Run.Legs

namespace RemoteProvision.Run

open RemoteProvision.Command

-- =========================================================== scenes

/-- What the next script finds: the local files, and the ids and
addresses that are left. -/
structure Scene where
  disk : Disk
  ids : Feed String
  addresses : Feed (Option String)

/-- The id that is drawn behind a number of others. -/
def Scene.id (scene : Scene) (count : Nat) : String :=
  scene.ids.answer (scene.ids.taken + count)

/-- The answer of the address source to the next query. -/
def Scene.address (scene : Scene) : Option String :=
  scene.addresses.answer scene.addresses.taken

/-- How many ids a script with a command line has drawn. -/
def idsDrawn (settings : Settings) : Nat :=
  if settings.elevated.isSome then 3 else 0

/-- What the script behind finds. -/
def Scene.next (scene : Scene) (settings : Settings) (disk : Disk) :
    Scene :=
  ⟨disk, scene.ids.skip (idsDrawn settings), scene.addresses.skip 1⟩

section Calls

variable {π : Type}

-- ========================================================= rendering

/-- The path of the file that sets the variables. -/
def Scene.varsPath (scene : Scene) : String :=
  (varsFile (scene.id 0)).uploadPath

/-- The upload of the file that sets the variables. -/
def varsCall (settings : Settings) (scene : Scene)
    (answer : Except ChannelFault Unit) : Asked π :=
  .upload scene.varsPath
    (.ofText (settings.environment.assemble true scene.address)) false
    answer

/-- The wrapper file. -/
def Scene.wrapper (scene : Scene) : RemoteFile :=
  wrapperFile (scene.id 2)

/-- The upload of the wrapper file. -/
def wrapperCall (credentials : Credentials) (command : String)
    (scene : Scene) (answer : Except ChannelFault Unit) : Asked π :=
  .upload scene.wrapper.uploadPath
    (.ofText (taskOf credentials command (scene.id 1)).script) false
    answer

/-- The helper uploads of a script, and what comes of its command line.
An elevated command line is filled when the variables are there and
before the wrapper is. -/
inductive Rendered (settings : Settings) (scene : Scene) :
    List (Asked π) → Except ProvisionError String → Prop
  | plain :
      settings.elevated = none →
      Rendered settings scene [] (plainLine settings scene.address)
  | varsRefused {credentials : Credentials} {fault : ChannelFault} :
      settings.elevated = some credentials →
      Rendered settings scene [varsCall settings scene (.error fault)]
        (.error (.upload scene.varsPath fault))
  | unfilled {credentials : Credentials} {e : ProvisionError} :
      settings.elevated = some credentials →
      fillElevated settings scene.varsPath = .error e →
      Rendered settings scene [varsCall settings scene (.ok ())]
        (.error e)
  | wrapperRefused {credentials : Credentials} {command : String}
      {fault : ChannelFault} :
      settings.elevated = some credentials →
      fillElevated settings scene.varsPath = .ok command →
      Rendered settings scene
        [varsCall settings scene (.ok ()),
          wrapperCall credentials command scene (.error fault)]
        (.error (.upload scene.wrapper.uploadPath fault))
  | elevated {credentials : Credentials} {command : String} :
      settings.elevated = some credentials →
      fillElevated settings scene.varsPath = .ok command →
      Rendered settings scene
        [varsCall settings scene (.ok ()),
          wrapperCall credentials command scene (.ok ())]
        (.ok (fileLine scene.wrapper.shellPath))

-- ========================================================== attempts

/-- The upload of a script. -/
def scriptCall (settings : Settings) (place : Place)
    (answer : Except ChannelFault Unit) : Asked π :=
  .upload settings.remotePath (.file place 0) settings.binary answer

/-- The calls of one attempt that failed, and its error. -/
inductive Refusal (settings : Settings) (place : Place)
    (command : String) : List (Asked π) → ProvisionError → Prop
  | upload (fault : ChannelFault) :
      Refusal settings place command
        [scriptCall settings place (.error fault)]
        (.upload settings.remotePath fault)
  | start (fault : ChannelFault) :
      Refusal settings place command
        [scriptCall settings place (.ok ()),
          .start command (.error fault)]
        (.start fault)

/-- The calls of attempts that failed one behind the other, and their
errors. -/
inductive Refusals (settings : Settings) (place : Place)
    (command : String) : List (Asked π) → List ProvisionError → Prop
  | none : Refusals settings place command [] []
  | more {calls rest : List (Asked π)} {e : ProvisionError}
      {errors : List ProvisionError} :
      Refusal settings place command calls e →
      Refusals settings place command rest errors →
      Refusals settings place command (calls ++ rest) (e :: errors)

/-- The calls of a window, and how it ended; at most `limit` attempts
are looked at. -/
inductive Launched (settings : Settings) (limit : Nat) (place : Place)
    (command : String) : List (Asked π) → Tried π → Prop
  | succeeded {calls : List (Asked π)} {errors : List ProvisionError}
      {process : π} :
      Refusals settings place command calls errors →
      errors.length < limit →
      Launched settings limit place command
        (calls ++ [scriptCall settings place (.ok ()),
          .start command (.ok process)])
        (.succeeded process)
  | gaveUp {calls : List (Asked π)} {errors : List ProvisionError}
      {last : ProvisionError} :
      Refusals settings place command calls (errors ++ [last]) →
      errors.length < limit →
      Launched settings limit place command calls
        (.gaveUp (.retriesExhausted settings.startRetryTimeout last))
  | undecided {calls : List (Asked π)} {errors : List ProvisionError} :
      Refusals settings place command calls errors →
      errors.length = limit →
      Launched settings limit place command calls .undecided

-- =========================================================== scripts

/-- What follows on a window, and the verdict: a process is waited for,
and its code is looked at. -/
inductive Finished (settings : Settings) :
    Tried π → List (Asked π) → Verdict → Prop
  | gaveUp (e : ProvisionError) :
      Finished settings (.gaveUp e) [] (.failed e)
  | undecided : Finished settings .undecided [] .undecided
  | unwaited (process : π) (fault : ChannelFault) :
      Finished settings (.succeeded process)
        [.wait process (.error fault)] (.failed (.wait fault))
  | exited (process : π) {code : Int} :
      settings.allows code = false →
      Finished settings (.succeeded process) [.wait process (.ok code)]
        (.failed (.nonZeroExit code settings.validExitCodes))
  | done (process : π) {code : Int} :
      settings.allows code = true →
      Finished settings (.succeeded process) [.wait process (.ok code)]
        .done

/-- The calls of one script, and the verdict on it. -/
inductive Course (settings : Settings) (limit : Nat) (scene : Scene)
    (path : String) : List (Asked π) → Verdict → Prop
  | unopened {fault : IoFault} :
      scene.disk.openAt path = .error fault →
      Course settings limit scene path []
        (.failed (.scriptOpen path fault))
  | unrendered {place : Place} {helpers : List (Asked π)}
      {e : ProvisionError} :
      scene.disk.openAt path = .ok place →
      Rendered settings scene helpers (.error e) →
      Course settings limit scene path helpers (.failed e)
  | launched {place : Place} {helpers calls rest : List (Asked π)}
      {command : String} {tried : Tried π} {verdict : Verdict} :
      scene.disk.openAt path = .ok place →
      Rendered settings scene helpers (.ok command) →
      Launched settings limit place command calls tried →
      Finished settings tried rest verdict →
      Course settings limit scene path (helpers ++ (calls ++ rest))
        verdict

/-- The exchanges of scripts in their order, one segment for each script
that was begun, and the verdict: that of the first script that is not
done. -/
inductive Courses (settings : Settings) (limit : Nat) :
    Scene → List String → List (List (Exchange π)) → Verdict → Prop
  | none {scene : Scene} : Courses settings limit scene [] [] .done
  | stopped {scene : Scene} {path : String} {rest : List String}
      {segment : List (Exchange π)} {disk : Disk} {verdict : Verdict} :
      Course settings limit scene path (segment.map Exchange.call)
        verdict →
      verdict ≠ .done →
      Linked scene.disk segment disk →
      Courses settings limit scene (path :: rest) [segment] verdict
  | next {scene : Scene} {path : String} {rest : List String}
      {segment : List (Exchange π)} {disk : Disk}
      {segments : List (List (Exchange π))} {verdict : Verdict} :
      Course settings limit scene path (segment.map Exchange.call)
        .done →
      Linked scene.disk segment disk →
      Courses settings limit (scene.next settings disk) rest segments
        verdict →
      Courses settings limit scene (path :: rest) (segment :: segments)
        verdict

end Calls

end RemoteProvision.Run
