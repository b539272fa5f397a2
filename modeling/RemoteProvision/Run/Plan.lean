/-
Plans.

A configuration is prepared once and may then be run any number of
times.  What preparing leaves behind is a plan: the settings, and the
pause between attempts.  The ids that preparing did not draw are there
for the runs.
-/
import RemoteProvision.Config.DebugText
import RemoteProvision.Run.Window

namespace RemoteProvision.Run

/-- What a run is prepared from. -/
structure Plan where
  settings : Settings
  /-- The pause between attempts. -/
  delay : Duration

/-- The pause between attempts unless the user chooses one. -/
def defaultDelay : Duration := .ofSeconds 2

namespace Plan

/-- The window in which each script is tried. -/
def window (p : Plan) : Window :=
  ⟨p.settings.startRetryTimeout, p.delay⟩

/-- The debugging text of a plan, which leaves out where its ids and
addresses come from. -/
def debugText (p : Plan) : String :=
  recordText "Provisioner"
    [("settings", p.settings.debugText),
     ("retry_delay", p.delay.debugText)] true

end Plan

end RemoteProvision.Run
