/-
Sinks.

The user is told things in three calls, one for each kind.  What becomes
of a call is up to the sink it is made on.  One sink writes a record for
it into memory, a line of its own, with the time that the clock shows
when the call is made.  Another sink keeps what it is told.

Neither can fail, since memory takes all that is written to it.
-/
import RemoteProvision.Stamp
import RemoteProvision.Text.Utf8
import RemoteProvision.Ui.Record

namespace RemoteProvision.Ui

-- =========================================================== calls

/-- A call that tells the user something. -/
inductive Call where
  | say (text : String)
  | message (text : String)
  | error (text : String)
deriving DecidableEq

/-- What the user is told by a call. -/
def Call.entry : Call → Entry
  | .say text => ⟨.say, text⟩
  | .message text => ⟨.message, text⟩
  | .error text => ⟨.error, text⟩

/-- What becomes of a sink in each of the calls, at a time. -/
structure Sink (σ : Type) where
  say : Stamp → String → σ → σ
  message : Stamp → String → σ → σ
  error : Stamp → String → σ → σ

namespace Sink

variable {σ : Type}

/-- A call on a sink. -/
def tell (sink : Sink σ) (s : σ) (now : Stamp) : Call → σ
  | .say text => sink.say now text s
  | .message text => sink.message now text s
  | .error text => sink.error now text s

/-- Calls on a sink, one after the other, each at its time. -/
def run (sink : Sink σ) (s : σ) (calls : List (Stamp × Call)) : σ :=
  calls.foldl (fun s call => sink.tell s call.1 call.2) s

end Sink

-- =========================================================== sinks

/-- Writes a record behind what is written already. -/
def emit (kind : Kind) (now : Stamp) (text : String)
    (written : Text.Bytes) : Text.Bytes :=
  written ++ Text.toBytes (Entry.record now.text ⟨kind, text⟩ ++ "\n")

/-- The sink that writes records. -/
def machineReadable : Sink Text.Bytes where
  say := emit .say
  message := emit .message
  error := emit .error

/-- Keeps an entry behind those that are kept already. -/
def push (kind : Kind) (text : String) (entries : List Entry) :
    List Entry :=
  entries ++ [⟨kind, text⟩]

/-- The sink that keeps what it is told. -/
def recording : Sink (List Entry) where
  say _ := push .say
  message _ := push .message
  error _ := push .error

end RemoteProvision.Ui
