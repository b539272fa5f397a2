/-
What sinks have been told.

A call adds a line to what the one sink has written and an entry to what
the other keeps (`tell_machineReadable`, `tell_recording`), so calls add
as many of both, in their order.  A record has no line feed in it.  The
lines are therefore found where the line feeds are, and each of them is
read as the record it was written for.
-/
import RemoteProvision.Ui.Sinks
import RemoteProvision.Proofs.Text.Lines
import RemoteProvision.Proofs.Ui.Records

namespace RemoteProvision.Ui

open Text (Bytes CutAt toBytes ofBytes?)

-- =============================================================== a call

/-- The line that is written for a call. -/
def lineOf (call : Stamp × Call) : String :=
  call.2.entry.record call.1.text

/-- A call writes its line and a line feed. -/
theorem tell_machineReadable (written : Bytes) (call : Stamp × Call) :
    machineReadable.tell written call.1 call.2
      = written ++ toBytes (lineOf call ++ "\n") := by
  obtain ⟨now, call⟩ := call
  cases call with
  | say text => rfl
  | message text => rfl
  | error text => rfl

/-- A call is kept as its entry. -/
theorem tell_recording (entries : List Entry) (now : Stamp) (call : Call) :
    recording.tell entries now call = entries ++ [call.entry] := by
  cases call with
  | say text => rfl
  | message text => rfl
  | error text => rfl

-- ================================================================ calls

/-- Calls write their lines, in order. -/
theorem run_machineReadable (calls : List (Stamp × Call))
    (written : Bytes) :
    machineReadable.run written calls
      = written ++ toBytes (String.join
          ((calls.map lineOf).map (· ++ "\n"))) := by
  induction calls generalizing written with
  | nil => exact (List.append_nil written).symm
  | cons call calls ih =>
      have htell := tell_machineReadable written call
      show machineReadable.run (machineReadable.tell written call.1 call.2)
        calls = _
      rw [htell, ih, List.map_cons, List.map_cons, String.join_cons,
        Text.toBytes_append (lineOf call ++ "\n"), List.append_assoc]

/-- Calls are kept as their entries, in order. -/
theorem run_recording (calls : List (Stamp × Call))
    (entries : List Entry) :
    recording.run entries calls
      = entries ++ calls.map fun call => call.2.entry := by
  induction calls generalizing entries with
  | nil => exact (List.append_nil entries).symm
  | cons call calls ih =>
      show recording.run (recording.tell entries call.1 call.2) calls = _
      rw [tell_recording, ih, List.append_assoc]
      rfl

/-- Entries at one time are written as calls at that time write them. -/
theorem recordLines_eq (now : Stamp) (calls : List Call) :
    toBytes (recordLines now.text (calls.map Call.entry))
      = machineReadable.run [] (calls.map fun call => (now, call)) := by
  rw [run_machineReadable, recordLines, List.nil_append, List.map_map,
    List.map_map, List.map_map]
  rfl

-- ============================================================== reading

/-- Reads a record from the bytes of a line. -/
def readLine? (line : Bytes) : Option Record :=
  (ofBytes? line).bind Record.read?

/-- The record of a call. -/
def recordOf (call : Stamp × Call) : Record :=
  ⟨call.1.moment, call.2.entry⟩

theorem read?_lineOf (call : Stamp × Call) :
    Record.read? (lineOf call) = some (recordOf call) :=
  Record.read?_record call.1 call.2.entry

theorem readLine?_lineOf (call : Stamp × Call) :
    readLine? (toBytes (lineOf call)) = some (recordOf call) := by
  rw [readLine?, Text.ofBytes?_eq_some.2 rfl, Option.bind_some,
    read?_lineOf]

/-- The lines of calls are cut off where they end. -/
theorem cutAt_run (calls : List (Stamp × Call)) :
    CutAt 10 (machineReadable.run [] calls)
      ((calls.map lineOf).map toBytes) [] := by
  rw [run_machineReadable, List.nil_append]
  refine Text.cutAt_toBytes_join fun line hline => ?_
  obtain ⟨call, -, rfl⟩ := List.mem_map.1 hline
  exact feed_notMem_record call.1.text call.2.entry

/-- Calls write one line each, in order, with a line feed behind it and
none in it, and each line is read as the record of its call.  What is cut
off at the line feeds and read is what the other sink keeps of the same
calls.  Of its entries those of one kind are given in order, and all of
them. -/
theorem machineReadable_records (calls : List (Stamp × Call)) :
    ∃ lines : List String,
      lines.length = calls.length ∧
      (∀ written, machineReadable.run written calls
        = written ++ toBytes (String.join (lines.map (· ++ "\n")))) ∧
      (∀ pieces rest, CutAt 10 (machineReadable.run [] calls) pieces rest
        ↔ pieces = lines.map toBytes ∧ rest = []) ∧
      lines.map Record.read? = calls.map (fun call =>
        some ⟨call.1.moment, call.2.entry⟩) ∧
      (∃ records, (lines.map toBytes).mapM readLine? = some records ∧
        records.map (·.entry) = recording.run [] calls) ∧
      ∀ kind, ∃ kept : List Entry,
        kept.Sublist (recording.run [] calls) ∧
        (∀ entry ∈ kept, entry.kind = kind) ∧
        kept.length
          = (recording.run [] calls).countP (·.kind = kind) ∧
        ofKind kind (recording.run [] calls) = kept.map (·.text) := by
  refine ⟨calls.map lineOf, List.length_map .., run_machineReadable calls,
    fun pieces rest => ⟨fun hcut => (cutAt_run calls).unique hcut, ?_⟩,
    ?_, ⟨calls.map recordOf, ?_, ?_⟩, fun kind => ?_⟩
  · rintro ⟨rfl, rfl⟩
    exact cutAt_run calls
  · rw [List.map_map]
    exact List.map_congr_left fun call _ => read?_lineOf call
  · rw [List.mapM_map, List.mapM_map]
    exact (congrArg (calls.mapM ·) (funext readLine?_lineOf)).trans
      List.mapM_pure
  · rw [run_recording, List.map_map]
    rfl
  · refine ⟨(recording.run [] calls).filter (·.kind = kind),
      List.filter_sublist, fun entry hentry => ?_,
      List.countP_eq_length_filter.symm, rfl⟩
    exact of_decide_eq_true (List.mem_filter.1 hentry).2

end RemoteProvision.Ui
