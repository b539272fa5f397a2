/-
Recording channels, call by call.

A recording channel answers every call as a session from outside tells
(`session_asScripted`), however it was scripted and in whatever order it
is used.

The induction is on the calls, and what it carries is `Tracks`: the
queues foretell what is left of the scripts behind the calls made so far
(`Foretells`), and the events are those of the calls.
-/
import RemoteProvision.Proofs.Channel.Sessions
import RemoteProvision.Proofs.Text.Lenient

namespace RemoteProvision.Recording

open RemoteProvision.Text (Bytes)

-- ============================================================= queues

variable {queue script : List Outcome} {used : Nat}

/-- What is left of a script in a queue: the queue does not end in a
rejection, and it rejects what the script rejects behind the used
outcomes. -/
structure Foretells (queue script : List Outcome) (used : Nat) :
    Prop where
  settled : ∀ last ∈ queue.getLast?, last = .accept
  ahead : ∀ n, queue[n]? = some .reject ↔ script[used + n]? = some .reject

/-- The next outcome is the next of the script, and the queue behind it
foretells the rest. -/
theorem Foretells.next (h : Foretells queue script used) :
    ((nextOutcome queue).1 = .reject ↔ script[used]? = some .reject) ∧
      Foretells (nextOutcome queue).2 script (used + 1) := by
  have hbehind : ∀ n, queue[n + 1]? = some .reject
      ↔ script[used + 1 + n]? = some .reject := by
    intro n
    rw [h.ahead, Nat.add_right_comm, Nat.add_assoc]
  have hfirst : queue[0]? = some .reject ↔ script[used]? = some .reject :=
    h.ahead 0
  rw [← hfirst]
  cases queue with
  | nil => exact ⟨by simp [nextOutcome], h.settled, hbehind⟩
  | cons first rest =>
      have hsome : first = .reject ↔ (first :: rest)[0]? = some .reject := by
        simp
      cases rest with
      | cons second rest => exact ⟨hsome, h.settled, hbehind⟩
      | nil =>
          -- the last outcome stays, and it is an acceptance
          obtain rfl : first = .accept := h.settled first rfl
          refine ⟨hsome, h.settled, fun n => ?_⟩
          rw [← hbehind]
          cases n <;> simp [nextOutcome]

-- ===================================================== single calls

variable {r : Recording} {disk : Disk} {path command : String}
  {source : Source} {content : Bytes} {fault : IoFault}

theorem upload_unread (h : source.read disk = .error fault) :
    r.upload disk path source = ⟨.error (.io fault), 0, r, disk⟩ := by
  unfold upload
  rw [h]

theorem upload_rejected (h : source.read disk = .ok content)
    (hnext : (nextOutcome r.uploadOutcomes).1 = .reject) :
    r.upload disk path source
      = ⟨.error (uploadRefusal path), content.length,
          { r with
            uploadOutcomes := (nextOutcome r.uploadOutcomes).2
            events := r.events ++ [.uploadRejected path] }, disk⟩ := by
  unfold upload
  rw [h]
  dsimp only
  rw [hnext]
  rfl

theorem upload_accepted (h : source.read disk = .ok content)
    (hnext : (nextOutcome r.uploadOutcomes).1 = .accept) :
    r.upload disk path source
      = ⟨.ok (), content.length,
          { r with
            uploadOutcomes := (nextOutcome r.uploadOutcomes).2
            events := r.events
              ++ [.upload path (Text.ofBytesLossy content)] }, disk⟩ := by
  unfold upload
  rw [h]
  dsimp only
  rw [hnext]
  rfl

theorem start_rejected (hnext : r.startOutcome.1 = .reject) :
    r.start disk command
      = ⟨.error startRefusal,
          { r with
            startOutcomes := r.startOutcome.2
            events := r.events ++ [.startRejected command] }, disk⟩ := by
  unfold start
  dsimp only
  rw [hnext]
  rfl

theorem start_accepted (hnext : r.startOutcome.1 = .accept) :
    r.start disk command
      = ⟨.ok ⟨command, r.exitCodes.head?.getD 0, r.output⟩,
          { r with
            startOutcomes := r.startOutcome.2
            exitCodes := r.exitCodes.tail
            events := r.events ++ [.start command] }, disk⟩ := by
  unfold start
  dsimp only
  rw [hnext]
  rfl

-- ========================================================= invariant

variable {cues : List Cue} {s : Session} {trace : Trace} {use : Use}
  {reply : Reply}

/-- Every call was answered as its number says. -/
def Answered (cues : List Cue) (trace : Trace) : Prop :=
  ∀ before use reply behind, trace = before ++ (use, reply) :: behind →
    reply = answer cues before use

/-- What a session keeps from call to call. -/
structure Tracks (cues : List Cue) (s : Session) : Prop where
  uploads : Foretells s.state.uploadOutcomes (uploadScript cues)
    (readUploads s.trace)
  starts : rejectsAll cues = false →
    Foretells s.state.startOutcomes (startScript cues)
      (triedStarts s.trace)
  rejects : s.state.rejectsAllStarts = rejectsAll cues
  exitCodes : s.state.exitCodes
    = (exitScript cues).drop (commandsOf s.trace).length
  output : s.state.output = printedLines cues
  processes : s.processes
    = (commandsOf s.trace).mapIdx (processAt cues)
  events : s.state.events = s.trace.filterMap logged?
  answered : Answered cues s.trace

theorem readUploads_concat :
    readUploads (trace ++ [(use, reply)])
      = readUploads trace + if use.readable then 1 else 0 := by
  rw [readUploads, List.countP_append, List.countP_singleton]
  rfl

theorem triedStarts_concat :
    triedStarts (trace ++ [(use, reply)])
      = triedStarts trace + if use.starts then 1 else 0 := by
  rw [triedStarts, List.countP_append, List.countP_singleton]
  rfl

theorem Answered.concat (h : Answered cues trace)
    (hreply : reply = answer cues trace use) :
    Answered cues (trace ++ [(use, reply)]) := by
  intro before use' reply' behind hsplit
  rcases List.eq_nil_or_concat behind with rfl | ⟨front, last, rfl⟩
  · obtain ⟨rfl, hlast⟩ := List.append_inj' hsplit rfl
    cases hlast
    exact hreply
  · rw [List.concat_eq_append, ← List.cons_append,
      ← List.append_assoc] at hsplit
    obtain ⟨rfl, -⟩ := List.append_inj' hsplit rfl
    exact h before use' reply' front rfl

/-- A call that starts no process. -/
theorem Tracks.unstarted (h : Tracks cues s)
    (hnone : commandsOf [(use, reply)] = [])
    (hsame : r.rejectsAllStarts = s.state.rejectsAllStarts ∧
      r.exitCodes = s.state.exitCodes ∧ r.output = s.state.output)
    (huploads : Foretells r.uploadOutcomes (uploadScript cues)
      (readUploads s.trace + if use.readable then 1 else 0))
    (hstarts : rejectsAll cues = false →
      Foretells r.startOutcomes (startScript cues)
        (triedStarts s.trace + if use.starts then 1 else 0))
    (hevents : r.events
      = s.state.events ++ (logged? (use, reply)).toList)
    (hreply : reply = answer cues s.trace use) :
    Tracks cues ⟨r, s.processes, s.trace ++ [(use, reply)]⟩ := by
  have hcommands : commandsOf (s.trace ++ [(use, reply)])
      = commandsOf s.trace := by
    unfold commandsOf at hnone ⊢
    rw [List.filterMap_append, hnone, List.append_nil]
  obtain ⟨hrejects, hcodes, houtput⟩ := hsame
  exact {
    uploads := by
      rw [readUploads_concat]
      exact huploads
    starts := by
      rw [triedStarts_concat]
      exact hstarts
    rejects := hrejects.trans h.rejects
    exitCodes := by
      rw [hcommands]
      exact hcodes.trans h.exitCodes
    output := houtput.trans h.output
    processes := by
      rw [hcommands]
      exact h.processes
    events := by
      rw [List.filterMap_append, ← h.events, hevents,
        List.filterMap_cons]
      cases logged? (use, reply) <;> rfl
    answered := h.answered.concat hreply }

theorem Session.step_upload (s : Session) (disk : Disk) (path : String)
    (source : Source) (binary : Bool) :
    s.step ⟨disk, .upload path source binary⟩
      = ⟨(s.state.upload disk path source).state, s.processes,
          s.trace ++ [(⟨disk, .upload path source binary⟩,
            .uploaded (s.state.upload disk path source).result)]⟩ := rfl

theorem Session.step_start (s : Session) (disk : Disk)
    (command : String) :
    s.step ⟨disk, .start command⟩
      = ⟨(s.state.start disk command).state,
          s.processes
            ++ (s.state.start disk command).result.toOption.toList,
          s.trace ++ [(⟨disk, .start command⟩,
            .started (s.state.start disk command).result)]⟩ := rfl

theorem Tracks.upload (h : Tracks cues s) (disk : Disk) (path : String)
    (source : Source) (binary : Bool) :
    Tracks cues (s.step ⟨disk, .upload path source binary⟩) := by
  rw [Session.step_upload]
  cases hread : source.read disk with
  | error fault =>
      rw [upload_unread hread]
      refine h.unstarted rfl ⟨rfl, rfl, rfl⟩ ?_ h.starts ?_ ?_
      · rw [Use.readable, hread]
        exact h.uploads
      · rw [logged?_upload, hread]
        exact (List.append_nil _).symm
      · rw [answer, hread]
  | ok content =>
      obtain ⟨hnext, hqueue⟩ := h.uploads.next
      have hreadable :
          (⟨disk, .upload path source binary⟩ : Use).readable = true := by
        rw [Use.readable, hread]
        rfl
      cases houtcome : (nextOutcome s.state.uploadOutcomes).1 with
      | reject =>
          rw [upload_rejected hread houtcome]
          refine h.unstarted rfl ⟨rfl, rfl, rfl⟩ ?_ h.starts ?_ ?_
          · rw [hreadable]
            exact hqueue
          · rw [logged?_upload, hread]
            rfl
          · rw [answer, hread]
            dsimp only
            rw [if_pos (hnext.1 houtcome)]
      | accept =>
          have haccept := mt hnext.2 (by rw [houtcome]; exact nofun)
          rw [upload_accepted hread houtcome]
          refine h.unstarted rfl ⟨rfl, rfl, rfl⟩ ?_ h.starts ?_ ?_
          · rw [hreadable]
            exact hqueue
          · rw [logged?_upload, hread]
            rfl
          · rw [answer, hread]
            dsimp only
            rw [if_neg haccept]

/-- The queue of starts, or the cue to reject them all, foretells the
next outcome. -/
theorem Tracks.nextStart (h : Tracks cues s) :
    (s.state.startOutcome.1 = .reject ↔ rejectsAll cues = true ∨
      (startScript cues)[triedStarts s.trace]? = some .reject) ∧
    (rejectsAll cues = false →
      Foretells s.state.startOutcome.2 (startScript cues)
        (triedStarts s.trace + 1)) := by
  unfold startOutcome
  rw [h.rejects]
  cases hall : rejectsAll cues with
  | true => exact ⟨iff_of_true rfl (.inl rfl), nofun⟩
  | false =>
      obtain ⟨hnext, hqueue⟩ := (h.starts hall).next
      refine ⟨hnext.trans ⟨.inr, ?_⟩, fun _ => hqueue⟩
      exact fun hscript => hscript.resolve_left Bool.false_ne_true

/-- The next process is the one of the next number. -/
theorem Tracks.nextProcess (h : Tracks cues s) (command : String) :
    (⟨command, s.state.exitCodes.head?.getD 0, s.state.output⟩ : Process)
      = processAt cues (commandsOf s.trace).length command := by
  rw [h.exitCodes, h.output, List.head?_drop]
  rfl

theorem Tracks.start (h : Tracks cues s) (disk : Disk)
    (command : String) : Tracks cues (s.step ⟨disk, .start command⟩) := by
  obtain ⟨hnext, hqueue⟩ := h.nextStart
  rw [Session.step_start]
  cases hstart : s.state.startOutcome.1 with
  | reject =>
      rw [start_rejected hstart]
      have hnone : s.processes ++ [] = s.processes := List.append_nil _
      show Tracks cues ⟨_, s.processes ++ [], _⟩
      rw [hnone]
      refine h.unstarted rfl ⟨rfl, rfl, rfl⟩ h.uploads hqueue rfl ?_
      rw [answer, if_pos (hnext.1 hstart)]
  | accept =>
      have haccept := mt hnext.2 (by rw [hstart]; exact nofun)
      rw [start_accepted hstart, h.nextProcess]
      have hcommands (process : Process) :
          commandsOf (s.trace
              ++ [(⟨disk, .start command⟩, .started (.ok process))])
            = commandsOf s.trace ++ [command] :=
        List.filterMap_append
      exact {
        uploads := by
          rw [readUploads_concat]
          exact h.uploads
        starts := by
          rw [triedStarts_concat]
          exact hqueue
        rejects := h.rejects
        exitCodes := by
          rw [hcommands, List.length_append]
          show s.state.exitCodes.tail = _
          rw [h.exitCodes, List.tail_drop]
          rfl
        output := h.output
        processes := by
          rw [hcommands, List.mapIdx_concat, ← h.processes]
          rfl
        events := by
          rw [List.filterMap_append, ← h.events]
          rfl
        answered := by
          refine h.answered.concat ?_
          rw [answer, if_neg haccept] }

theorem Tracks.wait (h : Tracks cues s) (disk : Disk) (number : Nat) :
    Tracks cues (s.step ⟨disk, .wait number⟩) := by
  have hprocess : s.processes[number]?
      = ((commandsOf s.trace)[number]?).map (processAt cues number) := by
    rw [h.processes, List.getElem?_mapIdx]
  rw [Session.step, hprocess]
  cases hcommand : (commandsOf s.trace)[number]? with
  | none =>
      refine h.unstarted rfl ⟨rfl, rfl, rfl⟩ h.uploads h.starts
        (List.append_nil _).symm ?_
      rw [answer, hcommand]
  | some command =>
      refine h.unstarted rfl ⟨rfl, rfl, rfl⟩ h.uploads h.starts rfl ?_
      rw [answer, hcommand]
      rfl

theorem Tracks.step (h : Tracks cues s) (use : Use) :
    Tracks cues (s.step use) := by
  obtain ⟨disk, act⟩ := use
  cases act with
  | upload path source binary => exact h.upload disk path source binary
  | start command => exact h.start disk command
  | wait number => exact h.wait disk number

-- ============================================================ the run

/-- What the cues leave in a channel. -/
theorem foldl_give (cues : List Cue) (r : Recording) :
    cues.foldl Cue.give r =
      { events := r.events
        uploadOutcomes := r.uploadOutcomes ++ uploadScript cues
        startOutcomes := r.startOutcomes ++ startScript cues
        rejectsAllStarts := r.rejectsAllStarts || rejectsAll cues
        exitCodes := r.exitCodes ++ exitScript cues
        output := (cues.filterMap fun
          | .printing lines => some lines
          | _ => none).getLast?.getD r.output } := by
  induction cues generalizing r with
  | nil => simp [uploadScript, startScript, rejectsAll, exitScript]
  | cons cue cues ih =>
      rw [List.foldl_cons, ih]
      cases cue <;>
        simp [Cue.give, rejectUploads, rejectStarts, rejectAllStarts,
          exitWith, printing, uploadScript, startScript, rejectsAll,
          exitScript, thenAccept, List.getLast?_cons]

/-- Each cue for outcomes ends with an acceptance, so their script
does. -/
theorem settled_flatMap {outcomes : Cue → List Outcome}
    (h : ∀ cue, ∀ last ∈ (outcomes cue).getLast?, last = .accept)
    (cues : List Cue) :
    ∀ last ∈ (cues.flatMap outcomes).getLast?, last = .accept := by
  induction cues with
  | nil => exact nofun
  | cons cue cues ih =>
      intro last hlast
      rw [List.flatMap_cons, List.getLast?_append] at hlast
      rcases Option.or_eq_some_iff.1 hlast with hbehind | ⟨-, hcue⟩
      · exact ih last hbehind
      · exact h cue last hcue

theorem Foretells.start (h : ∀ last ∈ script.getLast?, last = .accept) :
    Foretells script script 0 :=
  ⟨h, fun n => by rw [Nat.zero_add]⟩

theorem tracks_scripted (cues : List Cue) :
    Tracks cues ⟨scripted cues, [], []⟩ := by
  rw [scripted, foldl_give]
  exact {
    uploads := .start <| settled_flatMap (fun cue => by
      cases cue <;> simp) cues
    starts := fun _ => .start <| settled_flatMap (fun cue => by
      cases cue <;> simp) cues
    rejects := rfl
    exitCodes := rfl
    output := rfl
    processes := rfl
    events := rfl
    answered := fun before _ _ _ h => by
      cases before <;> cases h }

theorem tracks_session (cues : List Cue) (uses : List Use) :
    Tracks cues (session cues uses) := by
  unfold session
  generalize hs : (⟨scripted cues, [], []⟩ : Session) = s
  have h : Tracks cues s := hs ▸ tracks_scripted cues
  clear hs
  induction uses generalizing s with
  | nil => exact h
  | cons use uses ih => exact ih (s.step use) (h.step use)

/-- Each call adds itself to the trace. -/
theorem calls_step (s : Session) (use : Use) :
    (s.step use).trace.map Prod.fst = s.trace.map Prod.fst ++ [use] := by
  obtain ⟨disk, act⟩ := use
  cases act with
  | upload path source binary => exact List.map_append
  | start command => exact List.map_append
  | wait number =>
      rw [Session.step]
      split <;> exact List.map_append

theorem calls_session (cues : List Cue) (uses : List Use) :
    (session cues uses).trace.map Prod.fst = uses := by
  have hfold : ∀ s : Session, (uses.foldl Session.step s).trace.map Prod.fst
      = s.trace.map Prod.fst ++ uses := by
    induction uses with
    | nil => exact fun s => (List.append_nil _).symm
    | cons use uses ih =>
        intro s
        rw [List.foldl_cons, ih, calls_step, List.append_assoc]
        rfl
  exact hfold _

-- ============================================================== views

theorem Answered.of_mem (h : Answered cues trace)
    (hmem : (use, reply) ∈ trace) :
    ∃ before, reply = answer cues before use := by
  obtain ⟨before, behind, hsplit⟩ := List.append_of_mem hmem
  exact ⟨before, h before use reply behind hsplit⟩

/-- Whether an event is that of an upload, accepted or not. -/
def ofUpload : Recorded → Bool
  | .upload _ _ | .uploadRejected _ => true
  | _ => false

def ofStart : Recorded → Bool
  | .start _ | .startRejected _ => true
  | _ => false

/-- The content that an event keeps for a path. -/
def contentAt? (path : String) : Recorded → Option String
  | .upload p content => if p = path then some content else none
  | _ => none

/-- The uploads that could be read have the events of uploads, and the
starts have the events of starts. -/
theorem events_counted (cues : List Cue) (before : Trace) (use : Use) :
    ((logged? (use, answer cues before use)).map ofUpload).getD false
      = use.readable ∧
    ((logged? (use, answer cues before use)).map ofStart).getD false
      = use.starts := by
  obtain ⟨disk, act⟩ := use
  cases act with
  | upload path source binary =>
      rw [answer, logged?_upload, Use.readable]
      cases source.read disk with
      | error fault => exact ⟨rfl, rfl⟩
      | ok content =>
          dsimp only
          split <;> exact ⟨rfl, rfl⟩
  | start command =>
      rw [answer]
      split <;> exact ⟨rfl, rfl⟩
  | wait number =>
      rw [answer]
      split <;> exact ⟨rfl, rfl⟩

theorem Tracks.uploadCount (h : Tracks cues s) :
    s.state.uploadCount = readUploads s.trace := by
  show s.state.events.countP ofUpload = _
  rw [h.events, List.countP_filterMap, readUploads]
  refine List.countP_congr fun ⟨use, reply⟩ hmem => ?_
  obtain ⟨before, rfl⟩ := h.answered.of_mem hmem
  rw [(events_counted cues before use).1]

theorem Tracks.startCount (h : Tracks cues s) :
    s.state.startCount = triedStarts s.trace := by
  show s.state.events.countP ofStart = _
  rw [h.events, List.countP_filterMap, triedStarts]
  refine List.countP_congr fun ⟨use, reply⟩ hmem => ?_
  obtain ⟨before, rfl⟩ := h.answered.of_mem hmem
  rw [(events_counted cues before use).2]

/-- The content of an accepted upload is that of its event. -/
theorem content_logged (path : String) (entry : Use × Reply) :
    (logged? entry).bind (contentAt? path)
      = (acceptedAt? path entry).map Text.ofBytesLossy := by
  obtain ⟨⟨disk, act⟩, reply⟩ := entry
  cases act with
  | upload p source binary =>
      cases reply with
      | uploaded result =>
          rw [logged?_upload]
          cases result with
          | error fault => cases source.read disk <;> rfl
          | ok done =>
              show _ = (if p = path then (source.read disk).toOption
                else none).map _
              cases source.read disk with
              | error fault => split <;> rfl
              | ok content =>
                  show (if p = path then _ else none) = _
                  split <;> rfl
      | _ => rfl
  | start command =>
      cases reply with
      | started result => cases result <;> rfl
      | _ => rfl
  | wait number =>
      cases reply with
      | waited process result printed => cases result <;> rfl
      | _ => rfl

theorem Tracks.uploadedContent (h : Tracks cues s) (path : String) :
    s.state.uploadedContent path
      = (s.trace.filterMap (acceptedAt? path)).getLast?.map
          Text.ofBytesLossy := by
  show s.state.events.reverse.findSome? (contentAt? path) = _
  rw [← List.head?_filterMap, List.filterMap_reverse, List.head?_reverse,
    h.events, List.filterMap_filterMap, ← List.getLast?_map,
    List.map_filterMap, funext (content_logged path)]

-- ======================================================== the theorem

/-- What is promised of a scripted channel behind some calls. -/
structure AsScripted (cues : List Cue) (uses : List Use) (s : Session) :
    Prop where
  /-- The trace has the calls in their order. -/
  calls : s.trace.map Prod.fst = uses
  /-- Each is answered from its number and the cues. -/
  answers : ∀ before use reply behind,
    s.trace = before ++ (use, reply) :: behind →
    reply = answer cues before use
  /-- An upload of what cannot be read leaves the channel as it is: it
  has no event, and it uses up no outcome. -/
  unread : ∀ disk path source binary fault,
    source.read disk = .error fault →
    (s.step ⟨disk, .upload path source binary⟩).state = s.state
  /-- Each call that is logged has one event, in the order of the
  calls. -/
  events : s.state.events = s.trace.filterMap logged?
  counts : s.state.uploadCount = readUploads s.trace ∧
    s.state.startCount = triedStarts s.trace
  /-- A path has the content of the last upload to it that was accepted,
  as a text. -/
  contents : ∀ path, s.state.uploadedContent path
    = (s.trace.filterMap (acceptedAt? path)).getLast?.map
        Text.ofBytesLossy
  /-- The text is the one that was uploaded, if it was one. -/
  texts : ∀ path text,
    (s.trace.filterMap (acceptedAt? path)).getLast?
      = some (Text.toBytes text) →
    s.state.uploadedContent path = some text

/-- However a channel was scripted and whatever was asked of it, it
answered every call as its number says, and it shows the calls that it
logged. -/
theorem session_asScripted (cues : List Cue) (uses : List Use) :
    AsScripted cues uses (session cues uses) := by
  have h := tracks_session cues uses
  exact {
    calls := calls_session cues uses
    answers := h.answered
    unread := fun disk path source binary fault hread => by
      rw [Session.step_upload, upload_unread hread]
    events := h.events
    counts := ⟨h.uploadCount, h.startCount⟩
    contents := h.uploadedContent
    texts := fun path text hlast => by
      have htext : Text.ofBytesLossy (Text.toBytes text) = text :=
        String.toList_injective (Text.lenient_toBytes text)
      rw [h.uploadedContent, hlast, Option.map_some, htext] }

/-- A start that is rejected uses up no exit code. -/
example (disk : Disk) :
    (session [.exitWith [3], .rejectStarts 1]
      [⟨disk, .start "a"⟩, ⟨disk, .start "b"⟩, ⟨disk, .start "c"⟩,
        ⟨disk, .wait 1⟩, ⟨disk, .wait 0⟩]).state.events
      = [.startRejected "a", .start "b", .start "c", .exited "c" 0,
          .exited "b" 3] := rfl

end RemoteProvision.Recording
