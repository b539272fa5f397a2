/-
Serving calls.

A call is answered at once or has to wait: reading waits for an empty
pipe that somebody may still write to, writing for a full one that
somebody may still read, and a parent for its child.  Serving answers
with nothing if the call has to wait, and changes nothing then.

Each call takes a little time.  The times are such that what happens on
a real system almost always happens here: a process that splits goes on
before its child does, and starting a program takes much longer than
anything that a shell does by itself.
-/
import RemoteProvision.Kernel.System

namespace RemoteProvision.Kernel

open RemoteProvision.Text (Bytes)
open RemoteProvision.Local (Ending)

-- =========================================================== types

/-- The answer to a call, what it changed, and how long it took. -/
structure Served (α : Type) where
  answer : α
  system : System
  disk : Disk
  cost : Nat

/-- The faults of streams. -/
def badStream : IoFault := .system 9
def brokenPipe : IoFault := .system 32

namespace System

-- ========================================================= reading

/-- Reads from a stream. -/
def read (s : System) (disk : Disk) (p : Process) (stream most : Nat) :
    Option (Served (Except IoFault Bytes)) :=
  let plain (answer : Except IoFault Bytes) :
      Option (Served (Except IoFault Bytes)) :=
    some ⟨answer, s, disk, 2⟩
  match p.streams.lookup stream with
  | none => plain (.error badStream)
  | some file =>
    match s.files.lookup file with
    | none => plain (.error badStream)
    | some f =>
      if !f.mode.reads then plain (.error badStream)
      else
        let from_ (content : Bytes) :
            Option (Served (Except IoFault Bytes)) :=
          let bytes := (content.drop f.offset).take most
          let f := { f with offset := f.offset + bytes.length }
          some ⟨.ok bytes, s.setFile file f, disk, 2⟩
        match f.target with
        | .nowhere => plain (.ok [])
        | .full | .zeros => plain (.ok (List.replicate most 0))
        | .loose content => from_ content
        | .item place =>
          match disk.item? place with
          | some (.file content _) => from_ content
          | some .folder => plain (.error .isFolder)
          | _ => plain (.ok [])
        | .pipeOutput _ => plain (.error badStream)
        | .pipeInput pipe =>
          match s.pipes.lookup pipe with
          | none => plain (.ok [])
          | some content =>
            if content.content.isEmpty then
              if s.hasWriter pipe then none else plain (.ok [])
            else
              let bytes := content.content.extract 0 most
              let left := content.content.extract most
                content.content.size
              some ⟨.ok bytes.toList,
                s.modifyPipe pipe fun c => { c with content := left },
                disk, 2⟩

-- ========================================================= writing

/-- A content with bytes put at an offset. -/
def overwritten (content : Bytes) (offset : Nat) (bytes : Bytes) :
    Bytes :=
  let front := content.take offset
  front ++ List.replicate (offset - front.length) 0 ++ bytes
    ++ content.drop (offset + bytes.length)

/-- Writes to a stream. -/
def write (s : System) (disk : Disk) (p : Process) (stream : Nat)
    (bytes : Bytes) : Option (Served (Except IoFault Unit)) :=
  let plain (answer : Except IoFault Unit) :
      Option (Served (Except IoFault Unit)) :=
    some ⟨answer, s, disk, 2⟩
  match p.streams.lookup stream with
  | none => plain (.error badStream)
  | some file =>
    match s.files.lookup file with
    | none => plain (.error badStream)
    | some f =>
      if !f.mode.writes then plain (.error badStream)
      else
        let at_ (content : Bytes) : Nat :=
          if f.mode.appends then content.length else f.offset
        match f.target with
        | .nowhere | .zeros => plain (.ok ())
        | .full => plain (.error .noSpace)
        | .pipeInput _ => plain (.error badStream)
        | .loose content =>
          let offset := at_ content
          let f :=
            { f with
              target := .loose (overwritten content offset bytes)
              offset := offset + bytes.length }
          some ⟨.ok (), s.setFile file f, disk, 2⟩
        | .item place =>
          match disk.item? place with
          | some (.file content runnable) =>
            let offset := at_ content
            let f := { f with offset := offset + bytes.length }
            some ⟨.ok (), s.setFile file f,
              disk.put place
                (.file (overwritten content offset bytes) runnable), 2⟩
          | _ => plain (.error badStream)
        | .pipeOutput pipe =>
          if !s.hasReader pipe then
            if handlingOf p 13 = .usual then
              some ⟨.error brokenPipe, s.finish p.number (.killed 13),
                disk, 2⟩
            else plain (.error brokenPipe)
          else
            match s.pipes.lookup pipe with
            | none => plain (.error brokenPipe)
            | some content =>
              if !content.drained && !content.content.isEmpty
                  && pipeRoom < content.content.size + bytes.length then
                none
              else
                some ⟨.ok (),
                  s.modifyPipe pipe fun c =>
                    { c with content := c.content ++ bytes }, disk, 2⟩

/-- Moves a stream to a place in its file; answers with the place and
the length of the file. -/
def locate (s : System) (disk : Disk) (p : Process) (stream : Nat)
    (move : Option Nat) : Option (Nat × Nat) × System :=
  let found := do
    let file ← p.streams.lookup stream
    let f ← s.files.lookup file
    let content ←
      match f.target with
      | .loose content => some content
      | .item place =>
        match disk.item? place with
        | some (.file content _) => some content
        | _ => none
      | _ => none
    return (file, { f with offset := move.getD f.offset }, content.length)
  match found with
  | none => (none, s)
  | some (file, f, length) => (some (f.offset, length), s.setFile file f)

-- ========================================================= opening

/-- The open file of a path. -/
def opened (s : System) (disk : Disk) (p : Process) (path : String)
    (mode : OpenMode) : Except IoFault (OpenFile × Disk) := do
  let device (target : Target) : Except IoFault (OpenFile × Disk) :=
    .ok (⟨target, 0, mode⟩, disk)
  let again (stream : Nat) : Except IoFault (OpenFile × Disk) :=
    match (p.streams.lookup stream).bind fun n => s.files.lookup n with
    | none => .error (.system 6)
    | some f => .ok ({ f with mode := mode, offset := 0 }, disk)
  match ← disk.resolve path with
  | .found place .folder =>
    if mode.writes then throw .isFolder
    return (⟨.item place, 0, mode⟩, disk)
  | .found _ (.tool name) =>
    match name with
    | "null" => device .nowhere
    | "zero" => device .zeros
    | "full" => device .full
    | "stdin" => again 0
    | "stdout" => again 1
    | "stderr" => again 2
    | _ => if mode.writes then throw (.system 26) else device .nowhere
  | .found place (.file _ _) =>
    if mode.refusesOld then throw .alreadyThere
    if endsInSlash path then
      throw (if mode.creates then .isFolder else .notFolder)
    if mode.empties then
      let (place, disk) ← disk.startFile path
      return (⟨.item place, 0, mode⟩, disk)
    return (⟨.item place, 0, mode⟩, disk)
  | .vacant _ =>
    if !mode.creates then throw .notFound
    let (place, disk) ← disk.startFile path
    return (⟨.item place, 0, mode⟩, disk)

-- ========================================================= changes

/-- Keeps the content of open files that a change of the disk took
away. -/
def keepLoose (s : System) (before after : Disk) : System :=
  { s with
    files := s.files.map fun f =>
      match f.2.target with
      | .item place =>
        match before.item? place, after.item? place with
        | some (.file content _), none =>
          (f.1, { f.2 with target := .loose content })
        | _, _ => f
      | _ => f }

-- ========================================================= waiting

/-- Waits for a child. -/
def await (s : System) (p : Process) (child : Option Nat)
    (patience : Patience) : Option (Awaited × System) :=
  let children := s.processes.filter fun c =>
    c.parent == p.number && child.all (· == c.number)
  if children.isEmpty then some (.noChild, s)
  else
    let ended := children.findSome? fun c =>
      match c.stage with
      | .ended how => some (c.number, how)
      | .running _ => none
    match ended with
    | some (number, how) =>
      some (.ended number how,
        { s with
          processes := s.processes.filter (·.number != number) })
    | none =>
      match patience with
      | .steady => none
      | .nervous =>
        if p.caught.isEmpty then none else some (.interrupted, s)
      | .hasty => some (.interrupted, s)

-- ========================================================= serving

/-- Serves a call of a process. -/
def serve (s : System) (disk : Disk) (p : Process) :
    (call : Call) → Option (Served call.Answer)
  | .pause micros =>
    some ⟨p.caught, s.modifyProcess p.number fun p =>
      { p with caught := [] }, disk, micros⟩
  | .read stream most => s.read disk p stream most
  | .write stream bytes => s.write disk p stream bytes
  | .openFile stream path mode =>
    match s.opened { disk with home := p.home } p path mode with
    | .error fault => some ⟨.error fault, s, disk, 5⟩
    | .ok (f, disk') =>
      let (file, s) := s.addFile f
      some ⟨.ok (), (s.setStream p.number stream file).tidy,
        { disk' with home := disk.home }, 5⟩
  | .close stream =>
    some ⟨(), (s.modifyProcess p.number fun p =>
      { p with streams := p.streams.filter (·.1 != stream) }).tidy,
      disk, 1⟩
  | .copy source target =>
    match p.streams.lookup source with
    | none => some ⟨.error badStream, s, disk, 1⟩
    | some file =>
      some ⟨.ok (), (s.setStream p.number target file).tidy, disk, 1⟩
  | .pipe input output =>
    let (pipe, s) := s.addPipe false
    let (inFile, s) :=
      s.addFile ⟨.pipeInput pipe, 0, { reads := true }⟩
    let (outFile, s) :=
      s.addFile ⟨.pipeOutput pipe, 0, { writes := true }⟩
    some ⟨(), (s.setStream p.number input inFile).setStream p.number
      output outFile, disk, 3⟩
  | .locate stream move =>
    let (answer, s) := s.locate disk p stream move
    some ⟨answer, s, disk, 1⟩
  | .look => some ⟨{ disk with home := p.home }, s, disk, 2⟩
  | .change how =>
    let (report, disk') := how { disk with home := p.home }
    let s := (s.keepLoose disk disk').modifyProcess p.number fun p =>
      { p with home := disk'.home }
    some ⟨report, s, { disk' with home := disk.home }, 10⟩
  | .await child patience =>
    (s.await p child patience).map fun r => ⟨r.1, r.2, disk, 20⟩
  | .send process signal =>
    match s.signal p.number process signal with
    | .error fault => some ⟨.error fault, s, disk, 5⟩
    | .ok s => some ⟨.ok (), s, disk, 5⟩
  | .handle signal how =>
    some ⟨(), s.modifyProcess p.number fun p =>
      { p with handlings := setAt signal how p.handlings }, disk, 2⟩
  | .become =>
    some ⟨(), (s.modifyProcess p.number fun p =>
      { p with
        streams := p.streams.filter (·.1 < 10)
        handlings := p.handlings.filter (·.2 == .ignored)
        caught := [] }).tidy, disk, 500⟩
  | .identity => some ⟨(p.number, p.parent), s, disk, 1⟩

end System

end RemoteProvision.Kernel
