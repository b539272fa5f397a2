/-
What staging leaves behind.

A staged file is a new item at a place where nothing was (`Adds`).  A
walk that found something never came by that place, so it finds the same
again; and the walk that ended there finds the new file (`Adds.walk`).
Hence every path that led to a file still does, its bytes are what they
were, and the staged path leads to the chunks, one behind the other
(`stage_ok`).

Staging may also fail while the file is being written.  What is there
then is a new item as well, with a beginning of the chunks, so taking it
away leaves every place as it was (`stage_error`).
-/
import RemoteProvision.Disk.Staging

namespace RemoteProvision.Disk

open RemoteProvision.Text (Bytes)

variable {disk disk' disk'' : Disk} {place q : Place} {item i : Item}
  {path : String}

-- ==================================================== one more item

/-- A disk with one more item, at a place where nothing was. -/
structure Adds (disk : Disk) (place : Place) (item : Item)
    (disk' : Disk) : Prop where
  vacant : disk.item? place = none
  there : disk'.item? place = some item
  other : ∀ q, q ≠ place → disk'.item? q = disk.item? q
  home : disk'.home = disk.home

/-- What was there is there. -/
theorem Adds.keeps (h : Adds disk place item disk')
    (hitem : disk.item? q = some i) : disk'.item? q = some i := by
  rw [h.other q ?_, hitem]
  rintro rfl
  rw [h.vacant] at hitem
  cases hitem

/-- The root is always there. -/
theorem ne_root_of_vacant (h : disk.item? place = none) :
    place ≠ [] := by
  rintro rfl
  rw [item?, if_pos rfl] at h
  cases h

/-- Taking the new item away leaves what was there before. -/
theorem Adds.drop (h : Adds disk place item disk') (q : Place) :
    (disk'.drop place).item? q = disk.item? q := by
  by_cases hplace : q = place
  · subst hplace
    rw [item?_drop_self (ne_root_of_vacant h.vacant), h.vacant]
  · rw [item?_drop_other hplace, h.other q hplace]

/-- Where a walk ends when there is one more item. -/
def fillSpot (place : Place) (item : Item) : Spot → Spot
  | .found q i => .found q i
  | .vacant q => if q = place then .found place item else .vacant q

/-- A walk down to a last name that nothing had. -/
theorem Adds.walk_end (h : Adds disk place item disk')
    (hitem : disk.item? q = none) :
    (match disk'.item? q with
      | some _ => disk'.walk q []
      | none => .ok (.vacant q))
      = .ok (fillSpot place item (.vacant q)) := by
  by_cases hplace : q = place
  · subst hplace
    rw [h.there, fillSpot, if_pos rfl]
    unfold walk
    rw [h.there]
  · rw [h.other q hplace, hitem, fillSpot, if_neg hplace]

/-- A walk ends where it ended, and finds the new item if that is
there. -/
theorem Adds.walk (h : Adds disk place item disk') {here : Place}
    {names : List String} {spot : Spot}
    (hwalk : disk.walk here names = .ok spot) :
    disk'.walk here names = .ok (fillSpot place item spot) := by
  fun_induction Disk.walk disk here names with
  | case1 here j hhere =>
      cases hwalk
      rw [Disk.walk, h.keeps hhere]
      rfl
  | case2 here hhere => cases hwalk
  | case3 here name rest hhere => cases hwalk
  | case4 here rest hhere ih =>
      rw [Disk.walk, h.keeps hhere]
      exact ih hwalk
  | case5 here rest hhere hstay ih =>
      rw [Disk.walk, h.keeps hhere]
      exact ih hwalk
  | case6 here name rest hhere hstay hup hlong => cases hwalk
  | case7 here name rest hhere hstay hup hlong j hnext ih =>
      rw [Disk.walk, h.keeps hhere]
      dsimp only
      rw [if_neg hstay, if_neg hup, if_neg hlong, h.keeps hnext]
      exact ih hwalk
  | case8 here name rest hhere hstay hup hlong hnext hlast =>
      cases hwalk
      rw [Disk.walk, h.keeps hhere]
      dsimp only
      rw [if_neg hstay, if_neg hup, if_neg hlong,
        List.isEmpty_iff.1 hlast]
      exact h.walk_end hnext
  | case9 here name rest hhere hstay hup hlong hnext hlast =>
      cases hwalk
  | case10 here name rest j hfolder hhere => cases hwalk

/-- So does a path. -/
theorem Adds.resolve (h : Adds disk place item disk') {spot : Spot}
    (hresolve : disk.resolve path = .ok spot) :
    disk'.resolve path = .ok (fillSpot place item spot) := by
  unfold Disk.resolve resolveNames at hresolve ⊢
  by_cases hnul : path.toList.contains '\x00'
  · rw [if_pos hnul] at hresolve
    cases hresolve
  rw [if_neg hnul] at hresolve ⊢
  by_cases hempty : path.isEmpty
  · rw [if_pos hempty] at hresolve
    cases hresolve
  rw [if_neg hempty] at hresolve ⊢
  by_cases hlong : pathLimit < path.utf8ByteSize
  · rw [if_pos hlong] at hresolve
    cases hresolve
  rw [if_neg hlong] at hresolve ⊢
  rw [h.home]
  exact h.walk hresolve

-- ==================================================== opened files

/-- Opening what is there: only a folder may be named with a slash at
the end. -/
theorem openAt_of_found (h : disk.resolve path = .ok (.found q i)) :
    disk.openAt path
      = if i ≠ .folder ∧ endsInSlash path then .error .notFolder
        else .ok q := by
  unfold openAt find
  rw [h]
  cases hslash : endsInSlash path with
  | true =>
      cases i with
      | folder => rfl
      | file bytes runnable => rfl
      | tool name => rfl
  | false =>
      cases i with
      | folder => rfl
      | file bytes runnable => rfl
      | tool name => rfl

/-- A path that can be opened leads to an item. -/
theorem resolve_of_openAt (h : disk.openAt path = .ok q) :
    ∃ i, disk.resolve path = .ok (.found q i) := by
  cases hresolve : disk.resolve path with
  | error fault =>
      unfold openAt find at h
      rw [hresolve] at h
      cases h
  | ok spot =>
      cases spot with
      | vacant p =>
          unfold openAt find at h
          rw [hresolve] at h
          cases h
      | found p i =>
          rw [openAt_of_found hresolve] at h
          split at h
          · cases h
          · cases h
            exact ⟨i, rfl⟩

/-- A path that could be opened leads to the same file. -/
theorem Adds.openAt (h : Adds disk place item disk')
    (hopen : disk.openAt path = .ok q) : disk'.openAt path = .ok q := by
  obtain ⟨i, hresolve⟩ := resolve_of_openAt hopen
  have hresolve' : disk'.resolve path = .ok (.found q i) :=
    h.resolve hresolve
  rw [openAt_of_found hresolve', ← openAt_of_found hresolve]
  exact hopen

/-- The path that led nowhere leads to the new file. -/
theorem Adds.openAt_new {bytes : Bytes} {runnable : Bool}
    (h : Adds disk place (.file bytes runnable) disk')
    (hslash : endsInSlash path = false)
    (hresolve : disk.resolve path = .ok (.vacant place)) :
    disk'.openAt path = .ok place := by
  have hfound := h.resolve hresolve
  rw [fillSpot, if_pos rfl] at hfound
  rw [openAt_of_found hfound, hslash]
  rfl

/-- The item that was found is there, and nothing is where nothing was
found. -/
def IsThere (disk : Disk) : Spot → Prop
  | .found q i => disk.item? q = some i
  | .vacant q => disk.item? q = none

/-- Where a walk ends is as it says. -/
theorem walk_spot {here : Place} {names : List String} {spot : Spot}
    (h : disk.walk here names = .ok spot) : IsThere disk spot := by
  fun_induction walk disk here names with
  | case1 here j hhere =>
      cases h
      exact hhere
  | case2 here hhere => cases h
  | case3 here name rest hhere => cases h
  | case4 here rest hhere ih => exact ih h
  | case5 here rest hhere hstay ih => exact ih h
  | case6 here name rest hhere hstay hup hlong => cases h
  | case7 here name rest hhere hstay hup hlong j hnext ih => exact ih h
  | case8 here name rest hhere hstay hup hlong hnext hlast =>
      cases h
      exact hnext
  | case9 here name rest hhere hstay hup hlong hnext hlast => cases h
  | case10 here name rest j hfolder hhere => cases h

/-- A path that leads anywhere was walked. -/
theorem walk_of_resolve {spot : Spot}
    (h : disk.resolve path = .ok spot) :
    disk.walk (if startsAtRoot path then [] else disk.home)
      (pathNames path) = .ok spot := by
  unfold resolve resolveNames at h
  split at h
  · cases h
  split at h
  · cases h
  split at h
  · cases h
  exact h

/-- A file that could be read holds the same. -/
theorem Adds.readBytes (h : Adds disk place item disk')
    (hopen : disk.openAt path = .ok q) :
    disk'.readBytes path = disk.readBytes path := by
  obtain ⟨i, hresolve⟩ := resolve_of_openAt hopen
  have hitem : disk.item? q = some i :=
    walk_spot (walk_of_resolve hresolve)
  unfold Disk.readBytes
  rw [hopen, h.openAt hopen]
  show disk'.bytesAt q = disk.bytesAt q
  rw [bytesAt, bytesAt, hitem, h.keeps hitem]

-- ========================================================== staging

/-- Writing behind a file, with nothing else changed. -/
structure Extends (disk : Disk) (place : Place) (item : Item)
    (disk' : Disk) : Prop where
  there : disk'.item? place = some item
  other : ∀ q, q ≠ place → disk'.item? q = disk.item? q
  home : disk'.home = disk.home

theorem appendAt_extends {old : Bytes} {runnable : Bool}
    (hplace : place ≠ [])
    (hitem : disk.item? place = some (.file old runnable))
    (chunk : Bytes) :
    Extends disk place (.file (old ++ chunk) runnable)
      (disk.appendAt place chunk) := by
  rw [appendAt, hitem]
  exact ⟨item?_put_self hplace _, fun q hq => item?_put_other hq _, rfl⟩

/-- Writing chunks, with the local files as they are when it ends or
breaks off. -/
def writeWhile (disk : Disk) (place : Place) :
    List Bytes → Except IoFault Unit × Disk
  | [] => (.ok (), disk)
  | chunk :: rest =>
    match disk.spare with
    | none => writeWhile (disk.appendAt place chunk) place rest
    | some room =>
      if room < chunk.length then (.error .noSpace, disk)
      else
        writeWhile
          { disk.appendAt place chunk with
            spare := some (room - chunk.length) } place rest

theorem writeChunks_eq (disk : Disk) (place : Place)
    (chunks : List Bytes) :
    disk.writeChunks place chunks
      = (disk.writeWhile place chunks).1.map fun _ =>
          (disk.writeWhile place chunks).2 := by
  induction chunks generalizing disk with
  | nil => rfl
  | cons chunk rest ih =>
      unfold writeChunks writeWhile
      cases disk.spare with
      | none => exact ih _
      | some room =>
          dsimp only
          split
          · rfl
          · exact ih _

/-- Wherever writing breaks off, a beginning of the chunks is behind the
bytes of the file, and nothing else is changed. -/
theorem writeWhile_extends (chunks : List Bytes) {old : Bytes}
    {runnable : Bool} (hplace : place ≠ [])
    (hitem : disk.item? place = some (.file old runnable)) :
    ∃ written, written <+: chunks.flatten ∧
      Extends disk place (.file (old ++ written) runnable)
        (disk.writeWhile place chunks).2 ∧
      ((disk.writeWhile place chunks).1 = .ok () →
        written = chunks.flatten) := by
  induction chunks generalizing disk old with
  | nil =>
      refine ⟨[], List.nil_prefix, ?_, fun _ => rfl⟩
      rw [List.append_nil]
      exact ⟨hitem, fun _ _ => rfl, rfl⟩
  | cons chunk rest ih =>
      have hfirst := appendAt_extends hplace hitem chunk
      have hrest : ∀ next : Disk,
          Extends disk place (.file (old ++ chunk) runnable) next →
          ∃ written, written <+: (chunk :: rest).flatten ∧
            Extends disk place (.file (old ++ written) runnable)
              (next.writeWhile place rest).2 ∧
            ((next.writeWhile place rest).1 = .ok () →
              written = (chunk :: rest).flatten) := by
        intro next hfirst
        obtain ⟨written, hwritten, hext, hall⟩ := ih hfirst.there
        rw [List.flatten_cons]
        refine ⟨chunk ++ written,
          (List.prefix_append_right_inj chunk).2 hwritten, ?_,
          fun hok => by rw [hall hok]⟩
        rw [← List.append_assoc]
        exact ⟨hext.there,
          fun q hq => (hext.other q hq).trans (hfirst.other q hq),
          hext.home.trans hfirst.home⟩
      unfold writeWhile
      cases hspare : disk.spare with
      | none => exact hrest _ hfirst
      | some room =>
          dsimp only
          split
          · refine ⟨[], List.nil_prefix, ?_, nofun⟩
            rw [List.append_nil]
            exact ⟨hitem, fun _ _ => rfl, rfl⟩
          · exact hrest _ ⟨hfirst.there, hfirst.other, hfirst.home⟩

/-- With room for two bytes, the chunk that holds the third is left
out. -/
example :
    writeWhile ⟨[(["a"], .file [] false)], [], "/", some 2⟩ ["a"]
        [[1, 2], [3]]
      = (.error .noSpace,
          ⟨[(["a"], .file [1, 2] false)], [], "/", some 0⟩) := rfl

/-- Writing chunks puts all of them behind the bytes of a file. -/
theorem writeChunks_extends {chunks : List Bytes} {old : Bytes}
    {runnable : Bool} (hplace : place ≠ [])
    (hitem : disk.item? place = some (.file old runnable))
    (h : disk.writeChunks place chunks = .ok disk') :
    Extends disk place (.file (old ++ chunks.flatten) runnable)
      disk' := by
  obtain ⟨written, -, hext, hall⟩ :=
    writeWhile_extends chunks hplace hitem
  rw [writeChunks_eq] at h
  rcases hwhile : disk.writeWhile place chunks with ⟨result, behind⟩
  rw [hwhile] at h hext hall
  cases result with
  | error fault => cases h
  | ok =>
      cases h
      rw [← hall rfl]
      exact hext

/-- A file that is started where nothing was is empty. -/
theorem startFile_ok
    (h : disk.startFile path = .ok (place, disk'))
    (hvacant : ∀ q i, disk.resolve path ≠ .ok (.found q i)) :
    endsInSlash path = false ∧
    disk.resolve path = .ok (.vacant place) ∧
    disk' = disk.put place (.file [] false) := by
  unfold startFile at h
  cases hslash : endsInSlash path with
  | true =>
      rw [hslash] at h
      change (do
        disk.checkAbove path
        throw .isFolder : Except IoFault (Place × Disk)) = _ at h
      cases habove : disk.checkAbove path with
      | error fault =>
          rw [habove] at h
          cases h
      | ok _ =>
          rw [habove] at h
          cases h
  | false =>
      rw [hslash] at h
      cases hresolve : disk.resolve path with
      | error fault =>
          rw [hresolve] at h
          cases h
      | ok spot =>
          rw [hresolve] at h
          cases spot with
          | found q i => exact absurd hresolve (hvacant q i)
          | vacant q =>
              cases h
              exact ⟨rfl, rfl, rfl⟩

/-- A fresh candidate leads to nothing. -/
theorem freshStage_vacant {n : Nat} (h : disk.freshStage = some n)
    (q : Place) (i : Item) :
    disk.resolve (disk.stagePath (stageName n)) ≠ .ok (.found q i) := by
  intro hfound
  have hfree := List.find?_some h
  rw [stageTaken, hfound] at hfree
  cases hfree

/-- A file that is staged where nothing was is a new item that holds the
chunks, and its path leads to it. -/
theorem stageAt_ok {chunks : List Bytes} {staged : Staged}
    (h : disk.stageAt path chunks = .ok (staged, disk'))
    (hvacant : ∀ q i, disk.resolve path ≠ .ok (.found q i)) :
    Adds disk staged.place (.file chunks.flatten false) disk' ∧
    disk'.openAt staged.path = .ok staged.place := by
  unfold stageAt at h
  cases hstart : disk.startFile path with
  | error fault =>
      rw [hstart] at h
      cases h
  | ok started =>
      obtain ⟨place, first⟩ := started
      obtain ⟨hslash, hresolve, rfl⟩ := startFile_ok hstart hvacant
      rw [hstart] at h
      change (do
        let disk'' ← (disk.put place (.file [] false)).writeChunks
          place chunks
        return (Staged.mk path place, disk'')) = _ at h
      cases hwrite : (disk.put place (.file [] false)).writeChunks
        place chunks with
      | error fault =>
          rw [hwrite] at h
          cases h
      | ok written =>
          rw [hwrite] at h
          cases h
          have hempty : disk.item? place = none :=
            walk_spot (walk_of_resolve hresolve)
          have hplace := ne_root_of_vacant hempty
          have hext := writeChunks_extends hplace
            (item?_put_self hplace _) hwrite
          have hadds : Adds disk place (.file chunks.flatten false)
              disk' :=
            ⟨hempty, hext.there,
              fun q hq => (hext.other q hq).trans (item?_put_other hq _),
              hext.home⟩
          exact ⟨hadds, hadds.openAt_new hslash hresolve⟩

/-- So is every staged file. -/
theorem stage_ok {chunks : List Bytes} {staged : Staged}
    (h : disk.stage chunks = .ok (staged, disk')) :
    Adds disk staged.place (.file chunks.flatten false) disk' ∧
    disk'.openAt staged.path = .ok staged.place := by
  unfold stage at h
  cases hfresh : disk.freshStage with
  | none =>
      rw [hfresh] at h
      cases h
  | some n =>
      rw [hfresh] at h
      dsimp only at h
      cases hstaged : disk.stageAt (disk.stagePath (stageName n))
        chunks with
      | error fault =>
          rw [hstaged] at h
          cases h
      | ok done =>
          rw [hstaged] at h
          cases h
          exact stageAt_ok hstaged (freshStage_vacant hfresh)

-- ================================================= staging that fails

/-- How staging fails, and the reason: every name is taken, or the file
cannot be made, or it is made and its writing breaks off.  Then it holds
a beginning of the chunks, and when it is taken away, every place holds
what it held before. -/
inductive BreaksOff (disk : Disk) (chunks : List Bytes) :
    String → Prop
  | crowded :
      disk.freshStage = none →
      BreaksOff disk chunks
        ("too many temporary files exist at path "
          ++ Text.quotedPath disk.stageFolder)
  | unmade {n : Nat} {fault : IoFault} :
      disk.freshStage = some n →
      disk.startFile (disk.stagePath (stageName n)) = .error fault →
      BreaksOff disk chunks
        (fault.message ++ " at path "
          ++ Text.quotedPath (disk.stagePath (stageName n)))
  | midway {n : Nat} {fault : IoFault} {place : Place}
      {empty half : Disk} {written : Bytes} :
      disk.freshStage = some n →
      disk.startFile (disk.stagePath (stageName n))
        = .ok (place, empty) →
      empty.writeWhile place chunks = (.error fault, half) →
      written <+: chunks.flatten →
      Adds disk place (.file written false) half →
      (∀ q, (half.drop place).item? q = disk.item? q) →
      BreaksOff disk chunks
        (fault.message ++ " at path "
          ++ Text.quotedPath (disk.stagePath (stageName n)))

/-- Writing that breaks off leaves one more file, with a beginning of the
chunks. -/
theorem writeWhile_adds (chunks : List Bytes)
    (hvacant : disk.item? place = none) :
    ∃ written, written <+: chunks.flatten ∧
      Adds disk place (.file written false)
        ((disk.put place (.file [] false)).writeWhile place chunks).2 := by
  have hplace := ne_root_of_vacant hvacant
  obtain ⟨written, hwritten, hext, -⟩ :=
    writeWhile_extends chunks hplace (item?_put_self hplace _)
  exact ⟨written, hwritten, hvacant, hext.there,
    fun q hq => (hext.other q hq).trans (item?_put_other hq _),
    hext.home⟩

/-- Staging that fails has broken off. -/
theorem stage_error {chunks : List Bytes} {reason : String}
    (h : disk.stage chunks = .error reason) :
    BreaksOff disk chunks reason := by
  unfold stage at h
  cases hfresh : disk.freshStage with
  | none =>
      rw [hfresh] at h
      cases h
      exact .crowded hfresh
  | some n =>
      rw [hfresh] at h
      dsimp only at h
      unfold stageAt at h
      cases hstart : disk.startFile (disk.stagePath (stageName n)) with
      | error fault =>
          rw [hstart] at h
          cases h
          exact .unmade hfresh hstart
      | ok started =>
          obtain ⟨place, empty⟩ := started
          obtain ⟨-, hresolve, hempty⟩ :=
            startFile_ok hstart (freshStage_vacant hfresh)
          obtain ⟨written, hwritten, hadds⟩ :=
            writeWhile_adds chunks
              (walk_spot (walk_of_resolve hresolve))
          rw [← hempty] at hadds
          rcases hwhile : empty.writeWhile place chunks
            with ⟨result, half⟩
          rw [hwhile] at hadds
          have hwrite := writeChunks_eq empty place chunks
          rw [hwhile] at hwrite
          rw [hstart] at h
          change ((do
            let disk'' ← empty.writeChunks place chunks
            return (Staged.mk (disk.stagePath (stageName n)) place,
              disk'') : Except IoFault (Staged × Disk)).mapError _)
            = _ at h
          rw [hwrite] at h
          cases result with
          | ok => cases h
          | error fault =>
              cases h
              exact .midway hfresh hstart hwhile hwritten hadds
                hadds.drop

end RemoteProvision.Disk
