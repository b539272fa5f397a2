/-
Kinds of calls, and the ids in them.

A script asks for its helpers first and then, again and again, for the
upload and the start of its own file (`IsAttempt`).  Ids are drawn for
the helpers only.  Each id has one use: it names a file that sets the
variables, a task, or a wrapper file, and the next use takes the next id.
So the calls of a run and the ids that it draws go along with each other
(`Naming`), whatever the channel answers: a variables file takes one id
and is uploaded at once, and the two ids behind it are taken together
with the upload of the wrapper, or not at all.
-/
import RemoteProvision.Proofs.Run.Course

namespace RemoteProvision

-- ====================================================== drawn answers

/-- The next answers of a feed. -/
def Feed.drawn {α : Type} (feed : Feed α) (count : Nat) : List α :=
  (List.range count).map fun n => feed.answer (feed.taken + n)

theorem Feed.drawn_add {α : Type} (feed : Feed α) (m n : Nat) :
    feed.drawn (m + n) = feed.drawn m ++ (feed.skip m).drawn n := by
  rw [drawn, drawn, drawn, List.range_add, List.map_append, List.map_map]
  refine congrArg _ (List.map_congr_left fun k _ => ?_)
  show feed.answer (feed.taken + (m + k)) = feed.answer (feed.taken + m + k)
  rw [Nat.add_assoc]

/-- A feed that never answers twice alike gives different answers, as
long as its count stays below a bound. -/
theorem Feed.nodup_drawn {α : Type} {feed : Feed α} (bound : Nat)
    (h : ∀ m n, m < bound → n < bound →
      feed.answer m = feed.answer n → m = n)
    (count : Nat) (hbound : feed.taken + count ≤ bound) :
    (feed.drawn count).Nodup := by
  refine List.pairwise_map.2 ?_
  refine List.nodup_range.imp_of_mem fun {m n} hm hn hne heq => hne ?_
  have hm := List.mem_range.1 hm
  have hn := List.mem_range.1 hn
  have hsame := h _ _ (by omega) (by omega) heq
  omega

namespace Run

open RemoteProvision.Command

variable {π : Type} {settings : Settings} {limit : Nat} {scene : Scene}
  {place : Place} {path command : String} {calls : List (Asked π)}
  {disk : Disk}

-- ==================================================== kinds of calls

/-- A call behind the helpers: what it uploads is the file that a path
leads to. -/
def IsAttempt (settings : Settings) (disk : Disk) (path : String)
    (call : Asked π) : Prop :=
  ∀ target source binary answer,
    call = .upload target source binary answer →
    target = settings.remotePath ∧ binary = settings.binary ∧
    ∃ place, source = .file place 0 ∧ disk.openAt path = .ok place

/-- The upload of a script that was opened. -/
theorem IsAttempt.script (hopen : disk.openAt path = .ok place)
    (answer : Except ChannelFault Unit) :
    IsAttempt settings disk path
      (scriptCall (π := π) settings place answer) := by
  rintro target source binary answer' ⟨⟩
  exact ⟨rfl, rfl, place, rfl, hopen⟩

theorem Refusals.areAttempts {errors : List ProvisionError}
    (hopen : disk.openAt path = .ok place)
    (h : Refusals settings place command calls errors) :
    ∀ call ∈ calls, IsAttempt settings disk path call := by
  induction h with
  | none => exact nofun
  | more hfirst _ ih =>
      refine List.forall_mem_append.2 ⟨?_, ih⟩
      cases hfirst with
      | upload fault =>
          exact List.forall_mem_singleton.2 (.script hopen _)
      | start fault =>
          exact List.forall_mem_cons.2
            ⟨.script hopen _, List.forall_mem_singleton.2 nofun⟩

theorem Launched.areAttempts {tried : Tried π}
    (hopen : disk.openAt path = .ok place)
    (h : Launched settings limit place command calls tried) :
    ∀ call ∈ calls, IsAttempt settings disk path call := by
  cases h with
  | succeeded hrefusals _ =>
      refine List.forall_mem_append.2 ⟨hrefusals.areAttempts hopen, ?_⟩
      exact List.forall_mem_cons.2
        ⟨.script hopen _, List.forall_mem_singleton.2 nofun⟩
  | gaveUp hrefusals _ => exact hrefusals.areAttempts hopen
  | undecided hrefusals _ => exact hrefusals.areAttempts hopen

theorem Finished.areAttempts {rest : List (Asked π)} {tried : Tried π}
    {verdict : Verdict} (h : Finished settings tried rest verdict) :
    ∀ call ∈ rest, IsAttempt settings disk path call := by
  cases h with
  | gaveUp e => exact nofun
  | undecided => exact nofun
  | unwaited process fault => exact List.forall_mem_singleton.2 nofun
  | exited process _ => exact List.forall_mem_singleton.2 nofun
  | done process _ => exact List.forall_mem_singleton.2 nofun

-- ============================================================== uses

/-- What an id is for. -/
inductive Kind where
  /-- The path that scripts are uploaded to. -/
  | remotePath
  /-- The file that sets the variables. -/
  | vars
  | task
  /-- The wrapper file of a task. -/
  | wrapper
deriving DecidableEq

namespace Kind

/-- What stands before the id. -/
def front : Kind → String
  | .remotePath => "c:/Windows/Temp/script-"
  | .vars => "$\x7benv:TEMP\x7d\\psprov-env-vars-"
  | .task => "psprov-"
  | .wrapper => "$\x7benv:TEMP\x7d\\psprov-elevated-shell-"

/-- What stands behind it. -/
def back : Kind → String
  | .task => ""
  | _ => ".ps1"

/-- Whether a helper file is named. -/
def isHelper : Kind → Bool
  | .vars => true
  | .wrapper => true
  | _ => false

/-- None of the texts before the ids is the beginning of another. -/
theorem front_prefix {k k' : Kind}
    (h : k.front.toList <+: k'.front.toList) : k = k' := by
  revert h
  cases k <;> cases k' <;> decide

end Kind

/-- An id and what it is for. -/
structure Use where
  kind : Kind
  id : String

namespace Use

/-- What is named: the path of a file, or a task. -/
def name : Use → String
  | ⟨.remotePath, id⟩ => Defaults.remotePath id
  | ⟨.vars, id⟩ => (varsFile id).uploadPath
  | ⟨.task, id⟩ => "psprov-" ++ id
  | ⟨.wrapper, id⟩ => (wrapperFile id).uploadPath

theorem name_eq (use : Use) :
    use.name = use.kind.front ++ (use.id ++ use.kind.back) := by
  obtain ⟨kind, id⟩ := use
  cases kind with
  | remotePath => exact String.append_assoc ..
  | vars =>
      show "$\x7benv:TEMP\x7d\\" ++ ("psprov-env-vars-" ++ id ++ ".ps1") = _
      rw [String.append_assoc, ← String.append_assoc]
      rfl
  | task =>
      show _ = "psprov-" ++ (id ++ "")
      rw [String.append_empty]
      rfl
  | wrapper =>
      show "$\x7benv:TEMP\x7d\\"
        ++ ("psprov-elevated-shell-" ++ id ++ ".ps1") = _
      rw [String.append_assoc, ← String.append_assoc]
      rfl

/-- A name is of one kind and has one id. -/
theorem name_inj {u v : Use} (h : u.name = v.name) : u = v := by
  rw [name_eq, name_eq] at h
  obtain ⟨kind, id⟩ := u
  obtain ⟨kind', id'⟩ := v
  have hlist : kind.front.toList ++ (id ++ kind.back).toList
      = kind'.front.toList ++ (id' ++ kind'.back).toList := by
    rw [← String.toList_append, ← String.toList_append]
    exact congrArg String.toList h
  have hfront : kind'.front.toList
      <+: kind.front.toList ++ (id ++ kind.back).toList := by
    rw [hlist]
    exact List.prefix_append _ _
  have hkind : kind = kind' := by
    rcases List.prefix_or_prefix_of_prefix (List.prefix_append _ _) hfront
      with hp | hp
    · exact Kind.front_prefix hp
    · exact (Kind.front_prefix hp).symm
  subst hkind
  have hid : id = id' :=
    (String.append_left_inj _).1 ((String.append_right_inj _).1 h)
  rw [hid]

end Use

-- ============================================================ naming

/-- The next ids of a feed stand in some calls, each in its place: in the
path of a variables file, or in the script and the path of a wrapper.
All other uploads are attempts. -/
inductive Naming (settings : Settings) :
    Feed String → List (Asked π) → List Use → Prop
  | none {ids : Feed String} : Naming settings ids [] []
  | attempt {ids : Feed String} {call : Asked π} {rest : List (Asked π)}
      {uses : List Use} {disk : Disk} {path : String} :
      IsAttempt settings disk path call →
      Naming settings ids rest uses →
      Naming settings ids (call :: rest) uses
  | vars {ids : Feed String} {text : String}
      {answer : Except ChannelFault Unit} {rest : List (Asked π)}
      {uses : List Use} :
      Naming settings (ids.skip 1) rest uses →
      Naming settings ids
        (.upload (varsFile (ids.answer ids.taken)).uploadPath
          (.ofText text) false answer :: rest)
        (⟨.vars, ids.answer ids.taken⟩ :: uses)
  | wrapper {ids : Feed String} {credentials : Credentials}
      {command : String} {answer : Except ChannelFault Unit}
      {rest : List (Asked π)} {uses : List Use} :
      Naming settings (ids.skip 2) rest uses →
      Naming settings ids
        (.upload (wrapperFile (ids.answer (ids.taken + 1))).uploadPath
          (.ofText
            (taskOf credentials command (ids.answer ids.taken)).script)
          false answer :: rest)
        (⟨.task, ids.answer ids.taken⟩
          :: ⟨.wrapper, ids.answer (ids.taken + 1)⟩ :: uses)

variable {ids : Feed String} {uses uses' : List Use}

/-- Every id that is drawn has its use. -/
theorem Naming.drawn (h : Naming settings ids calls uses) :
    uses.map Use.id = ids.drawn uses.length := by
  induction h with
  | none => rfl
  | attempt _ _ ih => exact ih
  | @vars ids _ _ _ uses _ ih =>
      rw [List.map_cons, ih]
      show _ = ids.drawn (uses.length + 1)
      rw [Nat.add_comm uses.length, Feed.drawn_add]
      rfl
  | @wrapper ids _ _ _ _ uses _ ih =>
      rw [List.map_cons, List.map_cons, ih]
      show _ = ids.drawn (uses.length + 2)
      rw [Nat.add_comm uses.length, Feed.drawn_add]
      rfl

/-- Calls behind each other take the ids behind each other. -/
theorem Naming.append {calls' : List (Asked π)}
    (h : Naming settings ids calls uses)
    (h' : Naming settings (ids.skip uses.length) calls' uses') :
    Naming settings ids (calls ++ calls') (uses ++ uses') := by
  induction h with
  | none => exact h'
  | attempt hcall _ ih => exact .attempt hcall (ih h')
  | @vars ids _ _ _ uses _ ih =>
      refine .vars (ih ?_)
      rw [Feed.skip_skip, Nat.add_comm]
      exact h'
  | @wrapper ids _ _ _ _ uses _ ih =>
      refine .wrapper (ih ?_)
      rw [Feed.skip_skip, Nat.add_comm]
      exact h'

/-- The path of a helper file that is uploaded. -/
def helperPath? : Asked π → Option String
  | .upload path (.bytes _) _ _ => some path
  | _ => none

theorem IsAttempt.not_helper {call : Asked π}
    (h : IsAttempt settings disk path call) : helperPath? call = none := by
  cases call with
  | upload target source binary answer =>
      obtain ⟨-, -, place, rfl, -⟩ := h _ _ _ _ rfl
      rfl
  | start command answer => rfl
  | wait process answer => rfl

/-- The helper files that are uploaded are those that ids were drawn
for. -/
theorem Naming.helpers (h : Naming settings ids calls uses) :
    calls.filterMap helperPath?
      = (uses.filter fun use => use.kind.isHelper).map Use.name := by
  induction h with
  | none => rfl
  | attempt hcall _ ih =>
      rw [List.filterMap_cons_none hcall.not_helper]
      exact ih
  | vars _ ih => exact congrArg (_ :: ·) ih
  | wrapper _ ih => exact congrArg (_ :: ·) ih

/-- Every file that is offered goes to the upload path. -/
theorem Naming.scripts (h : Naming settings ids calls uses) :
    ∀ target place offset binary answer,
      .upload target (.file place offset) binary answer ∈ calls →
      target = settings.remotePath := by
  intro target place offset binary answer hmem
  induction h with
  | none => cases hmem
  | attempt hcall _ ih =>
      rcases List.mem_cons.1 hmem with rfl | hrest
      · exact (hcall _ _ _ _ rfl).1
      · exact ih hrest
  | vars _ ih =>
      rcases List.mem_cons.1 hmem with hfirst | hrest
      · cases hfirst
      · exact ih hrest
  | wrapper _ ih =>
      rcases List.mem_cons.1 hmem with hfirst | hrest
      · cases hfirst
      · exact ih hrest

/-- Attempts take no ids. -/
theorem Naming.of_attempts
    (h : ∀ call ∈ calls, IsAttempt settings disk path call) :
    Naming settings ids calls [] := by
  induction calls with
  | nil => exact .none
  | cons call rest ih =>
      obtain ⟨hcall, hrest⟩ := List.forall_mem_cons.1 h
      exact .attempt hcall (ih hrest)

/-- The variables of a script take its first id. -/
theorem Scene.naming_vars (scene : Scene)
    (answer : Except ChannelFault Unit) :
    Naming (π := π) settings scene.ids [varsCall settings scene answer]
      [⟨.vars, scene.id 0⟩] :=
  .vars .none

/-- The wrapper behind them takes the two ids that follow. -/
theorem Scene.naming_wrapper (scene : Scene) (credentials : Credentials)
    (command : String) (answer answer' : Except ChannelFault Unit) :
    Naming (π := π) settings scene.ids
      [varsCall settings scene answer,
        wrapperCall credentials command scene answer']
      [⟨.vars, scene.id 0⟩, ⟨.task, scene.id 1⟩,
        ⟨.wrapper, scene.id 2⟩] :=
  .vars (.wrapper .none)

end Run

end RemoteProvision
