import Zygote.Arguments
import Zygote.Following
import Zygote.Privileges

/-!
# The child of a species

`child_process::re_initialize` with the callbacks of the species and the names of the process. What
the callbacks ask of the platform's libraries is kept on a record of its own; the libraries answer
as they like.
-/
namespace Zygote
open Effect Credentials

inductive SchedPolicy where
  | default
  | topApp
  deriving DecidableEq, Repr

/-- The calls into libraries that are not part of the zygote, and the ones that only they need. -/
inductive LibraryCall where
  | fdsanSetErrorLevel (level : Nat)
  | setZygoteChild
  | malloptDecayTime (value : Nat)
  | malloptPurgeAll
  | cgroupCreate (uid : Id) (pid : Nat)
  | setCpusetPolicy (tid : Nat) (policy : SchedPolicy)
  | setSchedPolicy (tid : Nat) (policy : SchedPolicy)
  | dropTaskProfilesResourceCaching
  | setAppZygoteSeccompFilter
  | setAppSeccompFilter
  | setSystemSeccompFilter
  | installSetuidgidSeccompFilter (uidGidMin uidGidMax : UInt32)
  | prctlSetNoNewPrivs
  | setSelinuxContext (uid : Id) (isSystemServer : Bool) (seInfo name : Bytes) (selinuxFlags : UInt64)
  | appProcessInit (targetSdkVersion : Int32) (runtimeFlags : UInt32)
  | preloadLib (libraryPath libraryDirs permittedLibraryPaths : String) (targetSdkVersion : Int32)
      (shared : Bool) (zipPath nativeSharedLibPath : String) (preloadFunc : Option String)
  | runNativeActivityThread (startSeq : Int64)
  | libraryOpen (path : String)
  | libraryGet (symbol : String)
  | entryFunction (args : List CStr)
  deriving DecidableEq

/-- How a call ends. Some of the libraries abort the process. -/
inductive Answer where
  | done
  | failed (errno : Errno)
  | aborts (reason : String)
  deriving DecidableEq, Repr

/-- What the libraries do, by the number of calls before. -/
structure Libraries where
  answer : Nat → LibraryCall → Answer
  fdsanErrorLevel : Nat
  cpusetsEnabled : Bool
  /-- The verifier's `root::<SpawnSubspeciesAndroidNative>`. -/
  rootSubspecies : Bytes → Option Inner.SpawnSubspeciesAndroidNative
  /-- The status the entry function of a library returns. -/
  entryStatus : List CStr → Int32

def Libraries.calm : Libraries where
  answer _ _ := .done
  fdsanErrorLevel := 0
  cpusetsEnabled := true
  rootSubspecies _ := none
  entryStatus _ := 0

/-- A call on the record, with the credentials it was made with. -/
structure Made where
  call : LibraryCall
  task : Task

/-- A child between the fork and the code of its species. The oldest call stands first. -/
structure Child where
  world : World
  naming : Naming
  calls : List Made
  libraries : Libraries

inductive ReInitWrapper where
  | androidNative (fdsErrorLevel : Nat)
  | libApp
  | mock
  deriving DecidableEq, Repr

/-- What becomes of a process that does not return. -/
inductive Fate where
  | exited (status : Int32)
  | entered (startSeq : Int64)
  deriving DecidableEq, Repr

abbrev ChildM := Prog Child Empty

/-- The callbacks of a species that act on the process. -/
structure Callbacks where
  gatherReinitializationData : ChildM ReInitWrapper
  reInitializePrologue : SpawnParamsCommon → SpawnPayload → ReInitWrapper → ChildM Unit
  setSeccompFilters : SpawnParamsCommon → SpawnPayload → ChildM Unit
  reInitializeEpilogue : SpawnParamsCommon → ReInitWrapper → ChildM Unit
  speciate : SpawnPayload → ChildM Unit
  gestate : SpawnParamsCommon → SpawnPayload → ChildM Fate

namespace Child
variable {ε α : Type}

def onWorld (p : Prog World ε α) : Prog Child ε α :=
  Prog.focus Child.world (fun world c => { c with world }) p

def onNaming (p : Prog Naming ε α) : Prog Child ε α :=
  Prog.focus Child.naming (fun naming c => { c with naming }) p

/-- A call into a library. It is on the record however it ends. -/
def library (call : LibraryCall) : Prog Child Errno Unit := fun c =>
  let made := { c with calls := c.calls ++ [⟨call, c.world.task⟩] }
  match c.libraries.answer c.calls.length call with
  | .done => (.ok (), made)
  | .failed errno => (.err errno, made)
  | .aborts reason => (.panic reason, made)

/-- A call whose result nobody looks at. -/
def perform (call : LibraryCall) : ChildM Unit := do
  let _ ← (library call).result
  pure ()

/-- `expect` of an optional value. -/
def required {α : Type} (reason : String) : Option α → ChildM α
  | some a => pure a
  | none => Prog.panic reason

/-- The mark of a callback on the record of the process. -/
def marked (c : Child) (mark : Call) : Child := { c with world := c.world.note mark none }

def callback (mark : Call) (p : ChildM Unit) : ChildM Unit := fun c => p (c.marked mark)

theorem initialName_terminated : (0 : UInt8) ∉ "zygote-child".toUTF8.data.toList := by decide

def zygoteChildProcessInitialName : CStr := ⟨"zygote-child".toUTF8.data.toList, initialName_terminated⟩

/-- A name with a null among its bytes is none, and the process keeps the one it has. -/
def setProcessName (name : String) : Prog Naming ε Unit :=
  Prog.forSome (CStr.new name.toUTF8.data.toList) Naming.setNewProcessName

end Child

section reInitialize
open Child ChildProcess

/-- What follows the prologue. `exec` says whether the process has been spawned by `exec`: then the
groups are always replaced. -/
def becomeChild (exec : Bool) (species : Callbacks) (reInitData : ReInitWrapper)
    (params : SpawnParamsCommon)
    (payload : SpawnPayload) : ChildM Unit := do
  onNaming (Naming.setNewProcessName zygoteChildProcessInitialName)
  onWorld keepCapabilities
  onWorld (Prog.forSome params.capPermitted fun cap =>
    (storeAdditive cap).expect "Failed to store additive capabilities")
  onWorld (Prog.forSome params.capBound fun cap => dropBounds (complement cap))
  (if params.secondaryGroups.toList = [] ∧ exec = false then pure ()
    else onWorld ((setgroups params.secondaryGroups.toList).expect "Failed to set groups"))
  onWorld (setrlimits params.rlimits.toList)
  onWorld (setIds setresgid "Failed to set GID" params.gid)
  callback .setSeccompFilters (species.setSeccompFilters params payload)
  onWorld (setIds setresuid "Failed to set UID" params.uid)
  onWorld ((overwriteSome params.capEffective params.capPermitted params.capInheritable).expect
    "Failed to store overwritten capabilities")
  onNaming (Prog.forSome params.processName setProcessName)
  callback .reInitializeEpilogue (species.reInitializeEpilogue params reInitData)

/-- Perform the initialization of a child with the callbacks of its species. -/
def reInitialize (exec : Bool) (species : Callbacks) (reInitData : ReInitWrapper)
    (params : SpawnParamsCommon)
    (payload : SpawnPayload) : ChildM Unit := do
  callback .reInitializePrologue (species.reInitializePrologue params payload reInitData)
  becomeChild exec species reInitData params payload

/-- What the thunk of a child does with the parameters and the payload of its message. -/
def Child.specialize (exec : Bool) (species : Callbacks) (reInitData : ReInitWrapper)
    (params : SpawnParamsCommon)
    (payload : SpawnPayload) : ChildM Fate := do
  reInitialize exec species reInitData params payload
  species.gestate params payload

end reInitialize

section follows
open ChildProcess
variable {params : SpawnParamsCommon} {payload : SpawnPayload} {species : Callbacks}
    {data : ReInitWrapper}
  {libraries : Libraries} {own : Prop}

def Naming.Valid (s : Naming) : Prop :=
  ∀ arg, s.arg = some arg → 0 < arg.capacity ∧ arg.argv0 + arg.capacity ≤ s.memory.length

theorem Naming.Valid.renamed {ε : Type} {s : Naming} (valid : s.Valid) (name : CStr) :
    ∃ t : Naming, (setNewProcessName name : Prog Naming ε Unit) s = (.ok (), t) ∧ t.Valid := by
  obtain ⟨memory, arg, comm⟩ := s
  cases arg with
  | none =>
      refine ⟨⟨memory, none, commOf name⟩, ?_, fun arg absent => nomatch absent⟩
      unfold setNewProcessName
      rw [Prog.bind_of_ok (prctlSetName_end name _)]
      rfl
  | some arg =>
      obtain ⟨positive, inside⟩ := valid arg rfl
      obtain ⟨argv0, capacity⟩ := arg
      dsimp only at positive inside
      have start : (memory.take argv0).length = argv0 := by
        rw [List.length_take]
        omega
      have size : ((memory.drop argv0).take capacity).length = capacity := by
        rw [List.length_take, List.length_drop]
        omega
      have split : memory.take argv0 ++ ((memory.drop argv0).take capacity ++
          (memory.drop argv0).drop capacity) = memory := by
        rw [List.take_append_drop, List.take_append_drop]
      have titles := @setNewProcessName_titles ε (memory.take argv0) ((memory.drop argv0).take capacity)
        ((memory.drop argv0).drop capacity) name (List.ne_nil_of_length_pos (size.symm ▸ positive)) comm
      rw [split, start, size] at titles
      refine ⟨_, titles, fun arg same => ?_⟩
      cases same
      refine ⟨positive, ?_⟩
      simp only [List.length_append, start, length_titled positive]
      omega

/-- Something is done beside the process: its world, its names and its libraries stay. -/
structure Child.Beside (c c' : Child) : Prop where
  world : c'.world = c.world
  naming : c'.naming = c.naming
  libraries : c'.libraries = c.libraries

/-- The callbacks act on nothing but what the libraries look after. -/
structure Callbacks.Outside (species : Callbacks) : Prop where
  prologue : ∀ params payload data,
    Prog.Within Child.Beside (species.reInitializePrologue params payload data)
  filters : ∀ params payload, Prog.Within Child.Beside (species.setSeccompFilters params payload)
  epilogue : ∀ params data, Prog.Within Child.Beside (species.reInitializeEpilogue params data)

/-- The callbacks behind the prologue do not panic, or nothing is said. -/
structure Callbacks.Panics (species : Callbacks) (params : SpawnParamsCommon) (payload : SpawnPayload)
    (data : ReInitWrapper) (libraries : Libraries) (own : Prop) : Prop where
  filters : ∀ c : Child, c.libraries = libraries →
    (species.setSeccompFilters params payload c).1.isPanic = true → own
  epilogue : ∀ c : Child, c.libraries = libraries →
    (species.reInitializeEpilogue params data c).1.isPanic = true → own

/-- The callbacks are those of the species, and the names can be written. -/
structure Child.Sound (libraries : Libraries) (c : Child) : Prop where
  silent : ∀ n call, c.world.env.hookPanics n call = none
  valid : c.naming.Valid
  libraries : c.libraries = libraries

abbrev Child.Follows {α : Type} (libraries : Libraries) (own : Prop) (P : ChildM α)
    (p : Prog World Empty α) : Prop :=
  Prog.Follows Child.world (Child.Sound libraries) own P p

theorem Child.onWorld_follows {α : Type} {p : Prog World Empty α}
    (keeps : Prog.Within (fun w w' : World => w'.env = w.env) p) :
    Child.Follows libraries own (Child.onWorld p) p :=
  .focus (fun _ _ => rfl) fun c sound =>
    ⟨by rw [show _ = c.world.env from keeps c.world]; exact sound.silent, sound.valid, sound.libraries⟩

theorem Child.callback_follows {mark : Call} {p : ChildM Unit} (outside : Prog.Within Child.Beside p)
    (fatal : ∀ c : Child, c.libraries = libraries → (p c).1.isPanic = true → own) :
    Child.Follows libraries own (Child.callback mark p) (hook mark) := by
  intro c sound
  have marked : Child.Sound libraries (c.marked mark) := ⟨sound.silent, sound.valid, sound.libraries⟩
  have run : Child.callback mark p c = p (c.marked mark) := rfl
  have hooked : (hook mark : Prog World Empty Unit) c.world = (.ok (), c.world.note mark none) := by
    unfold hook
    rw [sound.silent]
  have beside := outside (c.marked mark)
  have panics := fatal (c.marked mark) marked.libraries
  rw [run, hooked]
  have kept : Child.Sound libraries (p (c.marked mark)).2 :=
    ⟨by rw [beside.world]; exact marked.silent, by rw [beside.naming]; exact marked.valid,
      beside.libraries.trans marked.libraries⟩
  refine ⟨kept, ?_⟩
  cases ended : (p (c.marked mark)).1 with
  | ok a => exact .inl ⟨rfl, beside.world⟩
  | err e => exact e.elim
  | panic reason =>
      rw [ended] at panics
      exact .inr ⟨panics rfl, rfl⟩

theorem Child.onNaming_follows {p : Prog Naming Empty Unit}
    (renames : ∀ s : Naming, s.Valid → ∃ t : Naming, p s = (.ok (), t) ∧ t.Valid) :
    Child.Follows libraries own (Child.onNaming p) (pure ()) := by
  intro c sound
  obtain ⟨t, run, valid⟩ := renames c.naming sound.valid
  have renamed : Child.onNaming p c =
    ((.ok (), { c with naming := t }) : Outcome Empty Unit × Child) := by
    unfold Child.onNaming Prog.focus
    rw [run]
  rw [renamed]
  exact ⟨⟨sound.silent, valid, sound.libraries⟩, .inl ⟨rfl, rfl⟩⟩

/-- What follows the hook of the prologue, in the order of its steps. -/
def ChildProcess.becomeChild (exec : Bool) (params : SpawnParamsCommon) : Prog World Empty Unit := do
  keepCapabilities
  Prog.forSome params.capPermitted fun cap =>
    (storeAdditive cap).expect "Failed to store additive capabilities"
  Prog.forSome params.capBound fun cap => dropBounds (complement cap)
  (if params.secondaryGroups.toList = [] ∧ exec = false then pure ()
    else (setgroups params.secondaryGroups.toList).expect "Failed to set groups")
  setrlimits params.rlimits.toList
  setIds setresgid "Failed to set GID" params.gid
  hook .setSeccompFilters
  setIds setresuid "Failed to set UID" params.uid
  (overwriteSome params.capEffective params.capPermitted params.capInheritable).expect
    "Failed to store overwritten capabilities"
  hook .reInitializeEpilogue

theorem reInitialize_steps (exec : Bool) (params : SpawnParamsCommon) :
    ChildProcess.reInitialize exec params =
      (hook .reInitializePrologue >>= fun _ =>
        ChildProcess.becomeChild exec params : Prog World Empty Unit) := by
  unfold ChildProcess.reInitialize ChildProcess.becomeChild prepare becomeUser finish
  simp only [Prog.bind_assoc]

/-- With its callbacks and its names, a child does to the process what it does without. -/
theorem becomeChild_follows {exec : Bool} (outside : species.Outside)
    (panics : species.Panics params payload data libraries own) :
    Child.Follows libraries own (becomeChild exec species data params payload)
      (ChildProcess.becomeChild exec params) := by
  have sets : Sets (fun _ => True) fun w w' : World => w'.env = w.env :=
    ⟨fun _ => rfl, fun first second => second.trans first, fun _ _ _ => rfl⟩
  have free : ∀ call : Call, (fun _ : Call => True) call := fun _ => trivial
  unfold becomeChild ChildProcess.becomeChild
  refine .beside (Child.onNaming_follows fun s valid => valid.renamed _) ?_
  refine .bind (Child.onWorld_follows (keepCapabilities_within sets trivial)) fun _ => ?_
  refine .bind (Child.onWorld_follows (.forSome sets.refl fun cap _ =>
    .expect _ (.read fun w => onTask_within sets trivial w))) fun _ => ?_
  refine .bind (Child.onWorld_follows (.forSome sets.refl fun cap _ =>
    dropBounds_within sets (fun _ => trivial) (fun _ => trivial) _)) fun _ => ?_
  refine .bind ?_ fun _ => ?_
  · by_cases empty : params.secondaryGroups.toList = [] ∧ exec = false
    · rw [if_pos empty, if_pos empty]
      exact .pure ()
    · rw [if_neg empty, if_neg empty]
      exact Child.onWorld_follows (.expect _ (onTask_within sets trivial))
  refine .bind (Child.onWorld_follows (setrlimits_within sets (fun _ => trivial) _)) fun _ => ?_
  refine .bind (Child.onWorld_follows (.forSome sets.refl fun id _ =>
    .expect _ (onTask_within sets trivial))) fun _ => ?_
  refine .bind (Child.callback_follows (outside.filters _ _) panics.filters) fun _ => ?_
  refine .bind (Child.onWorld_follows (.forSome sets.refl fun id _ =>
    .expect _ (onTask_within sets trivial))) fun _ => ?_
  refine .bind (Child.onWorld_follows (.expect _ (.read fun w => onTask_within sets trivial w)))
    fun _ => ?_
  refine .beside (Child.onNaming_follows fun s valid => ?_) ?_
  · cases params.processName with
    | none => exact ⟨s, rfl, valid⟩
    | some name =>
        show ∃ t, (Child.setProcessName name : Prog Naming Empty Unit) s = _ ∧ _
        unfold Child.setProcessName
        cases CStr.new name.toUTF8.data.toList with
        | none => exact ⟨s, rfl, valid⟩
        | some name => exact valid.renamed name
  exact Child.callback_follows (outside.epilogue _ _) panics.epilogue

theorem reInitialize_follows {exec : Bool} (outside : species.Outside) :
    Child.Follows libraries True (reInitialize exec species data params payload)
      (ChildProcess.reInitialize exec params) := by
  rw [reInitialize_steps]
  refine .bind (Child.callback_follows (outside.prologue _ _ _) fun _ _ _ => trivial) fun _ => ?_
  exact becomeChild_follows outside ⟨fun _ _ _ => trivial, fun _ _ _ => trivial⟩

end follows

section stages
open ChildProcess
variable {params : SpawnParamsCommon} {payload : SpawnPayload} {species : Callbacks}
    {data : ReInitWrapper}
  {exec : Bool} {c c' : Child} {w v : World}

/-- The process has the user it had, and may do what it could. -/
structure World.Stands (w v : World) : Prop where
  uid : v.task.uid = w.task.uid
  effective : v.task.effective = w.task.effective

theorem World.Stands.trans {u v w : World} (first : u.Stands v) (second : v.Stands w) : u.Stands w :=
  ⟨second.uid.trans first.uid, second.effective.trans first.effective⟩

theorem prepared_stands {w₁ w₂ w₃ : World}
    (kept : (keepCapabilities : Prog World Empty Unit) w = (.ok (), w₁))
    (stored : (Prog.forSome params.capPermitted fun cap => (storeAdditive cap).expect
      "Failed to store additive capabilities" : Prog World Empty Unit) w₁ = (.ok (), w₂))
    (dropped : (Prog.forSome params.capBound fun cap => dropBounds (complement cap) :
      Prog World Empty Unit) w₂ = (.ok (), w₃)) : w.Stands w₃ := by
  obtain ⟨keepCaps, task⟩ := keepCapabilities_ok kept
  have first : w.Stands w₁ := ⟨by rw [task], by rw [task]⟩
  have second : w₁.Stands w₂ := by
    cases permitted : params.capPermitted with
    | none => rw [permitted] at stored; cases stored; exact ⟨rfl, rfl⟩
    | some cap =>
        rw [permitted] at stored
        have task := storeAdditive_ok (Prog.expect_eq_ok.mp stored)
        exact ⟨by rw [task], by rw [task]⟩
  have third : w₂.Stands w₃ := by
    cases bounded : params.capBound with
    | none => rw [bounded] at dropped; cases dropped; exact ⟨rfl, rfl⟩
    | some bound =>
        rw [bounded] at dropped
        obtain ⟨bounding, task, -⟩ := dropBounds_ok dropped
        exact ⟨by rw [task], by rw [task]⟩
  exact (first.trans second).trans third

theorem setgroups_ok {groups : List Id} (run : setgroups groups w = (.ok (), v)) :
    v.task = { w.task with groups } := by
  have made := onTask_ok run
  unfold Task.setgroups at made
  split at made
  · exact (Option.some.inj made).symm
  · cases made

theorem setresgid_stands {gid : Option Int32}
    (run : (setIds setresgid "Failed to set GID" gid : Prog World Empty Unit) w = (.ok (), v)) :
    w.Stands v ∧ v.task.groups = w.task.groups := by
  cases gid with
  | none => cases run; exact ⟨⟨rfl, rfl⟩, rfl⟩
  | some gid =>
      have made := onTask_ok (Prog.expect_eq_ok.mp run)
      obtain ⟨new, -, task⟩ := Option.map_eq_some_iff.mp made
      exact ⟨⟨by rw [← task], by rw [← task]⟩, by rw [← task]⟩

theorem setresuid_groups {uid : Option Int32}
    (run : (setIds setresuid "Failed to set UID" uid : Prog World Empty Unit) w = (.ok (), v)) :
    v.task.groups = w.task.groups := by
  cases uid with
  | none => cases run; rfl
  | some uid =>
      have made := onTask_ok (Prog.expect_eq_ok.mp run)
      obtain ⟨new, -, task⟩ := Option.map_eq_some_iff.mp made
      rw [← task]
      rfl

/-- The stages of a re-initialization that returns: the state before each callback, and behind it. -/
structure Stages (exec : Bool) (species : Callbacks) (data : ReInitWrapper) (params : SpawnParamsCommon)
    (payload : SpawnPayload) (c c₁ c₂ c₃ c₄ c' : Child) : Prop where
  prologue : species.reInitializePrologue params payload data (c.marked .reInitializePrologue) =
    (.ok (), c₁)
  prepared : c₂.calls = c₁.calls ∧ c₂.libraries = c₁.libraries
  stands : c₁.world.Stands c₂.world
  groups : ¬(params.secondaryGroups.toList = [] ∧ exec = false) →
    c₂.world.task.groups = params.secondaryGroups.toList
  initialName : (Naming.setNewProcessName Child.zygoteChildProcessInitialName : Prog Naming Empty Unit)
    c₁.naming =
    (.ok (), c₂.naming)
  filters : species.setSeccompFilters params payload (c₂.marked .setSeccompFilters) = (.ok (), c₃)
  became : c₄.calls = c₃.calls ∧ c₄.libraries = c₃.libraries
  groupsStay : c₄.world.task.groups = c₃.world.task.groups
  user : ∀ uid, params.uid = some uid → uid ≠ -1 →
    c₄.world.task.uid = ⟨uid.toUInt32, uid.toUInt32, uid.toUInt32⟩
  named : (Prog.forSome params.processName Child.setProcessName : Prog Naming Empty Unit) c₃.naming =
    (.ok (), c₄.naming)
  epilogue : species.reInitializeEpilogue params data (c₄.marked .reInitializeEpilogue) = (.ok (), c')

theorem Child.onWorld_ok {ε α : Type} {p : Prog World ε α} {a : α}
    (run : Child.onWorld p c = (.ok a, c')) :
    p c.world = (.ok a, c'.world) ∧ c' = { c with world := c'.world } := by
  cases run' : p c.world with
  | mk o w =>
  unfold Child.onWorld Prog.focus at run
  rw [run'] at run
  cases run
  exact ⟨rfl, rfl⟩

theorem Child.onNaming_ok {p : Prog Naming Empty Unit} (run : Child.onNaming p c = (.ok (), c')) :
    p c.naming = (.ok (), c'.naming) ∧ c' = { c with naming := c'.naming } := by
  cases run' : p c.naming with
  | mk o w =>
  unfold Child.onNaming Prog.focus at run
  rw [run'] at run
  cases run
  exact ⟨rfl, rfl⟩

theorem reInitialize_stages (run : reInitialize exec species data params payload c = (.ok (), c')) :
    ∃ c₁ c₂ c₃ c₄, Stages exec species data params payload c c₁ c₂ c₃ c₄ c' := by
  obtain ⟨_, c₁, prologue, run⟩ := Prog.bind_eq_ok.mp run
  obtain ⟨_, d₁, initialName, run⟩ := Prog.bind_eq_ok.mp run
  obtain ⟨_, d₂, kept, run⟩ := Prog.bind_eq_ok.mp run
  obtain ⟨_, d₃, stored, run⟩ := Prog.bind_eq_ok.mp run
  obtain ⟨_, d₄, dropped, run⟩ := Prog.bind_eq_ok.mp run
  obtain ⟨_, d₅, grouped, run⟩ := Prog.bind_eq_ok.mp run
  obtain ⟨_, d₆, limited, run⟩ := Prog.bind_eq_ok.mp run
  obtain ⟨_, c₂, group, run⟩ := Prog.bind_eq_ok.mp run
  obtain ⟨_, c₃, filters, run⟩ := Prog.bind_eq_ok.mp run
  obtain ⟨_, d₇, user, run⟩ := Prog.bind_eq_ok.mp run
  obtain ⟨_, d₈, stored', run⟩ := Prog.bind_eq_ok.mp run
  obtain ⟨_, c₄, named, epilogue⟩ := Prog.bind_eq_ok.mp run
  obtain ⟨initialName, same₁⟩ := Child.onNaming_ok initialName
  obtain ⟨kept, same₂⟩ := Child.onWorld_ok kept
  obtain ⟨stored, same₃⟩ := Child.onWorld_ok stored
  obtain ⟨dropped, same₄⟩ := Child.onWorld_ok dropped
  obtain ⟨limited, same₆⟩ := Child.onWorld_ok limited
  obtain ⟨group, same₇⟩ := Child.onWorld_ok group
  obtain ⟨user, same₈⟩ := Child.onWorld_ok user
  obtain ⟨stored', same₉⟩ := Child.onWorld_ok stored'
  obtain ⟨named, same⟩ := Child.onNaming_ok named
  have stands := prepared_stands kept stored dropped
  obtain ⟨standsGid, groupsGid⟩ := setresgid_stands group
  have still := setrlimits_ok limited
  have groupsUid := setresuid_groups user
  obtain ⟨world, x, read, stored'⟩ := Prog.bind_eq_ok.mp (Prog.expect_eq_ok.mp stored')
  cases read
  have final := capset_ok (onTask_ok stored')
  have grouping : d₅.naming = d₄.naming ∧ d₅.calls = d₄.calls ∧ d₅.libraries = d₄.libraries ∧
      d₄.world.Stands d₅.world ∧ (¬(params.secondaryGroups.toList = [] ∧ exec = false) →
        d₅.world.task.groups = params.secondaryGroups.toList) := by
    by_cases skip : params.secondaryGroups.toList = [] ∧ exec = false
    · rw [if_pos skip] at grouped
      cases grouped
      exact ⟨rfl, rfl, rfl, ⟨rfl, rfl⟩, fun asked => absurd skip asked⟩
    · rw [if_neg skip] at grouped
      obtain ⟨grouped, same₅⟩ := Child.onWorld_ok grouped
      have task := setgroups_ok (Prog.expect_eq_ok.mp grouped)
      rw [same₅]
      exact ⟨rfl, rfl, rfl, ⟨by rw [task], by rw [task]⟩, fun _ => by rw [task]⟩
  obtain ⟨naming₅, calls₅, libraries₅, stands₅, groups₅⟩ := grouping
  have untouched : ∀ {β : Type} (f : Child → β), (∀ c world, f { c with world } = f c) →
      f d₅ = f d₄ → f c₂ = f d₁ := by
    intro β f free middle
    rw [same₇, free, same₆, free, middle, same₄, free, same₃, free, same₂, free]
  have lastly : ∀ {β : Type} (f : Child → β), (∀ c world, f { c with world } = f c) → f d₈ = f c₃ := by
    intro β f free
    rw [same₉, free, same₈, free]
  refine ⟨c₁, c₂, c₃, c₄, prologue, ⟨?_, ?_⟩, ?_, fun asked => ?_, ?_, filters, ⟨?_, ?_⟩, ?_,
    fun uid asked given => ?_, ?_, epilogue⟩
  · exact (untouched Child.calls (fun _ _ => rfl) calls₅).trans (by rw [same₁])
  · exact (untouched Child.libraries (fun _ _ => rfl) libraries₅).trans (by rw [same₁])
  · have start : d₁.world = c₁.world := by rw [same₁]
    rw [← start]
    exact ((stands.trans stands₅).trans ⟨by rw [still], by rw [still]⟩).trans standsGid
  · rw [groupsGid, still, groups₅ asked]
  · rw [untouched Child.naming (fun _ _ => rfl) naming₅]
    exact initialName
  · exact (congrArg Child.calls same).trans (lastly Child.calls fun _ _ => rfl)
  · exact (congrArg Child.libraries same).trans (lastly Child.libraries fun _ _ => rfl)
  · rw [congrArg Child.world same]
    show d₈.world.task.groups = _
    rw [final, groupsUid]
  · rw [asked] at user
    rw [congrArg Child.world same]
    show d₈.world.task.uid = _
    rw [final]
    exact (setresuid_ok given user).1
  · rw [← lastly Child.naming fun _ _ => rfl]
    exact named

end stages

section record
variable {ε α : Type} {c c' : Child} {call : LibraryCall}

namespace Child

def madeWith (task : Task) (calls : List LibraryCall) : List Made := calls.map fun call => ⟨call, task⟩

def adding (c : Child) (calls : List LibraryCall) : Child :=
  { c with calls := c.calls ++ madeWith c.world.task calls }

theorem adding_nil (c : Child) : adding c [] = c := by
  simp only [adding, madeWith, List.map_nil, List.append_nil]

theorem adding_adding (c : Child) (first second : List LibraryCall) :
    adding (adding c first) second = adding c (first ++ second) := by
  simp only [adding, madeWith, List.map_append, List.append_assoc]

theorem library_ok (run : library call c = (.ok (), c')) : c' = adding c [call] := by
  unfold library at run
  dsimp only at run
  split at run
  · cases run
    rfl
  · cases run
  · cases run

theorem expect_ok {reason : String}
    (run : (library call).expect reason c = ((.ok (), c') : Outcome ε Unit × Child)) :
    c' = adding c [call] := library_ok (Prog.expect_eq_ok.mp run)

def Answer.told : Except Errno Unit → Answer
  | .ok _ => .done
  | .error errno => .failed errno

/-- A call that is looked at is on the record, whether it has failed or not, and its result is the
answer. -/
theorem library_answer {r : Except Errno Unit}
    (run : (library call).result c = ((.ok r, c') : Outcome ε (Except Errno Unit) × Child)) :
    c' = adding c [call] ∧ c.libraries.answer c.calls.length call = Answer.told r := by
  obtain ⟨_, made, rfl⟩ | ⟨errno, made, rfl⟩ := Prog.result_eq_ok.mp run
  · unfold library at made
    dsimp only at made
    split at made
    · next answered =>
        cases made
        exact ⟨rfl, answered⟩
    · cases made
    · cases made
  · unfold library at made
    dsimp only at made
    split at made
    · cases made
    · next answered =>
        cases made
        exact ⟨rfl, answered⟩
    · cases made

theorem library_result {r : Except Errno Unit}
    (run : (library call).result c = ((.ok r, c') : Outcome ε (Except Errno Unit) × Child)) :
    c' = adding c [call] := (library_answer run).1

theorem perform_ok (run : perform call c = (.ok (), c')) : c' = adding c [call] := by
  obtain ⟨r, d, made, run⟩ := Prog.bind_eq_ok.mp run
  cases run
  exact library_result made

theorem required_ok {reason : String} {value : Option α} {a : α}
    (run : required reason value c = (.ok a, c')) : value = some a ∧ c' = c := by
  cases value with
  | none => cases run
  | some b => cases run; exact ⟨rfl, rfl⟩

end Child
end record
end Zygote
