import Zygote.Capabilities
import Zygote.Child

/-!
# Native applications of Android

The allow lists and the callbacks of the species, and what the libraries are asked for before control is
given to an application: what, in which order, and with which credentials.
-/
namespace Zygote
open Effect Credentials Child

namespace AndroidNative

def aidAppStart : Int32 := 10000
def unsolicitedZygoteSocketPath : String := "/data/system/unsolzygotesocket"

def allowedSocketPaths : List (AllowListEntry String) :=
  [⟨"/dev/socket/logdw", .ignore⟩, ⟨unsolicitedZygoteSocketPath, .close⟩,
    ⟨"/dev/socket/statsdw", .ignore⟩]

def allowedFilePaths : List (AllowListEntry Bytes) :=
  [⟨"/dev/pmsg0".toUTF8.data.toList, .ignore⟩,
    ⟨"/sys/kernel/debug/tracing/trace_marker".toUTF8.data.toList, .ignore⟩,
    ⟨"/sys/kernel/tracing/trace_marker".toUTF8.data.toList, .ignore⟩]

end AndroidNative

def Species.androidNative : Species where
  tag := .androidNative
  boundAbstractSocketIsAllowed _ := false
  boundSocketPathIsAllowed _ := false
  peerSocketPathIsAllowed path := AndroidNative.allowedSocketPaths.any (·.data == path)
  getPeerSocketAction path := (AndroidNative.allowedSocketPaths.find? (·.data == path)).map (·.action)
  fileIsAllowed path := AndroidNative.allowedFilePaths.any (·.data == path)
  getFileAction path := (AndroidNative.allowedFilePaths.find? (·.data == path)).map (·.action)
  isSpawnPayloadType
    | .androidNative .. | .androidNativeSubspecies .. => true
    | _ => false

namespace AndroidNative

def gatherReinitializationData : ChildM ReInitWrapper := do
  let child ← Prog.read
  pure (.androidNative child.libraries.fdsanErrorLevel)

def schedPolicy : SpawnPayload → SchedPolicy
  | .androidNative _ _ _ _ _ topApp => if topApp then .topApp else .default
  | _ => .default

/-- Create a cgroup for the process, as the superuser. -/
def createCgroup (spawnParams : SpawnParamsCommon) : ChildM Unit := do
  let child ← Prog.read
  if child.world.task.uid.real = 0 then do
    let uid ← required "No UID specified" spawnParams.uid
    if uid < 0 then Prog.panic "Invalid UID"
    else
      (library (.cgroupCreate uid.toUInt32 child.world.pid)).expect
        "Unable to create cgroup for process"
  else pure ()

/-- Set the cpuset policy and the scheduling policy. -/
def setPolicies (policy : SchedPolicy) : ChildM Unit := do
  let child ← Prog.read
  (if child.libraries.cpusetsEnabled = true then
    (library (.setCpusetPolicy 0 policy)).expect "Failed to set cpuset policy"
  else pure ())
  (library (.setSchedPolicy 0 policy)).expect "Failed to set scheduler policy"

def reInitializePrologue (spawnParams : SpawnParamsCommon) (spawnPayload : SpawnPayload) :
    ReInitWrapper → ChildM Unit
  | .androidNative fdsErrorLevel => do
      perform (.fdsanSetErrorLevel fdsErrorLevel)
      perform .setZygoteChild
      perform (.malloptDecayTime 1)
      createCgroup spawnParams
      setPolicies (schedPolicy spawnPayload)
      perform .dropTaskProfilesResourceCaching
  | _ => Prog.panic "Expected AndroidNative ReInitData"

/-- The filter that goes with the user id. -/
def setUidSeccompFilter (spawnParams : SpawnParamsCommon) : ChildM Unit := do
  let uid ← required "No UID specified" spawnParams.uid
  if aidAppStart ≤ uid then perform .setAppSeccompFilter
  else perform .setSystemSeccompFilter

def setSeccompFilters (spawnParams : SpawnParamsCommon) : SpawnPayload → ChildM Unit
  | .androidNativeSubspecies .. => do
      perform .setAppZygoteSeccompFilter
      (library .prctlSetNoNewPrivs).expect "Failed to set NO_NEW_PRIVS"
  | _ => setUidSeccompFilter spawnParams

/-- Copy a text into a buffer of null bytes. -/
def copied (text : String) : ChildM CStringBuffer :=
  if text.toUTF8.data.toList.length ≤ bufferSizeStrings then pure text.toUTF8.data.toList
  else Prog.panic "range end index out of range for slice of length 512"

/-- The context a child goes to, with its texts up to their first null byte. -/
structure Context where
  uid : Int32
  seInfo : Bytes
  name : Bytes
  selinuxFlags : UInt64

def selinuxContext (spawnParams : SpawnParamsCommon) : ChildM Context := do
  let uid ← required "No UID specified" spawnParams.uid
  let seInfo ← required "No SE Linux info specified" spawnParams.seInfo
  let seInfoBuffer ← copied seInfo
  let processName ← required "No process name specified" spawnParams.processName
  let processNameBuffer ← copied processName
  let seInfo ← required "se_info_buffer should be null-terminated" seInfoBuffer.asCStr
  let name ← required "process_name_buffer should be null-terminated" processNameBuffer.asCStr
  let selinuxFlags ← required "no selinux_flags" spawnParams.selinuxFlags
  pure { uid, seInfo, name, selinuxFlags }

def reInitializeEpilogue (spawnParams : SpawnParamsCommon) (_ : ReInitWrapper) : ChildM Unit := do
  let context ← selinuxContext spawnParams
  (library (.setSelinuxContext context.uid.toUInt32 false context.seInfo context.name
    context.selinuxFlags)).expect "Unable to transition SE Linux contexts"
  (if spawnParams.noNewPrivs = some true then
    (library .prctlSetNoNewPrivs).expect "Failed to set NO_NEW_PRIVS"
  else pure ())

def speciate : SpawnPayload → ChildM Unit
  | .androidNativeSubspecies targetSdkVersion runtimeFlags libraryPath libraryDirs permittedLibraryPaths
      shared zipPath nativeSharedLibPath preloadFunc uidGidMin uidGidMax => do
      perform (.installSetuidgidSeccompFilter uidGidMin uidGidMax)
      perform (.appProcessInit targetSdkVersion runtimeFlags)
      perform (.preloadLib libraryPath libraryDirs permittedLibraryPaths targetSdkVersion shared zipPath
        nativeSharedLibPath preloadFunc)
  | _ => Prog.panic "Invalid spawn payload for species android-native-app"

/-- What a process spawned by `exec` has not inherited from its parent: the library of the subspecies. -/
def preloadForExec (cmdBytes : Bytes) : ChildM Unit := do
  let child ← Prog.read
  let cmd ← required "called `Result::unwrap()` on an `Err` value"
    (child.libraries.rootSubspecies cmdBytes)
  perform (.preloadLib cmd.libraryPath cmd.libraryDirs cmd.permittedLibraryPaths cmd.targetSdkVersion
    cmd.shared cmd.zipPath cmd.nativeSharedLibPath cmd.preloadFunc)

def gestate (exec : Bool) (_ : SpawnParamsCommon) : SpawnPayload → ChildM Fate
  | .androidNative preloadingCmd _ startSeq targetSdkVersion runtimeFlags _ => do
      perform (.appProcessInit targetSdkVersion runtimeFlags)
      (if exec = true then Prog.forSome preloadingCmd preloadForExec else pure ())
      perform (.runNativeActivityThread startSeq)
      pure (.entered startSeq)
  | _ => Prog.panic "Invalid spawn payload for species android-native-app"

def callbacks (exec : Bool) : Callbacks where
  gatherReinitializationData := gatherReinitializationData
  reInitializePrologue := reInitializePrologue
  setSeccompFilters := setSeccompFilters
  reInitializeEpilogue := reInitializeEpilogue
  speciate := speciate
  gestate := gestate exec

section record
variable {c c' : Child} {spawnParams : SpawnParamsCommon} {spawnPayload : SpawnPayload}
    {reInitData : ReInitWrapper}

/-- The cgroup of a child of the superuser. -/
def cgroupCalls (spawnParams : SpawnParamsCommon) (w : World) : List LibraryCall :=
  if w.task.uid.real = 0 then spawnParams.uid.toList.map fun uid => .cgroupCreate uid.toUInt32
    w.pid else []

def policyCalls (libraries : Libraries) (policy : SchedPolicy) : List LibraryCall :=
  (if libraries.cpusetsEnabled = true then [.setCpusetPolicy 0 policy] else []) ++
    [.setSchedPolicy 0 policy]

/-- What a child asks for before anything else. -/
def prologueCalls (fdsErrorLevel : Nat) (spawnParams : SpawnParamsCommon) (spawnPayload : SpawnPayload)
    (c : Child) : List LibraryCall :=
  [.fdsanSetErrorLevel fdsErrorLevel, .setZygoteChild, .malloptDecayTime 1] ++
    (cgroupCalls spawnParams c.world ++ (policyCalls c.libraries (schedPolicy spawnPayload) ++
      [.dropTaskProfilesResourceCaching]))

theorem createCgroup_ok (run : createCgroup spawnParams c = (.ok (), c')) :
    (c.world.task.uid.real = 0 → ∃ uid, spawnParams.uid = some uid ∧ 0 ≤ uid) ∧
      c' = adding c (cgroupCalls spawnParams c.world) := by
  obtain ⟨child, d, read, run⟩ := Prog.bind_eq_ok.mp run
  cases read
  unfold cgroupCalls
  by_cases root : c.world.task.uid.real = 0
  · rw [if_pos root] at run ⊢
    obtain ⟨uid, y, asked, run⟩ := Prog.bind_eq_ok.mp run
    obtain ⟨given, rfl⟩ := required_ok asked
    by_cases negative : uid < 0
    · rw [if_pos negative] at run
      cases run
    · rw [if_neg negative] at run
      refine ⟨fun _ => ⟨uid, given, Int32.not_lt.mp negative⟩, ?_⟩
      rw [given, expect_ok run]
      rfl
  · rw [if_neg root] at run ⊢
    cases run
    exact ⟨fun zero => absurd zero root, (adding_nil c).symm⟩

theorem setPolicies_ok {policy : SchedPolicy} (run : setPolicies policy c = (.ok (), c')) :
    c' = adding c (policyCalls c.libraries policy) := by
  obtain ⟨child, d, read, run⟩ := Prog.bind_eq_ok.mp run
  cases read
  obtain ⟨_, e, cpuset, run⟩ := Prog.bind_eq_ok.mp run
  unfold policyCalls
  by_cases enabled : c.libraries.cpusetsEnabled = true
  · rw [if_pos enabled] at cpuset ⊢
    rw [expect_ok run, expect_ok cpuset, adding_adding]
  · rw [if_neg enabled] at cpuset ⊢
    cases cpuset
    exact expect_ok run

theorem reInitializePrologue_ok
    (run : reInitializePrologue spawnParams spawnPayload reInitData c = (.ok (), c')) :
    ∃ fdsErrorLevel, reInitData = .androidNative fdsErrorLevel ∧
      (c.world.task.uid.real = 0 → ∃ uid, spawnParams.uid = some uid ∧ 0 ≤ uid) ∧
      c' = adding c (prologueCalls fdsErrorLevel spawnParams spawnPayload c) := by
  cases reInitData with
  | libApp => cases run
  | mock => cases run
  | androidNative fdsErrorLevel =>
  obtain ⟨_, d₁, level, run⟩ := Prog.bind_eq_ok.mp run
  obtain ⟨_, d₂, zygote, run⟩ := Prog.bind_eq_ok.mp run
  obtain ⟨_, d₃, decay, run⟩ := Prog.bind_eq_ok.mp run
  obtain ⟨_, d₄, group, run⟩ := Prog.bind_eq_ok.mp run
  obtain ⟨_, d₅, policies, dropped⟩ := Prog.bind_eq_ok.mp run
  have start : d₃ = adding c [.fdsanSetErrorLevel
    fdsErrorLevel, .setZygoteChild, .malloptDecayTime 1] := by
    rw [perform_ok decay, perform_ok zygote, perform_ok level, adding_adding, adding_adding]
    rfl
  obtain ⟨known, grouped⟩ := createCgroup_ok group
  rw [start] at known grouped
  refine ⟨fdsErrorLevel, rfl, known, ?_⟩
  rw [perform_ok dropped, setPolicies_ok policies, grouped, adding_adding, adding_adding, adding_adding]
  rfl

/-- What a child asks for while it has the user of the server, and none of its own yet. -/
def filterCalls (spawnParams : SpawnParamsCommon) : SpawnPayload → List LibraryCall
  | .androidNativeSubspecies .. => [.setAppZygoteSeccompFilter, .prctlSetNoNewPrivs]
  | _ => spawnParams.uid.toList.map fun uid =>
      if aidAppStart ≤ uid then .setAppSeccompFilter else .setSystemSeccompFilter

theorem setUidSeccompFilter_ok (run : setUidSeccompFilter spawnParams c = (.ok (), c')) :
    c' = adding c (spawnParams.uid.toList.map fun uid =>
      if aidAppStart ≤ uid then .setAppSeccompFilter else .setSystemSeccompFilter) := by
  obtain ⟨uid, d, asked, filtered⟩ := Prog.bind_eq_ok.mp run
  obtain ⟨given, same⟩ := required_ok asked
  rw [same] at filtered
  rw [given, Option.toList_some, List.map_singleton]
  by_cases app : aidAppStart ≤ uid
  · rw [if_pos app] at filtered ⊢
    exact perform_ok filtered
  · rw [if_neg app] at filtered ⊢
    exact perform_ok filtered

theorem setSeccompFilters_ok (run : setSeccompFilters spawnParams spawnPayload c = (.ok (), c')) :
    c' = adding c (filterCalls spawnParams spawnPayload) := by
  cases spawnPayload with
  | androidNativeSubspecies =>
      obtain ⟨_, d, filtered, run⟩ := Prog.bind_eq_ok.mp run
      rw [expect_ok run, perform_ok filtered, adding_adding]
      rfl
  | androidNative => exact setUidSeccompFilter_ok run
  | libApp => exact setUidSeccompFilter_ok run
  | mock => exact setUidSeccompFilter_ok run

/-- A text as it is read back from its buffer. Without room for a null byte there is none. -/
def terminated (text : String) : Option Bytes :=
  if text.toUTF8.data.toList.length ≤ bufferSizeStrings then CStringBuffer.asCStr text.toUTF8.data.toList
  else none

/-- The parameters say which context the child goes to. -/
structure Context.Given (context : Context) (spawnParams : SpawnParamsCommon) : Prop where
  uid : spawnParams.uid = some context.uid
  seInfo : spawnParams.seInfo.bind terminated = some context.seInfo
  name : spawnParams.processName.bind terminated = some context.name
  selinuxFlags : spawnParams.selinuxFlags = some context.selinuxFlags

/-- What a child asks for when it has become what it was asked to be. -/
def Context.calls (context : Context) (noNewPrivs : Option Bool) : List LibraryCall :=
  .setSelinuxContext context.uid.toUInt32 false context.seInfo context.name context.selinuxFlags ::
    if noNewPrivs = some true then [.prctlSetNoNewPrivs] else []

theorem copied_terminated {text : String} {buffer : CStringBuffer}
    (run : copied text c = (.ok buffer, c')) :
    buffer.asCStr = terminated text ∧ c' = c := by
  unfold copied at run
  unfold terminated
  split at run
  · next fits =>
      cases run
      exact ⟨(if_pos fits).symm, rfl⟩
  · cases run

theorem selinuxContext_ok {context : Context} (run : selinuxContext spawnParams c = (.ok context, c')) :
    context.Given spawnParams ∧ c' = c := by
  obtain ⟨uid, d₁, uid₁, run⟩ := Prog.bind_eq_ok.mp run
  obtain ⟨seInfo, d₂, seInfo₁, run⟩ := Prog.bind_eq_ok.mp run
  obtain ⟨seInfoBuffer, d₃, seInfo₂, run⟩ := Prog.bind_eq_ok.mp run
  obtain ⟨processName, d₄, name₁, run⟩ := Prog.bind_eq_ok.mp run
  obtain ⟨processNameBuffer, d₅, name₂, run⟩ := Prog.bind_eq_ok.mp run
  obtain ⟨seInfoText, d₆, seInfo₃, run⟩ := Prog.bind_eq_ok.mp run
  obtain ⟨nameText, d₇, name₃, run⟩ := Prog.bind_eq_ok.mp run
  obtain ⟨selinuxFlags, d₈, flags₁, run⟩ := Prog.bind_eq_ok.mp run
  cases run
  obtain ⟨uidGiven, same₁⟩ := required_ok uid₁
  obtain ⟨seInfoGiven, same₂⟩ := required_ok seInfo₁
  obtain ⟨seInfoRead, same₃⟩ := copied_terminated seInfo₂
  obtain ⟨nameGiven, same₄⟩ := required_ok name₁
  obtain ⟨nameRead, same₅⟩ := copied_terminated name₂
  obtain ⟨seInfoEnds, same₆⟩ := required_ok seInfo₃
  obtain ⟨nameEnds, same₇⟩ := required_ok name₃
  obtain ⟨flagsGiven, same₈⟩ := required_ok flags₁
  refine ⟨⟨uidGiven, ?_, ?_, flagsGiven⟩, ?_⟩
  · rw [seInfoGiven, Option.bind_some, ← seInfoRead, seInfoEnds]
  · rw [nameGiven, Option.bind_some, ← nameRead, nameEnds]
  · rw [same₈, same₇, same₆, same₅, same₄, same₃, same₂, same₁]

theorem reInitializeEpilogue_ok (run : reInitializeEpilogue spawnParams reInitData c = (.ok (), c')) :
    ∃ context : Context, context.Given spawnParams ∧
    c' = adding c (context.calls spawnParams.noNewPrivs) := by
  obtain ⟨context, d₁, read, run⟩ := Prog.bind_eq_ok.mp run
  obtain ⟨_, d₂, moved, run⟩ := Prog.bind_eq_ok.mp run
  obtain ⟨given, same⟩ := selinuxContext_ok read
  rw [same] at moved
  rw [expect_ok moved] at run
  refine ⟨context, given, ?_⟩
  unfold Context.calls
  by_cases asked : spawnParams.noNewPrivs = some true
  · rw [if_pos asked] at run ⊢
    rw [expect_ok run, adding_adding]
    rfl
  · rw [if_neg asked] at run ⊢
    cases run
    rfl

/-- What an application asks for before it runs. The library of the subspecies is among it when
nobody has loaded it before, and the command that names it can be read. -/
def entryCalls (exec : Bool) (libraries : Libraries) : SpawnPayload → List LibraryCall
  | .androidNative preloadingCmd _ startSeq targetSdkVersion runtimeFlags _ =>
      .appProcessInit targetSdkVersion runtimeFlags ::
        ((if exec = true then preloadingCmd.toList.flatMap fun cmdBytes =>
            (libraries.rootSubspecies cmdBytes).toList.map fun cmd =>
              .preloadLib cmd.libraryPath cmd.libraryDirs cmd.permittedLibraryPaths cmd.targetSdkVersion
                cmd.shared cmd.zipPath cmd.nativeSharedLibPath cmd.preloadFunc
          else []) ++ [.runNativeActivityThread startSeq])
  | _ => []

theorem preloadForExec_ok {cmdBytes : Bytes} (run : preloadForExec cmdBytes c = (.ok (), c')) :
    c' = adding c ((c.libraries.rootSubspecies cmdBytes).toList.map fun cmd =>
      .preloadLib cmd.libraryPath cmd.libraryDirs cmd.permittedLibraryPaths cmd.targetSdkVersion
        cmd.shared cmd.zipPath cmd.nativeSharedLibPath cmd.preloadFunc) := by
  obtain ⟨child, d, read, run⟩ := Prog.bind_eq_ok.mp run
  cases read
  obtain ⟨cmd, d, asked, loaded⟩ := Prog.bind_eq_ok.mp run
  obtain ⟨given, same⟩ := required_ok asked
  rw [perform_ok loaded, same, given]
  rfl

/-- Control is given to an application by the payload of one, and by no other. -/
theorem gestate_ok {exec : Bool} {ending : Fate}
    (run : gestate exec spawnParams spawnPayload c = (.ok ending, c')) :
    (∃ preloadingCmd package startSeq targetSdkVersion runtimeFlags topApp, ending = .entered startSeq ∧
      spawnPayload = .androidNative preloadingCmd package startSeq targetSdkVersion
        runtimeFlags topApp) ∧
      c' = adding c (entryCalls exec c.libraries spawnPayload) := by
  cases spawnPayload with
  | androidNativeSubspecies => cases run
  | libApp => cases run
  | mock => cases run
  | androidNative preloadingCmd package startSeq targetSdkVersion runtimeFlags topApp =>
  obtain ⟨_, d₁, init, run⟩ := Prog.bind_eq_ok.mp run
  obtain ⟨_, d₂, preloaded, run⟩ := Prog.bind_eq_ok.mp run
  obtain ⟨_, d₃, entered, run⟩ := Prog.bind_eq_ok.mp run
  cases run
  have init := perform_ok init
  subst init
  refine ⟨⟨preloadingCmd, package, startSeq, targetSdkVersion, runtimeFlags, topApp, rfl, rfl⟩, ?_⟩
  have preload : d₂ = adding (adding c [.appProcessInit targetSdkVersion runtimeFlags])
      (if exec = true then preloadingCmd.toList.flatMap fun cmdBytes =>
        (c.libraries.rootSubspecies cmdBytes).toList.map fun cmd =>
          .preloadLib cmd.libraryPath cmd.libraryDirs cmd.permittedLibraryPaths cmd.targetSdkVersion
            cmd.shared cmd.zipPath cmd.nativeSharedLibPath cmd.preloadFunc
      else []) := by
    cases exec with
    | false =>
        cases preloaded
        exact (adding_nil _).symm
    | true =>
        cases preloadingCmd with
        | none =>
            cases preloaded
            exact (adding_nil _).symm
        | some cmdBytes =>
            rw [preloadForExec_ok preloaded]
            simp only [Option.toList_some, List.flatMap_singleton, if_true]
            rfl
  rw [perform_ok entered, preload, adding_adding, adding_adding]
  rfl

end record

section entry
variable {exec : Bool} {spawnParams : SpawnParamsCommon} {spawnPayload : SpawnPayload}
    {reInitData : ReInitWrapper}
  {ending : Fate} {c c' : Child}

def specialize (exec : Bool) (reInitData : ReInitWrapper) (spawnParams : SpawnParamsCommon)
    (spawnPayload : SpawnPayload) : ChildM Fate :=
  Child.specialize exec (callbacks exec) reInitData spawnParams spawnPayload

/-- What a child has asked for when it is re-initialized: the filter is installed before the child
is another user, with the capabilities the server had, and the context is entered by the user it was
asked to be. -/
structure Reinitialized (exec : Bool) (spawnParams : SpawnParamsCommon) (spawnPayload : SpawnPayload)
    (c d : Child) : Prop where
  calls : ∃ (fdsErrorLevel : Nat) (filtering : Task) (context : Context), context.Given spawnParams ∧
    filtering.uid = c.world.task.uid ∧ filtering.effective = c.world.task.effective ∧
    d.calls = c.calls ++ (madeWith c.world.task
      (prologueCalls fdsErrorLevel spawnParams spawnPayload c) ++
      (madeWith filtering (filterCalls spawnParams spawnPayload) ++
        madeWith d.world.task (context.calls spawnParams.noNewPrivs)))
  cgroup : c.world.task.uid.real = 0 → ∃ uid, spawnParams.uid = some uid ∧ 0 ≤ uid
  libraries : d.libraries = c.libraries
  user : ∀ uid, spawnParams.uid = some uid → uid ≠ -1 →
    d.world.task.uid = ⟨uid.toUInt32, uid.toUInt32, uid.toUInt32⟩
  groups : exec = true → d.world.task.groups = spawnParams.secondaryGroups.toList

theorem reinitialized {d : Child}
    (run : reInitialize exec (callbacks exec) reInitData spawnParams spawnPayload c = (.ok (), d)) :
    Reinitialized exec spawnParams spawnPayload c d := by
  obtain ⟨c₁, c₂, c₃, c₄, stages⟩ := reInitialize_stages run
  obtain ⟨fdsErrorLevel, -, known, prologue⟩ := reInitializePrologue_ok stages.prologue
  have filters := setSeccompFilters_ok stages.filters
  obtain ⟨context, given, epilogue⟩ := @reInitializeEpilogue_ok _ _ _ reInitData stages.epilogue
  have world₁ : c₁.world.task = c.world.task := by rw [prologue]; rfl
  have world₃ : c₃.world.task = c₂.world.task := by rw [filters]; rfl
  have world : d.world.task = c₄.world.task := by rw [epilogue]; rfl
  have libraries₁ : c₁.libraries = c.libraries := by rw [prologue]; rfl
  have libraries₃ : c₃.libraries = c₂.libraries := by rw [filters]; rfl
  have libraries : d.libraries = c₄.libraries := by rw [epilogue]; rfl
  refine ⟨⟨fdsErrorLevel, c₂.world.task, context, given, ?_, ?_, ?_⟩, known, ?_, fun uid asked set => ?_,
    fun replaced => ?_⟩
  · rw [stages.stands.uid, world₁]
  · rw [stages.stands.effective, world₁]
  · have calls₁ : c₁.calls = c.calls ++ madeWith c.world.task
        (prologueCalls fdsErrorLevel spawnParams spawnPayload c) := by rw [prologue]; rfl
    have calls₃ : c₃.calls = c₂.calls ++
      madeWith c₂.world.task (filterCalls spawnParams spawnPayload) := by
      rw [filters]; rfl
    have calls₄ : d.calls = c₄.calls ++
      madeWith c₄.world.task (context.calls spawnParams.noNewPrivs) := by
      rw [epilogue]; rfl
    rw [calls₄, stages.became.1, calls₃, stages.prepared.1, calls₁, world, List.append_assoc,
      List.append_assoc]
  · rw [libraries, stages.became.2, libraries₃, stages.prepared.2, libraries₁]
  · rw [world]
    exact stages.user uid asked set
  · rw [world, stages.groupsStay, world₃]
    exact stages.groups fun skipped => by rw [replaced] at skipped; cases skipped.2

/-- On the way to an application: the filter goes with the user and is installed before the child is that
user, with the capabilities the server had; the context is entered by that user, and what the child may
not gain any more comes last. Nothing else is asked for. -/
structure Entered (exec : Bool) (spawnParams : SpawnParamsCommon) (spawnPayload : SpawnPayload)
    (c c' : Child) : Prop where
  calls : ∃ (fdsErrorLevel : Nat) (filtering : Task) (context : Context), context.Given spawnParams ∧
    filtering.uid = c.world.task.uid ∧ filtering.effective = c.world.task.effective ∧
    c'.calls = c.calls ++ (madeWith c.world.task
      (prologueCalls fdsErrorLevel spawnParams spawnPayload c) ++
      (madeWith filtering
          [if aidAppStart ≤ context.uid then .setAppSeccompFilter else .setSystemSeccompFilter] ++
        madeWith c'.world.task (context.calls spawnParams.noNewPrivs ++
          entryCalls exec c.libraries spawnPayload)))
  user : ∀ uid, spawnParams.uid = some uid → uid ≠ -1 →
    c'.world.task.uid = ⟨uid.toUInt32, uid.toUInt32, uid.toUInt32⟩
  groups : exec = true → c'.world.task.groups = spawnParams.secondaryGroups.toList

/-- Whatever the kernel and the libraries answer, a child is in an application only as the application it
was asked to be. -/
theorem entered_of_specialize (run : specialize exec reInitData spawnParams spawnPayload c =
      (.ok ending, c')) :
    (∃ preloadingCmd package startSeq targetSdkVersion runtimeFlags topApp, ending = .entered startSeq ∧
      spawnPayload = .androidNative preloadingCmd package startSeq targetSdkVersion
        runtimeFlags topApp) ∧
      Entered exec spawnParams spawnPayload c c' := by
  obtain ⟨_, d, run, entered⟩ := Prog.bind_eq_ok.mp run
  have before := reinitialized run
  obtain ⟨application, gestated⟩ :=
    gestate_ok (show gestate exec spawnParams spawnPayload d = _ from entered)
  refine ⟨application, ?_⟩
  obtain ⟨preloadingCmd, package, startSeq, targetSdkVersion, runtimeFlags, topApp, -, payload⟩ :=
    application
  obtain ⟨fdsErrorLevel, filtering, context, given, user, effective, calls⟩ := before.calls
  have world : c'.world.task = d.world.task := by rw [gestated]; rfl
  have filter : filterCalls spawnParams spawnPayload =
      [if aidAppStart ≤ context.uid then .setAppSeccompFilter else .setSystemSeccompFilter] := by
    rw [payload, filterCalls, given.uid, Option.toList_some, List.map_singleton]
    · nofun
  refine ⟨⟨fdsErrorLevel, filtering, context, given, user, effective, ?_⟩, world ▸ before.user,
    world ▸ before.groups⟩
  have last : c'.calls = d.calls ++
    madeWith d.world.task (entryCalls exec d.libraries spawnPayload) := by
    rw [gestated]; rfl
  rw [last, calls, before.libraries, filter, world]
  simp only [madeWith, List.map_append, List.append_assoc]

end entry

section acceptance
open Prog
variable {ε α : Type} {exec : Bool} {spawnParams : SpawnParamsCommon} {spawnPayload : SpawnPayload}
  {reInitData : ReInitWrapper} {libraries : Libraries} {c : Child} {call : LibraryCall}
  {pre : Child → Prop}

theorem library_beside : Within Child.Beside (library call) := by
  intro c
  unfold library
  dsimp only
  split <;> exact ⟨rfl, rfl, rfl⟩

theorem beside_trans {c d e : Child} (first : c.Beside d) (second : d.Beside e) : c.Beside e :=
  ⟨second.world.trans first.world, second.naming.trans first.naming,
    second.libraries.trans first.libraries⟩

theorem beside_refl (c : Child) : c.Beside c := ⟨rfl, rfl, rfl⟩

theorem perform_beside : Within Child.Beside (perform call) :=
  .bind beside_trans (.result library_beside) fun _ => beside_refl

theorem required_beside {reason : String} {value : Option α} :
    Within Child.Beside (required reason value) := by
  cases value <;> exact beside_refl

theorem copied_beside {text : String} : Within Child.Beside (copied text) := by
  intro c
  unfold copied
  split <;> exact beside_refl c

theorem selinuxContext_beside : Within Child.Beside (selinuxContext spawnParams) := by
  refine .bind beside_trans required_beside fun _ => ?_
  refine .bind beside_trans required_beside fun _ => ?_
  refine .bind beside_trans copied_beside fun _ => ?_
  refine .bind beside_trans required_beside fun _ => ?_
  refine .bind beside_trans copied_beside fun _ => ?_
  refine .bind beside_trans required_beside fun _ => ?_
  refine .bind beside_trans required_beside fun _ => ?_
  exact .bind beside_trans required_beside fun _ => beside_refl

theorem createCgroup_beside : Within Child.Beside (createCgroup spawnParams) := by
  refine .reading fun c => ?_
  split
  · refine .bind beside_trans required_beside fun uid => ?_
    split
    · exact beside_refl
    · exact .expect _ library_beside
  · exact beside_refl

theorem setPolicies_beside {policy : SchedPolicy} : Within Child.Beside (setPolicies policy) := by
  refine .reading fun c => .bind beside_trans ?_ fun _ => .expect _ library_beside
  split
  · exact .expect _ library_beside
  · exact beside_refl

/-- The callbacks leave the process to the libraries. -/
theorem callbacks_outside : (callbacks exec).Outside where
  prologue params payload data := by
    cases data with
    | libApp => exact beside_refl
    | mock => exact beside_refl
    | androidNative level =>
        refine .bind beside_trans perform_beside fun _ => .bind beside_trans perform_beside fun _ => ?_
        refine .bind beside_trans perform_beside fun _ => .bind beside_trans createCgroup_beside
          fun _ => ?_
        exact .bind beside_trans setPolicies_beside fun _ => perform_beside
  filters params payload := by
    have uid : Within Child.Beside (setUidSeccompFilter params) := by
      refine .bind beside_trans required_beside fun _ => ?_
      split <;> exact perform_beside
    cases payload with
    | androidNativeSubspecies =>
        exact .bind beside_trans perform_beside fun _ => .expect _ library_beside
    | androidNative => exact uid
    | libApp => exact uid
    | mock => exact uid
  epilogue params data := by
    refine .bind beside_trans selinuxContext_beside fun context => ?_
    refine .bind beside_trans (.expect _ library_beside) fun _ => ?_
    split
    · exact .expect _ library_beside
    · exact beside_refl

/-- What holds of the child whatever the libraries are asked for. -/
structure Kept (libraries : Libraries) (pre : Child → Prop) : Prop where
  done : ∀ n call, libraries.answer n call = .done
  libraries : ∀ c, pre c → c.libraries = libraries
  adding : ∀ c calls, pre c → pre (adding c calls)

theorem kept_libraries (done : ∀ n call, libraries.answer n call = .done) :
    Kept libraries fun c => c.libraries = libraries := ⟨done, fun _ => id, fun _ _ => id⟩

theorem Kept.library (kept : Kept libraries pre) :
    Triple False pre (library call) (fun _ => pre) fun _ _ => False := by
  intro c hc
  have answer : c.libraries.answer c.calls.length call = .done := by
    rw [kept.libraries c hc]
    exact kept.done _ _
  unfold Child.library
  dsimp only
  rw [answer]
  exact kept.adding c [call] hc

theorem Kept.perform (kept : Kept libraries pre) :
    Triple False pre (perform call) (fun _ => pre) fun _ _ => False := by
  refine .bind (fun _ => pre) (.result (kept.library.conseq (fun _ => id) (fun _ _ => id) fun _ _ =>
    False.elim)) ?_
  exact fun _ => .pure fun _ => id

theorem Kept.expect {reason : String} (kept : Kept libraries pre) :
    Triple False pre ((Child.library call).expect reason : ChildM Unit) (fun _ => pre)
      fun _ _ => False :=
  .expect kept.library

theorem Kept.createCgroup (kept : Kept libraries pre)
    (known : ∀ c, pre c → c.world.task.uid.real = 0 → ∃ uid, spawnParams.uid = some uid ∧ 0 ≤ uid) :
    Triple False pre (createCgroup spawnParams) (fun _ => pre) fun _ _ => False := by
  refine .read fun c hc => ?_
  by_cases root : c.world.task.uid.real = 0
  · obtain ⟨uid, given, positive⟩ := known c hc root
    rw [if_pos root, given]
    refine .bind (fun asked d => asked = uid ∧ pre d) (fun d same => ⟨rfl, same ▸ hc⟩) fun asked => ?_
    by_cases negative : asked < 0
    · intro d hd
      exact absurd (hd.1 ▸ negative) (Int32.not_lt.mpr positive)
    · rw [if_neg negative]
      exact kept.expect.conseq (fun _ => And.right) (fun _ _ => id) fun _ _ => id
  · rw [if_neg root]
    exact fun d same => same ▸ hc

theorem Kept.setPolicies {policy : SchedPolicy} (kept : Kept libraries pre) :
    Triple False pre (setPolicies policy) (fun _ => pre) fun _ _ => False := by
  refine .read fun c hc => .bind (fun _ => pre) ?_ fun _ => kept.expect
  by_cases enabled : c.libraries.cpusetsEnabled = true
  · rw [if_pos enabled]
    exact kept.expect.conseq (fun _ same => same ▸ hc) (fun _ _ => id) fun _ _ => id
  · rw [if_neg enabled]
    exact fun d same => same ▸ hc

theorem Kept.prologue {fdsErrorLevel : Nat} (kept : Kept libraries pre)
    (known : ∀ c, pre c → c.world.task.uid.real = 0 → ∃ uid, spawnParams.uid = some uid ∧ 0 ≤ uid) :
    Triple False pre (reInitializePrologue spawnParams spawnPayload (.androidNative fdsErrorLevel))
      (fun _ => pre)
      fun _ _ => False := by
  refine .bind (fun _ => pre) kept.perform fun _ => .bind (fun _ => pre) kept.perform fun _ => ?_
  refine .bind (fun _ => pre) kept.perform fun _ => .bind (fun _ => pre)
    (kept.createCgroup known) fun _ => ?_
  exact .bind (fun _ => pre) kept.setPolicies fun _ => kept.perform

theorem Kept.filters {uid : Int32} (kept : Kept libraries pre) (given : spawnParams.uid = some uid) :
    Triple False pre (setSeccompFilters spawnParams spawnPayload) (fun _ => pre) fun _ _ => False := by
  have byUid : Triple False pre (setUidSeccompFilter spawnParams) (fun _ => pre) fun _ _ => False := by
    unfold setUidSeccompFilter
    rw [given]
    refine .bind (fun _ => pre) (.pure fun _ => id) fun asked => ?_
    split <;> exact kept.perform
  cases spawnPayload with
  | androidNativeSubspecies => exact .bind (fun _ => pre) kept.perform fun _ => kept.expect
  | androidNative => exact byUid
  | libApp => exact byUid
  | mock => exact byUid

theorem copied_of_terminated {text : String} {bytes : Bytes} (h : terminated text = some bytes) :
    ∃ buffer : CStringBuffer, copied text = Pure.pure buffer ∧ buffer.asCStr = some bytes := by
  unfold terminated at h
  split at h
  · next fits => exact ⟨_, if_pos fits, h⟩
  · cases h

theorem Context.Given.reads {context : Context} (given : context.Given spawnParams) :
    selinuxContext spawnParams = Pure.pure context := by
  obtain ⟨seInfo, seInfoGiven, seInfoEnds⟩ := Option.bind_eq_some_iff.mp given.seInfo
  obtain ⟨name, nameGiven, nameEnds⟩ := Option.bind_eq_some_iff.mp given.name
  obtain ⟨seInfoBuffer, seInfoCopied, seInfoRead⟩ := copied_of_terminated seInfoEnds
  obtain ⟨nameBuffer, nameCopied, nameRead⟩ := copied_of_terminated nameEnds
  unfold selinuxContext
  rw [given.uid, seInfoGiven, nameGiven, given.selinuxFlags]
  simp only [required]
  funext c
  rw [bind_of_ok (pure_apply _ _), bind_of_ok (pure_apply _ _), seInfoCopied,
    bind_of_ok (pure_apply _ _),
    bind_of_ok (pure_apply _ _), nameCopied, bind_of_ok (pure_apply _ _), seInfoRead, nameRead]
  rfl

theorem Kept.epilogue {context : Context} (kept : Kept libraries pre)
    (given : context.Given spawnParams) :
    Triple False pre (reInitializeEpilogue spawnParams reInitData) (fun _ => pre) fun _ _ => False := by
  unfold reInitializeEpilogue
  rw [given.reads]
  refine .bind (fun _ => pre) (.pure fun _ => id) fun context => .bind (fun _ => pre) kept.expect
    fun _ => ?_
  split
  · exact kept.expect
  · exact .pure fun _ => id

/-- The payload is that of an application, and a library that is still to be loaded is named. -/
def Launchable (exec : Bool) (libraries : Libraries) : SpawnPayload → Prop
  | .androidNative preloadingCmd .. =>
      exec = true → ∀ cmdBytes, preloadingCmd = some cmdBytes →
        (libraries.rootSubspecies cmdBytes).isSome
  | _ => False

theorem Kept.gestate (kept : Kept libraries pre) (launchable : Launchable exec libraries spawnPayload) :
    Triple False pre (gestate exec spawnParams spawnPayload)
      (fun ending c => (∃ startSeq, ending = .entered startSeq) ∧ pre c) fun _ _ => False := by
  cases spawnPayload with
  | androidNativeSubspecies => exact launchable.elim
  | libApp => exact launchable.elim
  | mock => exact launchable.elim
  | androidNative preloadingCmd package startSeq targetSdkVersion runtimeFlags topApp =>
  refine .bind (fun _ => pre) kept.perform fun _ => .bind (fun _ => pre) ?_ fun _ => ?_
  · cases exec with
    | false => exact .pure fun _ => id
    | true =>
        cases preloadingCmd with
        | none => exact .pure fun _ => id
        | some cmdBytes =>
            refine .read fun d hd => ?_
            obtain ⟨cmd, readable⟩ := Option.isSome_iff_exists.mp (launchable rfl cmdBytes rfl)
            rw [kept.libraries d hd, readable]
            refine .bind (fun _ => pre) (fun e same => same ▸ hd) fun cmd => kept.perform
  · exact .bind (fun _ => pre) kept.perform fun _ => .pure fun _ hc => ⟨⟨startSeq, rfl⟩, hc⟩

/-- The parameters and the payload say all that is needed to become an application. -/
structure Complete (exec : Bool) (spawnParams : SpawnParamsCommon) (spawnPayload : SpawnPayload)
    (c : Child) : Prop where
  context : ∃ context : Context, context.Given spawnParams
  cgroup : c.world.task.uid.real = 0 → ∃ uid, spawnParams.uid = some uid ∧ 0 ≤ uid
  launchable : Launchable exec c.libraries spawnPayload

theorem gestate_launchable {ending : Fate} {c' : Child}
    (run : gestate exec spawnParams spawnPayload c = (.ok ending, c')) :
    Launchable exec c.libraries spawnPayload := by
  cases spawnPayload with
  | androidNativeSubspecies => cases run
  | libApp => cases run
  | mock => cases run
  | androidNative preloadingCmd package startSeq targetSdkVersion runtimeFlags topApp =>
  rintro rfl cmdBytes rfl
  obtain ⟨_, d, init, run⟩ := bind_eq_ok.mp run
  obtain ⟨_, e, preloaded, -⟩ := bind_eq_ok.mp run
  obtain ⟨child, x, read, preloaded⟩ := bind_eq_ok.mp preloaded
  cases read
  obtain ⟨cmd, y, asked, -⟩ := bind_eq_ok.mp preloaded
  have libraries : d.libraries = c.libraries := by
    rw [perform_ok init]
    rfl
  rw [← libraries, (required_ok asked).1]
  rfl

/-- When the libraries do not fail, a child is re-initialized exactly when its parameters name the
context and, for the superuser, the cgroup to go to, and the kernel lets it have the credentials it
asks for. -/
theorem reInitialize_returns_iff {fdsErrorLevel : Nat} (sound : Child.Sound libraries c)
    (done : ∀ n call, libraries.answer n call = .done) :
    (∃ d, reInitialize exec (callbacks exec) (.androidNative fdsErrorLevel) spawnParams spawnPayload c =
        (.ok (), d)) ↔
      (∃ context : Context, context.Given spawnParams) ∧
        (c.world.task.uid.real = 0 → ∃ uid, spawnParams.uid = some uid ∧ 0 ≤ uid) ∧
        (ChildProcess.reInitialize exec spawnParams c.world : Outcome Empty Unit × World).1.isOk =
          true := by
  constructor
  · rintro ⟨d, run⟩
    have before := reinitialized run
    obtain ⟨_, _, context, given, -⟩ := before.calls
    obtain ⟨-, process⟩ := (reInitialize_follows callbacks_outside).ok sound run
    exact ⟨⟨context, given⟩, before.cgroup, by rw [process]; rfl⟩
  · rintro ⟨⟨context, given⟩, known, credentials⟩
    have kept := kept_libraries done
    -- the prologue is reached in a state that is known, what follows it in any sound one
    have start : Kept libraries fun d => d.libraries = libraries ∧
      d.world = (c.marked .reInitializePrologue).world :=
      ⟨done, fun _ => And.left, fun _ _ => id⟩
    have creates : ∀ d : Child, d.libraries = libraries ∧
      d.world = (c.marked .reInitializePrologue).world →
        d.world.task.uid.real = 0 → ∃ uid, spawnParams.uid = some uid ∧ 0 ≤ uid := by
      rintro d ⟨-, world⟩ root
      rw [world] at root
      exact known root
    obtain ⟨_, c₁, prologue, libraries₁, world₁⟩ :=
      (@Kept.prologue spawnParams spawnPayload libraries _ fdsErrorLevel start creates).completes
        (show (c.marked .reInitializePrologue).libraries = libraries ∧ _ from ⟨sound.libraries, rfl⟩)
    have beside := (@callbacks_outside exec).prologue spawnParams spawnPayload
      (.androidNative fdsErrorLevel) (c.marked .reInitializePrologue)
    rw [show (callbacks exec).reInitializePrologue spawnParams spawnPayload
      (.androidNative fdsErrorLevel)
      (c.marked .reInitializePrologue) = (.ok (), c₁) from prologue] at beside
    have sound₁ : Child.Sound libraries c₁ :=
      ⟨by rw [world₁]; exact sound.silent, by rw [beside.naming]; exact sound.valid, libraries₁⟩
    have panics : (callbacks exec).Panics spawnParams spawnPayload
      (.androidNative fdsErrorLevel) libraries False := by
      refine ⟨fun d same panicked => ?_, fun d same panicked => ?_⟩
      · obtain ⟨_, e, run, -⟩ := (@Kept.filters spawnParams spawnPayload libraries _ _ kept
          given.uid).completes same
        rw [show (callbacks exec).setSeccompFilters spawnParams spawnPayload d =
          (.ok (), e) from run] at panicked
        cases panicked
      · obtain ⟨_, e, run, -⟩ := (@Kept.epilogue spawnParams
          (.androidNative fdsErrorLevel) libraries _ _ kept
          given).completes same
        rw [show (callbacks exec).reInitializeEpilogue spawnParams (.androidNative fdsErrorLevel) d =
          (.ok (), e)
          from run] at panicked
        cases panicked
    obtain ⟨alike, -⟩ := (becomeChild_follows callbacks_outside panics).eq sound₁
    have hooked : (hook .reInitializePrologue : Prog World Empty Unit) c.world = (.ok (), c₁.world) := by
      unfold hook
      rw [sound.silent, world₁]
      rfl
    rw [reInitialize_steps, bind_of_ok hooked, ← alike] at credentials
    obtain ⟨_, became⟩ := Outcome.isOk_iff.mp credentials
    obtain ⟨d, became⟩ := exists_of_fst became
    exact ⟨d, (bind_of_ok prologue _).trans became⟩

/-- When the libraries do not fail, a child ends up in an application exactly when its parameters and its
payload are complete, and the kernel lets it have the credentials it asks for. -/
theorem specialize_enters_iff {fdsErrorLevel : Nat} (sound : Child.Sound libraries c)
    (done : ∀ n call, libraries.answer n call = .done) :
    (∃ startSeq c', specialize exec (.androidNative fdsErrorLevel) spawnParams spawnPayload c =
        (.ok (.entered startSeq), c')) ↔
      Complete exec spawnParams spawnPayload c ∧
        (ChildProcess.reInitialize exec spawnParams c.world : Outcome Empty Unit × World).1.isOk =
          true := by
  have returns := @reInitialize_returns_iff exec spawnParams spawnPayload libraries c
    fdsErrorLevel sound done
  constructor
  · rintro ⟨startSeq, c', run⟩
    obtain ⟨_, d, run, gestated⟩ := bind_eq_ok.mp run
    obtain ⟨context, known, credentials⟩ := returns.mp ⟨d, run⟩
    have launchable := @gestate_launchable exec spawnParams spawnPayload _ _ _ gestated
    exact ⟨⟨context, known, (reinitialized run).libraries ▸ launchable⟩, credentials⟩
  · rintro ⟨⟨context, known, launchable⟩, credentials⟩
    obtain ⟨d, run⟩ := returns.mpr ⟨context, known, credentials⟩
    have libraries := (reinitialized run).libraries.trans sound.libraries
    obtain ⟨ending, c', gestated, ⟨startSeq, rfl⟩, -⟩ :=
      (@Kept.gestate exec spawnParams spawnPayload _ _ (kept_libraries done)
        (sound.libraries ▸ launchable)).completes
        libraries
    refine ⟨startSeq, c', ?_⟩
    rw [specialize, Child.specialize, bind_of_ok run]
    exact gestated

/-- A child of the superuser, on its way to an application that may not gain privileges. -/
def launched : Child where
  world := ChildProcess.superuser
  naming := ⟨[], none, []⟩
  calls := []
  libraries := .calm

def launchParams : SpawnParamsCommon :=
  { ChildProcess.appParams with
    processName := some "org.app"
    seInfo := some "default"
    selinuxFlags := some 1
    noNewPrivs := some true }

def launchPayload : SpawnPayload := .androidNative none "org.app" 7 35 0 true

theorem specialize_launched :
    (specialize false (.androidNative 0) launchParams launchPayload launched).1 = .ok (.entered 7) := by
  decide +kernel

theorem entered_of_specialize_launched : ∃ c',
    specialize false (.androidNative 0) launchParams launchPayload launched = (.ok (.entered 7), c') ∧
      Entered false launchParams launchPayload launched c' := by
  obtain ⟨c', run⟩ := exists_of_fst specialize_launched
  exact ⟨c', run, (entered_of_specialize run).2⟩

theorem specialize_enters_iff_launched :
    Complete false launchParams launchPayload launched ∧
      (ChildProcess.reInitialize false launchParams launched.world : Outcome Empty Unit ×
        World).1.isOk = true := by
  obtain ⟨c', run⟩ := exists_of_fst specialize_launched
  have sound : Child.Sound .calm launched := ⟨fun _ _ => rfl, fun _ absent => (nomatch absent), rfl⟩
  exact (specialize_enters_iff sound fun _ _ => rfl).mp ⟨7, c', run⟩

end acceptance
end AndroidNative
end Zygote
