import Zygote.Species.AndroidNative

/-!
# Zygotes of applications

The child of a `SpawnSubspecies` message loads the library of an application before it serves. What
it has been made unable to do by then.
-/
namespace Zygote
open Effect Credentials Child

/-- What the child of a `SpawnSubspecies` message does with the parameters and the payload, before
it serves. -/
def Child.subspecies (species : Callbacks) (reInitData : ReInitWrapper) (params : SpawnParamsCommon)
    (payload : SpawnPayload) : ChildM Unit := do
  reInitialize false species reInitData params payload
  species.speciate payload

namespace AndroidNative

section speciate
variable {params : SpawnParamsCommon} {payload : SpawnPayload} {data : ReInitWrapper}
    {libraries : Libraries}
  {c c' : Child}

/-- The ids are confined before any code of the application is loaded. -/
def speciateCalls : SpawnPayload → List LibraryCall
  | .androidNativeSubspecies targetSdkVersion runtimeFlags libraryPath libraryDirs permittedLibraryPaths
      shared zipPath nativeSharedLibPath preloadFunc uidGidMin uidGidMax =>
      [.installSetuidgidSeccompFilter uidGidMin uidGidMax, .appProcessInit targetSdkVersion runtimeFlags,
        .preloadLib libraryPath libraryDirs permittedLibraryPaths targetSdkVersion shared zipPath
          nativeSharedLibPath preloadFunc]
  | _ => []

/-- The payload is that of a subspecies. -/
def Speciates : SpawnPayload → Prop
  | .androidNativeSubspecies .. => True
  | _ => False

theorem speciate_ok (run : speciate payload c = (.ok (), c')) :
    Speciates payload ∧ c' = adding c (speciateCalls payload) := by
  cases payload with
  | androidNative => cases run
  | libApp => cases run
  | mock => cases run
  | androidNativeSubspecies =>
      obtain ⟨_, d, confined, run⟩ := Prog.bind_eq_ok.mp run
      obtain ⟨_, e, initialized, loaded⟩ := Prog.bind_eq_ok.mp run
      refine ⟨trivial, ?_⟩
      rw [perform_ok loaded, perform_ok initialized, perform_ok confined, adding_adding, adding_adding]
      rfl

def subspecies (data : ReInitWrapper) (params : SpawnParamsCommon) (payload : SpawnPayload) :
    ChildM Unit :=
  Child.subspecies (callbacks false) data params payload

/-- A zygote of an application. The filter of an application zygote is installed, and no privilege
can be gained any more, while it still has the capabilities of the server; the ids are confined when
it has become the user and entered the context it was asked for; and the library of the application
is loaded last. -/
structure Zygotic (params : SpawnParamsCommon) (payload : SpawnPayload) (c c' : Child) : Prop where
  speciates : Speciates payload
  calls : ∃ (fdsErrorLevel : Nat) (filtering : Task) (context : Context), context.Given params ∧
    filtering.uid = c.world.task.uid ∧ filtering.effective = c.world.task.effective ∧
    c'.calls = c.calls ++ (madeWith c.world.task (prologueCalls fdsErrorLevel params payload c) ++
      (madeWith filtering [.setAppZygoteSeccompFilter, .prctlSetNoNewPrivs] ++
        madeWith c'.world.task (context.calls params.noNewPrivs ++ speciateCalls payload)))
  user : ∀ uid, params.uid = some uid → uid ≠ -1 →
    c'.world.task.uid = ⟨uid.toUInt32, uid.toUInt32, uid.toUInt32⟩

/-- The zygote of an application with a hundred users. -/
def zygotePayload : SpawnPayload :=
  .androidNativeSubspecies 35 0 "/app/lib/libapp.so" "/app/lib" "/app" false "/app/base.apk" ""
    (some "preload")
    90000 90099

theorem subspecies_launched : (subspecies
      (.androidNative 0) launchParams zygotePayload launched).1 = .ok () := by
  decide +kernel

theorem Kept.speciate {pre : Child → Prop} (kept : Kept libraries pre) (speciates : Speciates payload) :
    Prog.Triple False pre (speciate payload) (fun _ => pre) fun _ _ => False := by
  cases payload with
  | androidNative => exact speciates.elim
  | libApp => exact speciates.elim
  | mock => exact speciates.elim
  | androidNativeSubspecies =>
      refine .bind (fun _ => pre) kept.perform fun _ => ?_
      exact .bind (fun _ => pre) kept.perform fun _ => kept.perform

/-- When the libraries do not fail, a zygote of an application comes to serve exactly when its
payload is that of one, its parameters name the context and the cgroup, and the kernel lets it have
its credentials. -/
theorem subspecies_returns_iff {fdsErrorLevel : Nat} (sound : Child.Sound libraries c)
    (done : ∀ n call, libraries.answer n call = .done) :
    (∃ c', subspecies (.androidNative fdsErrorLevel) params payload c = (.ok (), c')) ↔
      Speciates payload ∧ (∃ context : Context, context.Given params) ∧
        (c.world.task.uid.real = 0 → ∃ uid, params.uid = some uid ∧ 0 ≤ uid) ∧
        (ChildProcess.reInitialize false params c.world : Outcome Empty Unit × World).1.isOk = true := by
  have returns := @reInitialize_returns_iff false params payload libraries c fdsErrorLevel sound done
  rw [← returns]
  constructor
  · rintro ⟨c', run⟩
    obtain ⟨_, d, run, speciated⟩ := Prog.bind_eq_ok.mp run
    exact ⟨(speciate_ok (show speciate payload d = _ from speciated)).1, d, run⟩
  · rintro ⟨speciates, d, run⟩
    have libraries := (reinitialized run).libraries.trans sound.libraries
    obtain ⟨_, c', speciated, -⟩ := ((kept_libraries done).speciate speciates).completes libraries
    refine ⟨c', ?_⟩
    rw [subspecies, Child.subspecies, Prog.bind_of_ok run]
    exact speciated

theorem subspecies_returns_iff_launched :
    Speciates zygotePayload ∧ (∃ context : Context, context.Given launchParams) ∧
      (launched.world.task.uid.real = 0 → ∃ uid, launchParams.uid = some uid ∧ 0 ≤ uid) ∧
      (ChildProcess.reInitialize false launchParams launched.world : Outcome Empty Unit ×
        World).1.isOk = true := by
  obtain ⟨c', run⟩ := Prog.exists_of_fst subspecies_launched
  have sound : Child.Sound .calm launched := ⟨fun _ _ => rfl, fun _ absent => (nomatch absent), rfl⟩
  exact (subspecies_returns_iff sound fun _ _ => rfl).mp ⟨c', run⟩

end speciate
end AndroidNative
end Zygote
