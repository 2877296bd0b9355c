import Zygote.Child

/-!
# Libraries as applications

A species that loads a shared library and calls its entry function. Its other callbacks do nothing: what
the library runs with is what a child becomes without any.
-/
namespace Zygote
open Effect Credentials Child

def Species.libApp : Species where
  tag := .libApp
  boundAbstractSocketIsAllowed _ := false
  boundSocketPathIsAllowed _ := false
  peerSocketPathIsAllowed _ := false
  getPeerSocketAction _ := none
  fileIsAllowed _ := false
  getFileAction _ := none
  isSpawnPayloadType
    | .libApp .. => true
    | _ => false

namespace LibApp

def entrySymbolName : String := "zygote_entry"

/-- The arguments, as long as there is no null byte in any of them. -/
def cstringArgs : List String → ChildM (List CStr)
  | [] => pure []
  | arg :: rest => do
      let first ← required "Argument contains null byte" (CStr.new arg.toUTF8.data.toList)
      let others ← cstringArgs rest
      pure (first :: others)

/-- The last priority before the library has control. Nobody is to be told that it was not allowed. -/
def setFinalPriority (spawnParams : SpawnParamsCommon) : Prog World Empty Unit :=
  Prog.forSome spawnParams.priorityFinal fun priority => do
    let _ ← (plainCall (.setpriority priority) ()).result
    pure ()

/-- Load the library and run its entry function. Its status is that of the process. -/
def enterLibrary (spawnParams : SpawnParamsCommon) (path : String) (args : List String) :
    ChildM Fate := do
  let libraryArgs ← cstringArgs args
  let child ← Prog.read
  if child.world.env.pathExists child.world.clock path.toUTF8.data.toList = false then pure (.exited 1)
  else match ← (library (.libraryOpen path)).result with
    | .error _ => pure (.exited 1)
    | .ok _ => match ← (library (.libraryGet entrySymbolName)).result with
      | .error _ => pure (.exited 1)
      | .ok _ => do
          onWorld (setFinalPriority spawnParams)
          perform (.entryFunction libraryArgs)
          let child ← Prog.read
          pure (.exited (child.libraries.entryStatus libraryArgs))

def gestate (spawnParams : SpawnParamsCommon) : SpawnPayload → ChildM Fate
  | .libApp path args => enterLibrary spawnParams path args.toList
  | _ => Prog.panic "Invalid spawn payload for species lib-app"

def callbacks : Callbacks where
  gatherReinitializationData := pure .libApp
  reInitializePrologue _ _ _ := pure ()
  setSeccompFilters _ _ := pure ()
  reInitializeEpilogue _ _ := pure ()
  speciate _ := pure ()
  gestate := gestate

section entry
variable {exec : Bool} {data : ReInitWrapper} {params : SpawnParamsCommon} {payload : SpawnPayload}
  {libraries : Libraries} {ending : Fate} {c c' : Child} {args : List String} {libraryArgs : List CStr}

/-- The texts as C strings. -/
def cstrings (args : List String) : Option (List CStr) :=
  args.mapM fun arg => CStr.new arg.toUTF8.data.toList

theorem cstrings_cons (arg : String) (rest : List String) : cstrings (arg :: rest) =
    (CStr.new arg.toUTF8.data.toList).bind fun first => (cstrings rest).bind
      fun others => some (first :: others) :=
  List.mapM_cons

theorem cstringArgs_eq (args : List String) :
    cstringArgs args = required "Argument contains null byte" (cstrings args) := by
  induction args with
  | nil => rfl
  | cons arg rest ih =>
      rw [cstringArgs, ih, cstrings_cons]
      cases CStr.new arg.toUTF8.data.toList with
      | none => rfl
      | some first =>
          cases cstrings rest with
          | none => rfl
          | some others => rfl

/-- How far a child comes with its library, after so many calls: it is not there, cannot be loaded,
has no entry function, or is run to its end. -/
inductive Ended (libraries : Libraries) (made : Nat) (w : World) (path : String)
    (libraryArgs : List CStr) :
    List LibraryCall → Fate → Prop
  | absent (missing : w.env.pathExists w.clock path.toUTF8.data.toList = false) :
      Ended libraries made w path libraryArgs [] (.exited 1)
  | unopened (there : w.env.pathExists w.clock path.toUTF8.data.toList = true) {errno : Errno}
      (refused : libraries.answer made (.libraryOpen path) = .failed errno) :
      Ended libraries made w path libraryArgs [.libraryOpen path] (.exited 1)
  | unfound (there : w.env.pathExists w.clock path.toUTF8.data.toList = true) {errno : Errno}
      (opened : libraries.answer made (.libraryOpen path) = .done)
      (missing : libraries.answer (made + 1) (.libraryGet entrySymbolName) = .failed errno) :
      Ended libraries made w path libraryArgs [.libraryOpen path, .libraryGet entrySymbolName]
        (.exited 1)
  | entered (there : w.env.pathExists w.clock path.toUTF8.data.toList = true)
      (opened : libraries.answer made (.libraryOpen path) = .done)
      (found : libraries.answer (made + 1) (.libraryGet entrySymbolName) = .done) :
      Ended libraries made w path libraryArgs
        [.libraryOpen path, .libraryGet entrySymbolName, .entryFunction libraryArgs]
        (.exited (libraries.entryStatus libraryArgs))

theorem setFinalPriority_eq (spawnParams : SpawnParamsCommon) (w : World) :
    ∃ v, setFinalPriority spawnParams w = (.ok (), v) ∧ v.task = w.task := by
  unfold setFinalPriority
  cases spawnParams.priorityFinal with
  | none => exact ⟨w, rfl, rfl⟩
  | some priority =>
      refine ⟨w.note (.setpriority priority) none, ?_, rfl⟩
      cases faulty : w.env.fault w.clock (.setpriority priority) <;>
        simp only [Prog.forSome, Prog.bind_apply, Prog.result, plainCall, attempt, faulty] <;> rfl

theorem onWorld_setFinalPriority (spawnParams : SpawnParamsCommon) (c : Child) : ∃ d,
    onWorld (setFinalPriority spawnParams) c = (.ok (), d) ∧ d.calls = c.calls ∧
    d.libraries = c.libraries ∧
      d.world.task = c.world.task := by
  obtain ⟨v, set, task⟩ := setFinalPriority_eq spawnParams c.world
  refine ⟨{ c with world := v }, ?_, rfl, rfl, task⟩
  unfold onWorld Prog.focus
  rw [set]

theorem gestate_ok (run : gestate params payload c = (.ok ending, c')) :
    ∃ path args libraryArgs calls, payload = .libApp path args ∧
    cstrings args.toList = some libraryArgs ∧
      Ended c.libraries c.calls.length c.world path libraryArgs calls ending ∧
      c'.calls = c.calls ++ madeWith c.world.task calls ∧ c'.world.task = c.world.task := by
  cases payload with
  | androidNative => cases run
  | androidNativeSubspecies => cases run
  | mock => cases run
  | libApp path args =>
  obtain ⟨libraryArgs, d, converted, h₁⟩ := Prog.bind_eq_ok.mp run
  rw [cstringArgs_eq] at converted
  obtain ⟨given, same⟩ := required_ok converted
  subst same
  obtain ⟨child, d₁, read, h₂⟩ := Prog.bind_eq_ok.mp h₁
  cases read
  by_cases absent : d.world.env.pathExists d.world.clock path.toUTF8.data.toList = false
  · rw [if_pos absent] at h₂
    cases h₂
    exact ⟨path, args, libraryArgs, [], rfl, given, .absent absent, (List.append_nil _).symm, rfl⟩
  rw [if_neg absent] at h₂
  have there := Bool.eq_true_of_not_eq_false absent
  obtain ⟨opened, d₂, opening, h₃⟩ := Prog.bind_eq_ok.mp h₂
  obtain ⟨rfl, answer₁⟩ := library_answer opening
  cases opened with
  | error errno =>
      cases h₃
      exact ⟨path, args, libraryArgs, _, rfl, given, .unopened there answer₁, rfl, rfl⟩
  | ok _ =>
  obtain ⟨found, d₃, finding, h₄⟩ := Prog.bind_eq_ok.mp h₃
  obtain ⟨found₁, answer₂⟩ := library_answer finding
  rw [show (adding d [.libraryOpen path]).calls.length = d.calls.length + 1
    from List.length_append] at answer₂
  rw [adding_adding] at found₁
  subst found₁
  cases found with
  | error errno =>
      cases h₄
      exact ⟨path, args, libraryArgs, _, rfl, given, .unfound there answer₁ answer₂, rfl, rfl⟩
  | ok _ =>
  obtain ⟨_, d₄, prioritized, h₅⟩ := Prog.bind_eq_ok.mp h₄
  obtain ⟨e, set, calls, libraries, task⟩ := onWorld_setFinalPriority params
    (adding d ([.libraryOpen path] ++ [.libraryGet entrySymbolName]))
  obtain rfl : e = d₄ := congrArg Prod.snd (set.symm.trans prioritized)
  obtain ⟨_, d₅, entered, h₆⟩ := Prog.bind_eq_ok.mp h₅
  have entry := perform_ok entered
  subst entry
  cases h₆
  have status : e.libraries = d.libraries := libraries
  refine ⟨path, args, libraryArgs,
    [.libraryOpen path, .libraryGet entrySymbolName, .entryFunction libraryArgs], rfl,
    given, ?_, ?_, task⟩
  · show Ended d.libraries _ d.world path libraryArgs _ (.exited (e.libraries.entryStatus libraryArgs))
    rw [status]
    exact .entered there answer₁ answer₂
  · show e.calls ++ madeWith e.world.task [.entryFunction libraryArgs] = _
    rw [calls, task]
    exact List.append_assoc ..

def specialize (exec : Bool) (reInitData : ReInitWrapper) (spawnParams : SpawnParamsCommon)
    (spawnPayload : SpawnPayload) : ChildM Fate :=
  Child.specialize exec callbacks reInitData spawnParams spawnPayload

theorem callbacks_outside : callbacks.Outside :=
  have still : ∀ c : Child, Child.Beside c c := fun _ => ⟨rfl, rfl, rfl⟩
  ⟨fun _ _ _ => still, fun _ _ => still, fun _ _ => still⟩

/-- A library is asked for when the child has become what its parameters ask for, and not before. -/
theorem specialize_ok (sound : Child.Sound libraries c)
    (run : specialize exec data params payload c = (.ok ending, c')) :
    ∃ path args libraryArgs calls v, payload = .libApp path args ∧
    cstrings args.toList = some libraryArgs ∧
      (ChildProcess.reInitialize exec params c.world : Outcome Empty Unit × World) = (.ok (), v) ∧
      Ended libraries c.calls.length v path libraryArgs calls ending ∧
      c'.calls = c.calls ++ madeWith v.task calls ∧
      c'.world.task = v.task := by
  obtain ⟨_, d, reinitialized, entered⟩ := Prog.bind_eq_ok.mp run
  obtain ⟨after, process⟩ := (reInitialize_follows callbacks_outside).ok sound reinitialized
  obtain ⟨c₁, c₂, c₃, c₄, stages⟩ := reInitialize_stages reinitialized
  obtain ⟨path, args, libraryArgs, calls, rfl, given, ended, made, task⟩ := gestate_ok
    (show gestate params payload d = _ from entered)
  -- the callbacks have put nothing on the record
  have prologue : c₁.calls = c.calls := (congrArg (fun r => r.2.calls) stages.prologue).symm
  have filters : c₃.calls = c₂.calls := (congrArg (fun r => r.2.calls) stages.filters).symm
  have epilogue : d.calls = c₄.calls := (congrArg (fun r => r.2.calls) stages.epilogue).symm
  have record : d.calls = c.calls := by
    rw [epilogue, stages.became.1, filters, stages.prepared.1, prologue]
  refine ⟨path, args, libraryArgs, calls, d.world, rfl, given, process, ?_, ?_, task⟩
  · rw [← record, ← after.libraries]
    exact ended
  · rw [made, record]

/-- A child of the superuser with a library that is there, and counts its arguments. -/
def loading : Child where
  world := { ChildProcess.superuser with env := { Env.calm with pathExists := fun _ _ => true } }
  naming := ⟨[], none, []⟩
  calls := []
  libraries := { Libraries.calm with entryStatus := fun args => Int32.ofNat args.length }

def loadingPayload : SpawnPayload := .libApp "/lib/libmemmark.so" ⟨["first", "second"], by decide⟩

theorem loading_sound : Child.Sound loading.libraries loading :=
  ⟨fun _ _ => rfl, fun _ absent => (nomatch absent), rfl⟩

theorem specialize_loading :
    (specialize false .libApp ChildProcess.appParams loadingPayload loading).1 = .ok (.exited 2) := by
  decide +kernel

/-- No call into a library ends the process. -/
def Lives (libraries : Libraries) : Prop := ∀ n call reason, libraries.answer n call ≠ .aborts reason

theorem library_returns (lives : Lives c.libraries) (call : LibraryCall) :
    ∃ r, ((library call).result c : Outcome Empty (Except Errno Unit) × Child) =
      (.ok r, adding c [call]) := by
  unfold Prog.result library
  dsimp only
  cases answered : c.libraries.answer c.calls.length call with
  | done => exact ⟨.ok (), rfl⟩
  | failed errno => exact ⟨.error errno, rfl⟩
  | aborts reason => exact absurd answered (lives _ _ _)

theorem perform_returns (lives : Lives c.libraries) (call : LibraryCall) :
    perform call c = (.ok (), adding c [call]) := by
  obtain ⟨r, returned⟩ := library_returns lives call
  unfold perform
  rw [Prog.bind_of_ok returned]
  rfl

theorem gestate_exits {path : String} {args : ArrayVec String messageArgBufferMax}
    (lives : Lives c.libraries)
    (given : cstrings args.toList = some libraryArgs) :
    ∃ status c', gestate params (.libApp path args) c = (.ok (.exited status), c') := by
  have converted : cstringArgs args.toList c = (.ok libraryArgs, c) := by
    rw [cstringArgs_eq, given]
    rfl
  show ∃ status c', enterLibrary params path args.toList c = (.ok (.exited status), c')
  unfold enterLibrary
  rw [Prog.bind_of_ok converted,
    Prog.bind_of_ok (show (Prog.read : ChildM Child) c = (.ok c, c) from rfl)]
  by_cases absent : c.world.env.pathExists c.world.clock path.toUTF8.data.toList = false
  · rw [if_pos absent]
    exact ⟨1, c, rfl⟩
  rw [if_neg absent]
  obtain ⟨opened, opening⟩ := library_returns lives (.libraryOpen path)
  rw [Prog.bind_of_ok opening]
  cases opened with
  | error errno => exact ⟨1, _, rfl⟩
  | ok _ =>
  obtain ⟨found, finding⟩ := @library_returns (adding c [.libraryOpen path]) lives
    (.libraryGet entrySymbolName)
  dsimp only
  rw [Prog.bind_of_ok finding]
  cases found with
  | error errno => exact ⟨1, _, rfl⟩
  | ok _ =>
  obtain ⟨d, prioritized, -, libraries, -⟩ := onWorld_setFinalPriority params
    (adding (adding c [.libraryOpen path]) [.libraryGet entrySymbolName])
  have lives' : Lives d.libraries := libraries ▸ lives
  dsimp only
  rw [Prog.bind_of_ok prioritized, Prog.bind_of_ok (perform_returns lives' (.entryFunction libraryArgs))]
  exact ⟨_, _, rfl⟩

/-- When no library ends the process, a child exits by itself exactly when its payload is that of a
library with arguments that can be passed on, and the kernel lets it have the credentials it asks
for. -/
theorem specialize_exits_iff (sound : Child.Sound libraries c) (lives : Lives libraries) :
    (∃ status c', specialize exec data params payload c = (.ok (.exited status), c')) ↔
      (∃ path args, payload = .libApp path args ∧ (cstrings args.toList).isSome = true) ∧
        (ChildProcess.reInitialize exec params c.world : Outcome Empty Unit × World).1.isOk = true := by
  constructor
  · rintro ⟨status, c', run⟩
    obtain ⟨path, args, libraryArgs, calls, v, payload, given, process, -⟩ := specialize_ok sound run
    exact ⟨⟨path, args, payload, Option.isSome_iff_exists.mpr ⟨_, given⟩⟩, by rw [process]; rfl⟩
  · rintro ⟨⟨path, args, rfl, some⟩, credentials⟩
    obtain ⟨libraryArgs, given⟩ := Option.isSome_iff_exists.mp some
    have follows : Child.Follows libraries False
      (reInitialize exec callbacks data params (.libApp path args))
        (ChildProcess.reInitialize exec params) := by
      rw [reInitialize_steps]
      refine .bind (Child.callback_follows (callbacks_outside.prologue _ _ _) fun _ _ panicked => ?_)
        fun _ => ?_
      · cases panicked
      · refine becomeChild_follows callbacks_outside ⟨fun _ _ panicked => ?_, fun _ _ panicked => ?_⟩
        · cases panicked
        · cases panicked
    rw [← (follows.eq sound).1] at credentials
    obtain ⟨_, became⟩ := Outcome.isOk_iff.mp credentials
    obtain ⟨d, became⟩ := Prog.exists_of_fst became
    have after := (follows.ok sound became).1
    obtain ⟨status, c', exits⟩ := @gestate_exits params d _ path args
      (after.libraries.symm ▸ lives) given
    exact ⟨status, c', (Prog.bind_of_ok became _).trans exits⟩

theorem specialize_exits_iff_loading :
    (∃ path args, loadingPayload = .libApp path args ∧ (cstrings args.toList).isSome = true) ∧
      (ChildProcess.reInitialize false ChildProcess.appParams loading.world : Outcome Empty Unit ×
        World).1.isOk = true := by
  obtain ⟨c', run⟩ := Prog.exists_of_fst specialize_loading
  exact (@specialize_exits_iff false .libApp ChildProcess.appParams loadingPayload
    loading.libraries loading
    loading_sound fun _ _ _ aborted => nomatch aborted).mp ⟨2, c', run⟩

end entry
end LibApp
end Zygote
