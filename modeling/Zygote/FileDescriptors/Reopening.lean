import Mathlib.Data.List.InsertIdx
import Zygote.FileDescriptors.Calls
import Zygote.FileDescriptors.Execute
import Zygote.FileDescriptors.Order

/-!
# What may be reopened

Only a file can be reopened, and executing the actions relies on it. A registration checks
the action against what it finds, but not where it takes the place of a closed entry.
-/
namespace Zygote
open Effect Descriptors Ascending Prog

namespace FileDescriptorEntry
variable {entry : FileDescriptorEntry}

/-- An entry to be reopened is that of a file. -/
def FileOnly (entry : FileDescriptorEntry) : Prop := entry.action = .reopen → entry.info.isFile = true

theorem attempt_returns {α : Type} {call : Call}
    {act : World → Except Errno (α × Option RawFd × Tables)} : Returns (attempt call act) :=
  fun _ => attempt_not_panic

theorem close_returns (fd : RawFd) : Returns (close fd) := fun _ => close_not_panic

theorem reopen_returns (fd : RawFd) (path : CStringBuffer) (fdFlags fsFlagsOpen fsFlagsRest : Flags)
    (offset : Int) : Returns (reopen fd path fdFlags fsFlagsOpen fsFlagsRest offset) := by
  refine .bind (.lift ?_) fun _ => ?_
  · cases path.asCStr <;> rfl
  refine .bind (.mapErr _ attempt_returns) fun _ => ?_
  refine .bind (.mapErr _ attempt_returns) fun _ => ?_
  refine .bind (.mapErr _ attempt_returns) fun _ => ?_
  refine .bind (.mapErr _ attempt_returns) fun _ => ?_
  refine .bind (.mapErr _ attempt_returns) fun _ => ?_
  exact .mapErr _ (close_returns _)

/-- What is only asked of files returns, whatever the calls do. -/
theorem perform_returns (devNullFd : RawFd) (forkType : ForkType) (only : entry.FileOnly) :
    Returns (perform devNullFd forkType entry) := by
  have closes : Returns (do
      (close entry.fd).mapErr (.closeFailed entry.fd)
      Pure.pure true : Prog World FileDescriptorEntryError Bool) :=
    .bind (.mapErr _ (close_returns _)) fun _ => .pure _
  unfold perform
  cases action : entry.action with
  | close => exact closes
  | closeUnlessSpawnSubspecies =>
      cases forkType with
      | application => exact closes
      | subspecies => exact .pure _
  | dupeNull => exact .bind (.mapErr _ attempt_returns) fun _ => .pure _
  | ignore => exact .pure _
  | reopen =>
      have file := only action
      cases info : entry.info with
      | file => exact .bind (reopen_returns _ _ _ _ _ _) fun _ => .pure _
      | boundSocket | connectedSocket | epollFd | fifo | signalFd => rw [info] at file; cases file

theorem execute_returns (devNullFd : RawFd) (forkType : ForkType) (only : entry.FileOnly) (w : World) :
    (execute devNullFd forkType (entry, w)).1.isPanic = false := by
  have performed := perform_returns devNullFd forkType only w
  simp only [execute]
  split
  · rfl
  · split <;> next run => rw [run] at performed; exact performed

end FileDescriptorEntry

namespace FileDescriptorRegistry
open FileDescriptorEntry (FileOnly)
variable {registry after : FileDescriptorRegistry} {w w' : World}

theorem executeBody_returns {entry : FileDescriptorEntry} (devNullFd : RawFd) (forkType : ForkType)
    (only : entry.FileOnly) (w : World) :
    (executeBody devNullFd forkType (entry, w)).1.isPanic = false := by
  have executed := FileDescriptorEntry.execute_returns devNullFd forkType only w
  rw [executeBody, bind_apply]
  split
  · rfl
  · rfl
  · next run => rw [run] at executed; exact executed

/-- Every entry to be reopened is that of a file. -/
def FilesOnly (registry : FileDescriptorRegistry) : Prop :=
  ∀ entry ∈ registry.data.toList, entry.FileOnly

/-- With such a registry, executing the actions never reaches the branch that is called
unreachable. -/
theorem FilesOnly.executeActions_returns (only : registry.FilesOnly) (forkType : ForkType) (w : World) :
    (executeActions forkType (registry, w)).1.isPanic = false := by
  rw [executeActions_exit]
  have opened : (onWorld ((openFd devNullPath (oRdwr ||| oCloexec)).mapErr
      FdRegistryError.devNullFailure) (registry, w)).1.isPanic = false :=
    Returns.mapErr _ FileDescriptorEntry.attempt_returns w
  unfold performActions
  rw [bind_apply]
  split
  · next fd s run =>
    obtain rfl : registry = s.1 := congrArg (fun r => r.2.1) run
    refine Outcome.mapErr_isPanic.trans (Returns.eachMut (fun entry mem v => ?_) s.2)
    exact executeBody_returns fd forkType (only entry mem) v
  · rfl
  · next run => rw [run] at opened; exact opened

section species

/-- The registry serves the species it was made for. -/
def Serves (s t : FileDescriptorRegistry × World) : Prop := t.1.species = s.1.species

theorem Serves.bind {ε α β : Type} {p : Prog (FileDescriptorRegistry × World) ε α}
    {f : α → Prog (FileDescriptorRegistry × World) ε β} (first : Within Serves p)
    (rest : ∀ a, Within Serves (f a)) : Within Serves (p >>= f) :=
  Within.bind (fun first second => second.trans first) first rest

theorem registerNew_species : Within Serves registerNew := by
  rintro ⟨registry, w⟩
  simp only [registerNew]
  split
  · split
    · split <;> rfl
    · rfl
    · rfl
  · rfl

theorem executeActions_species (forkType : ForkType) : Within Serves (executeActions forkType) :=
  Serves.bind (fun _ => rfl) fun _ => Serves.bind (fun _ => rfl) fun _ _ => rfl

theorem resetForSubspecies_species : Within Serves resetForSubspecies :=
  Serves.bind (executeActions_species _) fun _ => Serves.bind registerNew_species fun _ _ => rfl

theorem run_species (op : RegistryOp) : Within Serves op.run := by
  cases op with
  | register fd action =>
      rintro ⟨registry, w⟩
      simp only [RegistryOp.run, register]
      split <;> rfl
  | remove fd =>
      rintro ⟨registry, w⟩
      simp only [RegistryOp.run, remove]
      split <;> rfl
  | registerNew => exact registerNew_species
  | executeActions forkType => exact executeActions_species forkType
  | overrideAndClose => exact Serves.bind (fun _ => rfl) fun _ _ => rfl
  | resetForSubspecies => exact resetForSubspecies_species

end species

section steps

theorem filesOnly_of_map {data : List FileDescriptorEntry}
    (same : data.map (fun entry => (entry.action, entry.info)) =
      registry.data.toList.map fun entry => (entry.action, entry.info)) (only : registry.FilesOnly) :
    ∀ entry ∈ data, entry.FileOnly := by
  intro entry mem reopens
  have listed : (entry.action, entry.info) ∈
      registry.data.toList.map fun entry => (entry.action, entry.info) := by
    rw [← same]
    exact List.mem_map_of_mem mem
  obtain ⟨old, before, pair⟩ := List.mem_map.mp listed
  obtain ⟨action, info⟩ := Prod.mk.inj pair
  rw [← info]
  exact only old before (action.trans reopens)

/-- Where `register` meets a closed entry, what it finds at the number can be reopened if it
is to be. -/
def ReopensFile (op : RegistryOp) (registry : FileDescriptorRegistry) (world : World) : Prop :=
  match op with
  | .register fd .reopen =>
      (∃ entry ∈ registry.data.toList, entry.fd = fd ∧ entry.closed = true) →
        ∀ info, FileDescriptorInfo.tryFrom world fd = .ok info → info.isFile = true
  | _ => True

theorem register_filesOnly {fd : RawFd} {action : Action} {o : Outcome FdRegistryError Unit}
    (checked : ReopensFile (.register fd action) registry w) (only : registry.FilesOnly)
    (h : register fd action (registry, w) = (o, after, w')) : after.FilesOnly := by
  simp only [register] at h
  split at h
  · next data made =>
    cases h
    obtain ⟨info, current, ⟨i, entry, found, same, closed, set⟩ | ⟨i, miss, file, inserted⟩⟩ :=
      registerData_ok made
    · intro new mem
      simp only [withData, set] at mem
      rcases List.mem_or_eq_of_mem_set mem with old | rfl
      · exact only new old
      · rintro rfl
        exact checked ⟨entry, List.mem_of_getElem? found, same, closed⟩ info
          (Outcome.mapErr_eq_ok.mp current)
    · intro new mem
      simp only [withData, inserted] at mem
      rcases List.eq_or_mem_of_mem_insertIdx mem with rfl | old
      · exact file
      · exact only new old
  · cases h; exact only
  · cases h; exact only

theorem remove_filesOnly {fd : RawFd} {o : Outcome FdRegistryError Unit} (only : registry.FilesOnly)
    (h : remove fd (registry, w) = (o, after, w')) : after.FilesOnly := by
  simp only [remove, removeData] at h
  split at h
  · next data made =>
    cases h
    split at made
    · cases made
      exact fun entry mem => only entry (List.mem_of_mem_eraseIdx mem)
    · cases made
  · cases h; exact only
  · cases h; exact only

/-- The default action of a socket is not to reopen it. -/
theorem entryFor_fileOnly {entry : FileDescriptorEntry} {fd : RawFd}
    (callbacks : ∀ path, registry.species.getPeerSocketAction path ≠ some .reopen)
    (made : entryFor registry w fd = .ok entry) : entry.FileOnly := by
  obtain ⟨info, -, made⟩ := Outcome.bind_eq_ok.mp made
  obtain ⟨action, default, made⟩ := Outcome.bind_eq_ok.mp made
  cases made
  rintro rfl
  cases info with
  | file => rfl
  | boundSocket address =>
      cases address with
      | path path => simp only [defaultAction] at default; split at default <;> cases default
      | abstract name => simp only [defaultAction] at default; split at default <;> cases default
  | connectedSocket address =>
      cases address with
      | path path =>
          simp only [defaultAction] at default
          split at default
          · have given := Outcome.ok.inj default
            cases asked : registry.species.getPeerSocketAction path with
            | none => rw [asked] at given; cases given
            | some action =>
                rw [asked] at given
                exact absurd (asked.trans (congrArg some given)) (callbacks path)
          · cases default
      | abstract name => cases default
  | epollFd => cases default
  | fifo => cases default
  | signalFd => cases default

theorem registerNew_filesOnly {o : Outcome FdRegistryError Unit}
    (callbacks : ∀ path, registry.species.getPeerSocketAction path ≠ some .reopen)
    (only : registry.FilesOnly) (ret : o.isPanic = false)
    (h : registerNew (registry, w) = (o, after, w')) : after.FilesOnly := by
  have admissible : ∀ {pushed passed}, List.Forall₂
      (fun fd entry => entryFor registry w' fd = .ok entry) passed pushed →
      ∀ entry ∈ registry.data.toList ++ pushed, entry.FileOnly := by
    intro pushed passed admitted entry mem
    rcases List.mem_append.mp mem with old | new
    · exact only entry old
    · obtain ⟨fd, -, made⟩ := (mem_pushed_iff admitted).mp new
      exact entryFor_fileOnly callbacks made
  obtain ⟨rfl, -⟩ | ⟨-, -, pushed, passed, left, -, admitted,
    ⟨-, -, perm, -⟩ | ⟨_, _, _, -, -, -, data⟩⟩ :=
    registerNew_cases ret h
  · exact only
  · exact fun entry mem => admissible admitted entry (perm.mem_iff.mp mem)
  · exact fun entry mem => admissible admitted entry (data ▸ mem)

theorem eachEntry_filesOnly {body : Prog (FileDescriptorEntry × World) FileDescriptorEntryError Unit}
    (frame : ∀ s, ((body s).2.1.action, (body s).2.1.info) = (s.1.action, s.1.info))
    {o : Outcome FdRegistryError Unit} (only : registry.FilesOnly)
    (h : eachEntry body (registry, w) = (o, after, w')) :
    after.FilesOnly := by
  cases h
  exact filesOnly_of_map (eachMut_map (fun entry : FileDescriptorEntry => (entry.action, entry.info))
    frame _ _) only

theorem executeActions_filesOnly {forkType : ForkType} {o : Outcome FdRegistryError Unit}
    (only : registry.FilesOnly) (h : executeActions forkType (registry, w) = (o, after, w')) :
    after.FilesOnly := by
  obtain ⟨_, performed, -⟩ := executeActions_synced h
  obtain ⟨devNullFd, ⟨mid, v⟩, opened, run⟩ | ⟨e, opened, -⟩ | ⟨m, opened, -⟩ := bind_cases performed
  · obtain rfl : mid = registry := congrArg (fun r => r.2.1) opened.symm
    refine eachEntry_filesOnly (fun s => ?_) only run
    obtain ⟨entry, v⟩ := s
    rw [executeBody, bind_snd_of_pure]
    simp only [FileDescriptorEntry.execute]
    split
    · rfl
    · split <;> rfl
  · obtain rfl : after = registry := congrArg (fun r => r.2.1) opened.symm
    exact only
  · obtain rfl : after = registry := congrArg (fun r => r.2.1) opened.symm
    exact only

theorem resetForSubspecies_filesOnly {o : Outcome FdRegistryError Unit}
    (callbacks : ∀ path, registry.species.getPeerSocketAction path ≠ some .reopen)
    (only : registry.FilesOnly) (ret : o.isPanic = false)
    (h : resetForSubspecies (registry, w) = (o, after, w')) : after.FilesOnly := by
  obtain ⟨_, ⟨mid, v⟩, executed, h⟩ | ⟨e, executed, -⟩ | ⟨m, executed, -⟩ := bind_cases h
  · have mid_only := executeActions_filesOnly only executed
    have served : mid.species = registry.species := by
      simpa only [Serves, executed] using executeActions_species .subspecies (registry, w)
    rw [← served] at callbacks
    obtain ⟨_, ⟨last, v'⟩, registered, h⟩ | ⟨e, registered, -⟩ | ⟨m, -, rfl⟩ := bind_cases h
    · obtain rfl : after = last := congrArg (fun r => r.2.1) h.symm
      exact registerNew_filesOnly callbacks mid_only rfl registered
    · exact registerNew_filesOnly callbacks mid_only rfl registered
    · cases ret
  · exact executeActions_filesOnly only executed
  · exact executeActions_filesOnly only executed

/-- One call keeps the entries to be reopened those of files. -/
theorem step_filesOnly (op : RegistryOp) {o : Outcome FdRegistryError Unit}
    (callbacks : ∀ path, registry.species.getPeerSocketAction path ≠ some .reopen)
    (only : registry.FilesOnly) (checked : ReopensFile op registry w) (ret : o.isPanic = false)
    (h : op.run (registry, w) = (o, after, w')) : after.FilesOnly := by
  cases op with
  | register fd action => exact register_filesOnly checked only h
  | remove fd => exact remove_filesOnly only h
  | registerNew => exact registerNew_filesOnly callbacks only ret h
  | executeActions forkType => exact executeActions_filesOnly only h
  | overrideAndClose =>
      obtain ⟨_, closed, -⟩ := overrideAndClose_synced h
      exact eachEntry_filesOnly (fun _ => rfl) only closed
  | resetForSubspecies => exact resetForSubspecies_filesOnly callbacks only ret h

/-- In a run whose registrations reopen files only, so does the registry, and its actions
can be executed over any descriptors. -/
theorem run_filesOnly (reached : Run ReopensFile registry)
    (callbacks : ∀ path, registry.species.getPeerSocketAction path ≠ some .reopen) :
    registry.FilesOnly ∧
      ∀ forkType w, (executeActions forkType (registry, w)).1.isPanic = false := by
  have only : registry.FilesOnly := by
    induction reached with
    | @new species world registry h =>
        have built : FileDescriptorRegistry.new species world = (.ok registry, _) := Prod.ext h rfl
        refine new_keeps (fun entry mem => ?_) (fun only registered => ?_) built
        · cases mem
        · exact @register_filesOnly _ _ _ _ _ .ignore _ trivial only registered
    | @step before op world _ checked ret ih =>
        rw [run_species op (before, world)] at callbacks
        exact step_filesOnly op callbacks (ih callbacks) checked ret rfl
  exact ⟨only, only.executeActions_returns⟩

theorem turtle_reopens_none (path : String) :
    Species.turtle.getPeerSocketAction path ≠ some .reopen := by
  intro reopens
  obtain ⟨entry, found, action⟩ := Option.map_eq_some_iff.mp reopens
  obtain rfl := List.mem_singleton.mp (List.mem_of_find?_eq_some found)
  cases action

theorem run_filesOnly_tidy :
    let registry := (registerNew (booted tidy, tidy)).2.1
    (∃ entry ∈ registry.data.toList, entry.action = .reopen) ∧ registry.FilesOnly ∧
      ∀ forkType w, (executeActions forkType (registry, w)).1.isPanic = false :=
  ⟨by decide, run_filesOnly
    (.step .registerNew tidy (@Run.new _ .turtle tidy (booted tidy) rfl) trivial rfl)
    turtle_reopens_none⟩

/-- A pipe behind the standard descriptors. -/
def piped : World := .boot .calm (stdio ++ [(3, .pipe)])

/-- A pipe is closed by its action, and another that gets its number is registered to be
reopened. -/
theorem run_not_filesOnly :
    ¬∀ registry, Run (fun _ _ _ => True) registry →
      (∀ path, registry.species.getPeerSocketAction path ≠ some .reopen) →
      registry.FilesOnly ∧
        ∀ forkType w, (executeActions forkType (registry, w)).1.isPanic = false := by
  intro claim
  have start : Run (fun _ _ _ => True) (booted piped) := @Run.new _ .turtle piped _ rfl
  have three := start.step (.register 3 .close) piped trivial rfl
  have closed := three.step (.executeActions .application) piped trivial rfl
  have reused := closed.step (.register 3 .reopen) piped trivial rfl
  have returns := (claim _ reused turtle_reopens_none).2 .application piped
  revert returns
  decide +kernel

end steps

end FileDescriptorRegistry
end Zygote
