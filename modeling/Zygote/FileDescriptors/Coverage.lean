import Zygote.FileDescriptors.Order

/-!
# What `register_new` accounts for

`register_new` goes by the number of an entry, `register` and `audit` by whether it is
closed. The two come apart on a number that was closed and handed out again.
-/
namespace Zygote
open Effect Descriptors Ascending

namespace FileDescriptorRegistry
variable {registry after : FileDescriptorRegistry} {world world' : World}

def OnAllowList (registry : FileDescriptorRegistry) : FileDescriptorInfo → Prop
  | .boundSocket (.abstract name) => registry.boundAbstractSocketIsAllowed name = true
  | .boundSocket (.path path) => registry.boundSocketPathIsAllowed path = true
  | .connectedSocket (.path path) => registry.peerSocketPathIsAllowed path = true
  | .file _ _ path _ _ _ _ =>
      ∃ text, path.asCStr = some text ∧ registry.fileIsAllowed text = .ok true
  | _ => False

theorem defaultAction_ok_iff {fd : RawFd} {info : FileDescriptorInfo} :
    (∃ action, registry.defaultAction fd info = .ok action) ↔ registry.OnAllowList info := by
  cases info with
  | boundSocket address =>
      cases address with
      | path path =>
          cases h : registry.boundSocketPathIsAllowed path <;> simp [defaultAction, OnAllowList, h]
      | abstract name =>
          cases h : registry.boundAbstractSocketIsAllowed name <;>
            simp [defaultAction, OnAllowList, h]
  | connectedSocket address =>
      cases address with
      | path path =>
          cases h : registry.peerSocketPathIsAllowed path <;> simp [defaultAction, OnAllowList, h]
      | abstract name => simp [defaultAction, OnAllowList]
  | file dev inode path fdFlags fsFlagsOpen fsFlagsFcntl offset =>
      cases htext : path.asCStr with
      | none => simp [defaultAction, OnAllowList, htext]
      | some text =>
          cases h : registry.fileIsAllowed text with
          | ok allowed => cases allowed <;> simp [defaultAction, OnAllowList, htext, h]
          | err error => simp [defaultAction, OnAllowList, htext, h]
          | panic reason => simp [defaultAction, OnAllowList, htext, h]
  | epollFd => simp [defaultAction, OnAllowList]
  | fifo => simp [defaultAction, OnAllowList]
  | signalFd => simp [defaultAction, OnAllowList]

def Live (registry : FileDescriptorRegistry) (fd : RawFd) : Prop :=
  ∃ entry ∈ registry.data.toList, entry.fd = fd ∧ entry.closed = false

instance (registry : FileDescriptorRegistry) (fd : RawFd) : Decidable (registry.Live fd) :=
  inferInstanceAs (Decidable (∃ _ ∈ _, _))

/-- Every open descriptor has a live entry afterwards, and the ones that had none before
were admitted by an allow list. -/
def Accounted (before after : FileDescriptorRegistry) (world : World) : Prop :=
  ∀ fd, world.fds.isOpen fd = true → after.Live fd ∧
    (¬before.Live fd →
      ∃ info, FileDescriptorInfo.tryFrom world fd = .ok info ∧ before.OnAllowList info)

/-- Where a number is open again, its closed entry is not the only one it has. -/
def NoStaleNumber (registry : FileDescriptorRegistry) (world : World) : Prop :=
  ∀ fd, world.fds.isOpen fd = true → ∀ entry ∈ registry.data.toList, entry.fd = fd →
    registry.Live fd

theorem entryFor_ok {fd : RawFd} {entry : FileDescriptorEntry}
    (h : entryFor registry world fd = .ok entry) :
    ∃ info action, FileDescriptorInfo.tryFrom world fd = .ok info ∧
      registry.defaultAction fd info = .ok action ∧ entry = .new fd info action := by
  obtain ⟨info, hinfo, h⟩ := Outcome.bind_eq_ok.mp h
  obtain ⟨action, haction, h⟩ := Outcome.bind_eq_ok.mp h
  refine ⟨info, action, ?_, haction, (Outcome.ok.inj h).symm⟩
  exact Outcome.mapErr_eq_ok.mp hinfo

theorem closed_new (fd : RawFd) (info : FileDescriptorInfo) (action : Action) :
    (FileDescriptorEntry.new fd info action).closed = false := by
  cases action <;> rfl

/-- What a successful `register_new` leaves: the old entries and one for each newcomer. -/
theorem registerNew_ok (h : registerNew (registry, world) = (.ok (), after, world')) :
    world' = world.note .opendir none ∧
      (∀ entry, entry ∈ after.data.toList ↔ entry ∈ registry.data.toList ∨
        ∃ fd ∈ newcomers registry world, entryFor registry world' fd = .ok entry) ∧
      ∀ fd ∈ newcomers registry world, ∃ entry, entryFor registry world' fd = .ok entry := by
  obtain ⟨-, err, -⟩ | ⟨-, hworld, pushed, passed, left, split, admitted, cases⟩ :=
    registerNew_cases rfl h
  · simp at err
  obtain ⟨-, rfl, perm, -⟩ | ⟨fd, rest, error, err, -⟩ := cases
  · rw [List.append_nil] at split
    subst split
    refine ⟨hworld, fun entry => ?_, exists_admitted admitted⟩
    rw [perm.mem_iff, List.mem_append, mem_pushed_iff admitted]
  · simp at err

/-- A successful `register_new` accounts for every open descriptor exactly when no open
number has only closed entries. -/
theorem registerNew_accounted_iff (h : registerNew (registry, world) = (.ok (), after, world')) :
    Accounted registry after world' ↔ NoStaleNumber registry world := by
  obtain ⟨rfl, entries, admitted⟩ := registerNew_ok h
  constructor
  · intro accounted fd hopen entry mem same
    obtain ⟨live, hlive, hfd, closed⟩ := (accounted fd hopen).1
    rcases (entries live).mp hlive with old | ⟨fd', new, hmade⟩
    · exact ⟨live, old, hfd, closed⟩
    · have other := (mem_newcomers.mp new).2 entry mem
      rw [← entryFor_fd hmade, hfd] at other
      exact absurd same other
  · intro fresh fd hopen
    by_cases known : ∃ entry ∈ registry.data.toList, entry.fd = fd
    · obtain ⟨entry, mem, same⟩ := known
      obtain ⟨live, hlive, hfd, closed⟩ := fresh fd hopen entry mem same
      refine ⟨⟨live, (entries live).mpr (Or.inl hlive), hfd, closed⟩, fun dead => ?_⟩
      exact absurd ⟨live, hlive, hfd, closed⟩ dead
    · have new : fd ∈ newcomers registry world :=
        mem_newcomers.mpr ⟨hopen, fun entry mem same => known ⟨entry, mem, same⟩⟩
      obtain ⟨entry, hmade⟩ := admitted fd new
      obtain ⟨info, action, hinfo, haction, rfl⟩ := entryFor_ok hmade
      refine ⟨⟨_, (entries _).mpr (Or.inr ⟨fd, new, hmade⟩), rfl, closed_new _ _ _⟩, fun _ => ?_⟩
      exact ⟨info, hinfo, defaultAction_ok_iff.mp ⟨action, haction⟩⟩

theorem registerNew_accounted_tidy :
    let result := registerNew (booted tidy, tidy)
    Accounted (booted tidy) result.2.1 result.2.2 ↔ NoStaleNumber (booted tidy) tidy :=
  registerNew_accounted_iff rfl

/-- The descriptor 7 before its close action is executed. -/
def opened : World := .boot .calm (stdio ++ [(7, .null)])

/-- The number 7 is handed out again, to a pipe that is on no allow list. -/
def reused : World := .boot .calm (stdio ++ [(3, .null), (7, .pipe)])

/-- `register_new` passes over the pipe: its number has an entry, though a closed one. -/
theorem registerNew_unaccounted :
    ¬∀ registry world after world', Run (fun _ _ _ => True) registry →
      registerNew (registry, world) = (.ok (), after, world') →
      Accounted registry after world' := by
  intro claim
  have start : Run (fun _ _ _ => True) (booted opened) := @Run.new _ .turtle opened _ rfl
  have seven := start.step (.register 7 .close) opened trivial rfl
  have closed := seven.step (.executeActions .application) opened trivial rfl
  have live := (claim _ reused _ _ closed rfl 7 rfl).1
  revert live
  decide

end FileDescriptorRegistry
end Zygote
