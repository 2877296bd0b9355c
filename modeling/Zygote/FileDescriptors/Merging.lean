import Zygote.FileDescriptors.Reset

/-!
# What `register_new` merges into the registry

The descriptors without an entry are taken up in their order until one is turned down. What
comes of it is told by the allow lists, but for a socket whose name is longer than an address:
there the walk ends in a panic, and whatever comes behind it is not looked at.
-/
namespace Zygote
open Effect Descriptors Ascending

namespace FileDescriptorInfo
variable {w : World} {fd : RawFd}

/-- The name of a socket, its own or that of its peer, is reported longer than an address. -/
def Overlong (w : World) (fd : RawFd) : Prop :=
  (∃ stat, w.fstat fd = .ok stat ∧ getFileType stat = sIfsock) ∧
    ∃ path, (w.getsockname fd = .ok (some path) ∨
        w.getsockname fd = .ok none ∧ w.getpeername fd = .ok (some path)) ∧
      sunPathSize < path.length

theorem query_returns {α : Type} {q : Query} {report : OpenFile → Outcome Errno α}
    (returns : ∀ f, (report f).isPanic = false) : (w.query q fd report).isPanic = false := by
  unfold World.query
  split
  · rfl
  · split
    · rfl
    · exact returns _

theorem readlink_returns : (w.readlink fd).isPanic = false := query_returns fun _ => rfl

theorem getProcFdLinkInfo_returns : (getProcFdLinkInfo w fd).isPanic = false :=
  Outcome.bind_isPanic.mpr ⟨Outcome.mapErr_isPanic.trans readlink_returns, fun _ _ => rfl⟩

theorem getFileInfo_returns (stat : Stat) : (getFileInfo w fd stat).isPanic = false := by
  have getfd : (w.fcntlGetfd fd).isPanic = false := query_returns fun _ => rfl
  have getfl : (w.fcntlGetfl fd).isPanic = false := query_returns fun _ => rfl
  refine Outcome.bind_isPanic.mpr ⟨Outcome.mapErr_isPanic.trans getProcFdLinkInfo_returns, fun _ _ => ?_⟩
  refine Outcome.bind_isPanic.mpr ⟨Outcome.mapErr_isPanic.trans getfd, fun _ _ => ?_⟩
  exact Outcome.bind_isPanic.mpr ⟨Outcome.mapErr_isPanic.trans getfl, fun _ _ => rfl⟩

theorem arrayString_returns (bytes : Bytes) (nameSize : Nat) :
    (arrayString bytes nameSize).isPanic = false := by
  unfold arrayString
  split
  · rfl
  · split <;> rfl

theorem getSocketAddress_returns (path : Bytes) : (getSocketAddress path).isPanic = false := by
  have named : ∀ {text : Bytes} {n : Nat} {f : String → SocketAddress},
      (f <$> arrayString text n).isPanic = false := by
    intro text n f
    exact Outcome.bind_isPanic.mpr ⟨arrayString_returns text n, fun _ _ => rfl⟩
  unfold getSocketAddress
  split
  · exact named
  · refine Outcome.bind_isPanic.mpr ⟨?_, fun _ _ => named⟩
    unfold fromBytesWithNul
    split <;> rfl

/-- The slice of a name panics when the name is longer than an address, and nothing else does. -/
theorem readName_isPanic {f : SocketAddress → FileDescriptorInfo} (path : Bytes) :
    (f <$> (sunBytes path >>= getSocketAddress)).isPanic = true ↔ sunPathSize < path.length := by
  unfold sunBytes
  split
  · next fits =>
    refine iff_of_false ?_ (not_lt.mpr fits)
    rw [Outcome.bind_ok, Bool.not_eq_true]
    exact Outcome.bind_isPanic.mpr ⟨getSocketAddress_returns path, fun _ _ => rfl⟩
  · next past => exact iff_of_true rfl (not_le.mp past)

theorem getSocketInfo_isPanic : (getSocketInfo w fd).isPanic = true ↔
    ∃ path, (w.getsockname fd = .ok (some path) ∨
        w.getsockname fd = .ok none ∧ w.getpeername fd = .ok (some path)) ∧
      sunPathSize < path.length := by
  have own : (w.getsockname fd).isPanic = false := query_returns fun _ => rfl
  have peer : (w.getpeername fd).isPanic = false := query_returns fun f => by cases f.peer <;> rfl
  unfold getSocketInfo
  cases reported : w.getsockname fd with
  | panic m => rw [reported] at own; cases own
  | err e => simp [Outcome.mapErr]
  | ok name =>
      cases name with
      | some path => simpa [Outcome.mapErr] using readName_isPanic path
      | none =>
          cases other : w.getpeername fd with
          | panic m => rw [other] at peer; cases peer
          | err e => simp [Outcome.mapErr]
          | ok name =>
              cases name with
              | none => simp [Outcome.mapErr, Outcome.ofOption]
              | some path => simpa [Outcome.mapErr, Outcome.ofOption] using readName_isPanic path

/-- Looking at a descriptor panics only for the overlong name of a socket. -/
theorem tryFrom_isPanic_iff : (tryFrom w fd).isPanic = true ↔ Overlong w fd := by
  have looked : (w.fstat fd).isPanic = false := query_returns fun _ => rfl
  unfold tryFrom Overlong
  cases stat : w.fstat fd with
  | panic m => rw [stat] at looked; cases looked
  | err e => simp [Outcome.mapErr]
  | ok stat =>
      simp only [Outcome.mapErr, Outcome.bind_ok, Outcome.ok.injEq, exists_eq_left']
      split
      · next fifo => simp [fifo, sIfifo, sIfsock]
      · split
        · next file =>
          rw [getFileInfo_returns]
          rcases file with file | file <;> simp [file, sIfchr, sIfreg, sIfsock]
        · split
          · next socket => rw [getSocketInfo_isPanic, and_iff_right socket]
          · next other =>
            refine iff_of_false ?_ fun overlong => other overlong.1
            rw [Bool.not_eq_true]
            refine Outcome.bind_isPanic.mpr
              ⟨Outcome.mapErr_isPanic.trans getProcFdLinkInfo_returns, fun _ _ => ?_⟩
            refine Outcome.bind_isPanic.mpr ⟨?_, fun _ _ => ?_⟩
            · unfold Outcome.ofOption
              split <;> rfl
            · split
              · rfl
              · split <;> rfl

end FileDescriptorInfo

namespace FileDescriptorRegistry
open FileDescriptorInfo (Overlong tryFrom tryFrom_isPanic_iff)
variable {registry after : FileDescriptorRegistry} {w w' : World} {fd : RawFd}

/-- What is on an allow list is registered under the action of the species, or under that for
its kind. -/
inductive Admits (registry : FileDescriptorRegistry) : FileDescriptorInfo → Action → Prop
  | boundAbstract {name} : registry.boundAbstractSocketIsAllowed name = true →
      Admits registry (.boundSocket (.abstract name)) .dupeNull
  | boundPath {path} : registry.boundSocketPathIsAllowed path = true →
      Admits registry (.boundSocket (.path path)) .dupeNull
  | peerPath {path} : registry.peerSocketPathIsAllowed path = true →
      Admits registry (.connectedSocket (.path path))
        ((registry.species.getPeerSocketAction path).getD .dupeNull)
  | file {dev inode path fdFlags fsFlagsOpen fsFlagsFcntl offset text} : path.asCStr = some text →
      registry.fileIsAllowed text = .ok true →
      Admits registry (.file dev inode path fdFlags fsFlagsOpen fsFlagsFcntl offset)
        ((registry.species.getFileAction text).getD .reopen)

theorem defaultAction_eq_ok_iff {info : FileDescriptorInfo} {action : Action} :
    registry.defaultAction fd info = .ok action ↔ registry.Admits info action := by
  constructor
  · intro given
    have listed := defaultAction_ok_iff.mp ⟨action, given⟩
    cases info with
    | boundSocket address =>
        cases address with
        | path path =>
            have allowed : registry.boundSocketPathIsAllowed path = true := listed
            rw [defaultAction, if_pos allowed] at given
            cases given
            exact .boundPath allowed
        | abstract name =>
            have allowed : registry.boundAbstractSocketIsAllowed name = true := listed
            rw [defaultAction, if_pos allowed] at given
            cases given
            exact .boundAbstract allowed
    | connectedSocket address =>
        cases address with
        | path path =>
            have allowed : registry.peerSocketPathIsAllowed path = true := listed
            rw [defaultAction, if_pos allowed] at given
            cases given
            exact .peerPath allowed
        | abstract name => exact listed.elim
    | file dev inode path fdFlags fsFlagsOpen fsFlagsFcntl offset =>
        obtain ⟨text, whole, allowed⟩ := listed
        simp only [defaultAction, whole, allowed, Outcome.bind_ok, if_true] at given
        cases given
        exact .file whole allowed
    | epollFd | fifo | signalFd => exact listed.elim
  · intro admits
    cases admits with
    | boundAbstract allowed | boundPath allowed | peerPath allowed => exact if_pos allowed
    | file whole allowed =>
        simp only [defaultAction, whole, allowed, Outcome.bind_ok, if_true]

theorem defaultAction_returns (fd : RawFd) (info : FileDescriptorInfo) :
    (registry.defaultAction fd info).isPanic = false := by
  cases info with
  | boundSocket address | connectedSocket address =>
      cases address <;> simp only [defaultAction] <;> first | rfl | (split <;> rfl)
  | file dev inode path fdFlags fsFlagsOpen fsFlagsFcntl offset =>
      simp only [defaultAction]
      cases path.asCStr with
      | none => rfl
      | some text =>
          refine Outcome.bind_isPanic.mpr ⟨?_, fun allowed _ => ?_⟩
          · unfold fileIsAllowed
            split <;> rfl
          · cases allowed <;> rfl
  | epollFd | fifo | signalFd => rfl

/-- Only what cannot be looked at makes the walk panic. -/
theorem entryFor_isPanic_iff : (entryFor registry w fd).isPanic = true ↔ Overlong w fd := by
  rw [← tryFrom_isPanic_iff, entryFor, infoOf]
  cases tryFrom w fd with
  | ok info =>
      refine iff_of_false ?_ (by simp)
      rw [Bool.not_eq_true]
      exact Outcome.bind_isPanic.mpr ⟨rfl, fun info _ =>
        Outcome.bind_isPanic.mpr ⟨defaultAction_returns fd info, fun _ _ => rfl⟩⟩
  | err e => simp [Outcome.mapErr]
  | panic m => simp [Outcome.mapErr]

/-- No allow list names what the descriptor refers to. -/
def Unwelcome (registry : FileDescriptorRegistry) (w : World) (fd : RawFd) : Prop :=
  ∃ info, tryFrom w fd = .ok info ∧ ¬registry.OnAllowList info

/-- The descriptor can be looked at, and what there is to be seen is on no allow list. -/
def TurnsDown (registry : FileDescriptorRegistry) (w : World) (fd : RawFd) : Prop :=
  ¬Overlong w fd ∧ ∀ info, tryFrom w fd = .ok info → ¬registry.OnAllowList info

theorem entryFor_isOk_iff : (entryFor registry w fd).isOk = true ↔
    ∃ info, tryFrom w fd = .ok info ∧ registry.OnAllowList info := by
  rw [Outcome.isOk_iff]
  constructor
  · rintro ⟨entry, made⟩
    obtain ⟨info, action, looked, given, -⟩ := entryFor_ok made
    exact ⟨info, looked, defaultAction_ok_iff.mp ⟨action, given⟩⟩
  · rintro ⟨info, looked, listed⟩
    obtain ⟨action, given⟩ := (@defaultAction_ok_iff registry fd info).mpr listed
    exact ⟨.new fd info action, Outcome.bind_eq_ok.mpr ⟨info, Outcome.mapErr_eq_ok.mpr looked,
      Outcome.bind_eq_ok.mpr ⟨action, given, rfl⟩⟩⟩

theorem entryFor_isErr_iff : (entryFor registry w fd).isErr = true ↔ registry.TurnsDown w fd := by
  have panics := @entryFor_isPanic_iff registry w fd
  have admits := @entryFor_isOk_iff registry w fd
  have none : (entryFor registry w fd).isOk = false ↔
      ∀ info, tryFrom w fd = .ok info → ¬registry.OnAllowList info := by
    rw [← Bool.not_eq_true, admits]
    simp
  unfold TurnsDown
  rw [← panics, ← none]
  cases entryFor registry w fd <;> simp

section walk

/-- With room for all, the walk ends as it does at the first descriptor that gets no entry. -/
theorem admitEach_isErr_iff {l : List RawFd} {data : Entries}
    (room : data.length + l.length ≤ registrySize) :
    (admitEach registry w l data).1.isErr = true ↔
      ∃ fd, l.find? (fun fd => !(entryFor registry w fd).isOk) = some fd ∧
        (entryFor registry w fd).isErr = true := by
  induction l generalizing data with
  | nil => simp [admitEach]
  | cons fd rest ih =>
      rw [List.length_cons] at room
      cases made : entryFor registry w fd with
      | ok entry =>
          obtain ⟨more, pushed, longer⟩ := @ArrayVec.exists_push _ _ data entry (by omega)
          rw [List.find?_cons_of_neg (by simp [made])]
          simp only [admitEach, made, pushed]
          exact ih (by omega)
      | err error =>
          rw [List.find?_cons_of_pos (by simp [made])]
          simp [admitEach, made]
      | panic reason =>
          rw [List.find?_cons_of_pos (by simp [made])]
          simp [admitEach, made]

theorem registerNew_isErr_iff (ordered : registry.Ordered)
    (room : registry.data.length + (newcomers registry w).length ≤ registrySize)
    (listed : (procFdIterator w).1.isOk = true) :
    (registerNew (registry, w)).1.isErr = true ↔
      ∃ fd, (newcomers registry w).find? (refuses registry w) = some fd ∧
        registry.TurnsDown (w.note .opendir none) fd := by
  have walk := @admitEach_isErr_iff registry (w.note .opendir none)
    (newcomers registry w) registry.data room
  simp only [entryFor_isErr_iff] at walk
  rw [show refuses registry w = fun fd => !(entryFor registry (w.note .opendir none) fd).isOk from rfl,
    ← walk]
  cases opened : procFdIterator w with
  | mk outcome v =>
      rw [opened] at listed
      cases outcome with
      | err e => cases listed
      | panic m => cases listed
      | ok listing =>
          obtain ⟨rfl, rfl⟩ := procFdIterator_ok opened
          have each := @registerEach_eq registry (w.note .opendir none) w.fds.numbers
            registry.data.toList registry.data Table.numbers_ascends ordered.sorted
          simp only [registerNew, if_pos (show Sorted FileDescriptorEntry.fd registry.data.toList from
            ordered.sorted), opened, each]
          rw [show unregistered w.fds.numbers registry.data.toList = newcomers registry w from rfl]
          split <;> next run => rw [run]

end walk

/-- What a merge leaves: the entries from before, and one for each open descriptor that had
none, as an allow list admits it. -/
structure Merged (registry after : FileDescriptorRegistry) (w w' : World) : Prop where
  ordered : after.Ordered
  entries : ∀ entry, entry ∈ after.data.toList ↔ entry ∈ registry.data.toList ∨
    entry.fd ∈ newcomers registry w ∧ entry.executed = false ∧
      tryFrom w' entry.fd = .ok entry.info ∧ registry.Admits entry.info entry.action
  all : ∀ fd ∈ newcomers registry w, ∃ entry ∈ after.data.toList, entry.fd = fd

theorem registerNew_merged (ordered : registry.Ordered)
    (h : registerNew (registry, w) = (.ok (), after, w')) : Merged registry after w w' := by
  obtain ⟨-, entries, admitted⟩ := registerNew_ok h
  refine ⟨registerNew_ok_ordered ordered h, fun entry => (entries entry).trans (or_congr_right ?_),
    fun fd new => ?_⟩
  · constructor
    · rintro ⟨fd, new, made⟩
      obtain ⟨info, action, looked, given, rfl⟩ := entryFor_ok made
      exact ⟨new, rfl, looked, defaultAction_eq_ok_iff.mp given⟩
    · rintro ⟨new, fresh, looked, admits⟩
      refine ⟨entry.fd, new, Outcome.bind_eq_ok.mpr ⟨entry.info, Outcome.mapErr_eq_ok.mpr looked,
        Outcome.bind_eq_ok.mpr ⟨entry.action, defaultAction_eq_ok_iff.mpr admits, ?_⟩⟩⟩
      rw [FileDescriptorEntry.new, ← fresh]
  · obtain ⟨entry, made⟩ := admitted fd new
    exact ⟨entry, (entries entry).mpr (Or.inr ⟨fd, new, made⟩), entryFor_fd made⟩

section first

/-- The first newcomer that gets no entry is the least of them. -/
theorem find?_newcomers (found : (newcomers registry w).find? (refuses registry w) = some fd) :
    fd ∈ newcomers registry w ∧ refuses registry w fd = true ∧
      ∀ other ∈ newcomers registry w, refuses registry w other = true → fd ≤ other := by
  obtain ⟨here, front, behind, split, passed⟩ := List.find?_eq_some_iff_append.mp found
  have ascending := newcomers_ascends registry w
  rw [split] at ascending
  refine ⟨by rw [split]; simp, here, fun other mem no => ?_⟩
  rw [split] at mem
  rcases List.mem_append.mp mem with early | late
  · have kept := passed other early
    rw [no] at kept
    cases kept
  · rcases List.mem_cons.mp late with rfl | late
    · exact le_refl _
    · exact ((ascends_cons.mp (ascends_append.mp ascending).2.1).1 other late).le

theorem refuses_overlong (overlong : Overlong (w.note .opendir none) fd) :
    refuses registry w fd = true := by
  have panics := (@entryFor_isPanic_iff registry _ _).mpr overlong
  revert panics
  unfold refuses
  cases entryFor registry (w.note .opendir none) fd <;> simp

theorem refuses_down (down : registry.TurnsDown (w.note .opendir none) fd) :
    refuses registry w fd = true := by
  have fails := entryFor_isErr_iff.mpr down
  revert fails
  unfold refuses
  cases entryFor registry (w.note .opendir none) fd <;> simp

theorem refuses_unwelcome (unwelcome : registry.Unwelcome (w.note .opendir none) fd) :
    refuses registry w fd = true := by
  obtain ⟨info, looked, off⟩ := unwelcome
  cases admitted : (entryFor registry (w.note .opendir none) fd).isOk with
  | false => rw [refuses, admitted, Bool.not_false]
  | true =>
      obtain ⟨other, looked', listed⟩ := entryFor_isOk_iff.mp admitted
      rw [looked] at looked'
      cases looked'
      exact absurd listed off

end first

/-- A call that succeeds merges, and no call succeeds or panics over an unwelcome newcomer. -/
def Merges (registry : FileDescriptorRegistry) (w : World) : Prop :=
  ∀ o after w', registerNew (registry, w) = (o, after, w') →
    (o = .ok () → Merged registry after w w') ∧
      ((∃ fd ∈ newcomers registry w, registry.Unwelcome (w.note .opendir none) fd) → o.isErr = true)

/-- `register_new` merges exactly, unless there is an unwelcome newcomer and the walk comes to
the overlong name of a socket before it has turned any down. -/
theorem registerNew_merges_iff (ordered : registry.Ordered)
    (room : registry.data.length + (newcomers registry w).length ≤ registrySize)
    (listed : (procFdIterator w).1.isOk = true) :
    Merges registry w ↔
      (∀ fd ∈ newcomers registry w, ¬registry.Unwelcome (w.note .opendir none) fd) ∨
        ∀ fd ∈ newcomers registry w, Overlong (w.note .opendir none) fd →
          ∃ earlier ∈ newcomers registry w, earlier < fd ∧
            registry.TurnsDown (w.note .opendir none) earlier := by
  have exit := registerNew_isErr_iff ordered room listed
  constructor
  · intro merges
    by_cases welcome : ∀ fd ∈ newcomers registry w, ¬registry.Unwelcome (w.note .opendir none) fd
    · exact Or.inl welcome
    · right
      obtain ⟨unwelcome, new, off⟩ : ∃ fd ∈ newcomers registry w,
          registry.Unwelcome (w.note .opendir none) fd := by simpa using welcome
      obtain ⟨stop, found, down⟩ := exit.mp ((merges _ _ _ rfl).2 ⟨unwelcome, new, off⟩)
      obtain ⟨mem, -, first⟩ := find?_newcomers found
      refine fun fd new overlong => ⟨stop, mem, ?_, down⟩
      refine lt_of_le_of_ne (first fd new (refuses_overlong overlong)) ?_
      rintro rfl
      exact down.1 overlong
  · intro condition o after w' h
    refine ⟨fun ok => registerNew_merged ordered (ok ▸ h), ?_⟩
    rintro ⟨fd, new, off⟩
    obtain welcome | guarded := condition
    · exact absurd off (welcome fd new)
    · have refused : refuses registry w fd = true := refuses_unwelcome off
      obtain ⟨stop, found⟩ : ∃ stop, (newcomers registry w).find? (refuses registry w) = some stop :=
        Option.isSome_iff_exists.mp (List.find?_isSome.mpr ⟨fd, new, refused⟩)
      obtain ⟨mem, no, first⟩ := find?_newcomers found
      have calm : ¬Overlong (w.note .opendir none) stop := by
        intro overlong
        obtain ⟨earlier, before, less, down⟩ := guarded stop mem overlong
        exact absurd less (not_lt.mpr (first earlier before (refuses_down down)))
      have result := exit.mpr ⟨stop, found, calm, fun info looked listed => ?_⟩
      · rwa [h] at result
      · rw [refuses, entryFor_isOk_iff.mpr ⟨info, looked, listed⟩] at no
        cases no

theorem registerNew_merges_tidy : Merges (booted tidy) tidy ↔
    (∀ fd ∈ newcomers (booted tidy) tidy, ¬(booted tidy).Unwelcome (tidy.note .opendir none) fd) ∨
      ∀ fd ∈ newcomers (booted tidy) tidy, Overlong (tidy.note .opendir none) fd →
        ∃ earlier ∈ newcomers (booted tidy) tidy, earlier < fd ∧
          (booted tidy).TurnsDown (tidy.note .opendir none) earlier :=
  registerNew_merges_iff (by unfold Ordered; decide) (by decide) rfl

/-- A socket bound to a path of 108 bytes, which is reported with its end, and a pipe. -/
def cramped : World :=
  let socket : OpenFile :=
    { stat := ⟨sIfsock, 8, 7⟩
      link := "socket:[7]".toUTF8.data.toList
      name := ⟨afUnix, List.replicate FileDescriptorInfo.sunPathSize 97 ++ [0]⟩ }
  .boot .calm (stdio ++ [(3, socket), (5, .pipe)])

theorem registerNew_not_merges : ¬∀ registry w, registry.Ordered →
    registry.data.length + (newcomers registry w).length ≤ registrySize →
    (procFdIterator w).1.isOk = true → Merges registry w := by
  intro claim
  have merges := claim (booted cramped) cramped (by unfold Ordered; decide) (by decide) rfl
  have fails := (merges _ _ _ rfl).2 ⟨5, by decide, .fifo, by decide, by simp [OnAllowList]⟩
  revert fails
  decide

end FileDescriptorRegistry
end Zygote
