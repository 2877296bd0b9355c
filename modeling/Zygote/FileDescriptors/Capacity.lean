import Zygote.FileDescriptors.Merging

/-!
# When the registry is full

Entries and allow lists have a fixed capacity. What is added beyond it panics, and so do the
checks that come before it.
-/
namespace Zygote
open Effect Descriptors Ascending

namespace FileDescriptorRegistry
open FileDescriptorInfo (Overlong tryFrom tryFrom_isPanic_iff)
variable {registry after : FileDescriptorRegistry} {w w' : World} {fd : RawFd}

section allow

def pushAllowed (list : FileDescriptorRegistry → AllowList)
    (withList : FileDescriptorRegistry → AllowList → FileDescriptorRegistry) (item : String) :
    RegistryM Unit := fun (registry, world) =>
  match (list registry).push item with
  | some more => (.ok (), withList registry more, world)
  | none => (.panic "push: capacity exceeded", registry, world)

def allowFile (path : String) : RegistryM Unit :=
  pushAllowed allowedFilePaths (fun registry list => { registry with allowedFilePaths := list }) path

def allowAbstractSocket (name : String) : RegistryM Unit :=
  pushAllowed allowedSocketNames (fun registry list => { registry with allowedSocketNames := list }) name

def allowBoundSocket (name : String) : RegistryM Unit :=
  pushAllowed allowedSocketPaths (fun registry list => { registry with allowedSocketPaths := list }) name

theorem pushAllowed_isPanic_iff {list : FileDescriptorRegistry → AllowList}
    {withList : FileDescriptorRegistry → AllowList → FileDescriptorRegistry} {item : String} :
    (pushAllowed list withList item (registry, w)).1.isPanic = false ↔
      (list registry).length < dynamicAllowListSize := by
  simp only [pushAllowed]
  cases pushed : (list registry).push item with
  | some more => exact iff_of_true rfl (ArrayVec.push_eq_some.mp pushed).1
  | none =>
      refine iff_of_false (by simp) fun room => ?_
      obtain ⟨more, pushed', -⟩ := ArrayVec.exists_push item room
      rw [pushed] at pushed'
      cases pushed'

end allow

inductive Addition where
  | register (fd : RawFd) (action : Action)
  | registerNew
  | allowFile (path : String)
  | allowAbstractSocket (name : String)
  | allowBoundSocket (name : String)

namespace Addition

def run : Addition → RegistryM Unit
  | .register fd action => FileDescriptorRegistry.register fd action
  | .registerNew => FileDescriptorRegistry.registerNew
  | .allowFile path => FileDescriptorRegistry.allowFile path
  | .allowAbstractSocket name => FileDescriptorRegistry.allowAbstractSocket name
  | .allowBoundSocket name => FileDescriptorRegistry.allowBoundSocket name

/-- There are not entries enough for what is to be registered. -/
def Exceeds (registry : FileDescriptorRegistry) (world : World) : Addition → Prop
  | .register fd _ => registry.data.length = registrySize ∧
      ∃ i, binarySearch byFd fd registry.data.toList = .error i
  | .registerNew => registrySize < registry.data.length + (newcomers registry world).length
  | _ => False

/-- Running out of space is reported: the operation does not panic, it returns an error when
there are not entries enough, and an error leaves the entries there are in place. -/
structure Reports (registry : FileDescriptorRegistry) (world : World) (op : Addition) : Prop where
  returns : (op.run (registry, world)).1.isPanic = false
  refuses : op.Exceeds registry world → (op.run (registry, world)).1.isErr = true
  keeps : (op.run (registry, world)).1.isErr = true →
    registry.data.toList <+: (op.run (registry, world)).2.1.data.toList

/-- There is a place for everything that gets to be added, the order that `register_new`
asserts is there, and no socket with an overlong name is looked at. -/
def Fits (registry : FileDescriptorRegistry) (world : World) : Addition → Prop
  | .register fd action =>
      (Overlong world fd → ∃ i entry, binarySearch byFd fd registry.data.toList = .ok i ∧
        registry.data.toList[i]? = some entry ∧ entry.closed = false) ∧
      ((∃ i, binarySearch byFd fd registry.data.toList = .error i) →
        (∃ info, tryFrom world fd = .ok info ∧ (action = .reopen → info.isFile = true)) →
        registry.data.length < registrySize)
  | .registerNew =>
      Sorted byFd registry.data.toList ∧ world.env.queryFault world.clock .procSelfFd = none ∧
      ((procFdIterator world).1.isOk = true → ∀ passed fd rest,
        newcomers registry world = passed ++ fd :: rest →
        (∀ n ∈ passed, refuses registry world n = false) →
        ¬Overlong (world.note .opendir none) fd ∧
          (refuses registry world fd = false →
            registry.data.length + passed.length < registrySize))
  | .allowFile _ => registry.allowedFilePaths.length < dynamicAllowListSize
  | .allowAbstractSocket _ => registry.allowedSocketNames.length < dynamicAllowListSize
  | .allowBoundSocket _ => registry.allowedSocketPaths.length < dynamicAllowListSize

end Addition

section register

theorem infoOf_isPanic_iff : (infoOf w fd).isPanic = true ↔ Overlong w fd := by
  rw [← tryFrom_isPanic_iff, infoOf, Outcome.mapErr_isPanic]

/-- A registration panics at an overlong name it looks at, or at a full table. -/
theorem registerData_isPanic_iff {action : Action} :
    (registerData w registry.data fd action).isPanic = false ↔
      Addition.Fits registry w (.register fd action) := by
  have looks := @infoOf_isPanic_iff w fd
  simp only [registerData, Addition.Fits, show byFd = FileDescriptorEntry.fd from rfl]
  cases search : binarySearch FileDescriptorEntry.fd fd registry.data.toList with
  | ok i =>
      obtain ⟨entry, found, -⟩ := binarySearch_ok search
      have entered : ¬∃ j, (Except.ok i : Except Nat Nat) = .error j := by simp
      rw [and_iff_left fun missing => absurd missing entered]
      simp only [found]
      cases closed : entry.closed with
      | false => exact iff_of_true rfl fun _ => ⟨i, entry, rfl, found, closed⟩
      | true =>
          have only : (∃ j other, (Except.ok i : Except Nat Nat) = .ok j ∧
              registry.data.toList[j]? = some other ∧ other.closed = false) ↔ False := by
            refine iff_of_false ?_ id
            rintro ⟨j, other, same, there, live⟩
            cases same
            rw [found] at there
            cases there
            rw [closed] at live
            cases live
          rw [only, if_pos rfl, Outcome.bind_isPanic, ← looks]
          simp
  | error i =>
      have index := binarySearch_error_le search
      have none : ¬∃ j other, (Except.error i : Except Nat Nat) = .ok j ∧
          registry.data.toList[j]? = some other ∧ other.closed = false := by simp
      have missing : ∃ j, (Except.error i : Except Nat Nat) = .error j := ⟨i, rfl⟩
      rw [iff_false_intro none, forall_prop_of_true missing, ← looks, Outcome.bind_isPanic]
      refine and_congr (by simp) ?_
      constructor
      · rintro rest ⟨info, looked, admissible⟩
        have returned := rest info (Outcome.mapErr_eq_ok.mpr looked)
        rw [if_neg fun denied => by simp [admissible denied.1] at denied] at returned
        split at returned
        · next inserted => exact (ArrayVec.insert_eq_some.mp inserted).1.1
        · cases returned
      · intro room info looked
        split
        · rfl
        · next admissible =>
          have fits := room ⟨info, Outcome.mapErr_eq_ok.mp looked, by simpa using admissible⟩
          split
          · rfl
          · next full =>
            rw [ArrayVec.insert, dif_pos ⟨fits, index⟩] at full
            cases full

/-- A full table takes no number that it does not have. -/
theorem registerData_full {action : Action} {i : Nat} (full : registry.data.length = registrySize)
    (search : binarySearch byFd fd registry.data.toList = .error i) :
    (registerData w registry.data fd action).isOk = false := by
  rw [← Bool.not_eq_true, Outcome.isOk_iff]
  rintro ⟨data, made⟩
  simp only [registerData, show FileDescriptorEntry.fd = byFd from rfl, search] at made
  obtain ⟨info, -, made⟩ := Outcome.bind_eq_ok.mp made
  split at made
  · cases made
  · split at made
    · next inserted =>
      have room := (ArrayVec.insert_eq_some.mp inserted).1.1
      exact absurd full room.ne
    · cases made

theorem register_reports_iff {action : Action} :
    Addition.Reports registry w (.register fd action) ↔
      Addition.Fits registry w (.register fd action) := by
  rw [← registerData_isPanic_iff]
  have value : (register fd action (registry, w)).1.isPanic =
      (registerData w registry.data fd action).isPanic := by
    simp only [register]
    split <;> next run => rw [run]; rfl
  constructor
  · exact fun reports => value.symm.trans reports.returns
  · intro returns
    refine ⟨value.trans returns, ?_, ?_⟩
    · rintro ⟨full, i, search⟩
      show (register fd action (registry, w)).1.isErr = true
      simp only [register]
      split
      · next made =>
        have refused := @registerData_full registry w fd action i full search
        rw [made] at refused
        cases refused
      · rfl
      · next run => rw [run] at returns; cases returns
    · intro failed
      change (register fd action (registry, w)).1.isErr = true at failed
      show registry.data.toList <+: (register fd action (registry, w)).2.1.data.toList
      simp only [register] at failed ⊢
      split
      · next run => simp [run] at failed
      · exact List.prefix_refl _
      · exact List.prefix_refl _

end register

section registerNew

/-- The walk panics at the first descriptor that cannot be looked at or has no place. -/
theorem admitEach_isPanic_iff {l : List RawFd} {data : Entries} :
    (admitEach registry w l data).1.isPanic = true ↔
      ∃ passed fd rest, l = passed ++ fd :: rest ∧
        (∀ n ∈ passed, (entryFor registry w n).isOk = true) ∧
        (Overlong w fd ∨ (entryFor registry w fd).isOk = true ∧
          registrySize ≤ data.length + passed.length) := by
  induction l generalizing data with
  | nil => simp [admitEach]
  | cons fd rest ih =>
      have here : ∀ P : List RawFd → RawFd → Prop, (∃ passed n later,
          fd :: rest = passed ++ n :: later ∧ P passed n) ↔ P [] fd ∨
            ∃ passed n later, rest = passed ++ n :: later ∧ P (fd :: passed) n := by
        intro P
        constructor
        · rintro ⟨passed, n, later, split, holds⟩
          cases passed with
          | nil => cases split; exact .inl holds
          | cons first passed => cases split; exact .inr ⟨passed, n, later, rfl, holds⟩
        · rintro (holds | ⟨passed, n, later, rfl, holds⟩)
          · exact ⟨[], fd, rest, rfl, holds⟩
          · exact ⟨fd :: passed, n, later, rfl, holds⟩
      rw [here, ← @entryFor_isPanic_iff registry]
      cases made : entryFor registry w fd with
      | ok entry =>
          cases pushed : data.push entry with
          | some more =>
              obtain ⟨room, longer⟩ := ArrayVec.push_eq_some.mp pushed
              have length : more.length = data.length + 1 := by
                rw [ArrayVec.length, longer, List.length_append]
                rfl
              have space : data.length < registrySize := room
              simp only [admitEach, made, pushed, ih, length]
              simp [made, Nat.add_assoc, Nat.add_comm 1, not_le.mpr space]
          | none =>
              have full : registrySize ≤ data.length := by
                refine not_lt.mp fun room => ?_
                obtain ⟨more, pushed', -⟩ := ArrayVec.exists_push entry room
                rw [pushed] at pushed'
                cases pushed'
              simp [admitEach, made, pushed, full]
      | err error => simp [admitEach, made]
      | panic reason => simp [admitEach, made]

theorem registerNew_of_listed {listing : List RawFd} {v : World}
    (sorted : Sorted byFd registry.data.toList) (opened : procFdIterator w = (.ok listing, v)) :
    (registerNew (registry, w)).1 =
        (admitEach registry (w.note .opendir none) (newcomers registry w) registry.data).1 ∧
      ((registerNew (registry, w)).1.isErr = true → (registerNew (registry, w)).2.1.data =
        (admitEach registry (w.note .opendir none) (newcomers registry w) registry.data).2) := by
  obtain ⟨rfl, rfl⟩ := procFdIterator_ok opened
  have each := @registerEach_eq registry (w.note .opendir none) w.fds.numbers
    registry.data.toList registry.data Table.numbers_ascends sorted
  simp only [registerNew, if_pos (show Sorted FileDescriptorEntry.fd registry.data.toList from
    sorted), opened, each]
  rw [show unregistered w.fds.numbers registry.data.toList = newcomers registry w from rfl]
  split
  · next run => rw [run]; exact ⟨rfl, fun failed => by cases failed⟩
  · next run => rw [run]; exact ⟨rfl, fun _ => rfl⟩
  · next run => rw [run]; exact ⟨rfl, fun failed => by cases failed⟩

theorem length_of_admitEach {l : List RawFd} {data : Entries}
    (ends : (admitEach registry w l data).1.isOk = true) : data.length + l.length ≤ registrySize := by
  obtain ⟨pushed, passed, left, split, longer, admitted, isOk, -⟩ := admitEach_spec registry w l data
  have all : l = passed := by rw [split, isOk.mp ends, List.append_nil]
  have fits := (admitEach registry w l data).2.fits
  rw [longer, List.length_append, ← admitted.length_eq, ← all] at fits
  exact fits

theorem walk_reports_iff {listing : List RawFd} {v : World}
    (sorted : Sorted byFd registry.data.toList) (opened : procFdIterator w = (.ok listing, v)) :
    Addition.Reports registry w .registerNew ↔
      (admitEach registry (w.note .opendir none) (newcomers registry w) registry.data).1.isPanic =
        false := by
  obtain ⟨value, data⟩ := registerNew_of_listed sorted opened
  constructor
  · exact fun reports => (congrArg Outcome.isPanic value).symm.trans reports.returns
  · intro returns
    refine ⟨(congrArg Outcome.isPanic value).trans returns, fun exceeds => ?_, fun failed => ?_⟩
    · refine (congrArg Outcome.isErr value).trans ?_
      have stops : ¬(admitEach registry (w.note .opendir none) (newcomers registry w)
          registry.data).1.isOk = true :=
            fun ends => absurd exceeds (not_lt.mpr (length_of_admitEach ends))
      revert returns stops
      cases (admitEach registry (w.note .opendir none) (newcomers registry w) registry.data).1 <;> simp
    · obtain ⟨pushed, -, -, -, longer, -⟩ := admitEach_spec registry (w.note .opendir none)
        (newcomers registry w) registry.data
      refine ⟨pushed, ?_⟩
      rw [Addition.run, data failed, longer]

theorem walk_fits_iff {listing : List RawFd} {v : World} (sorted : Sorted byFd registry.data.toList)
    (present : w.env.queryFault w.clock .procSelfFd = none)
    (opened : procFdIterator w = (.ok listing, v)) :
    Addition.Fits registry w .registerNew ↔
      (admitEach registry (w.note .opendir none) (newcomers registry w) registry.data).1.isPanic =
        false := by
  have accepts : ∀ n, refuses registry w n = false ↔
      (entryFor registry (w.note .opendir none) n).isOk = true := by simp [refuses]
  rw [← Bool.not_eq_true, admitEach_isPanic_iff]
  constructor
  · rintro ⟨-, -, room⟩ ⟨passed, fd, rest, split, ok, stop⟩
    obtain ⟨short, place⟩ := room (by rw [opened]; rfl) passed fd rest split
      fun n mem => (accepts n).mpr (ok n mem)
    rcases stop with overlong | ⟨admitted, full⟩
    · exact short overlong
    · exact absurd full (not_le.mpr (place ((accepts fd).mpr admitted)))
  · intro never
    refine ⟨sorted, present, fun _ passed fd rest split ok => ⟨fun overlong => ?_, fun admitted => ?_⟩⟩
    · exact never ⟨passed, fd, rest, split, fun n mem => (accepts n).mp (ok n mem), .inl overlong⟩
    · refine not_le.mp fun full =>
        never ⟨passed, fd, rest, split, fun n mem => (accepts n).mp (ok n mem), ?_⟩
      exact .inr ⟨(accepts fd).mp admitted, full⟩

theorem registerNew_reports_iff :
    Addition.Reports registry w .registerNew ↔ Addition.Fits registry w .registerNew := by
  by_cases sorted : Sorted byFd registry.data.toList
  · cases absent : w.env.queryFault w.clock .procSelfFd with
    | some errno =>
        refine iff_of_false (fun reports => ?_) fun fits => ?_
        · have returns : (registerNew (registry, w)).1.isPanic = false := reports.returns
          simp [registerNew, show Sorted FileDescriptorEntry.fd registry.data.toList from sorted,
            procFdIterator, absent] at returns
        · rw [fits.2.1] at absent
          cases absent
    | none =>
        rcases opened : procFdIterator w with ⟨listing | error | reason, v⟩
        · exact (walk_reports_iff sorted opened).trans (walk_fits_iff sorted absent opened).symm
        · have ends : registerNew (registry, w) =
              (.err (.procFs (.inaccessibleFdDir error)), registry, v) := by
            simp only [registerNew, if_pos (show Sorted FileDescriptorEntry.fd registry.data.toList from
              sorted), opened]
          refine iff_of_true ⟨?_, fun _ => ?_, fun _ => ?_⟩ ⟨sorted, absent, fun listed => ?_⟩
          · rw [Addition.run, ends]
            rfl
          · rw [Addition.run, ends]
            rfl
          · simp only [Addition.run, ends, List.prefix_refl]
          · rw [opened] at listed
            cases listed
        · have never : (procFdIterator w).1.isPanic = false := by
            simp only [procFdIterator, absent, Option.isSome_none, Bool.false_eq_true, if_false]
            exact attempt_not_panic
          rw [opened] at never
          cases never
  · refine iff_of_false (fun reports => ?_) fun fits => sorted fits.1
    have returns : (registerNew (registry, w)).1.isPanic = false := reports.returns
    simp [registerNew, show ¬Sorted FileDescriptorEntry.fd registry.data.toList from sorted] at returns

end registerNew

/-- Adding to the registry reports what it cannot do exactly when there is a place for all that
gets to be added. -/
theorem reports_iff (registry : FileDescriptorRegistry) (w : World) (op : Addition) :
    op.Reports registry w ↔ op.Fits registry w := by
  have allows : ∀ (list : FileDescriptorRegistry → AllowList)
      (withList : FileDescriptorRegistry → AllowList → FileDescriptorRegistry) (item : String),
      op.run = pushAllowed list withList item → ¬op.Exceeds registry w →
      (op.Reports registry w ↔ (list registry).length < dynamicAllowListSize) := by
    intro list withList item run apart
    rw [← @pushAllowed_isPanic_iff registry w list withList item, ← run]
    refine ⟨Addition.Reports.returns, fun returns => ⟨returns, fun exceeds => absurd exceeds apart,
      fun failed => ?_⟩⟩
    rw [run, pushAllowed] at failed
    split at failed <;> cases failed
  cases op with
  | register fd action => exact register_reports_iff
  | registerNew => exact registerNew_reports_iff
  | allowFile path =>
      exact allows _ (fun registry list => { registry with allowedFilePaths := list }) path rfl id
  | allowAbstractSocket name =>
      exact allows _ (fun registry list => { registry with allowedSocketNames := list }) name rfl id
  | allowBoundSocket name =>
      exact allows _ (fun registry list => { registry with allowedSocketPaths := list }) name rfl id

/-- A registry that was given as many names of sockets as it has room for. -/
def brimful : FileDescriptorRegistry :=
  { booted tidy with allowedSocketNames := ⟨List.replicate 64 "zygote", by decide⟩ }

theorem not_reports : ¬∀ registry w (op : Addition), op.Reports registry w := by
  intro claim
  have returns := (claim brimful tidy (.allowAbstractSocket "zygote")).returns
  revert returns
  decide +kernel

end FileDescriptorRegistry
end Zygote
