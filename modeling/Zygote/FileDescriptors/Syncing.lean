import Zygote.FileDescriptors.Registry

/-!
# What the species closes behind the entries

Executing the actions and the shutdown both end with `sync_fd_state`, where the species closes
numbers that only it knows. It reports nothing, so how they end and what they leave in the
registry is decided by the loop over the entries.
-/
namespace Zygote
open Effect Descriptors

/-- The species closes the number at some time. -/
def Env.Syncs (env : Env) (fd : RawFd) : Prop := ∃ clock, fd ∈ env.synced clock

/-- Some numbers of the list have been closed, each while it was open, and that is all. -/
structure World.Shut (l : List RawFd) (w w' : World) : Prop where
  slot : ∀ n, w'.fds.slot n = w.fds.slot n ∨ w'.fds.slot n = none ∧ n ∈ l
  file : w'.fds.file = w.fds.file
  next : w'.fds.next = w.fds.next
  beside : w.Beside w'
  closes : ∃ calls, w'.log = calls ++ w.log ∧ ∀ event ∈ calls,
    ∃ fd ∈ l, event.call = .close fd ∧ event.on.isSome = true ∧ w.fds.isOpen fd = true

namespace World.Shut
variable {l m : List RawFd} {u v w w' : World} {fd : RawFd}

theorem refl (l : List RawFd) (w : World) : w.Shut l w :=
  ⟨fun _ => .inl rfl, rfl, rfl, ⟨rfl, rfl, rfl, rfl⟩, [], rfl, by simp⟩

theorem mono (sub : ∀ fd ∈ l, fd ∈ m) (h : w.Shut l w') : w.Shut m w' := by
  obtain ⟨calls, log, closes⟩ := h.closes
  refine ⟨fun n => (h.slot n).imp_right fun gone => ⟨gone.1, sub n gone.2⟩, h.file, h.next, h.beside,
    calls, log, fun event mem => ?_⟩
  obtain ⟨fd, listed, rest⟩ := closes event mem
  exact ⟨fd, sub fd listed, rest⟩

/-- What is still open is what it was. -/
theorem slot_of_isOpen (h : w.Shut l w') (opened : w'.fds.isOpen fd = true) :
    w'.fds.slot fd = w.fds.slot fd := by
  refine (h.slot fd).resolve_right fun gone => ?_
  rw [Table.isOpen, gone.1] at opened
  cases opened

theorem isOpen (h : w.Shut l w') (opened : w'.fds.isOpen fd = true) : w.fds.isOpen fd = true := by
  rwa [Table.isOpen, ← h.slot_of_isOpen opened]

/-- What a number refers to it referred to before. -/
theorem fileOf (h : w.Shut l w') {file : Nat} (behind : w'.fds.fileOf fd = some file) :
    w.fds.fileOf fd = some file := by
  rwa [Table.fileOf, ← h.slot_of_isOpen (Table.isOpen_iff_fileOf.mpr ⟨file, behind⟩)]

theorem slot_none (h : w.Shut l w') (free : w.fds.slot fd = none) : w'.fds.slot fd = none := by
  rcases h.slot fd with same | gone
  · rw [same, free]
  · exact gone.1

theorem slot_eq (h : w.Shut l w') (apart : fd ∉ l) : w'.fds.slot fd = w.fds.slot fd :=
  (h.slot fd).resolve_right fun gone => apart gone.2

theorem frame (h : w.Shut l w') : w.Frame w' (· ∈ l) :=
  ⟨⟨h.beside.limit, h.next.ge, fun _ => h.slot_eq, fun i _ => congrFun h.file i⟩,
    h.beside.watches, h.beside.pid, h.beside.env⟩

theorem trans (h : u.Shut l v) (k : v.Shut l w) : u.Shut l w := by
  obtain ⟨calls, log, closes⟩ := h.closes
  obtain ⟨calls', log', closes'⟩ := k.closes
  refine ⟨fun n => ?_, k.file.trans h.file, k.next.trans h.next, h.beside.trans k.beside,
    calls' ++ calls, by rw [log', log, List.append_assoc], fun event mem => ?_⟩
  · rcases k.slot n with same | gone
    · rw [same]
      exact h.slot n
    · exact .inr gone
  · rcases List.mem_append.mp mem with later | earlier
    · obtain ⟨fd, listed, call, on, opened⟩ := closes' event later
      exact ⟨fd, listed, call, on, h.isOpen opened⟩
    · exact closes event earlier

end World.Shut

/-- A close of an open number, however it ends. -/
theorem close_shut {fd : RawFd} {w : World} (opened : w.fds.isOpen fd = true) :
    w.Shut [fd] (close fd w).2 := by
  have event : ∃ calls, (w.note (.close fd) none).log = calls ++ w.log ∧ ∀ event ∈ calls,
      ∃ n ∈ [fd], event.call = .close n ∧ event.on.isSome = true ∧ w.fds.isOpen n = true := by
    refine ⟨[⟨w.pid, .close fd, w.fds.fileOf fd, w.fds.next, none⟩], rfl, fun event mem => ?_⟩
    obtain rfl := List.mem_singleton.mp mem
    exact ⟨fd, List.mem_singleton_self fd, rfl, by simpa [Table.fileOf, Table.isOpen] using opened,
      opened⟩
  have gone : w.Shut [fd] { w.note (.close fd) none with fds := w.fds.close fd } := by
    refine ⟨fun n => ?_, rfl, rfl, ⟨rfl, rfl, rfl, rfl⟩, event⟩
    rw [Table.close_slot]
    split
    · next same => exact .inr ⟨rfl, List.mem_singleton.mpr same⟩
    · exact .inl rfl
  unfold close
  rw [if_pos opened]
  split
  · exact gone
  · split
    · exact gone
    · exact ⟨fun _ => .inl rfl, rfl, rfl, ⟨rfl, rfl, rfl, rfl⟩, event⟩

namespace FileDescriptorRegistry
variable {registry after : FileDescriptorRegistry} {w w' : World} {forkType : ForkType}
  {o : Outcome FdRegistryError Unit}

theorem closeOpen_within {R : World → World → Prop} (refl : ∀ w, R w w)
    (trans : ∀ {u v w}, R u v → R v w → R u w) (closes : ∀ fd, Prog.Within R (close fd)) (l : List RawFd)
    (w : World) : R w (closeOpen l w) := by
  induction l generalizing w with
  | nil => exact refl w
  | cons fd rest ih =>
      refine trans ?_ (ih _)
      split
      · exact closes fd w
      · exact refl w

theorem closeOpen_shut (l : List RawFd) (w : World) : w.Shut l (closeOpen l w) := by
  induction l generalizing w with
  | nil => exact .refl [] w
  | cons fd rest ih =>
      refine .trans ?_ ((ih _).mono fun _ => List.mem_cons_of_mem fd)
      split
      · next opened =>
        exact (close_shut opened).mono fun n same => by simp [List.mem_singleton.mp same]
      · exact .refl _ w

/-- The program has ended, and the species has closed what it had in mind then. -/
def Synced (v w' : World) : Prop := v.Shut (v.env.synced v.clock) w'

/-- Of what is registered, the species closes only what the actions are to ignore. -/
def SyncsIgnored (registry : FileDescriptorRegistry) (w : World) : Prop :=
  ∀ entry ∈ registry.data.toList, w.env.Syncs entry.fd → entry.action = .ignore

/-- The last step changes neither the exit nor the registry. -/
theorem bind_syncFdState {p : RegistryM Unit} (h : (p >>= fun _ => syncFdState) (registry, w) =
    (o, after, w')) : ∃ v, p (registry, w) = (o, after, v) ∧ Synced v w' := by
  obtain ⟨⟨⟩, ⟨mid, v⟩, run, synced⟩ | ⟨e, run, rfl⟩ | ⟨m, run, rfl⟩ := Prog.bind_cases h
  · cases synced
    exact ⟨v, run, closeOpen_shut _ v⟩
  · exact ⟨w', run, .refl _ w'⟩
  · exact ⟨w', run, .refl _ w'⟩

/-- Where the species closes nothing, it makes no difference. -/
theorem bind_syncFdState_none {p : RegistryM Unit} (none : ∀ after v,
    p (registry, w) = (.ok (), after, v) → v.env.synced v.clock = []) :
    (p >>= fun _ => syncFdState) (registry, w) = p (registry, w) := by
  rw [Prog.bind_apply]
  rcases run : p (registry, w) with ⟨⟨⟩ | e | m, after, v⟩
  · show (Outcome.ok (), after, closeOpen (v.env.synced v.clock) v) = _
    rw [none after v run, closeOpen]
  · rfl
  · rfl

/-- The body of the loop that executes the actions. -/
def executeBody (devNullFd : RawFd) (forkType : ForkType) :
    Prog (FileDescriptorEntry × World) FileDescriptorEntryError Unit := do
  let _ ← FileDescriptorEntry.execute devNullFd forkType
  pure ()

/-- The actions, without what the species closes behind them. -/
def performActions (forkType : ForkType) : RegistryM Unit := do
  let devNullFd ← onWorld ((openFd devNullPath (oRdwr ||| oCloexec)).mapErr .devNullFailure)
  eachEntry (executeBody devNullFd forkType)

theorem executeActions_eq (forkType : ForkType) :
    executeActions forkType = performActions forkType >>= fun _ => syncFdState := by
  rw [performActions, Prog.bind_assoc]
  rfl

theorem executeActions_synced (h : executeActions forkType (registry, w) = (o, after, w')) :
    ∃ v, performActions forkType (registry, w) = (o, after, v) ∧ Synced v w' :=
  bind_syncFdState (executeActions_eq forkType ▸ h)

theorem executeActions_exit (forkType : ForkType) (s : FileDescriptorRegistry × World) :
    (executeActions forkType s).1 = (performActions forkType s).1 := by
  rcases run : executeActions forkType s with ⟨o, after, w'⟩
  obtain ⟨v, performed, -⟩ := executeActions_synced run
  rw [performed]

/-- The body of the loop that closes everything; it changes no entry. -/
def overrideBody : Prog (FileDescriptorEntry × World) FileDescriptorEntryError Unit :=
  fun (entry, world) =>
    ((entry.overrideAndClose world).1, entry, (entry.overrideAndClose world).2)

theorem overrideAndClose_synced (h : overrideAndClose (registry, w) = (o, after, w')) :
    ∃ v, eachEntry overrideBody (registry, w) = (o, after, v) ∧ Synced v w' :=
  bind_syncFdState h

end FileDescriptorRegistry
end Zygote
