import Zygote.FileDescriptors.Syncing

/-!
# The order of the registry

The searches and the two-pointer walk of the registry rely on its order. Every
operation keeps the entries strictly ascending, with one way out: `register_new`
returns an error from inside its loop and then leaves what it pushed unsorted.
-/
namespace Zygote
open Effect Descriptors Ascending

abbrev byFd : FileDescriptorEntry → RawFd := FileDescriptorEntry.fd

namespace FileDescriptorRegistry

def Ordered (registry : FileDescriptorRegistry) : Prop := Ascends byFd registry.data.toList

section walk

/-- On a sorted table the walk answers whether the number has an entry, and keeps every
entry with a larger number. -/
theorem isRegistered_spec (fd : RawFd) {entries : List FileDescriptorEntry}
    (sorted : Sorted byFd entries) :
    ((isRegistered fd entries).1 = true ↔ fd ∈ entries.map byFd) ∧
      Sorted byFd (isRegistered fd entries).2 ∧
      ∀ later, fd < later → (later ∈ (isRegistered fd entries).2.map byFd ↔
        later ∈ entries.map byFd) := by
  induction entries with
  | nil => exact ⟨by simp [isRegistered], List.Pairwise.nil, fun _ _ => Iff.rfl⟩
  | cons entry rest ih =>
      obtain ⟨above, tail⟩ := List.pairwise_cons.mp sorted
      obtain ⟨found, sorted', kept⟩ := ih tail
      unfold isRegistered
      by_cases less : entry.fd < fd
      · rw [if_pos less]
        refine ⟨?_, sorted', fun later lt => ?_⟩
        · rw [found, List.map_cons, List.mem_cons, or_iff_right less.ne']
        · rw [kept later lt, List.map_cons, List.mem_cons, or_iff_right (less.trans lt).ne']
      · rw [if_neg less]
        by_cases same : entry.fd = fd
        · rw [if_pos same]
          refine ⟨by simp [same], tail, fun later lt => ?_⟩
          rw [List.map_cons, List.mem_cons, or_iff_right (same ▸ lt).ne']
        · rw [if_neg same]
          have higher : fd < entry.fd := lt_of_le_of_ne (not_lt.mp less) (Ne.symm same)
          refine ⟨?_, sorted, fun _ _ => Iff.rfl⟩
          simp only [Bool.false_eq_true, List.map_cons, List.mem_cons, List.mem_map, false_iff]
          rintro (eq | ⟨other, mem, eq⟩)
          · exact same eq.symm
          · exact absurd (above other mem) (not_le.mpr (eq ▸ higher))

/-- Push an entry for each of the descriptors until one is refused. -/
def admitEach (registry : FileDescriptorRegistry) (world : World) : List RawFd → Entries →
    Outcome FdRegistryError Unit × Entries
  | [], data => (.ok (), data)
  | fd :: rest, data =>
      match entryFor registry world fd with
      | .ok entry =>
        match data.push entry with
        | some data => admitEach registry world rest data
        | none => (.panic "push: capacity exceeded", data)
      | .err error => (.err error, data)
      | .panic reason => (.panic reason, data)

def unregistered (listing : List RawFd) (entries : List FileDescriptorEntry) : List RawFd :=
  listing.filter fun fd => fd ∉ entries.map byFd

/-- The two-pointer loop admits exactly the listed descriptors that have no entry. -/
theorem registerEach_eq {registry : FileDescriptorRegistry} {world : World} {listing : List RawFd}
    {entries : List FileDescriptorEntry} {data : Entries} (ascending : Ascends id listing)
    (sorted : Sorted byFd entries) :
    registerEach registry world listing entries data =
      admitEach registry world (unregistered listing entries) data := by
  induction listing generalizing entries data with
  | nil => rfl
  | cons fd rest ih =>
      obtain ⟨above, tail⟩ := ascends_cons.mp ascending
      obtain ⟨found, sorted', kept⟩ := isRegistered_spec fd sorted
      have same : unregistered rest (isRegistered fd entries).2 = unregistered rest entries := by
        refine List.filter_congr fun later mem => ?_
        rw [decide_eq_decide, kept later (above later mem)]
      unfold registerEach
      cases hwalk : isRegistered fd entries with
      | mk answer preexisting =>
        rw [hwalk] at found sorted' same
        cases answer with
        | true =>
            have mem : fd ∈ entries.map byFd := found.mp rfl
            have skip : unregistered (fd :: rest) entries = unregistered rest entries :=
              List.filter_cons_of_neg (by simpa using mem)
            rw [skip, ← same]
            exact ih tail sorted'
        | false =>
            have mem : fd ∉ entries.map byFd := fun mem => nomatch found.mpr mem
            have keep : unregistered (fd :: rest) entries = fd :: unregistered rest entries :=
              List.filter_cons_of_pos (by simpa using mem)
            rw [keep, ← same]
            cases hmade : entryFor registry world fd with
            | ok entry =>
                cases hpush : data.push entry with
                | some data => simpa only [admitEach, hmade, hpush] using ih tail sorted'
                | none => simp only [admitEach, hmade, hpush]
            | err error => simp only [admitEach, hmade]
            | panic reason => simp only [admitEach, hmade]

theorem entryFor_fd {registry : FileDescriptorRegistry} {world : World} {fd : RawFd}
    {entry : FileDescriptorEntry} (h : entryFor registry world fd = .ok entry) : entry.fd = fd := by
  obtain ⟨info, -, h⟩ := Outcome.bind_eq_ok.mp h
  obtain ⟨action, -, h⟩ := Outcome.bind_eq_ok.mp h
  cases h
  rfl

/-- What the loop has pushed when it stops: the entries of the descriptors it got past,
and the stop is at the first descriptor that is refused or finds the table full. -/
theorem admitEach_spec (registry : FileDescriptorRegistry) (world : World) (l : List RawFd)
    (data : Entries) :
    ∃ pushed passed left, l = passed ++ left ∧
      (admitEach registry world l data).2.toList = data.toList ++ pushed ∧
      List.Forall₂ (fun fd entry => entryFor registry world fd = .ok entry) passed pushed ∧
      ((admitEach registry world l data).1.isOk = true ↔ left = []) ∧
      ((admitEach registry world l data).1.isErr = true ↔
        ∃ fd rest error, left = fd :: rest ∧ entryFor registry world fd = .err error) := by
  induction l generalizing data with
  | nil => exact ⟨[], [], [], rfl, by simp [admitEach], .nil, by simp [admitEach], by
      simp [admitEach]⟩
  | cons fd rest ih =>
      cases hmade : entryFor registry world fd with
      | ok entry =>
          cases hpush : data.push entry with
          | some more =>
              obtain ⟨pushed, passed, left, split, data', admitted, isOk, isErr⟩ := ih more
              simp only [admitEach, hmade, hpush]
              refine ⟨entry :: pushed, fd :: passed, left, by rw [split]; rfl, ?_,
                .cons hmade admitted, isOk, isErr⟩
              rw [data', (ArrayVec.push_eq_some.mp hpush).2, List.append_assoc]
              rfl
          | none =>
              simp only [admitEach, hmade, hpush]
              exact ⟨[], [], fd :: rest, rfl, by simp, .nil, by simp, by simp [hmade]⟩
      | err error =>
          simp only [admitEach, hmade]
          exact ⟨[], [], fd :: rest, rfl, by simp, .nil, by simp, by simp [hmade]⟩
      | panic reason =>
          simp only [admitEach, hmade]
          exact ⟨[], [], fd :: rest, rfl, by simp, .nil, by simp, by simp [hmade]⟩

end walk

section steps
variable {registry after : FileDescriptorRegistry} {world world' : World}

/-- A registration replaces a closed entry of the number or inserts a new one. -/
theorem registerData_ok {data data' : Entries} {fd : RawFd} {action : Action}
    (h : registerData world data fd action = .ok data') :
    ∃ info, infoOf world fd = .ok info ∧
      ((∃ i entry, data.toList[i]? = some entry ∧ entry.fd = fd ∧ entry.closed = true ∧
          data'.toList = data.toList.set i (.new fd info action)) ∨
        ∃ i, binarySearch byFd fd data.toList = .error i ∧
          (action = .reopen → info.isFile = true) ∧
          data'.toList = data.toList.insertIdx i (.new fd info action)) := by
  unfold registerData at h
  split at h
  · next i hit =>
    obtain ⟨entry, found, same⟩ := binarySearch_ok hit
    rw [found] at h
    by_cases closed : entry.closed = true
    · simp only [closed, if_true] at h
      obtain ⟨info, hinfo, h⟩ := Outcome.bind_eq_ok.mp h
      cases h
      exact ⟨info, hinfo, Or.inl ⟨i, entry, found, same, closed, rfl⟩⟩
    · simp [closed] at h
  · next i miss =>
    obtain ⟨info, hinfo, h⟩ := Outcome.bind_eq_ok.mp h
    split at h
    · cases h
    · next checked =>
      split at h
      · next more hinsert =>
        cases h
        exact ⟨info, hinfo, Or.inr ⟨i, miss, by simpa using checked,
          (ArrayVec.insert_eq_some.mp hinsert).2⟩⟩
      · cases h

theorem registerData_ordered {data data' : Entries} {fd : RawFd} {action : Action}
    (ordered : Ascends byFd data.toList) (h : registerData world data fd action = .ok data') :
    Ascends byFd data'.toList := by
  obtain ⟨info, -, ⟨i, entry, found, same, -, set⟩ | ⟨i, miss, -, inserted⟩⟩ := registerData_ok h
  · rw [set]
    exact ordered.set found same.symm
  · rw [inserted]
    exact Ascends.insert (a := .new fd info action) ordered miss

theorem register_ordered {fd : RawFd} {action : Action} {o : Outcome FdRegistryError Unit}
    (ordered : registry.Ordered) (h : register fd action (registry, world) = (o, after, world')) :
    after.Ordered := by
  simp only [register] at h
  split at h
  · next data hdata => cases h; exact registerData_ordered ordered hdata
  · cases h; exact ordered
  · cases h; exact ordered

theorem remove_ordered {fd : RawFd} {o : Outcome FdRegistryError Unit}
    (ordered : registry.Ordered) (h : remove fd (registry, world) = (o, after, world')) :
    after.Ordered := by
  simp only [remove, removeData] at h
  split at h
  · next data hdata =>
    cases h
    split at hdata
    · cases hdata; exact ordered.eraseIdx _
    · cases hdata
  · cases h; exact ordered
  · cases h; exact ordered

/-- Running a program on the entries changes no number when the program does not. -/
theorem eachEntry_ordered {body : Prog (FileDescriptorEntry × World) FileDescriptorEntryError Unit}
    (frame : ∀ s, (body s).2.1.fd = s.1.fd) {o : Outcome FdRegistryError Unit}
    (ordered : registry.Ordered) (h : eachEntry body (registry, world) = (o, after, world')) :
    after.Ordered := by
  cases h
  exact ordered.congr (Prog.eachMut_map byFd frame _ _)

theorem execute_fd {devNullFd : RawFd} {forkType : ForkType} (s : FileDescriptorEntry × World) :
    (FileDescriptorEntry.execute devNullFd forkType s).2.1.fd = s.1.fd := by
  obtain ⟨entry, world⟩ := s
  simp only [FileDescriptorEntry.execute]
  split
  · rfl
  · split <;> rfl

theorem performActions_ordered {forkType : ForkType} {o : Outcome FdRegistryError Unit}
    (ordered : registry.Ordered)
    (h : performActions forkType (registry, world) = (o, after, world')) : after.Ordered := by
  obtain ⟨devNullFd, ⟨mid, world₁⟩, hopen, hrun⟩ | ⟨e, hopen, -⟩ | ⟨m, hopen, -⟩ := Prog.bind_cases h
  · have same : mid = registry := congrArg (fun r => r.2.1) hopen.symm
    subst same
    refine eachEntry_ordered (fun s => ?_) ordered hrun
    rw [executeBody, Prog.bind_snd_of_pure]
    exact execute_fd s
  · have same : after = registry := congrArg (fun r => r.2.1) hopen.symm
    exact same ▸ ordered
  · have same : after = registry := congrArg (fun r => r.2.1) hopen.symm
    exact same ▸ ordered

theorem executeActions_ordered {forkType : ForkType} {o : Outcome FdRegistryError Unit}
    (ordered : registry.Ordered)
    (h : executeActions forkType (registry, world) = (o, after, world')) : after.Ordered := by
  obtain ⟨v, performed, -⟩ := executeActions_synced h
  exact performActions_ordered ordered performed

theorem overrideAndClose_ordered {o : Outcome FdRegistryError Unit} (ordered : registry.Ordered)
    (h : overrideAndClose (registry, world) = (o, after, world')) : after.Ordered := by
  obtain ⟨v, closed, -⟩ := overrideAndClose_synced h
  exact eachEntry_ordered (fun _ => rfl) ordered closed

end steps

section registerNew
variable {registry after : FileDescriptorRegistry} {world world' : World}

def newcomers (registry : FileDescriptorRegistry) (world : World) : List RawFd :=
  unregistered world.fds.numbers registry.data.toList

/-- Does `register_new` turn the descriptor down? It asks after the listing is opened. -/
def refuses (registry : FileDescriptorRegistry) (world : World) (fd : RawFd) : Bool :=
  !(entryFor registry (world.note .opendir none) fd).isOk

/-- No newcomer is turned down, or the newcomers before the first that is lie above
every entry. -/
def Orderly (registry : FileDescriptorRegistry) (world : World) : Prop :=
  (∀ fd ∈ newcomers registry world, refuses registry world fd = false) ∨
    ∀ fd ∈ (newcomers registry world).takeWhile fun fd => !refuses registry world fd,
      ∀ entry ∈ registry.data.toList, entry.fd < fd

instance (registry : FileDescriptorRegistry) (world : World) : Decidable (Orderly registry world) :=
  inferInstanceAs (Decidable (_ ∨ _))

theorem newcomers_ascends (registry : FileDescriptorRegistry) (world : World) :
    Ascends id (newcomers registry world) :=
  Table.numbers_ascends.filter _

theorem mem_newcomers {fd : RawFd} : fd ∈ newcomers registry world ↔
    world.fds.isOpen fd = true ∧ ∀ entry ∈ registry.data.toList, entry.fd ≠ fd := by
  simp [newcomers, unregistered, Table.mem_numbers]

theorem map_fd_of_admitted {passed : List RawFd} {pushed : List FileDescriptorEntry}
    (admitted : List.Forall₂ (fun fd entry => entryFor registry world fd = .ok entry) passed pushed) :
    pushed.map byFd = passed := by
  induction admitted with
  | nil => rfl
  | cons h _ ih => rw [List.map_cons, ih, byFd, entryFor_fd h]

theorem mem_pushed_iff {passed : List RawFd} {pushed : List FileDescriptorEntry}
    (admitted : List.Forall₂ (fun fd entry => entryFor registry world fd = .ok entry) passed pushed)
    {entry : FileDescriptorEntry} :
    entry ∈ pushed ↔ ∃ fd ∈ passed, entryFor registry world fd = .ok entry := by
  induction admitted with
  | nil => simp
  | cons h _ ih => simp [ih, h, eq_comm]

theorem exists_admitted {passed : List RawFd} {pushed : List FileDescriptorEntry}
    (admitted : List.Forall₂ (fun fd entry => entryFor registry world fd = .ok entry) passed pushed) :
    ∀ fd ∈ passed, ∃ entry, entryFor registry world fd = .ok entry := by
  induction admitted with
  | nil => simp
  | cons h _ ih => exact List.forall_mem_cons.mpr ⟨⟨_, h⟩, ih⟩

/-- How `register_new` returns: it failed to list the descriptors, it admitted every
newcomer, or it stopped at the first newcomer it refused. -/
theorem registerNew_cases {o : Outcome FdRegistryError Unit} (ret : o.isPanic = false)
    (h : registerNew (registry, world) = (o, after, world')) :
    (after = registry ∧ o.isErr = true ∧ (procFdIterator world).1.isErr = true) ∨
      (procFdIterator world).1.isErr = false ∧ world' = world.note .opendir none ∧
        ∃ pushed passed left,
        newcomers registry world = passed ++ left ∧
        List.Forall₂ (fun fd entry => entryFor registry world' fd = .ok entry) passed pushed ∧
        (o = .ok () ∧ left = [] ∧ after.data.toList.Perm (registry.data.toList ++ pushed) ∧
            (registry.Ordered → after.Ordered) ∨
          ∃ fd rest error, o.isErr = true ∧ left = fd :: rest ∧
            entryFor registry world' fd = .err error ∧
            after.data.toList = registry.data.toList ++ pushed) := by
  simp only [registerNew] at h
  split at h
  case isFalse => cases h; simp at ret
  case isTrue sorted =>
  split at h
  case h_3 => cases h; simp at ret
  case h_2 error world₁ listed => cases h; exact Or.inl ⟨rfl, rfl, by simp [listed]⟩
  case h_1 listing world₁ listed =>
  obtain ⟨rfl, rfl⟩ := procFdIterator_ok listed
  rw [registerEach_eq Table.numbers_ascends sorted,
    show unregistered world.fds.numbers registry.data.toList = newcomers registry world from rfl] at h
  obtain ⟨pushed, passed, left, split, data', admitted, isOk, isErr⟩ :=
    admitEach_spec registry (world.note .opendir none) (newcomers registry world) registry.data
  generalize admitEach registry (world.note .opendir none) (newcomers registry world)
    registry.data = result at h data' isOk isErr
  obtain ⟨exit, data⟩ := result
  have numbers := map_fd_of_admitted admitted
  cases exit with
  | panic reason => cases h; simp at ret
  | err error =>
      cases h
      obtain ⟨fd, rest, e, hleft, refused⟩ := isErr.mp rfl
      exact Or.inr ⟨by simp [listed], rfl, pushed, passed, left, split, admitted,
        Or.inr ⟨fd, rest, e, rfl, hleft, refused, data'⟩⟩
  | ok value =>
      cases h
      have hleft := isOk.mp rfl
      refine Or.inr ⟨by simp [listed], rfl, pushed, passed, left, split, admitted,
        Or.inl ⟨rfl, hleft, ?_, ?_⟩⟩
      · simp only [withData]
        split
        · exact (List.perm_insertionSort _ _).trans (List.Perm.of_eq data')
        · exact List.Perm.of_eq data'
      · intro ordered
        simp only [Ordered, withData]
        split
        · refine ascends_insertionSort ?_
          simp only at data'
          rw [data', List.map_append, numbers]
          refine List.nodup_append.mpr ⟨?_, ?_, ?_⟩
          · exact ordered.nodup_keys
          · have ascending := split ▸ newcomers_ascends registry world
            exact (ascends_append.mp ascending).1.imp fun lt => lt.ne
          · intro fd old fd' new same
            have mem : fd' ∈ newcomers registry world := split ▸ List.mem_append_left _ new
            obtain ⟨entry, hentry, rfl⟩ := List.mem_map.mp old
            exact (mem_newcomers.mp mem).2 entry hentry same
        · next same =>
          have len : data.length = registry.data.length := not_not.mp same
          simp only at data'
          have none : pushed = [] := by
            have := congrArg List.length data'
            simp only [ArrayVec.length] at len
            simp only [List.length_append] at this
            exact List.eq_nil_of_length_eq_zero (by omega)
          rw [data', none, List.append_nil]
          exact ordered

/-- Exactly the orderly calls of `register_new` keep the order. -/
theorem registerNew_ordered_iff {o : Outcome FdRegistryError Unit} (ordered : registry.Ordered)
    (ret : o.isPanic = false) (listed : (procFdIterator world).1.isErr = false)
    (h : registerNew (registry, world) = (o, after, world')) :
    after.Ordered ↔ Orderly registry world := by
  obtain ⟨-, -, failed⟩ | ⟨-, rfl, pushed, passed, left, split, admitted, cases⟩ :=
    registerNew_cases ret h
  · simp [listed] at failed
  have numbers := map_fd_of_admitted admitted
  have accepted : ∀ fd ∈ passed, refuses registry world fd = false := by
    intro fd mem
    obtain ⟨entry, hentry⟩ := exists_admitted admitted fd mem
    simp [refuses, hentry]
  rcases cases with ⟨-, rfl, -, keeps⟩ | ⟨fd, rest, error, -, rfl, refused, data'⟩
  · refine iff_of_true (keeps ordered) (Or.inl fun fd mem => accepted fd ?_)
    simpa [split] using mem
  · have stop : refuses registry world fd = true := by simp [refuses, refused]
    have prefix_eq :
        (newcomers registry world).takeWhile (fun fd => !refuses registry world fd) = passed := by
      rw [split, List.takeWhile_append_of_pos fun fd mem => by simp [accepted fd mem]]
      simp [stop]
    have ascending : Ascends byFd pushed := by
      have := split ▸ newcomers_ascends registry world
      have front := (ascends_append.mp this).1
      rw [← numbers] at front
      exact List.pairwise_map.mp front
    unfold Ordered Orderly
    rw [data', ascends_append, prefix_eq, ← numbers]
    constructor
    · rintro ⟨-, -, above⟩
      refine Or.inr fun n mem entry hentry => ?_
      obtain ⟨new, hnew, rfl⟩ := List.mem_map.mp mem
      exact above entry hentry new hnew
    · rintro (all | above)
      · have := all fd (by rw [split]; simp)
        simp [stop] at this
      · exact ⟨ordered, ascending, fun entry hentry new hnew =>
          above new.fd (List.mem_map_of_mem hnew) entry hentry⟩

end registerNew

end FileDescriptorRegistry

inductive RegistryOp where
  | register (fd : RawFd) (action : Action)
  | remove (fd : RawFd)
  | registerNew
  | executeActions (forkType : ForkType)
  | overrideAndClose
  | resetForSubspecies

def RegistryOp.run : RegistryOp → RegistryM Unit
  | .register fd action => FileDescriptorRegistry.register fd action
  | .remove fd => FileDescriptorRegistry.remove fd
  | .registerNew => FileDescriptorRegistry.registerNew
  | .executeActions forkType => FileDescriptorRegistry.executeActions forkType
  | .overrideAndClose => FileDescriptorRegistry.overrideAndClose
  | .resetForSubspecies => FileDescriptorRegistry.resetForSubspecies

namespace FileDescriptorRegistry
section runs

/-- The registries reached from a new one by calls that return, with a value or with an
error. Every call finds the process in any state that is allowed for it. -/
inductive Run (allowed : RegistryOp → FileDescriptorRegistry → World → Prop) :
    FileDescriptorRegistry → Prop
  | new {species world registry} :
      (FileDescriptorRegistry.new species world).1 = .ok registry → Run allowed registry
  | step {registry} (op : RegistryOp) (world : World) : Run allowed registry →
      allowed op registry world →
      (op.run (registry, world)).1.isPanic = false → Run allowed (op.run (registry, world)).2.1

/-- Wherever `register_new` lists the descriptors, on its own or in a reset, it finds
them orderly. -/
def OrderlyCall (op : RegistryOp) (registry : FileDescriptorRegistry) (world : World) : Prop :=
  match op with
  | .registerNew => (procFdIterator world).1.isErr = false → registry.Orderly world
  | .resetForSubspecies =>
      ∀ mid world₁, executeActions .subspecies (registry, world) = (.ok (), mid, world₁) →
        (procFdIterator world₁).1.isErr = false → mid.Orderly world₁
  | _ => True

variable {registry after : FileDescriptorRegistry} {world world' : World}

theorem registerNew_ordered {o : Outcome FdRegistryError Unit} (ordered : registry.Ordered)
    (ret : o.isPanic = false)
    (orderly : (procFdIterator world).1.isErr = false → registry.Orderly world)
    (h : registerNew (registry, world) = (o, after, world')) : after.Ordered := by
  cases listed : (procFdIterator world).1.isErr with
  | false => exact (registerNew_ordered_iff ordered ret listed h).mpr (orderly listed)
  | true =>
      obtain ⟨rfl, -, -⟩ | ⟨ok, -⟩ := registerNew_cases ret h
      · exact ordered
      · simp [listed] at ok

theorem resetForSubspecies_ordered {o : Outcome FdRegistryError Unit} (ordered : registry.Ordered)
    (ret : o.isPanic = false) (orderly : OrderlyCall .resetForSubspecies registry world)
    (h : resetForSubspecies (registry, world) = (o, after, world')) : after.Ordered := by
  obtain ⟨_, ⟨mid, world₁⟩, executed, h⟩ | ⟨e, executed, -⟩ | ⟨m, executed, -⟩ := Prog.bind_cases h
  · have mid_ordered := executeActions_ordered ordered executed
    obtain ⟨_, ⟨last, world₂⟩, registered, h⟩ | ⟨e, registered, -⟩ | ⟨m, -, rfl⟩ :=
      Prog.bind_cases h
    · have same : after = last := congrArg (fun r => r.2.1) h.symm
      rw [same]
      exact registerNew_ordered mid_ordered rfl (orderly mid world₁ executed) registered
    · exact registerNew_ordered mid_ordered rfl (orderly mid world₁ executed) registered
    · simp at ret
  · exact executeActions_ordered ordered executed
  · exact executeActions_ordered ordered executed

theorem run_step_ordered (op : RegistryOp) {o : Outcome FdRegistryError Unit}
    (ordered : registry.Ordered)
    (orderly : OrderlyCall op registry world) (ret : o.isPanic = false)
    (h : op.run (registry, world) = (o, after, world')) : after.Ordered := by
  cases op with
  | register fd action => exact register_ordered ordered h
  | remove fd => exact remove_ordered ordered h
  | registerNew => exact registerNew_ordered ordered ret orderly h
  | executeActions forkType => exact executeActions_ordered ordered h
  | overrideAndClose => exact overrideAndClose_ordered ordered h
  | resetForSubspecies => exact resetForSubspecies_ordered ordered ret orderly h

/-- A new registry has what the empty one has and a registration to ignore keeps. -/
theorem new_keeps {species : Species} {inv : FileDescriptorRegistry → Prop}
    (empty : inv ⟨species, .empty, .empty, .empty, .empty, .empty⟩)
    (keeps : ∀ {before last v v' fd}, inv before →
      register fd .ignore (before, v) = (.ok (), last, v') → inv last)
    (h : FileDescriptorRegistry.new species world = (.ok registry, world')) : inv registry := by
  simp only [FileDescriptorRegistry.new] at h
  split at h
  · next value r w built =>
    cases h
    obtain ⟨_, ⟨r₀, w₀⟩, first, built⟩ := Prog.bind_eq_ok.mp built
    obtain ⟨_, ⟨r₁, w₁⟩, second, third⟩ := Prog.bind_eq_ok.mp built
    exact keeps (keeps (keeps empty first) second) third
  · cases h
  · cases h

theorem new_ordered {species : Species}
    (h : FileDescriptorRegistry.new species world = (.ok registry, world')) :
    registry.Ordered :=
  new_keeps ascends_nil register_ordered h

/-- In a run whose listings are orderly the registry is strictly sorted after every
call, and the binary searches find a number exactly when it has an entry. -/
theorem run_ordered (reached : Run OrderlyCall registry) :
    registry.Ordered ∧ ∀ fd, (∃ i, binarySearch byFd fd registry.data.toList = .ok i) ↔
      ∃ entry ∈ registry.data.toList, entry.fd = fd := by
  have ordered : registry.Ordered := by
    induction reached with
    | new h => exact new_ordered (Prod.ext h rfl)
    | step op world _ orderly ret ih => exact run_step_ordered op ih orderly ret rfl
  exact ⟨ordered, fun fd => exists_binarySearch_ok_iff ordered⟩

def booted (world : World) : FileDescriptorRegistry :=
  ((do register 0 .ignore; register 1 .ignore; register 2 .ignore : RegistryM Unit)
    (⟨.turtle, .empty, .empty, .empty, .empty, .empty⟩, world)).2.1

/-- One file to take in, below nothing that is registered. -/
def tidy : World := .boot .calm (stdio ++ [(5, .urandom)])

theorem run_ordered_tidy :
    let registry := (registerNew (booted tidy, tidy)).2.1
    registry.data.toList.length = 4 ∧ registry.Ordered ∧
      ∀ fd, (∃ i, binarySearch byFd fd registry.data.toList = .ok i) ↔
        ∃ entry ∈ registry.data.toList, entry.fd = fd :=
  ⟨by decide, run_ordered (.step .registerNew tidy (@Run.new _ .turtle tidy (booted tidy) rfl)
    (fun _ => by decide) rfl)⟩

/-- A file to take in and a pipe to refuse, both below a registered descriptor. -/
def crowded : World := .boot .calm (stdio ++ [(5, .urandom), (6, .pipe), (9, .null)])

/-- After the refusal the entry of 5 stands behind that of 9. -/
theorem run_unordered :
    ¬∀ registry, Run (fun _ _ _ => True) registry → registry.Ordered := by
  intro claim
  have start : Run (fun _ _ _ => True) (booted crowded) := @Run.new _ .turtle crowded _ rfl
  have nine := start.step (.register 9 .ignore) crowded trivial rfl
  have refused := nine.step .registerNew crowded trivial rfl
  have ordered := claim _ refused
  revert ordered
  unfold Ordered
  decide

end runs

end FileDescriptorRegistry
end Zygote
