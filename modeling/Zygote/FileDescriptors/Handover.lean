import Zygote.FileDescriptors.Calls
import Zygote.FileDescriptors.Reset
import Zygote.Record

/-!
# What is handed on when the actions are executed

A number with an entry to close is closed, and nothing that was made for a server is behind
a number it was not behind before. The operations of the registry make no descriptor of a
server and act for none.
-/
namespace Zygote
open Effect Descriptors Ascending Prog

section records
open World

theorem attempt_records {α : Type} {call : Call}
    {act : World → Except Errno (α × Option RawFd × Tables)} (neutral : call.Neutral)
    (grows : ∀ w a made tables, act w = .ok (a, made, tables) → tables.fds.limit = w.fds.limit ∧
      w.fds.next ≤ tables.fds.next ∧ (made.isSome = true → w.fds.next < tables.fds.next)) :
    Within Records (attempt call act) := by
  intro w
  have failed : w.Records (w.note call none) :=
    @Records.call w _ call none neutral rfl rfl rfl (le_refl _) fun made => nomatch made
  unfold attempt
  split
  · exact failed
  · split
    · exact failed
    · next a made tables acted =>
      obtain ⟨limit, next, more⟩ := grows w a made tables acted
      exact @Records.call w _ call made neutral rfl rfl limit next more

theorem onOpen_records {call : Call} {fd : RawFd}
    {act : OpenFile → Table OpenFile → Except Errno (Table OpenFile)} (neutral : call.Neutral)
    (keeps : ∀ f t u, act f t = .ok u → u.limit = t.limit ∧ u.next = t.next) :
    Within Records (onOpen call fd act) := by
  refine attempt_records neutral fun w a made tables acted => ?_
  dsimp only at acted
  split at acted
  · cases acted
  · next f behind =>
    split at acted
    · cases acted
    · next t changed =>
      obtain ⟨limit, next⟩ := keeps f _ t changed
      cases acted
      exact ⟨limit, next.ge, fun made => nomatch made⟩

theorem makeFd_records {call : Call} {cloexec : Bool} {file : World → Except Errno OpenFile}
    (neutral : call.Neutral) : Within Records (makeFd call cloexec file) := by
  refine attempt_records neutral fun w a made tables acted => ?_
  dsimp only at acted
  split at acted
  · cases acted
  · split at acted
    · cases acted
    · next fd fds allocated =>
      obtain ⟨-, -, next, limit, -⟩ := Table.alloc_eq_some allocated
      cases acted
      exact ⟨limit, next ▸ Nat.le_succ _, fun _ => next ▸ Nat.lt_succ_self _⟩

theorem close_records (fd : RawFd) : Within Records (close fd) := by
  intro w
  refine @Records.call w _ (.close fd) none ⟨rfl, rfl, rfl⟩ (close_log fd w) ?_ ?_ ?_
    fun made => nomatch made
  · unfold close
    split
    · split
      · rfl
      · split <;> rfl
    · rfl
  · unfold close
    split
    · split
      · rfl
      · split <;> rfl
    · rfl
  · unfold close
    split
    · split
      · exact le_refl _
      · split <;> exact le_refl _
    · exact le_refl _

theorem dup3_records (oldFd newFd : RawFd) (flags : Flags) :
    Within Records (dup3 oldFd newFd flags) := by
  refine onOpen_records ⟨rfl, rfl, rfl⟩ fun f t u acted => ?_
  split at acted
  · cases acted
  · split at acted
    · cases acted
    · next v copied =>
      obtain ⟨s, -, -, next, limit, -⟩ := Table.dup_eq_some copied
      cases acted
      exact ⟨limit, next⟩

theorem fcntlSetfd_records (fd : RawFd) (flags : Flags) : Within Records (fcntlSetfd fd flags) := by
  refine onOpen_records ⟨rfl, rfl, rfl⟩ fun f t u acted => ?_
  cases acted
  exact ⟨rfl, rfl⟩

theorem fcntlSetfl_records (fd : RawFd) (flags : Flags) : Within Records (fcntlSetfl fd flags) := by
  refine onOpen_records ⟨rfl, rfl, rfl⟩ fun f t u acted => ?_
  cases acted
  exact ⟨rfl, rfl⟩

theorem lseekSet_records (fd : RawFd) (offset : Int) : Within Records (lseekSet fd offset) := by
  refine onOpen_records ⟨rfl, rfl, rfl⟩ fun f t u acted => ?_
  split at acted
  · cases acted
  · cases acted
    exact ⟨rfl, rfl⟩
  · split at acted
    · cases acted
    · cases acted
      exact ⟨rfl, rfl⟩

theorem procFdIterator_records : Within Records procFdIterator := by
  intro w
  unfold procFdIterator
  split
  · exact .refl w
  · refine attempt_records ⟨rfl, rfl, rfl⟩ (fun w a made tables acted => ?_) w
    split at acted
    · cases acted
      exact ⟨rfl, le_refl _, fun made => nomatch made⟩
    · cases acted

theorem records_handles : Handles Records where
  refl := Records.refl
  trans := Records.trans
  openFd _ _ := makeFd_records ⟨rfl, rfl, rfl⟩
  close := close_records
  dup3 := dup3_records
  fcntlSetfd := fcntlSetfd_records
  fcntlSetfl := fcntlSetfl_records
  lseekSet := lseekSet_records
  procFdIterator := procFdIterator_records

end records

namespace FileDescriptorRegistry
open FileDescriptorEntry (mark pending Result)
variable {registry after : FileDescriptorRegistry} {w w' : World} {forkType : ForkType}

section records
open World

theorem executeActions_records (forkType : ForkType) :
    Within (fun s t => s.2.Records t.2) (executeActions forkType) :=
  executeActions_within records_handles forkType

theorem resetForSubspecies_records : Within (fun s t => s.2.Records t.2) resetForSubspecies :=
  resetForSubspecies_within records_handles

end records

/-- The number has an entry of this action, which was not executed. -/
def Has (registry : FileDescriptorRegistry) (fd : RawFd) (action : Action) : Prop :=
  ∃ entry ∈ registry.data.toList, entry.fd = fd ∧ entry.action = action ∧ entry.executed = false

theorem Has.live {fd : RawFd} {action : Action} (h : registry.Has fd action) : registry.Live fd := by
  obtain ⟨entry, mem, same, -, fresh⟩ := h
  refine ⟨entry, mem, same, ?_⟩
  unfold FileDescriptorEntry.closed
  cases entry.action <;> simp [fresh]

section entries

/-- A registration takes a number without a live entry and leaves all other entries alone. -/
structure Registered (registry after : FileDescriptorRegistry) (fd : RawFd) (action : Action) :
    Prop where
  ordered : after.Ordered
  free : ¬registry.Live fd
  has : after.Has fd action
  others : ∀ entry : FileDescriptorEntry, entry.fd ≠ fd →
    (entry ∈ after.data.toList ↔ entry ∈ registry.data.toList)

theorem register_ok {fd : RawFd} {action : Action} (ordered : registry.Ordered)
    (h : register fd action (registry, w) = (.ok (), after, w')) :
    w' = w ∧ Registered registry after fd action := by
  have orderedAfter := register_ordered ordered h
  simp only [register] at h
  split at h
  case h_2 => cases h
  case h_3 => cases h
  case h_1 data made =>
  cases h
  obtain ⟨info, -, ⟨i, entry, found, rfl, closed, set⟩ | ⟨i, miss, -, inserted⟩⟩ := registerData_ok made
  · have member : ∀ e, e ∈ data.toList ↔
        e = .new entry.fd info action ∨ e ∈ registry.data.toList ∧ e.fd ≠ entry.fd := by
      intro e
      have same : byFd (.new entry.fd info action) = byFd entry := rfl
      rw [set]
      exact mem_set_iff ordered found same
    refine ⟨rfl, orderedAfter, ?_, ⟨.new entry.fd info action, (member _).mpr (.inl rfl), rfl, rfl, rfl⟩,
      fun e apart => ?_⟩
    · rintro ⟨e, mem, same, live⟩
      rw [ordered.eq_of_key_eq mem (List.mem_of_getElem? found) same, closed] at live
      cases live
    · refine (member e).trans ⟨?_, fun mem => .inr ⟨mem, apart⟩⟩
      rintro (rfl | ⟨mem, -⟩)
      · exact absurd rfl apart
      · exact mem
  · have member : ∀ e, e ∈ data.toList ↔ e = .new fd info action ∨ e ∈ registry.data.toList := by
      intro e
      rw [inserted]
      exact List.mem_insertIdx (binarySearch_error_le miss)
    refine ⟨rfl, orderedAfter, ?_, ⟨.new fd info action, (member _).mpr (.inl rfl), rfl, rfl, rfl⟩,
      fun e apart => ?_⟩
    · rintro ⟨e, mem, same, -⟩
      exact binarySearch_error_not_mem ordered miss e mem same
    · refine (member e).trans ⟨?_, .inr⟩
      rintro (rfl | mem)
      · exact absurd rfl apart
      · exact mem

namespace Registered
variable {fd other : RawFd} {action another : Action}

theorem keeps (h : Registered registry after fd action) (has : registry.Has other another) :
    after.Has other another := by
  obtain ⟨entry, mem, rfl, rest⟩ := has
  have apart : entry.fd ≠ fd := fun same => h.free (same ▸ Has.live ⟨entry, mem, rfl, rest⟩)
  exact ⟨entry, (h.others entry apart).mpr mem, rfl, rest⟩

theorem live_iff (h : Registered registry after fd action) :
    after.Live other ↔ other = fd ∨ registry.Live other := by
  by_cases same : other = fd
  · exact ⟨fun _ => .inl same, fun _ => same ▸ h.has.live⟩
  · have carries : after.Live other ↔ registry.Live other := by
      constructor
      · rintro ⟨entry, mem, rfl, live⟩
        exact ⟨entry, (h.others entry same).mp mem, rfl, live⟩
      · rintro ⟨entry, mem, rfl, live⟩
        exact ⟨entry, (h.others entry same).mpr mem, rfl, live⟩
    rw [carries, or_iff_right same]

end Registered

theorem remove_ok {fd : RawFd} (ordered : registry.Ordered)
    (h : remove fd (registry, w) = (.ok (), after, w')) :
    w' = w ∧ after.Ordered ∧
      ∀ entry, entry ∈ after.data.toList ↔ entry ∈ registry.data.toList ∧ entry.fd ≠ fd := by
  have orderedAfter := remove_ordered ordered h
  simp only [remove, removeData] at h
  split at h
  case h_2 => cases h
  case h_3 => cases h
  case h_1 data removed =>
  cases h
  split at removed
  · next index found =>
    cases removed
    obtain ⟨entry, at_index, rfl⟩ := binarySearch_ok found
    exact ⟨rfl, orderedAfter, fun e => mem_eraseIdx_iff ordered at_index⟩
  · cases removed

/-- What has an entry can be removed. -/
theorem remove_some {fd : RawFd} (ordered : registry.Ordered)
    (known : ∃ entry ∈ registry.data.toList, entry.fd = fd) :
    ∃ after, remove fd (registry, w) = (.ok (), after, w) := by
  obtain ⟨index, found⟩ := (exists_binarySearch_ok_iff ordered).mpr known
  simp only [remove, removeData, found]
  exact ⟨_, rfl⟩

end entries

section actions
variable {n : RawFd} {f : OpenFile}

/-- A pending action to close leaves its number free. -/
theorem Acted.closed (acted : Acted forkType registry w after w' n f) {entry : FileDescriptorEntry}
    (mem : entry ∈ registry.data.toList) (p : entry.pending forkType = true)
    (action : entry.action = .close ∨ entry.action = .closeUnlessSpawnSubspecies) :
    w'.fds.slot entry.fd = none := by
  obtain ⟨u, -, -, result⟩ := acted.results entry mem p
  rcases action with action | action
  · simpa only [Result, action] using result
  · simpa only [Result, action] using result

/-- After the actions a number refers to what it did before, or to something new. -/
theorem Acted.files (acted : Acted forkType registry w after w' n f)
    (untouched : ¬Touched forkType registry.data.toList n) {fd : RawFd} {file : Nat}
    (behind : w'.fds.fileOf fd = some file) :
    w.fds.fileOf fd = some file ∨ w.fds.next ≤ file := by
  obtain ⟨s, slot, rfl⟩ := Table.fileOf_eq_some.mp behind
  by_cases same : fd = n
  · subst same
    rw [acted.null untouched] at slot
    cases slot
    exact .inr (le_refl _)
  · by_cases touched : Touched forkType registry.data.toList fd
    · obtain ⟨entry, mem, p, rfl⟩ := touched
      obtain ⟨u, frame, null, result⟩ := acted.results entry mem p
      cases action : entry.action with
      | close | closeUnlessSpawnSubspecies =>
          simp only [Result, action] at result
          rw [result] at slot
          cases slot
      | ignore => simp [pending, action] at p
      | dupeNull =>
          simp only [Result, action] at result
          obtain ⟨null', at_null, pointed⟩ := result
          rw [null untouched] at at_null
          cases at_null
          rw [pointed] at slot
          cases slot
          exact .inr (le_refl _)
      | reopen =>
          simp only [Result, action] at result
          obtain ⟨_, _, _, _, _, _, _, _, _, _, file, -, -, -, later, -, reopened, -⟩ := result
          rw [reopened] at slot
          cases slot
          exact .inr (frame.fds.next.trans later)
    · rw [acted.frame.fds.slot _ (not_or.mpr ⟨same, touched⟩)] at slot
      exact .inl (Table.fileOf_eq_some.mpr ⟨s, slot, rfl⟩)

theorem executeActions_ledger {N : Nat} {old : List Event} {held held' own : List RawFd}
    (opened : ∀ fd, registry.Live fd → w.fds.isOpen fd = true) (ledger : Ledger N old held own w)
    {v : World} (acted : Acted forkType registry w after v n f) (synced : Synced v w')
    (h : executeActions forkType (registry, w) = (.ok (), after, w'))
    (kept : ∀ fd ∈ held, w'.fds.isOpen fd = true → fd ∈ held') : Ledger N old held' [] w' := by
  have records : w.Records w' := by
    have := executeActions_records forkType (registry, w)
    rwa [h] at this
  have moved := ledger.records records fun fd file behind =>
    acted.files (acted.apart opened) (synced.fileOf behind)
  exact moved.mono kept fun fd mem => nomatch mem

/-- What a successful reset hands on: the numbers that were to be closed are free, the one that
was to be spared keeps its entry, and the live entries are the open numbers. -/
structure HandedOn (registry : FileDescriptorRegistry) (w : World) (after : FileDescriptorRegistry)
    (w' : World) : Prop where
  ordered : after.Ordered
  live : ∀ fd, after.Live fd ↔ w'.fds.isOpen fd = true
  closed : ∀ fd, registry.Has fd .close → w'.fds.slot fd = none
  spared : ∀ fd, registry.Has fd .closeUnlessSpawnSubspecies →
    after.Has fd .closeUnlessSpawnSubspecies
  marked : ∀ fd, registry.Has fd .closeUnlessSpawnSubspecies → Privileged w fd → Privileged w' fd
  ledger : ∀ {N old held held' own}, Ledger N old held own w →
    (∀ fd ∈ held, registry.Has fd .close ∨ fd ∈ held') → Ledger N old held' [] w'

theorem resetForSubspecies_handsOn (ordered : registry.Ordered)
    (opened : ∀ fd, registry.Live fd → w.fds.isOpen fd = true)
    (h : resetForSubspecies (registry, w) = (.ok (), after, w')) :
    HandedOn registry w after w' := by
  obtain ⟨mid, w₁, w₂, executed, registered, audited⟩ := resetForSubspecies_eq_ok.mp h
  obtain ⟨n, f, v, acted, synced⟩ := executeActions_ok ordered executed
  obtain ⟨rfl, entries, -⟩ := registerNew_ok registered
  obtain ⟨rfl, agrees⟩ := audit_ok audited
  have closed : ∀ fd, registry.Has fd .close → w₁.fds.slot fd = none := by
    rintro fd ⟨entry, mem, rfl, action, fresh⟩
    exact synced.slot_none (acted.closed mem (by simp [pending, action, fresh]) (.inl action))
  have spared : ∀ fd, registry.Has fd .closeUnlessSpawnSubspecies →
      after.Has fd .closeUnlessSpawnSubspecies := by
    rintro fd ⟨entry, mem, rfl, action, fresh⟩
    have kept : entry.mark .subspecies ∈ mid.data.toList :=
      acted.entries ▸ List.mem_map_of_mem mem
    refine ⟨_, (entries _).mpr (.inl kept), rfl, action, ?_⟩
    simp [mark, pending, action, fresh]
  refine ⟨registerNew_ok_ordered (executeActions_ordered ordered executed) registered,
    fun fd => agrees.live_iff, closed, spared, ?_, fun ledger kept => ?_⟩
  · rintro fd has marked
    -- the audit would have missed it, had the species closed it
    have still : w₁.fds.isOpen fd = true := agrees.live_iff.mp (spared fd has).live
    obtain ⟨entry, mem, rfl, action, fresh⟩ := has
    have here := opened entry.fd (Has.live ⟨entry, mem, rfl, action, fresh⟩)
    have apart : entry.fd ≠ n := by
      rintro same
      rw [same, Table.isOpen, (w.fds.lowestFree_spec acted.lowest).2] at here
      cases here
    have untouched : ¬Touched .subspecies registry.data.toList entry.fd := by
      rintro ⟨other, hother, p, same⟩
      rw [ordered.eq_of_key_eq hother mem same] at p
      simp [pending, action] at p
    have records := resetForSubspecies_records (registry, w)
    rw [h] at records
    refine marked.later ?_ (records.log.imp fun _ => And.left)
    have slot := (synced.slot_of_isOpen still).trans
      (acted.frame.fds.slot entry.fd (not_or.mpr ⟨apart, untouched⟩))
    exact congrArg (Option.map Descriptors.Slot.file) slot
  · have executed := executeActions_ledger opened ledger acted synced executed fun fd mem here => by
      refine (kept fd mem).resolve_left fun has => ?_
      rw [Table.isOpen, closed fd has] at here
      cases here
    have listed := executed.note .opendir rfl fun acts => by cases acts
    exact listed.note .opendir rfl fun acts => by cases acts

/-- After the actions of an application child nothing that is held is open. -/
theorem executeActions_application {N : Nat} {old : List Event} {held own : List RawFd}
    (ordered : registry.Ordered) (opened : ∀ fd, registry.Live fd → w.fds.isOpen fd = true)
    (ledger : Ledger N old held own w)
    (has : ∀ fd ∈ held, registry.Has fd .close ∨ registry.Has fd .closeUnlessSpawnSubspecies)
    (h : executeActions .application (registry, w) = (.ok (), after, w')) :
    Ledger N old [] [] w' := by
  obtain ⟨n, f, v, acted, synced⟩ := executeActions_ok ordered h
  refine executeActions_ledger opened ledger acted synced h fun fd mem here => ?_
  have gone : v.fds.slot fd = none := by
    rcases has fd mem with ⟨entry, hentry, rfl, action, fresh⟩ | ⟨entry, hentry, rfl, action, fresh⟩
    · exact acted.closed hentry (by simp [pending, action, fresh]) (.inl action)
    · exact acted.closed hentry (by simp [pending, action, fresh]) (.inr action)
  rw [Table.isOpen, synced.slot_none gone] at here
  cases here

end actions

end FileDescriptorRegistry
end Zygote
