import Zygote.FileDescriptors.Reset

/-!
# Closing everything that is registered

`override_and_close` goes through the entries without asking which of them are closed
already. On a registry that matches the table it is clean exactly when none is.
-/
namespace Zygote
open Effect Descriptors Ascending

namespace FileDescriptorRegistry
variable {registry after : FileDescriptorRegistry} {world world' : World}

theorem overrideAndClose_ignore {entry : FileDescriptorEntry} (h : entry.action = .ignore) :
    entry.overrideAndClose world = (.ok (), world) := by
  simp [FileDescriptorEntry.overrideAndClose, h, Prog.pure_apply]

theorem overrideAndClose_eq {entry : FileDescriptorEntry} (h : entry.action ≠ .ignore) :
    entry.overrideAndClose = (close entry.fd).mapErr (.closeFailed entry.fd) := by
  unfold FileDescriptorEntry.overrideAndClose
  cases action : entry.action with
  | ignore => exact absurd action h
  | close => rfl
  | closeUnlessSpawnSubspecies => rfl
  | dupeNull => rfl
  | reopen => rfl

/-- A loop that ends well has issued a close for every entry that is not ignored. -/
theorem overrideEach_issues (l : List FileDescriptorEntry) (w : World) :
    ∃ calls, (Prog.eachMut overrideBody l w).2.2.log = calls ++ w.log ∧
      ((Prog.eachMut overrideBody l w).1 = .ok () → ∀ entry ∈ l, entry.action ≠ .ignore →
        ∃ event ∈ calls, event.call = .close entry.fd) := by
  induction l generalizing w with
  | nil => exact ⟨[], rfl, by simp⟩
  | cons entry rest ih =>
      have head : ∃ calls, (entry.overrideAndClose w).2.log = calls ++ w.log ∧
          (entry.action ≠ .ignore → ∃ event ∈ calls, event.call = .close entry.fd) := by
        by_cases ignored : entry.action = .ignore
        · rw [overrideAndClose_ignore ignored]
          exact ⟨[], rfl, fun h => absurd ignored h⟩
        · rw [overrideAndClose_eq ignored]
          refine ⟨[_], close_log entry.fd w, fun _ => ⟨_, List.mem_singleton_self _, rfl⟩⟩
      obtain ⟨first, hlog, hfirst⟩ := head
      unfold Prog.eachMut
      cases run : overrideBody (entry, w) with
      | mk exit state =>
        obtain ⟨entry', w₁⟩ := state
        have hw : (entry.overrideAndClose w).2 = w₁ := congrArg (fun r => r.2.2) run
        rw [hw] at hlog
        cases exit with
        | ok value =>
            obtain ⟨calls, hcalls, hissued⟩ := ih w₁
            refine ⟨calls ++ first, by simp only [hcalls, hlog, List.append_assoc], ?_⟩
            intro ends e mem active
            rcases List.mem_cons.mp mem with rfl | mem
            · obtain ⟨event, hevent, hcall⟩ := hfirst active
              exact ⟨event, List.mem_append_right _ hevent, hcall⟩
            · obtain ⟨event, hevent, hcall⟩ := hissued ends e mem active
              exact ⟨event, List.mem_append_left _ hevent, hcall⟩
        | err error => exact ⟨first, hlog, by simp⟩
        | panic reason => exact ⟨first, hlog, by simp⟩

/-- Where the entries are open and distinct and no close fails, every close of the loop
is one of an open descriptor of an entry, and what is registered ends closed. -/
theorem overrideEach_clean {l : List FileDescriptorEntry} {w : World}
    (closes : ∀ n fd, w.env.fault n (.close fd) = none) (distinct : (l.map byFd).Nodup)
    (opened : ∀ entry ∈ l, w.fds.isOpen entry.fd = true) :
    (Prog.eachMut overrideBody l w).1 = .ok () ∧
      (∀ fd, (Prog.eachMut overrideBody l w).2.2.fds.isOpen fd = true → w.fds.isOpen fd = true) ∧
      (∀ entry ∈ l, entry.action ≠ .ignore →
        (Prog.eachMut overrideBody l w).2.2.fds.isOpen entry.fd = false) ∧
      ∃ calls, (Prog.eachMut overrideBody l w).2.2.log = calls ++ w.log ∧
        ∀ event ∈ calls, event.on.isSome = true ∧ ∃ entry ∈ l, event.call = .close entry.fd := by
  induction l generalizing w with
  | nil => exact ⟨rfl, fun _ h => h, by simp, [], rfl, by simp⟩
  | cons entry rest ih =>
      obtain ⟨fresh, distinct'⟩ := List.nodup_cons.mp distinct
      obtain ⟨here, others⟩ := List.forall_mem_cons.mp opened
      by_cases ignored : entry.action = .ignore
      · have run : overrideBody (entry, w) = (.ok (), entry, w) := by
          simp only [overrideBody, overrideAndClose_ignore ignored]
        obtain ⟨ends, shrinks, gone, calls, hlog, hcalls⟩ := ih closes distinct' others
        simp only [Prog.eachMut, run]
        refine ⟨ends, shrinks, ?_, calls, hlog, fun event mem => ?_⟩
        · intro e mem active
          rcases List.mem_cons.mp mem with rfl | mem
          · exact absurd ignored active
          · exact gone e mem active
        · obtain ⟨on, e, he, call⟩ := hcalls event mem
          exact ⟨on, e, List.mem_cons_of_mem _ he, call⟩
      · let w₁ : World := { w.note (.close entry.fd) none with fds := w.fds.close entry.fd }
        have run : overrideBody (entry, w) = (.ok (), entry, w₁) := by
          simp only [overrideBody, overrideAndClose_eq ignored, Prog.mapErr,
            close_ok_iff.mpr ⟨here, closes _ _, rfl⟩, Outcome.mapErr, w₁]
        have others₁ : ∀ e ∈ rest, w₁.fds.isOpen e.fd = true := by
          intro e mem
          have apart : e.fd ≠ entry.fd := fun same => fresh (List.mem_map.mpr ⟨e, mem, same⟩)
          have := others e mem
          simpa [w₁, Table.isOpen, apart] using this
        obtain ⟨ends, shrinks, gone, calls, hlog, hcalls⟩ := ih (w := w₁) closes distinct' others₁
        simp only [Prog.eachMut, run]
        refine ⟨ends, fun fd h => ?_, ?_, calls ++ [⟨w.pid, .close entry.fd, w.fds.fileOf entry.fd,
          w.fds.next, none⟩], by rw [hlog]; simp [w₁, World.note, Call.target], ?_⟩
        · have := shrinks fd h
          simp only [w₁, Table.isOpen, Table.close_slot] at this
          split at this
          · cases this
          · exact this
        · intro e mem active
          rcases List.mem_cons.mp mem with rfl | mem
          · refine Bool.eq_false_iff.mpr fun still => ?_
            have := shrinks e.fd still
            simp [w₁, Table.isOpen] at this
          · exact gone e mem active
        · intro event mem
          rcases List.mem_append.mp mem with mem | mem
          · obtain ⟨on, e, he, call⟩ := hcalls event mem
            exact ⟨on, e, List.mem_cons_of_mem _ he, call⟩
          · obtain rfl := List.mem_singleton.mp mem
            refine ⟨?_, entry, List.mem_cons_self, rfl⟩
            simpa [Table.fileOf, Table.isOpen] using here

/-- What a clean shutdown is: it succeeds, it leaves nothing open that is registered
with an action other than `Ignore`, and it closes only open descriptors of live entries. -/
structure CleanShutdown (registry : FileDescriptorRegistry) (world world' : World)
    (exit : Outcome FdRegistryError Unit) : Prop where
  returnsOk : exit = .ok ()
  closesAll : ∀ entry ∈ registry.data.toList, entry.action ≠ .ignore →
    world'.fds.isOpen entry.fd = false
  closesOnlyLive : ∃ calls, world'.log = calls ++ world.log ∧
    ∀ event ∈ calls, ∀ fd, event.call = .close fd → event.on.isSome = true ∧ registry.Live fd

/-- On an ordered registry that matches the table, with no close failing, the shutdown
is clean exactly when no entry is closed already. -/
theorem cleanShutdown_iff {o : Outcome FdRegistryError Unit} (ordered : registry.Ordered)
    (agrees : ∀ fd, registry.Live fd ↔ world.fds.isOpen fd = true)
    (closes : ∀ n fd, world.env.fault n (.close fd) = none)
    (h : overrideAndClose (registry, world) = (o, after, world')) :
    CleanShutdown registry world world' o ↔
      ∀ entry ∈ registry.data.toList, entry.closed = false := by
  obtain ⟨v, closed, synced⟩ := overrideAndClose_synced h
  obtain ⟨more, hmore, late⟩ := synced.closes
  have exit : (Prog.eachMut overrideBody registry.data.toList world).1.mapErr .entryActionFailure
      = o := congrArg Prod.fst closed
  have state : (Prog.eachMut overrideBody registry.data.toList world).2.2 = v :=
    congrArg (fun r => r.2.2) closed
  have distinct : (registry.data.toList.map byFd).Nodup := ordered.nodup_keys
  constructor
  · intro clean entry mem
    obtain ⟨calls, hlog, issued⟩ := overrideEach_issues registry.data.toList world
    obtain ⟨calls', hlog', onlyLive⟩ := clean.closesOnlyLive
    rw [state] at hlog
    rw [hmore, hlog, ← List.append_assoc] at hlog'
    obtain rfl := List.append_cancel_right hlog'
    by_contra closed
    have active : entry.action ≠ .ignore := by
      intro ignored
      simp [FileDescriptorEntry.closed, ignored] at closed
    have ends := Outcome.mapErr_eq_ok.mp (exit.trans clean.returnsOk)
    obtain ⟨event, hevent, call⟩ := issued ends entry mem active
    obtain ⟨-, other, hother, same, live⟩ := onlyLive event (List.mem_append_right _ hevent) _ call
    rw [ordered.eq_of_key_eq hother mem same] at live
    exact closed live
  · intro fresh
    have opened : ∀ entry ∈ registry.data.toList, world.fds.isOpen entry.fd = true :=
      fun entry mem => (agrees _).mp ⟨entry, mem, rfl, fresh entry mem⟩
    obtain ⟨ends, shrinks, gone, calls, hlog, hcalls⟩ := overrideEach_clean closes distinct opened
    rw [state] at shrinks gone hlog
    refine ⟨by rw [← exit, ends]; rfl, fun entry mem active => ?_, more ++ calls,
      by rw [hmore, hlog, List.append_assoc], fun event mem fd call => ?_⟩
    · exact Bool.eq_false_iff.mpr fun still =>
        Bool.eq_false_iff.mp (gone entry mem active) (synced.isOpen still)
    · rcases List.mem_append.mp mem with behind | mem
      · -- the species closes what is open, and that has a live entry
        obtain ⟨n, -, call', on, here⟩ := late event behind
        obtain rfl : n = fd := Call.close.inj (call'.symm.trans call)
        exact ⟨on, (agrees n).mpr (shrinks n here)⟩
      · obtain ⟨on, entry, hentry, call'⟩ := hcalls event mem
        obtain rfl : entry.fd = fd := Call.close.inj (call'.symm.trans call)
        exact ⟨on, entry, hentry, rfl, fresh entry hentry⟩

/-- The shutdown of a server whose registry passes an audit is clean exactly when the
registry holds no closed entry. -/
theorem overrideAndClose_clean_iff {o : Outcome FdRegistryError Unit}
    (reached : Run ServerCall registry) (audited : (registry.audit world).1 = .ok ())
    (closes : ∀ n fd, world.env.fault n (.close fd) = none)
    (h : overrideAndClose (registry, world) = (o, after, world')) :
    CleanShutdown registry world world' o ↔
      ∀ entry ∈ registry.data.toList, entry.closed = false := by
  have agrees := matches_of_audited audited
  exact cleanShutdown_iff (server_ordered reached) (fun _ => agrees.live_iff) closes h

theorem overrideAndClose_clean_settled :
    let result := overrideAndClose (settled, tidy)
    CleanShutdown settled tidy result.2.2 result.1 ↔
      ∀ entry ∈ settled.data.toList, entry.closed = false :=
  overrideAndClose_clean_iff
    (.step .registerNew tidy (@Run.new _ .turtle tidy (booted tidy) rfl) rfl rfl) rfl
    (fun _ _ => rfl) rfl

/-- The subspecies server closes the number 3 again, which is not open any more. -/
theorem overrideAndClose_unclean :
    ¬∀ (registry : FileDescriptorRegistry) (world : World), Run ServerCall registry →
      (registry.audit world).1 = .ok () → (∀ n fd, world.env.fault n (.close fd) = none) →
      CleanShutdown registry world (overrideAndClose (registry, world)).2.2
        (overrideAndClose (registry, world)).1 := by
  intro claim
  have clean := claim childRegistry child childRegistry_reached (by decide) (fun _ _ => rfl)
  have ends := clean.returnsOk
  revert ends
  decide

end FileDescriptorRegistry
end Zygote
