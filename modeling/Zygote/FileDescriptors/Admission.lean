import Zygote.FileDescriptors.Merging
import Zygote.FileDescriptors.Handover
import Zygote.FileDescriptors.Realized

/-!
# Why an entry is there

An entry is for a standard descriptor, for one that no application gets, or for one that is on
an allow list of the species. No operation of a server adds any other.
-/
namespace Zygote
open Effect Descriptors Prog

namespace FileDescriptorRegistry

/-- The registry of a species before anything is registered. -/
def bare (species : Species) : FileDescriptorRegistry :=
  ⟨species, .empty, .empty, .empty, .empty, .empty⟩

inductive Grounded (species : Species) (entry : FileDescriptorEntry) : Prop
  | standard : entry.fd = 0 ∨ entry.fd = 1 ∨ entry.fd = 2 → entry.action = .ignore →
      Grounded species entry
  | own : entry.action = .close ∨ entry.action = .closeUnlessSpawnSubspecies → Grounded species entry
  | listed : (bare species).Admits entry.info entry.action → Grounded species entry

/-- The registry goes by the allow lists of the species, and every entry has its reason. -/
structure Screened (species : Species) (registry : FileDescriptorRegistry) : Prop where
  lists : registry = (bare species).withData registry.data
  grounded : ∀ entry ∈ registry.data.toList, Grounded species entry

section keeps
variable {species : Species} {registry after : FileDescriptorRegistry} {w w' : World}

/-- An operation after which the registry is screened if it was before. -/
abbrev Screens (species : Species) {ε α : Type} (p : Prog (FileDescriptorRegistry × World) ε α) : Prop :=
  Within (fun s t => Screened species s.1 → Screened species t.1) p

theorem screens_trans {r s t : FileDescriptorRegistry × World}
    (first : Screened species r.1 → Screened species s.1)
    (second : Screened species s.1 → Screened species t.1) :
    Screened species r.1 → Screened species t.1 := second ∘ first

theorem onWorld_screens {ε α : Type} (p : Prog World ε α) : Screens species (onWorld p) := fun _ => id

/-- The reason for an entry is in its number, its info and its action. -/
theorem Grounded.congr {entry other : FileDescriptorEntry} (h : Grounded species entry)
    (same : (other.fd, other.info, other.action) = (entry.fd, entry.info, entry.action)) :
    Grounded species other := by
  simp only [Prod.mk.injEq] at same
  obtain ⟨fd, info, action⟩ := same
  cases h with
  | standard number ignored => exact .standard (fd ▸ number) (action.trans ignored)
  | own closes => exact .own (action ▸ closes)
  | listed admits => exact .listed (info ▸ action ▸ admits)

theorem Screened.admits (h : Screened species registry) {info : FileDescriptorInfo} {action : Action}
    (admits : registry.Admits info action) : (bare species).Admits info action := by
  rw [h.lists] at admits
  cases admits with
  | boundAbstract allowed => exact .boundAbstract allowed
  | boundPath allowed => exact .boundPath allowed
  | peerPath allowed => exact .peerPath allowed
  | file whole allowed => exact .file whole allowed

/-- Other data under the same allow lists. -/
theorem Screened.rewrite (h : Screened species registry) {data : Entries}
    (grounded : ∀ entry ∈ data.toList, Grounded species entry) :
    Screened species (registry.withData data) :=
  ⟨by rw [h.lists]; rfl, grounded⟩

/-- A registration adds an entry for its own number and action. -/
theorem registerData_grounded {data data' : Entries} {fd : RawFd} {action : Action}
    (grounded : ∀ entry ∈ data.toList, Grounded species entry)
    (reason : ∀ info, Grounded species (.new fd info action))
    (h : registerData w data fd action = .ok data') :
    ∀ entry ∈ data'.toList, Grounded species entry := by
  obtain ⟨info, -, ⟨i, -, -, -, -, set⟩ | ⟨i, -, -, inserted⟩⟩ := registerData_ok h
  · intro entry mem
    rw [set] at mem
    rcases List.mem_or_eq_of_mem_set mem with old | rfl
    · exact grounded entry old
    · exact reason info
  · intro entry mem
    rw [inserted] at mem
    rcases List.eq_or_mem_of_mem_insertIdx mem with rfl | old
    · exact reason info
    · exact grounded entry old

theorem register_screens {fd : RawFd} {action : Action}
    (reason : ∀ info, Grounded species (.new fd info action)) :
    Screens species (register fd action) := by
  rintro ⟨registry, w⟩ screened
  simp only [register]
  split
  · next data made => exact screened.rewrite (registerData_grounded screened.grounded reason made)
  · exact screened
  · exact screened

theorem register_close_screens (fd : RawFd) : Screens species (register fd .close) :=
  register_screens fun _ => .own (.inl rfl)

theorem remove_screens (fd : RawFd) : Screens species (remove fd) := by
  rintro ⟨registry, w⟩ screened
  simp only [remove, removeData]
  cases Ascending.binarySearch FileDescriptorEntry.fd fd registry.data.toList with
  | ok index =>
      exact screened.rewrite fun entry mem => screened.grounded entry (List.mem_of_mem_eraseIdx mem)
  | error index => exact screened

/-- The walk over the listing pushes what is admitted, and stops at what is not. -/
theorem registerEach_grounded {listing : List RawFd} {preexisting : List FileDescriptorEntry}
    {data : Entries}
    (screened : Screened species registry) (grounded : ∀ entry ∈ data.toList, Grounded species entry) :
    ∀ entry ∈ (registerEach registry w listing preexisting data).2.toList, Grounded species entry := by
  induction listing generalizing preexisting data with
  | nil => exact grounded
  | cons fd rest ih =>
      unfold registerEach
      split
      · exact ih grounded
      · split
        · next entry made =>
          obtain ⟨info, action, -, given, rfl⟩ := entryFor_ok made
          split
          · next data' pushed =>
            refine ih fun entry mem => ?_
            rw [(ArrayVec.push_eq_some.mp pushed).2, List.mem_append, List.mem_singleton] at mem
            rcases mem with old | rfl
            · exact grounded entry old
            · exact .listed (screened.admits (defaultAction_eq_ok_iff.mp given))
          · exact grounded
        · exact grounded
        · exact grounded

theorem registerNew_screens : Screens species registerNew := by
  rintro ⟨registry, w⟩ screened
  simp only [registerNew]
  split
  · split
    · next listing v listed =>
      have walked := @registerEach_grounded species registry v listing registry.data.toList registry.data
        screened screened.grounded
      split
      · next data run =>
        rw [run] at walked
        refine screened.rewrite ?_
        split
        · intro entry mem
          exact walked entry ((List.perm_insertionSort _ _).mem_iff.mp mem)
        · exact walked
      · next e data run => rw [run] at walked; exact screened.rewrite walked
      · next m data run => rw [run] at walked; exact screened.rewrite walked
    · exact screened
    · exact screened
  · exact screened

/-- Executing an entry marks it. -/
theorem eachEntry_screens {body : Prog (FileDescriptorEntry × World) FileDescriptorEntryError Unit}
    (frame : ∀ s, ((body s).2.1.fd, (body s).2.1.info, (body s).2.1.action) =
      (s.1.fd, s.1.info, s.1.action)) :
    Screens species (eachEntry body) := by
  rintro ⟨registry, w⟩ screened
  refine screened.rewrite fun entry mem => ?_
  have keys := Prog.eachMut_map (fun e : FileDescriptorEntry => (e.fd, e.info, e.action)) frame
    registry.data.toList w
  have key := List.mem_map_of_mem (f := fun e : FileDescriptorEntry => (e.fd, e.info, e.action)) mem
  rw [keys] at key
  obtain ⟨old, hold, same⟩ := List.mem_map.mp key
  exact (screened.grounded old hold).congr same.symm

theorem executeActions_screens (forkType : ForkType) : Screens species (executeActions forkType) := by
  rw [executeActions_eq]
  refine Within.bind screens_trans (Within.bind screens_trans (onWorld_screens _) fun devNullFd =>
    eachEntry_screens fun s => ?_) fun _ => onWorld_screens _
  rw [executeBody, Prog.bind_snd_of_pure]
  obtain ⟨entry, w⟩ := s
  simp only [FileDescriptorEntry.execute]
  split
  · rfl
  · split <;> rfl

theorem resetForSubspecies_screens : Screens species resetForSubspecies := by
  refine Within.bind screens_trans (executeActions_screens .subspecies) fun _ => ?_
  refine Within.bind screens_trans registerNew_screens fun _ => .reading fun s => ?_
  exact onWorld_screens _

theorem new_screened (h : FileDescriptorRegistry.new species w = (.ok registry, w')) :
    Screened species registry := by
  have built : Screens species (do
      register 0 .ignore; register 1 .ignore; register 2 .ignore : RegistryM Unit) :=
    Within.bind screens_trans (register_screens fun _ => .standard (.inl rfl) rfl) fun _ =>
      Within.bind screens_trans (register_screens fun _ => .standard (.inr (.inl rfl)) rfl) fun _ =>
        register_screens fun _ => .standard (.inr (.inr rfl)) rfl
  have screened := built (bare species, w) ⟨rfl, fun entry mem => nomatch mem⟩
  simp only [FileDescriptorRegistry.new] at h
  split at h
  · next value r v run =>
    cases h
    rwa [show (do register 0 .ignore; register 1 .ignore; register 2 .ignore : RegistryM Unit)
      (bare species, w) = (.ok value, registry, w') from run] at screened
  · cases h
  · cases h

end keeps

section inherited
open FileDescriptorEntry (pending Result Reopened Positioned)
variable {species : Species} {registry after : FileDescriptorRegistry} {w w' : World} {fd : RawFd}

/-- What an application has behind a number: the null device, or what the server had behind a
standard number or one that an allow list names, in a description of its own where that is asked for. -/
inductive Inherited (species : Species) (registry : FileDescriptorRegistry) (w w' : World)
    (fd : RawFd) : Prop
  | null : w'.fds.slot fd = some ⟨w.fds.next, true⟩ → Inherited species registry w w' fd
  | standard : fd = 0 ∨ fd = 1 ∨ fd = 2 → w'.fds.slot fd = w.fds.slot fd →
      Inherited species registry w w' fd
  | kept {entry} : entry ∈ registry.data.toList → entry.fd = fd →
      (bare species).Admits entry.info entry.action →
      entry.action = .ignore ∨ entry.executed = true ∧ entry.closed = false →
      w'.fds.slot fd = w.fds.slot fd →
      Inherited species registry w w' fd
  | reopened {entry} : entry ∈ registry.data.toList → entry.fd = fd →
      (bare species).Admits entry.info .reopen →
      entry.Reopened Positioned w w' → Inherited species registry w w' fd

/-- Only the number and the descriptions count. -/
theorem Inherited.transfer {v : World} (h : Inherited species registry w w' fd)
    (slot : v.fds.slot fd = w'.fds.slot fd) (file : v.fds.file = w'.fds.file) :
    Inherited species registry w v fd := by
  cases h with
  | null there => exact .null (slot.trans there)
  | standard number there => exact .standard number (slot.trans there)
  | kept mem same admits idle there => exact .kept mem same admits idle (slot.trans there)
  | reopened mem same admits reopened =>
      refine .reopened mem same admits ?_
      unfold Reopened at reopened ⊢
      rwa [same, slot, file, ← same]

theorem Inherited.congr {v : World} (h : Inherited species registry w w' fd) (fds : v.fds = w'.fds) :
    Inherited species registry w v fd := h.transfer (by rw [fds]) (by rw [fds])

/-- The actions leave an application nothing open but what its registry accounts for. -/
theorem inherited_of_performed (ordered : registry.Ordered) (screened : Screened species registry)
    (live : ∀ fd, registry.Live fd ↔ w.fds.isOpen fd = true)
    (h : performActions .application (registry, w) = (.ok (), after, w'))
    (opened : w'.fds.isOpen fd = true) :
    Inherited species registry w w' fd := by
  obtain ⟨n, f, acted⟩ := performActions_ok ordered h
  have untouched := acted.apart fun fd => (live fd).mp
  by_cases null : fd = n
  · exact .null (null ▸ acted.null untouched)
  by_cases touched : Touched .application registry.data.toList fd
  · obtain ⟨entry, mem, p, rfl⟩ := touched
    obtain ⟨u, frame, nulled, result⟩ := acted.results entry mem p
    cases action : entry.action with
    | close | closeUnlessSpawnSubspecies =>
        simp only [Result, action] at result
        rw [Table.isOpen, result] at opened
        cases opened
    | ignore => simp [pending, action] at p
    | dupeNull =>
        simp only [Result, action] at result
        obtain ⟨s, at_null, pointed⟩ := result
        rw [nulled untouched] at at_null
        cases at_null
        exact .null pointed
    | reopen =>
        refine .reopened mem rfl ?_ (FileDescriptorEntry.Result.reopens frame result action)
        cases screened.grounded entry mem with
        | standard _ ignored => rw [action] at ignored; cases ignored
        | own closes => rw [action] at closes; rcases closes with closes | closes <;> cases closes
        | listed admits => rwa [action] at admits
  · have slot := acted.frame.fds.slot fd (not_or.mpr ⟨null, touched⟩)
    rw [Table.isOpen, slot] at opened
    obtain ⟨entry, mem, rfl, alive⟩ := (live fd).mpr opened
    have idle : entry.pending .application = false := by
      rw [← Bool.not_eq_true]
      exact fun p => touched ⟨entry, mem, p, rfl⟩
    cases screened.grounded entry mem with
    | standard number ignored => exact .standard number slot
    | own closes =>
        unfold FileDescriptorEntry.closed at alive
        rcases closes with closes | closes
        · simp only [closes] at alive
          simp [pending, closes, alive] at idle
        · simp only [closes] at alive
          simp [pending, closes, alive] at idle
    | listed admits =>
        refine .kept mem rfl admits ?_ slot
        by_cases executed : entry.executed = true
        · exact .inr ⟨executed, alive⟩
        · left
          cases action : entry.action <;> simp [pending, action, executed] at idle ⊢

theorem inherited_of_executed (ordered : registry.Ordered) (screened : Screened species registry)
    (live : ∀ fd, registry.Live fd ↔ w.fds.isOpen fd = true)
    (h : executeActions .application (registry, w) = (.ok (), after, w'))
    (opened : w'.fds.isOpen fd = true) :
    Inherited species registry w w' fd := by
  obtain ⟨v, performed, synced⟩ := executeActions_synced h
  exact (inherited_of_performed ordered screened live performed (synced.isOpen opened)).transfer
    (synced.slot_of_isOpen opened) synced.file

end inherited
end FileDescriptorRegistry
end Zygote
