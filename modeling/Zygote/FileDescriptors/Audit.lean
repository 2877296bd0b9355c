import Zygote.FileDescriptors.Order

/-!
# What an audit establishes

`audit` walks the live entries and the listing together. It passes exactly when they
agree number by number and every recorded info is the current one.
-/
namespace Zygote
open Effect Descriptors Ascending

namespace FileDescriptorRegistry
variable {registry : FileDescriptorRegistry} {world world' : World}

def live (registry : FileDescriptorRegistry) : List FileDescriptorEntry :=
  registry.data.toList.filter fun entry => !entry.closed

theorem mem_live {entry : FileDescriptorEntry} :
    entry ∈ registry.live ↔ entry ∈ registry.data.toList ∧ entry.closed = false := by
  simp [live, List.mem_filter]

theorem auditEach_ok_iff {entries : List FileDescriptorEntry} {listing : List RawFd} :
    auditEach world entries listing = .ok () ↔
      entries.map byFd = listing ∧
        ∀ entry ∈ entries, FileDescriptorInfo.tryFrom world entry.fd = .ok entry.info := by
  induction entries generalizing listing with
  | nil =>
      cases listing with
      | nil => simp [auditEach]
      | cons openFd rest =>
          simp only [auditEach, List.map_nil, reduceCtorEq, false_and, iff_false]
          intro h
          obtain ⟨info, -, h⟩ := Outcome.bind_eq_ok.mp h
          cases h
  | cons entry entries ih =>
      cases listing with
      | nil => simp [auditEach]
      | cons openFd rest =>
          unfold auditEach
          by_cases same : entry.fd = openFd
          · subst same
            rw [if_pos rfl]
            simp only [List.map_cons, List.cons.injEq, true_and, List.forall_mem_cons]
            constructor
            · intro h
              obtain ⟨current, hcurrent, h⟩ := Outcome.bind_eq_ok.mp h
              split at h
              · next agrees =>
                obtain ⟨numbers, infos⟩ := ih.mp h
                rw [agrees]
                exact ⟨numbers, Outcome.mapErr_eq_ok.mp hcurrent, infos⟩
              · cases h
            · rintro ⟨numbers, agrees, infos⟩
              refine Outcome.bind_eq_ok.mpr ⟨_, Outcome.mapErr_eq_ok.mpr agrees, ?_⟩
              rw [if_pos rfl]
              exact ih.mpr ⟨numbers, infos⟩
          · rw [if_neg same]
            simp [same]

/-- The registry agrees with the table: the live entries are the open descriptors, in
order, and their infos are current at the given world. -/
def Matches (registry : FileDescriptorRegistry) (world : World) : Prop :=
  registry.live.map byFd = world.fds.numbers ∧
    ∀ entry ∈ registry.live, FileDescriptorInfo.tryFrom world entry.fd = .ok entry.info

theorem audit_ok (h : registry.audit world = (.ok (), world')) :
    world' = world.note .opendir none ∧ registry.Matches world' := by
  obtain ⟨listing, world₁, listed, h⟩ := Prog.bind_eq_ok.mp h
  obtain ⟨read, world₂, hread, h⟩ := Prog.bind_eq_ok.mp h
  cases hread
  have hlist := Prog.mapErr_eq_ok.mp listed
  obtain ⟨rfl, rfl⟩ := procFdIterator_ok hlist
  cases congrArg Prod.snd h
  exact ⟨rfl, auditEach_ok_iff.mp (congrArg Prod.fst h)⟩

theorem matches_of_audited (h : (registry.audit world).1 = .ok ()) :
    registry.Matches (world.note .opendir none) := by
  obtain ⟨state, agrees⟩ := audit_ok (Prod.ext h rfl : registry.audit world = (.ok (), _))
  exact state ▸ agrees

/-- In a registry that passes, a number has a live entry exactly when it is open. -/
theorem Matches.live_iff (h : registry.Matches world) {fd : RawFd} :
    (∃ entry ∈ registry.data.toList, entry.fd = fd ∧ entry.closed = false) ↔
      world.fds.isOpen fd = true := by
  rw [← Table.mem_numbers, ← h.1]
  constructor
  · rintro ⟨entry, mem, rfl, live⟩
    exact List.mem_map_of_mem (mem_live.mpr ⟨mem, live⟩)
  · intro mem
    obtain ⟨entry, hentry, rfl⟩ := List.mem_map.mp mem
    obtain ⟨hmem, live⟩ := mem_live.mp hentry
    exact ⟨entry, hmem, rfl, live⟩

end FileDescriptorRegistry
end Zygote
