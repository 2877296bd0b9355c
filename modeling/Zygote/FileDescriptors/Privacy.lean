import Mathlib.Data.List.InsertIdx
import Zygote.FileDescriptors.Reset

/-!
# Who shares a reopened file

Reopening gives a child its own open file description. The mark of an executed action
goes with the registry into every later generation, where the action is passed over.
-/
namespace Zygote
open Effect Descriptors Ascending

namespace FileDescriptorRegistry
open FileDescriptorEntry (mark pending Result)
variable {registry after : FileDescriptorRegistry} {w w' : World}

/-- Every open descriptor to reopen refers to another description after the actions than
it did in the process that forked. -/
def PrivateReopens (registry : FileDescriptorRegistry) (w w' : World) : Prop :=
  ∀ entry ∈ registry.data.toList, entry.action = .reopen → w.fds.isOpen entry.fd = true →
    w'.fds.fileOf entry.fd ≠ w.fds.fileOf entry.fd

/-- A pending reopen leaves a description that did not exist before. -/
theorem Acted.reopened_fresh {forkType : ForkType} {n : RawFd} {f : OpenFile}
    (acted : Acted forkType registry w after w' n f) {entry : FileDescriptorEntry}
    (mem : entry ∈ registry.data.toList) (action : entry.action = .reopen)
    (executed : entry.executed = false) :
    ∃ file, w.fds.next ≤ file ∧ w'.fds.fileOf entry.fd = some file := by
  obtain ⟨u, frame, -, result⟩ := acted.results entry mem (by simp [pending, action, executed])
  simp only [Result, action] at result
  obtain ⟨_, _, _, _, _, _, _, _, _, _, file, -, -, -, fresh, -, slot, -⟩ := result
  exact ⟨file, frame.fds.next.trans fresh, by simp [Table.fileOf, slot]⟩

/-- An entry that is not pending keeps its descriptor. -/
theorem Acted.idle_slot {forkType : ForkType} {n : RawFd} {f : OpenFile}
    (acted : Acted forkType registry w after w' n f) (ordered : registry.Ordered)
    {entry : FileDescriptorEntry} (mem : entry ∈ registry.data.toList)
    (idle : entry.pending forkType = false) (opened : w.fds.isOpen entry.fd = true) :
    w'.fds.slot entry.fd = w.fds.slot entry.fd := by
  refine acted.frame.fds.slot _ ?_
  rintro (same | ⟨other, mem', p, same⟩)
  · rw [same, Table.isOpen, (w.fds.lowestFree_spec acted.lowest).2] at opened
    cases opened
  · rw [ordered.eq_of_key_eq mem' mem same, idle] at p
    cases p

/-- A descriptor that is reopened refers to another description from then on, or to none. -/
theorem private_of_unexecuted (ordered : registry.Ordered)
    (h : executeActions .application (registry, w) = (.ok (), after, w'))
    (fresh : ∀ entry ∈ registry.data.toList, entry.action = .reopen →
      w.fds.isOpen entry.fd = true → entry.executed = false) : PrivateReopens registry w w' := by
  obtain ⟨n, f, v, acted, synced⟩ := executeActions_ok ordered h
  intro entry mem action opened same
  obtain ⟨file, newer, behind⟩ := acted.reopened_fresh mem action (fresh entry mem action opened)
  obtain ⟨old, at_fork⟩ := Table.isOpen_iff_fileOf.mp opened
  obtain rfl : file = old :=
    Option.some.inj (behind.symm.trans (synced.fileOf (same.trans at_fork)))
  obtain ⟨s, hs, rfl⟩ := Option.map_eq_some_iff.mp at_fork
  exact absurd (w.fds.fresh _ s hs) (not_lt.mpr newer)

/-- In a server of any generation, the application gets private descriptions exactly
when no reset has marked the entries to reopen. -/
theorem reopened_private_iff (reached : Run ServerCall registry) (syncs : registry.SyncsIgnored w)
    (h : executeActions .application (registry, w) = (.ok (), after, w')) :
    PrivateReopens registry w w' ↔ ∀ entry ∈ registry.data.toList, entry.action = .reopen →
      w.fds.isOpen entry.fd = true → entry.executed = false := by
  have ordered := server_ordered reached
  refine ⟨fun moved entry mem action opened => ?_, private_of_unexecuted ordered h⟩
  obtain ⟨n, f, v, acted, synced⟩ := executeActions_ok ordered h
  by_contra executed
  have idle : entry.pending .application = false := by simp [pending, executed]
  have kept : entry.fd ∉ v.env.synced v.clock := by
    rw [acted.frame.env]
    intro listed
    cases action.symm.trans (syncs entry mem ⟨_, listed⟩)
  refine moved entry mem action opened ?_
  rw [Table.fileOf, Table.fileOf, synced.slot_eq kept, acted.idle_slot ordered mem idle opened]

theorem reopened_private_settled :
    let result := executeActions .application (settled, tidy)
    PrivateReopens settled tidy result.2.2 ↔ ∀ entry ∈ settled.data.toList,
      entry.action = .reopen → tidy.fds.isOpen entry.fd = true → entry.executed = false :=
  reopened_private_iff
    (.step .registerNew tidy (@Run.new _ .turtle tidy (booted tidy) rfl) rfl rfl)
    (fun _ _ => nofun) rfl

/-- The subspecies server made from the settled one. -/
def heir : FileDescriptorRegistry := (resetForSubspecies (settled, tidy)).2.1
def heirWorld : World := (resetForSubspecies (settled, tidy)).2.2

/-- Its descriptor 5 is reopened once, by the reset; the applications it forks all share
that description with it. -/
theorem reopened_shared :
    ¬∀ (registry : FileDescriptorRegistry) (w : World), Run ServerCall registry →
      registry.SyncsIgnored w → (executeActions .application (registry, w)).1 = .ok () →
      PrivateReopens registry w (executeActions .application (registry, w)).2.2 := by
  intro claim
  have original : Run ServerCall settled :=
    .step .registerNew tidy (@Run.new _ .turtle tidy (booted tidy) rfl) rfl rfl
  have subspecies : Run ServerCall heir := original.step .resetForSubspecies tidy
    (show (resetForSubspecies (settled, tidy)).1 = .ok () by decide) (by decide)
  have same : (executeActions .application (heir, heirWorld)).2.2.fds.fileOf 5 =
    heirWorld.fds.fileOf 5 := by decide
  have silent : heirWorld.env.synced = fun _ => [] := rfl
  have syncs : heir.SyncsIgnored heirWorld := by
    rintro entry - ⟨clock, listed⟩
    rw [silent] at listed
    cases listed
  exact claim heir heirWorld subspecies syncs (by decide) ⟨5, .ofFile .urandom false, .reopen, true⟩
    (by decide) rfl (by decide) same

section original

/-- The calls of a server that was not made by a reset. -/
def OriginalCall (op : RegistryOp) (registry : FileDescriptorRegistry) (world : World) : Prop :=
  match op with
  | .resetForSubspecies => False
  | op => ServerCall op registry world

/-- No action has been executed. -/
def Unexecuted (registry : FileDescriptorRegistry) : Prop :=
  ∀ entry ∈ registry.data.toList, entry.executed = false

theorem register_unexecuted {fd : RawFd} {action : Action} {o : Outcome FdRegistryError Unit}
    (fresh : registry.Unexecuted) (h : register fd action (registry, w) = (o, after, w')) :
    after.Unexecuted := by
  simp only [register] at h
  split at h
  · next data hdata =>
    cases h
    obtain ⟨info, -, ⟨i, -, -, -, -, set⟩ | ⟨i, -, -, inserted⟩⟩ := registerData_ok hdata
    · intro entry mem
      simp only [withData, set] at mem
      rcases List.mem_or_eq_of_mem_set mem with old | rfl
      · exact fresh entry old
      · rfl
    · intro entry mem
      simp only [withData, inserted] at mem
      rcases List.eq_or_mem_of_mem_insertIdx mem with rfl | old
      · rfl
      · exact fresh entry old
  · cases h; exact fresh
  · cases h; exact fresh

theorem remove_unexecuted {fd : RawFd} {o : Outcome FdRegistryError Unit}
    (fresh : registry.Unexecuted) (h : remove fd (registry, w) = (o, after, w')) :
    after.Unexecuted := by
  simp only [remove, removeData] at h
  split at h
  · next data hdata =>
    cases h
    split at hdata
    · cases hdata; exact fun entry mem => fresh entry (List.mem_of_mem_eraseIdx mem)
    · cases hdata
  · cases h; exact fresh
  · cases h; exact fresh

theorem registerNew_unexecuted (fresh : registry.Unexecuted)
    (h : registerNew (registry, w) = (.ok (), after, w')) : after.Unexecuted := by
  obtain ⟨-, entries, -⟩ := registerNew_ok h
  intro entry mem
  rcases (entries entry).mp mem with old | ⟨fd, -, hmade⟩
  · exact fresh entry old
  · obtain ⟨info, action, -, -, rfl⟩ := entryFor_ok hmade
    rfl

theorem original_unexecuted (reached : Run OriginalCall registry) : registry.Unexecuted := by
  induction reached with
  | @new species world registry h =>
      have built : FileDescriptorRegistry.new species world = (.ok registry, _) := Prod.ext h rfl
      refine new_keeps (fun entry mem => ?_) register_unexecuted built
      cases mem
  | @step before op world _ call _ fresh =>
      cases op with
      | register fd action => exact register_unexecuted fresh rfl
      | remove fd => exact remove_unexecuted fresh rfl
      | registerNew => exact registerNew_unexecuted fresh (Prod.ext call rfl)
      | executeActions forkType => exact call.elim
      | overrideAndClose => exact call.elim
      | resetForSubspecies => exact call.elim

theorem Run.mono {less more : RegistryOp → FileDescriptorRegistry → World → Prop}
    (sub : ∀ op before world, less op before world → more op before world)
    (reached : Run less registry) : Run more registry := by
  induction reached with
  | new h => exact .new h
  | step op world _ call ret ih => exact ih.step op world (sub op _ world call) ret

/-- The applications of a server that was not made by a reset get private descriptions. -/
theorem original_private (reached : Run OriginalCall registry)
    (h : executeActions .application (registry, w) = (.ok (), after, w')) :
    PrivateReopens registry w w' := by
  have server : Run ServerCall registry := by
    refine reached.mono fun op before world call => ?_
    cases op with
    | resetForSubspecies => exact call.elim
    | _ => exact call
  exact private_of_unexecuted (server_ordered server) h fun entry mem _ _ =>
    original_unexecuted reached entry mem

end original

end FileDescriptorRegistry
end Zygote
