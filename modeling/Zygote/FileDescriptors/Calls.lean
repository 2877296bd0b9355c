import Zygote.FileDescriptors.Syncing

/-!
# What holds across the calls of the registry

An operation of the registry is made of a few calls on descriptors. Whatever holds across
each of them holds across the operation, wherever it stops.
-/
namespace Zygote
open Effect Prog

/-- A relation between worlds that holds across the calls the registry makes. -/
structure Handles (R : World → World → Prop) : Prop where
  refl : ∀ w, R w w
  trans : ∀ {u v w}, R u v → R v w → R u w
  openFd : ∀ path flags, Within R (openFd path flags)
  close : ∀ fd, Within R (close fd)
  dup3 : ∀ oldFd newFd flags, Within R (dup3 oldFd newFd flags)
  fcntlSetfd : ∀ fd flags, Within R (fcntlSetfd fd flags)
  fcntlSetfl : ∀ fd flags, Within R (fcntlSetfl fd flags)
  lseekSet : ∀ fd offset, Within R (lseekSet fd offset)
  procFdIterator : Within R procFdIterator

/-- Each of the calls goes on the record of the process that makes it. -/
theorem does_handles {calls : Call → Prop} {deeds : Deed → Prop}
    (allowed : ∀ call, (∀ path, call ≠ .removeFile path) → calls call) :
    Handles (World.Does calls deeds) where
  refl := .refl
  trans := .trans
  openFd _ _ := attempt_does (allowed _ fun _ => nofun)
  close _ := close_does (allowed _ fun _ => nofun)
  dup3 _ _ _ := attempt_does (allowed _ fun _ => nofun)
  fcntlSetfd _ _ := attempt_does (allowed _ fun _ => nofun)
  fcntlSetfl _ _ := attempt_does (allowed _ fun _ => nofun)
  lseekSet _ _ := attempt_does (allowed _ fun _ => nofun)
  procFdIterator := by
    intro w
    unfold procFdIterator
    split
    · exact .refl w
    · exact attempt_does (allowed .opendir fun _ => nofun) w

section within
variable {R : World → World → Prop} (handles : Handles R)
include handles

theorem Handles.bind {ε α β : Type} {p : Prog World ε α} {f : α → Prog World ε β}
    (first : Within R p) (rest : ∀ a, Within R (f a)) : Within R (p >>= f) :=
  Within.bind handles.trans first rest

theorem reopen_within (fd : RawFd) (path : CStringBuffer) (fdFlags fsFlagsOpen fsFlagsRest : Flags)
    (offset : Int) :
    Within R (FileDescriptorEntry.reopen fd path fdFlags fsFlagsOpen fsFlagsRest offset) := by
  refine handles.bind (.lift handles.refl _) fun _ => ?_
  refine handles.bind (.mapErr _ (handles.openFd _ _)) fun _ => ?_
  refine handles.bind (.mapErr _ (handles.fcntlSetfd _ _)) fun _ => ?_
  refine handles.bind (.mapErr _ (handles.fcntlSetfl _ _)) fun _ => ?_
  refine handles.bind (.mapErr _ (handles.lseekSet _ _)) fun _ => ?_
  refine handles.bind (.mapErr _ (handles.dup3 _ _ _)) fun _ => ?_
  exact .mapErr _ (handles.close _)

theorem perform_within (devNullFd : RawFd) (forkType : ForkType) (entry : FileDescriptorEntry) :
    Within R (FileDescriptorEntry.perform devNullFd forkType entry) := by
  have closes : Within R ((close entry.fd).mapErr (FileDescriptorEntryError.closeFailed entry.fd)) :=
    .mapErr _ (handles.close entry.fd)
  unfold FileDescriptorEntry.perform
  cases entry.action with
  | close => exact handles.bind closes fun _ => handles.refl
  | closeUnlessSpawnSubspecies =>
      cases forkType with
      | application => exact handles.bind closes fun _ => handles.refl
      | subspecies => exact handles.refl
  | dupeNull => exact handles.bind (.mapErr _ (handles.dup3 _ _ _)) fun _ => handles.refl
  | ignore => exact handles.refl
  | reopen =>
      cases entry.info with
      | file => exact handles.bind (reopen_within handles _ _ _ _ _ _) fun _ => handles.refl
      | boundSocket | connectedSocket | epollFd | fifo | signalFd => exact .panic handles.refl _

theorem execute_within (devNullFd : RawFd) (forkType : ForkType) :
    Within (fun s t => R s.2 t.2) (FileDescriptorEntry.execute devNullFd forkType) := by
  rintro ⟨entry, w⟩
  have performed := perform_within handles devNullFd forkType entry w
  simp only [FileDescriptorEntry.execute]
  split
  · exact handles.refl _
  · split <;> next run => rw [run] at performed; exact performed

theorem overrideAndClose_entry_within (entry : FileDescriptorEntry) :
    Within R entry.overrideAndClose := by
  unfold FileDescriptorEntry.overrideAndClose
  cases entry.action with
  | ignore => exact handles.refl
  | close | closeUnlessSpawnSubspecies | dupeNull | reopen => exact .mapErr _ (handles.close _)

namespace FileDescriptorRegistry

theorem register_within (fd : RawFd) (action : Action) :
    Within (fun s t => R s.2 t.2) (register fd action) := by
  rintro ⟨registry, w⟩
  simp only [register]
  split <;> exact handles.refl _

theorem remove_within (fd : RawFd) : Within (fun s t => R s.2 t.2) (remove fd) := by
  rintro ⟨registry, w⟩
  simp only [remove]
  split <;> exact handles.refl _

theorem registerNew_within : Within (fun s t => R s.2 t.2) registerNew := by
  rintro ⟨registry, w⟩
  have listed := handles.procFdIterator w
  simp only [registerNew]
  split
  · split
    · next listing w run =>
      rw [run] at listed
      split <;> exact listed
    · next e w run => rw [run] at listed; exact listed
    · next m w run => rw [run] at listed; exact listed
  · exact handles.refl _

theorem audit_within (registry : FileDescriptorRegistry) : Within R registry.audit :=
  handles.bind (.mapErr _ handles.procFdIterator) fun _ => Within.read fun _ => handles.refl _

theorem eachEntry_within {body : Prog (FileDescriptorEntry × World) FileDescriptorEntryError Unit}
    (h : Within (fun s t => R s.2 t.2) body) : Within (fun s t => R s.2 t.2) (eachEntry body) :=
  fun s => Within.eachMut handles.refl handles.trans h s.1.data.toList s.2

theorem syncFdState_within : Within (fun s t => R s.2 t.2) syncFdState :=
  fun s => closeOpen_within handles.refl handles.trans handles.close _ s.2

theorem executeBody_within (devNullFd : RawFd) (forkType : ForkType) :
    Within (fun s t => R s.2 t.2) (executeBody devNullFd forkType) :=
  Within.bind handles.trans (execute_within handles devNullFd forkType) fun _ _ => handles.refl _

theorem performActions_within (forkType : ForkType) :
    Within (fun s t => R s.2 t.2) (performActions forkType) :=
  Within.bind handles.trans (fun s => handles.openFd _ _ s.2) fun fd =>
    eachEntry_within handles (executeBody_within handles fd forkType)

theorem executeActions_within (forkType : ForkType) :
    Within (fun s t => R s.2 t.2) (executeActions forkType) := by
  rw [executeActions_eq]
  exact Within.bind handles.trans (performActions_within handles forkType) fun _ =>
    syncFdState_within handles

theorem overrideAndClose_within : Within (fun s t => R s.2 t.2) overrideAndClose :=
  Within.bind handles.trans
    (eachEntry_within handles fun s => overrideAndClose_entry_within handles s.1 s.2)
    fun _ => syncFdState_within handles

theorem resetForSubspecies_within : Within (fun s t => R s.2 t.2) resetForSubspecies := by
  refine Within.bind handles.trans (executeActions_within handles _) fun _ => ?_
  refine Within.bind handles.trans (registerNew_within handles) fun _ => ?_
  exact .reading fun s t => audit_within handles s.1 t.2

end FileDescriptorRegistry
end within
end Zygote
