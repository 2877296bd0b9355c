import Zygote.FileDescriptors.Audit
import Zygote.FileDescriptors.Privacy

/-!
# What the actions make of each descriptor

An audited registry without marks has one entry for each open descriptor. Every entry
then gets what its action says, whatever the loop opens and closes on the way.
-/
namespace Zygote
open Effect Descriptors Ascending

section flags

/-- `O_ACCMODE` -/
def accessModeMask : Flags := 0x3

variable (flags fsFlagsOpen fsFlagsRest : Flags)

/-- `F_SETFL` leaves the access mode as `open` made it. -/
theorem setflStatus_accessMode (old : Flags) :
    setflStatus flags old &&& accessModeMask = old &&& accessModeMask := by
  have outside : setflMask &&& accessModeMask = 0 := by decide
  have inside : ~~~setflMask &&& accessModeMask = accessModeMask := by decide
  rw [setflStatus, BitVec.and_or_distrib_right, BitVec.and_assoc, outside, BitVec.and_assoc, inside]
  simp

theorem openStatus_accessMode : openStatus flags &&& accessModeMask = flags &&& accessModeMask := by
  have outside : oLargefile &&& accessModeMask = 0 := by decide
  have inside : ~~~(creationFlags ||| oCloexec) &&& accessModeMask = accessModeMask := by decide
  rw [openStatus, BitVec.and_or_distrib_right, BitVec.and_assoc, outside, inside]
  simp

theorem setflStatus_settable (old : Flags) :
    setflStatus flags old &&& setflMask = flags &&& setflMask := by
  rw [setflStatus, BitVec.and_or_distrib_right, BitVec.and_assoc, BitVec.and_self,
    BitVec.and_assoc, BitVec.and_comm (~~~setflMask)]
  simp

end flags

namespace FileDescriptorEntry

/-- The entry's number refers to a new description of the recorded path, with the access
mode, the flags `F_SETFL` can change and the close-on-exec flag on record. `position` is
what holds of the description and the recorded offset. -/
def Reopened (position : OpenFile → Int → Prop) (w w' : World) (entry : FileDescriptorEntry) :
    Prop :=
  ∃ dev inode path fdFlags fsFlagsOpen fsFlagsRest offset text clock f file,
    entry.info = .file dev inode path fdFlags fsFlagsOpen fsFlagsRest offset ∧
    path.asCStr = some text ∧ w.env.resolve clock text = .ok f ∧ w.fds.next ≤ file ∧
    w'.fds.slot entry.fd = some ⟨file, fdFlags &&& fdCloexec = fdCloexec⟩ ∧
    (w'.fds.file file).stat = f.stat ∧ (w'.fds.file file).link = f.link ∧
    (w'.fds.file file).status &&& accessModeMask = fsFlagsOpen &&& accessModeMask ∧
    (w'.fds.file file).status &&& setflMask = fsFlagsRest &&& setflMask ∧
    position (w'.fds.file file) offset

/-- What the entry's action is for. `null` is the description of the null device. -/
def Realized (position : OpenFile → Int → Prop) (forkType : ForkType) (null : Nat) (w w' : World)
    (entry : FileDescriptorEntry) : Prop :=
  match entry.action, forkType with
  | .close, _ | .closeUnlessSpawnSubspecies, .application => w'.fds.slot entry.fd = none
  | .closeUnlessSpawnSubspecies, .subspecies | .ignore, _ =>
      w.fds.isOpen entry.fd = true ∧ w'.fds.slot entry.fd = w.fds.slot entry.fd
  | .dupeNull, _ => w'.fds.slot entry.fd = some ⟨null, true⟩
  | .reopen, _ => entry.Reopened position w w'

/-- A description that can be moved is at the recorded offset. One that answers `lseek`
without moving is where `open` put it. -/
def Positioned (g : OpenFile) (offset : Int) : Prop :=
  g.offset = if g.seek = .moves then offset else 0

theorem Result.reopens {devNullFd : RawFd} {entry : FileDescriptorEntry} {w u w' : World}
    {touched : RawFd → Prop} (frame : w.Frame u touched) (h : Result devNullFd entry u w')
    (action : entry.action = .reopen) : entry.Reopened Positioned w w' := by
  simp only [Result, action] at h
  obtain ⟨dev, inode, path, fdFlags, fsFlagsOpen, fsFlagsRest, offset, text, clock, f, file, info,
    htext, hf, fresh, -, slot, contents⟩ := h
  refine ⟨dev, inode, path, fdFlags, fsFlagsOpen, fsFlagsRest, offset, text, clock, f, file, info,
    htext, frame.env ▸ hf, frame.fds.next.trans fresh, slot, ?_, ?_, ?_, ?_, ?_⟩
  · rw [contents]
    rfl
  · rw [contents]
    rfl
  · rw [contents, reopened, setflStatus_accessMode, openStatus_accessMode]
  · rw [contents, reopened, setflStatus_settable]
  · rw [contents, Positioned, reopened]

/-- It is about the number of the entry and the descriptions alone. -/
theorem Realized.congr {position : OpenFile → Int → Prop} {forkType : ForkType} {null : Nat}
    {w v w' : World} {entry : FileDescriptorEntry} (h : entry.Realized position forkType null w v)
    (slot : w'.fds.slot entry.fd = v.fds.slot entry.fd) (file : w'.fds.file = v.fds.file) :
    entry.Realized position forkType null w w' := by
  unfold Realized Reopened at *
  rwa [slot, file]

theorem closed_of_unexecuted {entry : FileDescriptorEntry} (fresh : entry.executed = false) :
    entry.closed = false := by
  unfold closed
  cases entry.action <;> simp [fresh]

end FileDescriptorEntry

namespace FileDescriptorRegistry
open FileDescriptorEntry (mark pending Result Realized Positioned)
variable {registry after : FileDescriptorRegistry} {w w' : World} {forkType : ForkType}

theorem live_of_unexecuted (fresh : registry.Unexecuted) : registry.live = registry.data.toList := by
  refine List.filter_eq_self.mpr fun entry mem => ?_
  rw [FileDescriptorEntry.closed_of_unexecuted (fresh entry mem), Bool.not_false]

/-- The listing ascends, so an audited registry without marks does. -/
theorem ordered_of_audited (fresh : registry.Unexecuted) (audited : (registry.audit w).1 = .ok ()) :
    registry.Ordered := by
  have agrees := (matches_of_audited audited).1
  rw [live_of_unexecuted fresh, World.note_toTables] at agrees
  have ascends : Ascends id (registry.data.toList.map byFd) := agrees ▸ Table.numbers_ascends
  exact List.pairwise_map.mp ascends

theorem isOpen_of_audited (fresh : registry.Unexecuted) (audited : (registry.audit w).1 = .ok ())
    {entry : FileDescriptorEntry} (mem : entry ∈ registry.data.toList) :
    w.fds.isOpen entry.fd = true :=
  (matches_of_audited audited).live_iff.mp
    ⟨entry, mem, rfl, FileDescriptorEntry.closed_of_unexecuted (fresh entry mem)⟩

/-- Every entry's descriptor is as its action says, or is lost and closed. The null device is a
description that this call opened; and wherever the loop stands, the execution of an entry leaves
the other numbers and every description there was as they are. -/
def Realizes (position : OpenFile → Int → Prop) (lost : RawFd → Prop) (forkType : ForkType)
    (registry : FileDescriptorRegistry) (w w' : World) : Prop :=
  (∃ f, w.env.resolve w.clock devNullPath = .ok f ∧ w'.fds.file w.fds.next = nullFile f) ∧
  (∀ entry ∈ registry.data.toList, entry.Realized position forkType w.fds.next w w' ∨
    lost entry.fd ∧ w'.fds.slot entry.fd = none) ∧
  ∀ entry ∈ registry.data.toList, ∀ devNullFd u v b marked,
    FileDescriptorEntry.execute devNullFd forkType (entry, u) = (.ok b, marked, v) →
      u.Frame v (· = entry.fd)

/-- The loop loses nothing. -/
theorem performActions_realizes (fresh : registry.Unexecuted)
    (audited : (registry.audit w).1 = .ok ())
    (h : performActions forkType (registry, w) = (.ok (), after, w')) :
    registry.Realizes Positioned (fun _ => False) forkType w w' := by
  have ordered := ordered_of_audited fresh audited
  obtain ⟨n, f, acted⟩ := performActions_ok ordered h
  have untouched : ¬Touched forkType registry.data.toList n := by
    rintro ⟨entry, mem, -, rfl⟩
    have opened := isOpen_of_audited fresh audited mem
    rw [Table.isOpen, (w.fds.lowestFree_spec acted.lowest).2] at opened
    cases opened
  refine ⟨⟨f, acted.resolves, acted.contents⟩, fun entry mem => .inl ?_, ?_⟩
  · have opened := isOpen_of_audited fresh audited mem
    have kept : entry.pending forkType = false →
        w.fds.isOpen entry.fd = true ∧ w'.fds.slot entry.fd = w.fds.slot entry.fd :=
      fun idle => ⟨opened, acted.idle_slot ordered mem idle opened⟩
    have acts := acted.results entry mem
    unfold Realized
    split
    · next action =>
      obtain ⟨u, -, -, result⟩ := acts (by simp [pending, action, fresh entry mem])
      simpa only [Result, action] using result
    · next action =>
      obtain ⟨u, -, -, result⟩ := acts (by simp [pending, action, fresh entry mem])
      simpa only [Result, action] using result
    · next action => exact kept (by simp [pending, action])
    · next action => exact kept (by simp [pending, action])
    · next action =>
      obtain ⟨u, -, null, result⟩ := acts (by simp [pending, action, fresh entry mem])
      simp only [Result, action] at result
      obtain ⟨s, hs, slot⟩ := result
      obtain rfl : s = ⟨w.fds.next, true⟩ := Option.some.inj (hs.symm.trans (null untouched))
      exact slot
    · next action =>
      obtain ⟨u, frame, -, result⟩ := acts (by simp [pending, action, fresh entry mem])
      exact FileDescriptorEntry.Result.reopens frame result action
  · intro entry mem devNullFd u v b marked run
    obtain ⟨-, idle, active⟩ := FileDescriptorEntry.execute_ok run
    cases p : entry.pending forkType with
    | false => exact idle p ▸ .refl _ _
    | true => exact (active p).1

theorem executeActions_realizes (fresh : registry.Unexecuted)
    (audited : (registry.audit w).1 = .ok ())
    (h : executeActions forkType (registry, w) = (.ok (), after, w')) :
    registry.Realizes Positioned w.env.Syncs forkType w w' := by
  obtain ⟨v, performed, synced⟩ := executeActions_synced h
  obtain ⟨⟨f, resolves, null⟩, realized, apart⟩ := performActions_realizes fresh audited performed
  obtain ⟨n, g, acted⟩ := performActions_ok (ordered_of_audited fresh audited) performed
  refine ⟨⟨f, resolves, by rw [synced.file, null]⟩, fun entry mem => ?_, apart⟩
  rcases synced.slot entry.fd with same | ⟨gone, listed⟩
  · exact .inl (((realized entry mem).resolve_right fun lost => lost.1).congr same synced.file)
  · exact .inr ⟨⟨v.clock, acted.frame.env ▸ listed⟩, gone⟩

theorem executeActions_realizes_settled :
    let result := executeActions .application (settled, tidy)
    settled.Realizes Positioned tidy.env.Syncs .application tidy result.2.2 :=
  executeActions_realizes (by unfold Unexecuted; decide) (by decide) rfl

/-- A log file that has been written to. -/
def journal : OpenFile where
  stat := ⟨sIfreg, 1, 12⟩
  link := "/data/journal".toUTF8.data.toList
  status := oWronly ||| oLargefile
  seek := .moves
  offset := 7

/-- The log file is open as 5; since then the null device was mounted over its path. -/
def masked : World :=
  .boot { Env.calm with resolve := fun _ _ => .ok .null } (stdio ++ [(5, journal)])

def maskedRegistry : FileDescriptorRegistry := (register 5 .reopen (booted masked, masked)).2.1

def maskedChild : World := (executeActions .application (maskedRegistry, masked)).2.2

/-- The null device takes the seek to the recorded offset and stays at its beginning. -/
theorem reopened_unpositioned :
    ¬∀ (registry after : FileDescriptorRegistry) (w w' : World) (forkType : ForkType),
      registry.Unexecuted → (registry.audit w).1 = .ok () →
      executeActions forkType (registry, w) = (.ok (), after, w') →
      registry.Realizes (fun g offset => g.offset = offset) (fun _ => False) forkType w w' := by
  intro claim
  have realizes := claim maskedRegistry _ masked maskedChild .application
    (by unfold Unexecuted; decide) (by decide) rfl
  have entry : FileDescriptorEntry.new 5 (.ofFile journal false) .reopen ∈
      maskedRegistry.data.toList := by decide
  obtain ⟨_, _, _, _, _, _, offset, _, _, _, file, info, -, -, -, slot, -, -, -, -, position⟩ :=
    (realizes.2.1 _ entry).resolve_right fun lost => lost.1
  have recorded : 7 = offset := (FileDescriptorInfo.file.inj info).2.2.2.2.2.2
  have behind : maskedChild.fds.contents 5 =
      some { OpenFile.null with status := oWronly ||| oLargefile } := by decide
  have slot : maskedChild.fds.slot 5 = _ := slot
  rw [Table.contents, slot] at behind
  have start : (maskedChild.fds.file file).offset = 0 :=
    congrArg OpenFile.offset (Option.some.inj behind)
  rw [position, ← recorded] at start
  cases start

/-- The logging device of a library, which the species closes. -/
def logger : OpenFile where
  stat := ⟨sIfchr, 1, 5⟩
  link := "/dev/pmsg0".toUTF8.data.toList
  status := oWronly ||| oLargefile

def logging : World := .boot { Env.calm with synced := fun _ => [5] } (stdio ++ [(5, logger)])

def loggingRegistry : FileDescriptorRegistry := (register 5 .ignore (booted logging, logging)).2.1

/-- What is registered to be ignored is closed all the same. -/
theorem ignored_closed :
    ¬∀ (registry after : FileDescriptorRegistry) (w w' : World) (forkType : ForkType),
      registry.Unexecuted → (registry.audit w).1 = .ok () →
      executeActions forkType (registry, w) = (.ok (), after, w') →
      registry.Realizes Positioned (fun _ => False) forkType w w' := by
  intro claim
  have realizes := claim loggingRegistry _ logging _ .application
    (by unfold Unexecuted; decide) (by decide) rfl
  have entry : FileDescriptorEntry.new 5 (.ofFile logger false) .ignore ∈
      loggingRegistry.data.toList := by decide
  obtain ⟨-, kept⟩ := (realizes.2.1 _ entry).resolve_right fun lost => lost.1
  revert kept
  decide

end FileDescriptorRegistry
end Zygote
