import Mathlib.Data.List.InsertIdx
import Zygote.FileDescriptors.Coverage
import Zygote.FileDescriptors.Progress

/-!
# Files that cannot be reopened

A file without a position is recorded at offset 0, and reopening it seeks to that offset.
-/
namespace Zygote
open Effect Descriptors

/-- `lseek` takes the file to the offset, or leaves it where it is without an error. -/
def OpenFile.Seeks (f : OpenFile) (offset : Int) : Prop :=
  f.seek ≠ .refuses ∧ (f.seek = .moves → 0 ≤ offset)

theorem lseekSet_isOk_iff {fd : RawFd} {offset : Int} {f : OpenFile} {w : World}
    (faultless : w.env.fault w.clock (.lseek fd offset) = none)
    (contents : w.fds.contents fd = some f) :
    (lseekSet fd offset w).1.isOk = true ↔ f.Seeks offset := by
  simp only [lseekSet, onOpen, attempt, faultless, contents, OpenFile.Seeks]
  cases f.seek with
  | refuses => simp
  | stays => simp
  | moves =>
      by_cases negative : offset < 0
      · simp [negative]
      · simp [negative, not_lt.mp negative]

namespace FileDescriptorRegistry
variable {entry : FileDescriptorEntry}

/-- A file or character device that `register` or `register_new` has just accepted with the
`Reopen` action. -/
def Accepted (entry : FileDescriptorEntry) : Prop :=
  ∃ registry world after world',
    (register entry.fd .reopen (registry, world) = (.ok (), after, world') ∨
      registerNew (registry, world) = (.ok (), after, world')) ∧
    entry ∉ registry.data.toList ∧ entry ∈ after.data.toList ∧
    entry.action = .reopen ∧ entry.info.isFile = true

theorem Accepted.fresh (accepted : Accepted entry) : entry.executed = false := by
  obtain ⟨registry, world, after, world', registered | registered, new, mem, -⟩ := accepted
  · simp only [register] at registered
    split at registered
    · next data made =>
      cases registered
      obtain ⟨info, -, ⟨i, old, -, -, -, set⟩ | ⟨i, -, -, inserted⟩⟩ := registerData_ok made
      · simp only [withData, set] at mem
        rcases List.mem_or_eq_of_mem_set mem with old | current
        · exact absurd old new
        · rw [current]
          rfl
      · simp only [withData, inserted] at mem
        rcases List.eq_or_mem_of_mem_insertIdx mem with current | old
        · rw [current]
          rfl
        · exact absurd old new
    · cases registered
    · cases registered
  · obtain ⟨-, entries, -⟩ := registerNew_ok registered
    rcases (entries entry).mp mem with old | ⟨fd, -, made⟩
    · exact absurd old new
    · obtain ⟨info, action, -, -, rfl⟩ := entryFor_ok made
      rfl

end FileDescriptorRegistry

namespace FileDescriptorEntry
open FileDescriptorRegistry (Accepted booted tidy)
variable {entry : FileDescriptorEntry} {w : World} {dev inode : Nat} {path : CStringBuffer}
  {fdFlags fsFlagsOpen fsFlagsRest : Flags} {offset : Int} {f : OpenFile}

/-- Opening the path finds the file, and none of the calls of a reopening fails, what the
file itself says to `lseek` left open. -/
def Granted (fd : RawFd) (path : CStringBuffer) (fdFlags fsFlagsOpen fsFlagsRest : Flags)
    (offset : Int) (f : OpenFile) (w : World) : Prop :=
  ∃ text newFd w₁ w₂ w₃ w₅ w₆, path.asCStr = some text ∧ w.env.resolve w.clock text = .ok f ∧
    openFd text fsFlagsOpen w = (.ok newFd, w₁) ∧
    fcntlSetfd newFd fdFlags w₁ = (.ok (), w₂) ∧
    fcntlSetfl newFd fsFlagsRest w₂ = (.ok (), w₃) ∧
    w₃.env.fault w₃.clock (.lseek newFd offset) = none ∧
    dup3 newFd fd (if fdFlags &&& fdCloexec = fdCloexec then oCloexec else 0)
      (lseekSet newFd offset w₃).2 = (.ok (), w₅) ∧
    close newFd w₅ = (.ok (), w₆)

/-- With everything else granted, a reopening is its seek. -/
theorem reopen_isOk_iff {fd : RawFd}
    (granted : Granted fd path fdFlags fsFlagsOpen fsFlagsRest offset f w) :
    (reopen fd path fdFlags fsFlagsOpen fsFlagsRest offset w).1.isOk = true ↔ f.Seeks offset := by
  obtain ⟨text, newFd, w₁, w₂, w₃, w₅, w₆, htext, resolves, hopen, hsetfd, hsetfl, faultless, hdup,
    hclose⟩ := granted
  have start : Prog.lift (Outcome.ofOption FileDescriptorEntryError.invalidCString path.asCStr) w =
      (.ok text, w) := by
    rw [htext]
    rfl
  obtain ⟨g, contents, seek⟩ := contents_of_opened resolves hopen hsetfd hsetfl
  have seeks : f.Seeks offset ↔ (lseekSet newFd offset w₃).1.isOk = true := by
    rw [lseekSet_isOk_iff faultless contents, OpenFile.Seeks, OpenFile.Seeks, seek]
  rw [seeks, reopen, Prog.bind_of_ok start, Prog.bind_of_ok (Prog.mapErr_eq_ok.mpr hopen),
    Prog.bind_of_ok (Prog.mapErr_eq_ok.mpr hsetfd), Prog.bind_of_ok (Prog.mapErr_eq_ok.mpr hsetfl)]
  rcases sought : lseekSet newFd offset w₃ with ⟨_ | error | reason, w₄⟩
  · rw [sought] at hdup
    rw [Prog.bind_of_ok (Prog.mapErr_eq_ok.mpr sought),
      Prog.bind_of_ok (Prog.mapErr_eq_ok.mpr hdup), Prog.mapErr_eq_ok.mpr hclose]
    simp
  · simp [Prog.bind_apply, Prog.mapErr, sought, Outcome.mapErr]
  · simp [Prog.bind_apply, Prog.mapErr, sought, Outcome.mapErr]

/-- What was accepted to be reopened is reopened exactly when it can be moved to the recorded
offset: nothing looks at that before. -/
theorem accepted_reopens_iff (accepted : Accepted entry)
    (info : entry.info = .file dev inode path fdFlags fsFlagsOpen fsFlagsRest offset)
    (granted : Granted entry.fd path fdFlags fsFlagsOpen fsFlagsRest offset f w)
    (devNullFd : RawFd) (forkType : ForkType) :
    (execute devNullFd forkType (entry, w)).1.isOk = true ↔ f.Seeks offset := by
  have fresh := accepted.fresh
  obtain ⟨-, -, -, -, -, -, -, action, -⟩ := accepted
  rw [← reopen_isOk_iff granted]
  simp only [execute, fresh, Bool.false_eq_true, if_false, perform, action, info, Prog.bind_apply]
  rcases reopen entry.fd path fdFlags fsFlagsOpen fsFlagsRest offset w with ⟨_ | error | reason, w'⟩
  · simp [Prog.pure_apply]
  · simp
  · simp

/-- The random device in a process that has just started. -/
def urandomEntry : FileDescriptorEntry := new 5 (.ofFile .urandom false) .reopen

theorem accepted_reopens_urandom :
    (execute 4 .application (urandomEntry, tidy)).1.isOk = true ↔ OpenFile.urandom.Seeks 0 := by
  have accepted : Accepted urandomEntry := by
    refine ⟨booted tidy, tidy, _, _, .inr rfl, ?_, ?_, rfl, rfl⟩
    · decide +kernel
    · decide +kernel
  have granted : Granted 5 OpenFile.urandom.link 0 oRdonly oLargefile 0 .urandom tidy :=
    ⟨_, 3, _, _, _, _, _, rfl, rfl, rfl, rfl, rfl, rfl, rfl, rfl⟩
  exact accepted_reopens_iff accepted rfl granted 4 .application

/-- A terminal: a character device without a position. -/
def tty : OpenFile := { OpenFile.device "/dev/tty" 5 oRdwr with seek := .refuses }

def terminal : World := .boot { Env.calm with resolve _ _ := .ok tty } (stdio ++ [(3, tty)])

/-- The terminal is registered like any other device, and cannot be sought. -/
theorem accepted_not_reopened :
    ¬∀ entry w dev inode path fdFlags fsFlagsOpen fsFlagsRest offset f devNullFd forkType,
      Accepted entry → entry.info = .file dev inode path fdFlags fsFlagsOpen fsFlagsRest offset →
      Granted entry.fd path fdFlags fsFlagsOpen fsFlagsRest offset f w →
      (execute devNullFd forkType (entry, w)).1.isOk = true := by
  intro claim
  have accepted : Accepted (new 3 (.ofFile tty false) .reopen) := by
    refine ⟨booted terminal, terminal, _, _, .inl rfl, ?_, ?_, rfl, rfl⟩
    · decide +kernel
    · decide +kernel
  have granted : Granted 3 tty.link 0 oRdwr oLargefile 0 tty terminal :=
    ⟨_, 4, _, _, _, _, _, rfl, rfl, rfl, rfl, rfl, rfl, rfl, rfl⟩
  have reopened := claim _ terminal _ _ _ _ _ _ _ _ 5 .application accepted rfl granted
  revert reopened
  decide +kernel

end FileDescriptorEntry
end Zygote
