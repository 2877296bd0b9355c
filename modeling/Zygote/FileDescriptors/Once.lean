import Zygote.FileDescriptors.Execute

/-!
# Executing an entry again and again

Later generations execute the same entry, and so does whoever tries again after a failure.
Every call finds the entry the calls before it left, in whatever world it is made.
-/
namespace Zygote
open Effect

namespace FileDescriptorEntry
variable {entry : FileDescriptorEntry} {devNullFd : RawFd} {forkType : ForkType} {w : World}

/-- Reopening up to the call that puts the new description behind the entry's number. The
temporary descriptor it returns is still open. -/
def replace (fd : RawFd) (path : CStringBuffer) (fdFlags fsFlagsOpen fsFlagsRest : Flags)
    (offset : Int) : Prog World FileDescriptorEntryError RawFd := do
  let pathCStr ← Prog.lift (Outcome.ofOption .invalidCString path.asCStr)
  let newFd ← (openFd pathCStr fsFlagsOpen).mapErr (.openFailure pathCStr)
  (fcntlSetfd newFd fdFlags).mapErr (.setFdFlagsFailure newFd pathCStr fdFlags)
  (fcntlSetfl newFd fsFlagsRest).mapErr (.setFdStatusFlagsFailure newFd pathCStr fsFlagsRest)
  (lseekSet newFd offset).mapErr (.seekFailure newFd pathCStr offset)
  let dupFlags := if fdFlags &&& fdCloexec = fdCloexec then oCloexec else 0
  (dup3 newFd fd dupFlags).mapErr (.dupFailed fd newFd pathCStr)
  pure newFd

theorem reopen_eq (fd : RawFd) (path : CStringBuffer) (fdFlags fsFlagsOpen fsFlagsRest : Flags)
    (offset : Int) : reopen fd path fdFlags fsFlagsOpen fsFlagsRest offset =
      replace fd path fdFlags fsFlagsOpen fsFlagsRest offset >>= fun newFd =>
        (close newFd).mapErr (.closeFailed fd) := by
  unfold reopen replace
  simp only [Prog.bind_assoc]
  rfl

/-- The calls an execution makes up to the one on the entry's own descriptor, if it makes
any, and the temporary descriptor they leave to be closed. -/
def ownCalls (devNullFd : RawFd) (forkType : ForkType) (entry : FileDescriptorEntry) :
    Option (Prog World FileDescriptorEntryError (Option RawFd)) :=
  if entry.executed then none
  else match entry.action, forkType, entry.info with
    | .close, _, _ | .closeUnlessSpawnSubspecies, .application, _ => some do
        (close entry.fd).mapErr (.closeFailed entry.fd)
        pure none
    | .dupeNull, _, _ => some do
        (dup3 devNullFd entry.fd oCloexec).mapErr (.dupNullFailed entry.fd)
        pure none
    | .reopen, _, .file _ _ path fdFlags fsFlagsOpen fsFlagsRest offset => some do
        let newFd ← replace entry.fd path fdFlags fsFlagsOpen fsFlagsRest offset
        pure (some newFd)
    | _, _, _ => none

def Completes (devNullFd : RawFd) (forkType : ForkType) (entry : FileDescriptorEntry)
    (w : World) : Prop :=
  ∃ calls, ownCalls devNullFd forkType entry = some calls ∧ (calls w).1.isOk = true

/-- The kernel refuses to close the temporary descriptor of an action that took effect. -/
def Strands (devNullFd : RawFd) (forkType : ForkType) (entry : FileDescriptorEntry)
    (w : World) : Prop :=
  ∃ calls newFd w', ownCalls devNullFd forkType entry = some calls ∧
    calls w = (.ok (some newFd), w') ∧ w'.env.fault w'.clock (.close newFd) ≠ none

def finish (fd : RawFd) : Option RawFd → Prog World FileDescriptorEntryError Bool
  | none => pure true
  | some newFd => do
      (close newFd).mapErr (.closeFailed fd)
      pure true

theorem perform_of_ownCalls {calls : Prog World FileDescriptorEntryError (Option RawFd)}
    (own : ownCalls devNullFd forkType entry = some calls) :
    perform devNullFd forkType entry = calls >>= finish entry.fd := by
  unfold ownCalls at own
  unfold perform
  split at own
  · cases own
  · split at own
    · next close => cases own; simp only [close, Prog.bind_assoc]; rfl
    · next close => cases own; simp only [close, Prog.bind_assoc]; rfl
    · next dupe => cases own; simp only [dupe, Prog.bind_assoc]; rfl
    · next reopen info =>
      cases own
      simp only [reopen, info, reopen_eq, Prog.bind_assoc]
      rfl
    · cases own

theorem perform_of_no_calls (fresh : entry.executed = false)
    (none : ownCalls devNullFd forkType entry = none) :
    (perform devNullFd forkType entry w).1 ≠ .ok true := by
  intro h
  unfold ownCalls at none
  unfold perform at h
  rw [fresh] at none
  cases action : entry.action with
  | close => simp [action] at none
  | closeUnlessSpawnSubspecies =>
      cases forkType with
      | application => simp [action] at none
      | subspecies => simp [action, Prog.pure_apply] at h
  | dupeNull => simp [action] at none
  | ignore => simp [action, Prog.pure_apply] at h
  | reopen =>
      cases info : entry.info with
      | file => simp [action, info] at none
      | boundSocket | connectedSocket | epollFd | fifo | signalFd =>
          simp [action, info, Prog.panic] at h

theorem isOpen_of_ownCalls {calls : Prog World FileDescriptorEntryError (Option RawFd)}
    {newFd : RawFd} {w' : World} (own : ownCalls devNullFd forkType entry = some calls)
    (run : calls w = (.ok (some newFd), w')) : w'.fds.isOpen newFd = true := by
  have plain : ∀ {p : Prog World FileDescriptorEntryError Unit},
      (p >>= fun _ => pure none) w ≠ (.ok (some newFd), w') := by
    intro p h
    obtain ⟨_, u, -, last⟩ := Prog.bind_eq_ok.mp h
    cases last
  unfold ownCalls at own
  split at own
  · cases own
  · split at own
    · cases own; exact absurd run plain
    · cases own; exact absurd run plain
    · cases own; exact absurd run plain
    · next path fdFlags fsFlagsOpen fsFlagsRest offset _ _ =>
      cases own
      obtain ⟨temporary, u, replaced, last⟩ := Prog.bind_eq_ok.mp run
      cases last
      obtain ⟨_, w₀, -, h₁⟩ := Prog.bind_eq_ok.mp replaced
      obtain ⟨_, w₁, -, h₂⟩ := Prog.bind_eq_ok.mp h₁
      obtain ⟨_, w₂, -, h₃⟩ := Prog.bind_eq_ok.mp h₂
      obtain ⟨_, w₃, -, h₄⟩ := Prog.bind_eq_ok.mp h₃
      obtain ⟨_, w₄, -, h₅⟩ := Prog.bind_eq_ok.mp h₄
      obtain ⟨_, w₅, moved, last⟩ := Prog.bind_eq_ok.mp h₅
      cases last
      obtain ⟨-, apart, -, -, s, held, slot⟩ := dup3_effect (Prog.mapErr_eq_ok.mp moved)
      rw [Descriptors.Table.isOpen, slot, if_neg apart, held]
      rfl
    · cases own

/-- An entry that is new says `true` of the executions in which its action took effect,
but for those that fail afterwards. -/
theorem execute_true_iff (fresh : entry.executed = false) :
    (execute devNullFd forkType (entry, w)).1 = .ok true ↔
      Completes devNullFd forkType entry w ∧ ¬Strands devNullFd forkType entry w := by
  have performs : (execute devNullFd forkType (entry, w)).1 = .ok true ↔
      (perform devNullFd forkType entry w).1 = .ok true := by
    simp only [execute, fresh, Bool.false_eq_true, if_false]
    split <;> next run => simp [run]
  rw [performs]
  cases own : ownCalls devNullFd forkType entry with
  | none =>
      have idle := perform_of_no_calls (w := w) fresh own
      refine iff_of_false idle ?_
      rintro ⟨⟨calls, some, -⟩, -⟩
      rw [own] at some
      cases some
  | some calls =>
      rw [perform_of_ownCalls own, Prog.bind_apply]
      have completes : Completes devNullFd forkType entry w ↔ (calls w).1.isOk = true := by
        simp only [Completes, own, Option.some.injEq, exists_eq_left']
      have strands : Strands devNullFd forkType entry w ↔ ∃ newFd w',
          calls w = (.ok (some newFd), w') ∧ w'.env.fault w'.clock (.close newFd) ≠ none := by
        simp only [Strands, own, Option.some.injEq, exists_and_left, exists_eq_left']
      rw [completes, strands]
      rcases run : calls w with ⟨value | error | reason, w'⟩
      · cases value with
        | none => simp [finish, Prog.pure_apply]
        | some newFd =>
            have opened := isOpen_of_ownCalls own run
            simp only [finish, Prog.bind_apply, Prog.mapErr, close, opened, if_true]
            cases fault : w'.env.fault w'.clock (.close newFd) with
            | none => simp [Outcome.mapErr, Prog.pure_apply, fault]
            | some errno => simp [Outcome.mapErr, fault]
      · simp
      · simp

theorem execute_executed :
    (execute devNullFd forkType (entry, w)).2.1.executed = true ↔
      (execute devNullFd forkType (entry, w)).1 = .ok true := by
  simp only [execute]
  cases executed : entry.executed with
  | true => simp [executed]
  | false =>
      simp only [Bool.false_eq_true, if_false]
      split <;> simp [executed]

structure Turn where
  devNullFd : RawFd
  forkType : ForkType
  world : World

structure Visit extends Turn where
  entry : FileDescriptorEntry

namespace Visit

def reply (visit : Visit) : Outcome FileDescriptorEntryError Bool :=
  (execute visit.devNullFd visit.forkType (visit.entry, visit.world)).1

def entryAfter (visit : Visit) : FileDescriptorEntry :=
  (execute visit.devNullFd visit.forkType (visit.entry, visit.world)).2.1

def worldAfter (visit : Visit) : World :=
  (execute visit.devNullFd visit.forkType (visit.entry, visit.world)).2.2

def Completes (visit : Visit) : Prop :=
  FileDescriptorEntry.Completes visit.devNullFd visit.forkType visit.entry visit.world

def Strands (visit : Visit) : Prop :=
  FileDescriptorEntry.Strands visit.devNullFd visit.forkType visit.entry visit.world

/-- The call makes no kernel call and says that it did nothing. -/
def Silent (visit : Visit) : Prop :=
  visit.reply = .ok false ∧ visit.worldAfter = visit.world

/-- The entry is not done yet, and a temporary descriptor can be closed. -/
def Sound (visit : Visit) : Prop := visit.entry.executed = false ∧ ¬visit.Strands

end Visit

def visits (entry : FileDescriptorEntry) : List Turn → List Visit
  | [] => []
  | turn :: rest => ⟨turn, entry⟩ :: visits (Visit.mk turn entry).entryAfter rest

/-- The action takes effect once at the most, the calls report it, and nothing follows. -/
structure Once (calls : List Visit) : Prop where
  single : calls.Pairwise fun first later => ¬(first.Completes ∧ later.Completes)
  reported : ∀ visit ∈ calls, visit.reply = .ok true ↔ visit.Completes
  silent : calls.Pairwise fun first later => first.Completes → later.Silent

theorem not_completes_of_executed (executed : entry.executed = true) :
    ¬Completes devNullFd forkType entry w := by
  rintro ⟨calls, own, -⟩
  simp [ownCalls, executed] at own

theorem Visit.reported_iff (visit : Visit) :
    (visit.reply = .ok true ↔ visit.Completes) ↔ visit.Sound := by
  cases executed : visit.entry.executed with
  | true =>
      have replies : visit.reply = .ok true := by
        rw [Visit.reply, ← execute_executed]
        simp only [execute, executed, if_true]
      have idle : ¬visit.Completes := not_completes_of_executed executed
      simp [replies, idle, Visit.Sound, executed]
  | false =>
      have replies : visit.reply = .ok true ↔ visit.Completes ∧ ¬visit.Strands :=
        execute_true_iff executed
      have within : visit.Strands → visit.Completes := by
        rintro ⟨calls, newFd, w', own, run, -⟩
        exact ⟨calls, own, by rw [run]; rfl⟩
      rw [replies, Visit.Sound]
      simp only [executed, true_and]
      tauto

/-- The entry a call finds was left by the call before it, so nothing sound follows a call
that completed the action. -/
theorem visits_of_executed {turns : List Turn} (executed : entry.executed = true)
    (sound : ∀ visit ∈ visits entry turns, visit.Sound) : visits entry turns = [] := by
  cases turns with
  | nil => rfl
  | cons turn rest =>
      have fresh := (sound ⟨turn, entry⟩ List.mem_cons_self).1
      rw [executed] at fresh
      cases fresh

theorem once_of_sound {turns : List Turn} (sound : ∀ visit ∈ visits entry turns, visit.Sound) :
    Once (visits entry turns) := by
  induction turns generalizing entry with
  | nil => exact ⟨.nil, List.forall_mem_nil _, .nil⟩
  | cons turn rest ih =>
      obtain ⟨head, tail⟩ := List.forall_mem_cons.mp sound
      obtain ⟨single, reported, silent⟩ := ih tail
      have last : (Visit.mk turn entry).Completes →
          visits (Visit.mk turn entry).entryAfter rest = [] := by
        intro completes
        refine visits_of_executed ?_ tail
        exact execute_executed.mpr ((Visit.reported_iff _).mpr head |>.mpr completes)
      refine ⟨.cons (fun later mem both => ?_) single, ?_,
        .cons (fun later mem completes => ?_) silent⟩
      · rw [last both.1] at mem
        cases mem
      · exact List.forall_mem_cons.mpr ⟨(Visit.reported_iff _).mpr head, reported⟩
      · rw [last completes] at mem
        cases mem

/-- The calls keep to the rule exactly as long as the entry is not done: once it is, every
further call says `true` again. -/
theorem once_iff (entry : FileDescriptorEntry) (turns : List Turn) :
    Once (visits entry turns) ↔ ∀ visit ∈ visits entry turns, visit.Sound :=
  ⟨fun once visit mem => visit.reported_iff.mp (once.reported visit mem), once_of_sound⟩

/-- A pipe that is closed for one application and found closed for the next. -/
theorem not_once : ¬∀ entry turns, Once (visits entry turns) := by
  intro claim
  let opened : Visit :=
    ⟨⟨3, .application, .boot .calm (stdio ++ [(5, .pipe)])⟩, new 5 .fifo .close⟩
  let closed : Visit := ⟨⟨3, .application, opened.worldAfter⟩, opened.entryAfter⟩
  have executed : closed.entry.executed = true := by decide +kernel
  have replied : closed.reply = .ok true := by decide +kernel
  have reported := (claim opened.entry [opened.toTurn, closed.toTurn]).reported closed (by
    rw [visits, visits]
    exact List.mem_cons_of_mem _ List.mem_cons_self)
  exact not_completes_of_executed executed (reported.mp replied)

end FileDescriptorEntry
end Zygote
