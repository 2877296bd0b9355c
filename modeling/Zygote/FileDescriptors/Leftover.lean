import Zygote.FileDescriptors.Execute
import Zygote.FileDescriptors.Reopening

/-!
# What the actions leave open

The null device is opened for the actions and not closed again. Whatever ends them, its
descriptor stays unless an action happens to close it.
-/
namespace Zygote
open Effect Descriptors Ascending Prog

section failing
variable {w w' : World}

/-- Every call to come fails, a close that fails leaves its descriptor open, and the species
closes nothing. -/
structure Failing (w : World) : Prop where
  fault : ∀ clock call, w.clock ≤ clock → (w.env.fault clock call).isSome = true
  holds : w.env.closeReleases = false
  silent : ∀ clock, w.env.synced clock = []

/-- Where every call fails, nothing is opened or closed. -/
def Idle (w w' : World) : Prop := Failing w → Failing w' ∧ w'.toTables = w.toTables

theorem Failing.note (failing : Failing w) (call : Call) (made : Option RawFd) :
    Failing (w.note call made) :=
  ⟨fun clock call later => failing.fault clock call ((Nat.le_succ _).trans later), failing.holds,
    failing.silent⟩

theorem Failing.attempt {α : Type} (failing : Failing w) (call : Call)
    (act : World → Except Errno (α × Option RawFd × Tables)) :
    ∃ errno, attempt call act w = (.err errno, w.note call none) := by
  obtain ⟨errno, fault⟩ := Option.isSome_iff_exists.mp (failing.fault w.clock call (le_refl _))
  exact ⟨errno, by simp only [Zygote.attempt, fault]⟩

theorem Failing.close (failing : Failing w) (fd : RawFd) :
    ∃ errno, close fd w = (.err errno, w.note (.close fd) none) := by
  obtain ⟨errno, fault⟩ := Option.isSome_iff_exists.mp (failing.fault w.clock (.close fd) (le_refl _))
  unfold Zygote.close
  by_cases opened : w.fds.isOpen fd = true
  · exact ⟨errno, by simp [opened, fault, failing.holds]⟩
  · exact ⟨ebadf, by simp [opened]⟩

theorem Failing.mapErr {ε ε' α : Type} {p : Prog World ε α} (failed : ∃ e v, p w = (.err e, v))
    (f : ε → ε') : (p.mapErr f w).1.isErr = true := by
  obtain ⟨e, v, run⟩ := failed
  simp only [Prog.mapErr, run]
  rfl

theorem attempt_idle {α : Type} {call : Call} {act : World → Except Errno (α × Option RawFd × Tables)} :
    Within Idle (attempt call act) := by
  intro w failing
  obtain ⟨errno, run⟩ := failing.attempt call act
  rw [run]
  exact ⟨failing.note call none, rfl⟩

theorem idle_handles : Handles Idle where
  refl _ failing := ⟨failing, rfl⟩
  trans first second failing := by
    obtain ⟨failing, same⟩ := first failing
    obtain ⟨failing, same'⟩ := second failing
    exact ⟨failing, same'.trans same⟩
  openFd _ _ := attempt_idle
  close fd w failing := by
    obtain ⟨errno, run⟩ := failing.close fd
    rw [run]
    exact ⟨failing.note _ none, rfl⟩
  dup3 _ _ _ := attempt_idle
  fcntlSetfd _ _ := attempt_idle
  fcntlSetfl _ _ := attempt_idle
  lseekSet _ _ := attempt_idle
  procFdIterator := by
    intro w
    unfold procFdIterator
    split
    · exact fun failing => ⟨failing, rfl⟩
    · exact attempt_idle w

end failing

namespace FileDescriptorEntry
variable {entry : FileDescriptorEntry} {w : World} {forkType : ForkType} (devNullFd : RawFd)

/-- The first call of a pending action ends it. -/
theorem perform_failing (failing : Failing w) (pending : entry.pending forkType = true)
    (only : entry.FileOnly) : (perform devNullFd forkType entry w).1.isErr = true := by
  have closes : ((close entry.fd).mapErr (FileDescriptorEntryError.closeFailed entry.fd) w).1.isErr =
    true := by
    obtain ⟨errno, run⟩ := failing.close entry.fd
    exact Failing.mapErr ⟨errno, _, run⟩ _
  have attempts : ∀ {α : Type} {call : Call} {act : World → Except Errno (α × Option RawFd × Tables)}
      (f : Errno → FileDescriptorEntryError), ((attempt call act).mapErr f w).1.isErr = true := by
    intro α call act f
    obtain ⟨errno, run⟩ := failing.attempt call act
    exact Failing.mapErr ⟨errno, _, run⟩ f
  unfold perform
  cases action : entry.action with
  | close => exact bind_isErr closes _
  | closeUnlessSpawnSubspecies =>
      cases forkType with
      | application => exact bind_isErr closes _
      | subspecies => simp [FileDescriptorEntry.pending, action] at pending
  | dupeNull => exact bind_isErr (attempts _) _
  | ignore => simp [FileDescriptorEntry.pending, action] at pending
  | reopen =>
      have file := only action
      cases info : entry.info with
      | file dev ino path fdFlags fsFlagsOpen fsFlagsRest offset =>
          refine bind_isErr ?_ _
          unfold reopen
          cases text : path.asCStr with
          | none => rfl
          | some text => exact bind_isErr (attempts _) _
      | boundSocket | connectedSocket | epollFd | fifo | signalFd => rw [info] at file; cases file

/-- An action that is not pending makes no call. -/
theorem execute_idle (idle : entry.pending forkType = false) :
    ∃ done, execute devNullFd forkType (entry, w) = (.ok done, entry, w) := by
  obtain ⟨fd, info, action, executed⟩ := entry
  cases executed with
  | true => exact ⟨true, rfl⟩
  | false =>
      cases action with
      | ignore => exact ⟨false, rfl⟩
      | closeUnlessSpawnSubspecies =>
          cases forkType with
          | application => cases idle
          | subspecies => exact ⟨false, rfl⟩
      | close | dupeNull | reopen => cases idle

/-- The branch called unreachable is reached by what is to be reopened and is no file. -/
theorem execute_stuck (pending : entry.pending forkType = true) (stuck : ¬entry.FileOnly) :
    (execute devNullFd forkType (entry, w)).1.isPanic = true := by
  obtain ⟨reopens, other⟩ := Classical.not_imp.mp stuck
  obtain ⟨fd, info, action, executed⟩ := entry
  cases reopens
  cases executed with
  | true => cases pending
  | false =>
      cases info with
      | file => exact absurd rfl other
      | boundSocket | connectedSocket | epollFd | fifo | signalFd => rfl

end FileDescriptorEntry

namespace FileDescriptorRegistry
open FileDescriptorEntry (pending FileOnly execute_idle execute_stuck perform_failing)
variable {registry : FileDescriptorRegistry} {w : World} {forkType : ForkType} (devNullFd : RawFd)

/-- The loop passes over the entries before the first whose action is pending. -/
theorem executeEach_idle {front : List FileDescriptorEntry}
    (idle : ∀ entry ∈ front, entry.pending forkType = false) (rest : List FileDescriptorEntry) :
    (eachMut (executeBody devNullFd forkType) (front ++ rest) w).1 =
      (eachMut (executeBody devNullFd forkType) rest w).1 := by
  induction front with
  | nil => rfl
  | cons entry front ih =>
      obtain ⟨here, later⟩ := List.forall_mem_cons.mp idle
      obtain ⟨done, run⟩ := execute_idle (w := w) devNullFd here
      have body : executeBody devNullFd forkType (entry, w) = (.ok (), entry, w) := by
        rw [executeBody, bind_apply, run]
        rfl
      rw [List.cons_append, eachMut, body]
      exact ih later

theorem executeEach_stuck {l : List FileDescriptorEntry} {entry : FileDescriptorEntry}
    (first : l.find? (pending forkType) = some entry) (stuck : ¬entry.FileOnly) :
    (eachMut (executeBody devNullFd forkType) l w).1.isPanic = true := by
  obtain ⟨active, front, rest, rfl, idle⟩ := List.find?_eq_some_iff_append.mp first
  rw [executeEach_idle devNullFd (fun e mem => by simpa using idle e mem)]
  have executed := execute_stuck (w := w) devNullFd active stuck
  have body : (executeBody devNullFd forkType (entry, w)).1.isPanic = true := by
    rw [executeBody, bind_apply]
    split <;> next run => rw [run] at executed; first | rfl | cases executed
  unfold eachMut
  split <;> next run => rw [run] at body; first | rfl | cases body

/-- With every call failing, the loop ends at the first pending action, with an error. -/
theorem executeEach_failing {l : List FileDescriptorEntry} (failing : Failing w)
    (unstuck : ∀ entry, l.find? (pending forkType) = some entry → entry.FileOnly) :
    (eachMut (executeBody devNullFd forkType) l w).1.isPanic = false := by
  cases first : l.find? (pending forkType) with
  | none =>
      have idle : ∀ entry ∈ l, entry.pending forkType = false :=
        fun entry mem => Bool.eq_false_iff.mpr (List.find?_eq_none.mp first entry mem)
      rw [← List.append_nil l, executeEach_idle devNullFd idle]
      rfl
  | some entry =>
      have only := unstuck entry first
      obtain ⟨active, front, rest, rfl, idle⟩ := List.find?_eq_some_iff_append.mp first
      rw [executeEach_idle devNullFd (fun e mem => by simpa using idle e mem)]
      have fresh : entry.executed = false := by
        cases executed : entry.executed with
        | false => rfl
        | true => simp [pending, executed] at active
      have performed := perform_failing devNullFd failing active only
      have body : (executeBody devNullFd forkType (entry, w)).1.isErr = true := by
        refine bind_isErr ?_ _
        simp only [FileDescriptorEntry.execute, fresh, Bool.false_eq_true, if_false]
        split <;> next run => rw [run] at performed; first | rfl | cases performed
      unfold eachMut
      split <;> next run => rw [run] at body; first | rfl | cases body

/-- Whatever the kernel answers from these tables on, what is open when the actions return
was open before. -/
def OpensNothing (forkType : ForkType) (registry : FileDescriptorRegistry) (tables : Tables) : Prop :=
  ∀ w o after w', w.toTables = tables → executeActions forkType (registry, w) = (o, after, w') →
    o.isPanic = false → ∀ fd, w'.fds.isOpen fd = true → tables.fds.isOpen fd = true

/-- A process with these tables, of whose calls none succeeds but the first. -/
def once (tables : Tables) : World where
  toTables := tables
  pid := 100
  task := .root
  clock := 0
  log := []
  trace := []
  env := { Env.calm with
    fault := fun clock _ => if clock = 0 then none else some eperm
    closeReleases := false }

theorem once_failing {tables : Tables} {call : Call} {made : Option RawFd} {t : Tables} :
    Failing { (once tables).note call made with toTables := t } := by
  refine ⟨fun clock call later => ?_, rfl, fun _ => rfl⟩
  have positive : clock ≠ 0 := (Nat.lt_of_lt_of_le Nat.zero_lt_one later).ne'
  simp [once, positive]

/-- The flags the null device is opened with. -/
def nullFlags : Flags := oRdwr ||| oCloexec

theorem performActions_opened {n : RawFd} {v : World}
    (opened : openFd devNullPath nullFlags w = (.ok n, v)) :
    performActions forkType (registry, w) = eachEntry (executeBody n forkType) (registry, v) := by
  have first : onWorld ((openFd devNullPath nullFlags).mapErr FdRegistryError.devNullFailure)
      (registry, w) = (.ok n, registry, v) := by
    simp only [onWorld, Prog.focus, Prog.mapErr, opened]
    rfl
  exact bind_of_ok first _

/-- Without a descriptor for the null device there is nothing more to it. -/
theorem performActions_refused {e : Errno} {v : World}
    (refused : openFd devNullPath nullFlags w = (.err e, v)) :
    performActions forkType (registry, w) = (.err (.devNullFailure e), registry, v) := by
  have first : onWorld ((openFd devNullPath nullFlags).mapErr FdRegistryError.devNullFailure)
      (registry, w) = (.err (.devNullFailure e), registry, v) := by
    simp only [onWorld, Prog.focus, Prog.mapErr, refused]
    rfl
  unfold performActions
  rw [bind_apply]
  simp only [nullFlags] at first
  rw [first]

/-- The actions fail at once or go through the entries, and the null device took the lowest
free number then. -/
theorem performActions_start (forkType : ForkType) (registry : FileDescriptorRegistry) (w : World) :
    (∃ e, performActions forkType (registry, w) =
        (.err e, registry, w.note (.open devNullPath nullFlags) none)) ∨
      ∃ n v, w.fds.lowestFree = some n ∧
        performActions forkType (registry, w) = eachEntry (executeBody n forkType) (registry, v) := by
  have calm : (openFd devNullPath nullFlags w).1.isPanic = false := attempt_not_panic
  cases opened : openFd devNullPath nullFlags w with
  | mk outcome v =>
      rw [opened] at calm
      cases outcome with
      | ok n =>
          obtain ⟨-, f, -, lowest, -⟩ := openFd_effect opened
          exact Or.inr ⟨n, v, lowest, performActions_opened opened⟩
      | err e =>
          have same : v = w.note (.open devNullPath nullFlags) none := by
            unfold openFd makeFd at opened
            exact (attempt_err opened).1
          exact Or.inl ⟨_, same ▸ performActions_refused opened⟩
      | panic m => cases calm

/-- Whatever the kernel answers, the actions leave nothing open, exactly when there is no
number for the null device or the first pending action panics. -/
theorem executeActions_opensNothing_iff {tables : Tables} :
    OpensNothing forkType registry tables ↔ tables.fds.lowestFree = none ∨
      ∃ entry, registry.data.toList.find? (pending forkType) = some entry ∧ ¬entry.FileOnly := by
  constructor
  · intro nothing
    by_contra neither
    obtain ⟨room, unstuck⟩ := not_or.mp neither
    obtain ⟨⟨n, t⟩, made⟩ : ∃ made, tables.fds.alloc
        { OpenFile.null with status := openStatus nullFlags, offset := 0 }
          (nullFlags &&& oCloexec != 0) =
          some made :=
      Option.isSome_iff_exists.mp (by rw [Table.alloc_isSome]; exact Option.isSome_iff_ne_none.mpr room)
    obtain ⟨-, free, -, -, slot, -⟩ := Table.alloc_eq_some made
    let opened : World := { (once tables).note (.open devNullPath nullFlags) (some n) with fds := t }
    have run : openFd devNullPath nullFlags (once tables) = (.ok n, opened) :=
      openFd_ok_iff.mpr ⟨rfl, .null, t, rfl, made, rfl⟩
    have failing : Failing opened := once_failing (t := { tables with fds := t })
    have returns := executeEach_failing n failing fun entry first =>
      Classical.byContradiction fun stuck => unstuck ⟨entry, first, stuck⟩
    have stays : t.isOpen n = true := Table.isOpen_of_slot ((slot n).trans (if_pos rfl))
    rcases h : executeActions forkType (registry, once tables) with ⟨o, after, w'⟩
    obtain ⟨v, performed, synced⟩ := executeActions_synced h
    rw [performActions_opened run] at performed
    obtain ⟨failing', same⟩ := eachEntry_within idle_handles
      (executeBody_within idle_handles n forkType) (registry, opened) failing
    obtain rfl : _ = v := congrArg (fun r => r.2.2) performed
    have still : w'.fds.isOpen n = true := by
      rw [Table.isOpen, synced.slot_eq (by rw [failing'.silent]; exact List.not_mem_nil), same]
      exact stays
    have ret : o.isPanic = false := by
      rw [← show _ = o from congrArg Prod.fst performed]
      exact Outcome.mapErr_isPanic.trans returns
    have left := nothing (once tables) o after w' rfl h ret n still
    rw [Table.isOpen, free] at left
    cases left
  · rintro condition w o after w' rfl h ret fd opened
    obtain ⟨u, performed, synced⟩ := executeActions_synced h
    replace opened := synced.isOpen opened
    obtain ⟨e, refused⟩ | ⟨n, v, lowest, run⟩ := performActions_start forkType registry w
    · rw [performed] at refused
      cases refused
      exact opened
    · rcases condition with full | ⟨entry, first, stuck⟩
      · rw [full] at lowest
        cases lowest
      · have panics := executeEach_stuck (w := v) n first stuck
        have outcome : o = (eachEntry (executeBody n forkType) (registry, v)).1 :=
          congrArg Prod.fst (performed.symm.trans run)
        have stops : o.isPanic = true := by
          rw [outcome]
          exact Outcome.mapErr_isPanic.trans panics
        rw [ret] at stops
        cases stops

/-- A run that ends well leaves the null device open at 3. -/
theorem executeActions_leaves_null : ¬∀ forkType registry tables,
    OpensNothing forkType registry tables := by
  intro claim
  have left := claim .application (booted tidy) tidy.toTables tidy _ _ _ rfl rfl rfl 3
  revert left
  decide

end FileDescriptorRegistry

section stays
variable {n : RawFd} {w w' : World}

/-- What is open at the number, the same or another, is there still. -/
def Stays (n : RawFd) (w w' : World) : Prop := w.fds.isOpen n = true → w'.fds.isOpen n = true

theorem Stays.refl (w : World) : Stays n w w := id

theorem Stays.trans {u v w : World} (first : Stays n u v) (second : Stays n v w) : Stays n u w :=
  second ∘ first

theorem onOpen_stays {call : Call} {fd : RawFd}
    {act : OpenFile → Table OpenFile → Except Errno (Table OpenFile)}
    (keeps : ∀ f t u, act f t = .ok u → t.isOpen n = true → u.isOpen n = true) :
    Within (Stays n) (onOpen call fd act) := by
  intro w opened
  cases run : onOpen call fd act w with
  | mk outcome v =>
      cases outcome with
      | ok value =>
          obtain ⟨-, f, t, -, acted, rfl⟩ := onOpen_ok_iff.mp run
          exact keeps f w.fds t acted opened
      | err e =>
          unfold onOpen at run
          rw [(attempt_err run).1]
          exact opened
      | panic m =>
          have calm : (onOpen call fd act w).1.isPanic = false := attempt_not_panic
          rw [run] at calm
          cases calm

theorem fcntlSetfd_stays (fd : RawFd) (flags : Flags) : Within (Stays n) (fcntlSetfd fd flags) := by
  refine onOpen_stays fun f t u acted opened => ?_
  cases acted
  obtain ⟨s, slot⟩ := Option.isSome_iff_exists.mp opened
  rw [Table.isOpen, Table.setCloexec_slot, slot]
  split <;> rfl

theorem fcntlSetfl_stays (fd : RawFd) (flags : Flags) : Within (Stays n) (fcntlSetfl fd flags) := by
  refine onOpen_stays fun f t u acted opened => ?_
  cases acted
  exact opened

theorem lseekSet_stays (fd : RawFd) (offset : Int) : Within (Stays n) (lseekSet fd offset) := by
  refine onOpen_stays fun f t u acted opened => ?_
  split at acted
  · cases acted
  · cases acted; exact opened
  · split at acted <;> cases acted; exact opened

theorem dup3_stays (oldFd newFd : RawFd) (flags : Flags) :
    Within (Stays n) (dup3 oldFd newFd flags) := by
  refine onOpen_stays fun f t u acted opened => ?_
  split at acted
  · cases acted
  · split at acted
    · cases acted
    · next dup =>
      cases acted
      obtain ⟨s, -, -, -, -, -, slot⟩ := Table.dup_eq_some dup
      rw [Table.isOpen, slot]
      split
      · rfl
      · exact opened

theorem close_stays {fd : RawFd} (apart : fd ≠ n) : Within (Stays n) (close fd) := by
  intro w opened
  have off : (w.fds.close fd).isOpen n = true := by
    rw [Table.isOpen, Table.close_slot, if_neg apart.symm]
    exact opened
  unfold close
  split
  · split
    · exact off
    · split
      · exact off
      · exact opened
  · exact opened

/-- A number that is taken is not given out. -/
theorem openFd_stays (path : Bytes) (flags : Flags) : Leads (fun w => w.fds.isOpen n = true)
    (openFd path flags) (fun fd w => fd ≠ n ∧ w.fds.isOpen n = true) fun w => w.fds.isOpen n = true := by
  intro w opened
  have calm : (openFd path flags w).1.isPanic = false := attempt_not_panic
  split
  · next fd v run =>
    obtain ⟨-, f, -, -, free, -, slot, -⟩ := openFd_effect run
    have apart : fd ≠ n := by
      rintro rfl
      rw [Table.isOpen, free] at opened
      cases opened
    refine ⟨apart, ?_⟩
    rw [Table.isOpen, slot, if_neg apart.symm]
    exact opened
  · next e v run =>
    unfold openFd makeFd at run
    rw [(attempt_err run).1]
    exact opened
  · next m v run => rw [run] at calm; cases calm

namespace FileDescriptorEntry
variable {entry : FileDescriptorEntry}

theorem reopen_stays (fd : RawFd) (path : CStringBuffer) (fdFlags fsFlagsOpen fsFlagsRest : Flags)
    (offset : Int) : Within (Stays n) (reopen fd path fdFlags fsFlagsOpen fsFlagsRest offset) := by
  have run : Leads (fun w => w.fds.isOpen n = true)
    (reopen fd path fdFlags fsFlagsOpen fsFlagsRest offset)
      (fun _ w => w.fds.isOpen n = true) fun w => w.fds.isOpen n = true := by
    refine .bind (fun _ w => w.fds.isOpen n = true) (.lift (fun _ _ _ => id) fun _ => id) fun text => ?_
    refine .bind _ (.mapErr _ (openFd_stays _ _)) fun newFd => ?_
    rintro w ⟨apart, opened⟩
    refine Leads.within (R := Stays n) ?_ (fun _ _ opened keeps => keeps opened) w opened
    refine .bind .trans (.mapErr _ (fcntlSetfd_stays _ _)) fun _ => ?_
    refine .bind .trans (.mapErr _ (fcntlSetfl_stays _ _)) fun _ => ?_
    refine .bind .trans (.mapErr _ (lseekSet_stays _ _)) fun _ => ?_
    refine .bind .trans (.mapErr _ (dup3_stays _ _ _)) fun _ => ?_
    exact .mapErr _ (close_stays apart)
  exact fun w opened => run.snd opened

theorem perform_stays (devNullFd : RawFd) (forkType : ForkType) (apart : entry.fd ≠ n) :
    Within (Stays n) (perform devNullFd forkType entry) := by
  have closes : Within (Stays n)
    ((close entry.fd).mapErr (FileDescriptorEntryError.closeFailed entry.fd)) :=
    .mapErr _ (close_stays apart)
  unfold perform
  cases entry.action with
  | close => exact .bind .trans closes fun _ => .refl
  | closeUnlessSpawnSubspecies =>
      cases forkType with
      | application => exact .bind .trans closes fun _ => .refl
      | subspecies => exact .refl
  | dupeNull => exact .bind .trans (.mapErr _ (dup3_stays _ _ _)) fun _ => .refl
  | ignore => exact .refl
  | reopen =>
      cases entry.info with
      | file => exact .bind .trans (reopen_stays _ _ _ _ _ _) fun _ => .refl
      | boundSocket | connectedSocket | epollFd | fifo | signalFd => exact .panic .refl _

theorem execute_stays {forkType : ForkType} {w : World} (devNullFd : RawFd)
    (apart : entry.pending forkType = true → entry.fd ≠ n) :
    Stays n w (execute devNullFd forkType (entry, w)).2.2 := by
  cases active : entry.pending forkType with
  | false =>
      obtain ⟨done, run⟩ := execute_idle (w := w) devNullFd active
      rw [run]
      exact .refl w
  | true =>
      have performed := perform_stays devNullFd forkType (apart active) w
      simp only [execute]
      split
      · exact .refl w
      · split <;> next run => rw [run] at performed; exact performed

end FileDescriptorEntry

namespace FileDescriptorRegistry
open FileDescriptorEntry (execute_stays)
variable {registry after : FileDescriptorRegistry} {devNullFd : RawFd} {forkType : ForkType}

theorem executeEach_stays {l : List FileDescriptorEntry} (apart : ¬Touched forkType l n) :
    Stays n w (eachMut (executeBody devNullFd forkType) l w).2.2 := by
  induction l generalizing w with
  | nil => exact .refl w
  | cons entry rest ih =>
      have head := execute_stays (w := w) devNullFd fun active same =>
        apart ⟨entry, List.mem_cons_self, active, same⟩
      have body : Stays n w (executeBody devNullFd forkType (entry, w)).2.2 := by
        rw [executeBody, bind_snd_of_pure]
        exact head
      have later : ¬Touched forkType rest n := by
        rintro ⟨e, mem, active, same⟩
        exact apart ⟨e, List.mem_cons_of_mem _ mem, active, same⟩
      unfold eachMut
      split <;> next run => rw [run] at body; first | exact body.trans (ih later) | exact body

/-- Unless the number it gets has a pending action, the null device is still open when the
actions end, well or not. -/
theorem null_outlives {o : Outcome FdRegistryError Unit} {v : World}
    (opened : openFd devNullPath nullFlags w = (.ok n, v))
    (apart : ¬Touched forkType registry.data.toList n) (kept : ¬w.env.Syncs n)
    (h : executeActions forkType (registry, w) = (o, after, w')) :
    w.fds.isOpen n = false ∧ w'.fds.isOpen n = true := by
  obtain ⟨-, f, -, -, free, -, slot, -⟩ := openFd_effect opened
  obtain ⟨u, performed, synced⟩ := executeActions_synced h
  have recorded : Handles (World.Does (fun _ => True) fun _ => True) := does_handles fun _ _ => trivial
  have same : u.env = w.env := by
    simpa only [performed] using (performActions_within recorded forkType (registry, w)).env
  rw [performActions_opened opened] at performed
  cases performed
  refine ⟨by rw [Table.isOpen, free]; rfl, ?_⟩
  rw [Table.isOpen, synced.slot_eq fun listed => kept ⟨_, same ▸ listed⟩]
  exact executeEach_stays apart (Table.isOpen_of_slot ((slot n).trans (if_pos rfl)))

end FileDescriptorRegistry

end stays
end Zygote
