import Zygote.FileDescriptors.Audit
import Zygote.FileDescriptors.Coverage
import Zygote.FileDescriptors.Progress

/-!
# Resetting the registry for a subspecies

A reset executes the actions, registers the null device it opened on the way and audits
the result. Executing leaves the recorded infos as they were, and `register_new` goes
by number: both have to fit for the audit to pass.
-/
namespace Zygote
open Effect Descriptors Ascending

namespace FileDescriptorRegistry
open FileDescriptorEntry (mark pending Regains Result reopened)
variable {registry after : FileDescriptorRegistry} {w w' : World} {forkType : ForkType}

/-- What a server asks of its registry: it goes on after a failed `register` or `remove`,
but only after a `register_new` or a reset that succeeded. -/
def ServerCall (op : RegistryOp) (registry : FileDescriptorRegistry) (world : World) : Prop :=
  match op with
  | .register _ _ | .remove _ => True
  | .registerNew | .resetForSubspecies => (op.run (registry, world)).1 = .ok ()
  | .executeActions _ | .overrideAndClose => False

theorem registerNew_ok_ordered (ordered : registry.Ordered)
    (h : registerNew (registry, w) = (.ok (), after, w')) : after.Ordered := by
  obtain ⟨-, err, -⟩ | ⟨-, -, pushed, passed, left, -, -, ⟨-, -, -, keeps⟩ | ⟨_, _, _, err, -⟩⟩ :=
    registerNew_cases rfl h
  · simp at err
  · exact keeps ordered
  · simp at err

theorem resetForSubspecies_eq_ok : resetForSubspecies (registry, w) = (.ok (), after, w') ↔
    ∃ mid w₁ w₂, executeActions .subspecies (registry, w) = (.ok (), mid, w₁) ∧
      registerNew (mid, w₁) = (.ok (), after, w₂) ∧ after.audit w₂ = (.ok (), w') := by
  constructor
  · intro h
    obtain ⟨_, ⟨mid, w₁⟩, executed, h⟩ := Prog.bind_eq_ok.mp h
    obtain ⟨_, ⟨last, w₂⟩, registered, h⟩ := Prog.bind_eq_ok.mp h
    obtain ⟨_, _, hread, h⟩ := Prog.bind_eq_ok.mp h
    cases hread
    obtain rfl : last = after := congrArg (fun r => r.2.1) h
    refine ⟨mid, w₁, w₂, executed, registered, Prod.ext ?_ (congrArg (fun r => r.2.2) h)⟩
    exact Outcome.mapErr_eq_ok.mp (congrArg Prod.fst h)
  · rintro ⟨mid, w₁, w₂, executed, registered, audited⟩
    refine Prog.bind_eq_ok.mpr ⟨(), (mid, w₁), executed, Prog.bind_eq_ok.mpr ⟨(), (after, w₂),
      registered, Prog.bind_eq_ok.mpr ⟨(after, w₂), (after, w₂), rfl, ?_⟩⟩⟩
    have last : (after.audit w₂).2 = w' := congrArg Prod.snd audited
    exact Prod.ext (Outcome.mapErr_eq_ok.mpr (congrArg Prod.fst audited)) (Prod.ext rfl last)

theorem server_ordered (reached : Run ServerCall registry) : registry.Ordered := by
  induction reached with
  | new h => exact new_ordered (Prod.ext h rfl)
  | @step before op world _ call _ ordered =>
      cases op with
      | register fd action => exact register_ordered ordered rfl
      | remove fd => exact remove_ordered ordered rfl
      | registerNew => exact registerNew_ok_ordered ordered (Prod.ext call rfl)
      | resetForSubspecies =>
          obtain ⟨mid, w₁, w₂, executed, registered, -⟩ :=
            resetForSubspecies_eq_ok.mp (Prod.ext call rfl)
          exact registerNew_ok_ordered (executeActions_ordered ordered executed) registered
      | executeActions forkType => exact call.elim
      | overrideAndClose => exact call.elim

section progress

theorem admitEach_progress {l : List RawFd} {data : Entries}
    (admitted : ∀ fd ∈ l, ∃ entry, entryFor registry w fd = .ok entry)
    (room : data.length + l.length ≤ registrySize) : (admitEach registry w l data).1 = .ok () := by
  induction l generalizing data with
  | nil => rfl
  | cons fd rest ih =>
      obtain ⟨⟨entry, hmade⟩, others⟩ := List.forall_mem_cons.mp admitted
      rw [List.length_cons] at room
      obtain ⟨more, pushed, longer⟩ := @ArrayVec.exists_push _ _ data entry (by omega)
      simp only [admitEach, hmade, pushed]
      exact ih others (by omega)

theorem registerNew_progress (ordered : registry.Ordered) (quiet : w.env.Quiet)
    (listing : w.fds.lowestFree.isSome = true)
    (admitted : ∀ fd ∈ newcomers registry w, ∃ entry,
      entryFor registry (w.note .opendir none) fd = .ok entry)
    (room : registry.data.length + (newcomers registry w).length ≤ registrySize) :
    (registerNew (registry, w)).1 = .ok () := by
  have each : (registerEach registry (w.note .opendir none) w.fds.numbers registry.data.toList
      registry.data).1 = .ok () := by
    rw [registerEach_eq Table.numbers_ascends ordered.sorted]
    exact admitEach_progress admitted room
  simp only [registerNew, if_pos (show Sorted FileDescriptorEntry.fd registry.data.toList from
    ordered.sorted), procFdIterator_quiet quiet listing]
  split
  · rfl
  · next err => rw [err] at each; cases each
  · next err => rw [err] at each; cases each

theorem audit_progress (quiet : w.env.Quiet) (listing : w.fds.lowestFree.isSome = true)
    (agrees : registry.Matches (w.note .opendir none)) : (registry.audit w).1 = .ok () := by
  have run : registry.audit w = (.ok (), w.note .opendir none) := by
    refine Prog.bind_eq_ok.mpr ⟨_, _, Prog.mapErr_eq_ok.mpr (procFdIterator_quiet quiet listing), ?_⟩
    refine Prog.bind_eq_ok.mpr ⟨_, _, rfl, Prod.ext ?_ rfl⟩
    exact auditEach_ok_iff.mpr agrees
  rw [run]

end progress

section agreement

/-- With no query refused, agreement is about the tables only. -/
theorem Matches.congr (h : registry.Matches w) (quiet : w.env.Quiet) (quiet' : w'.env.Quiet)
    (tables : w'.fds = w.fds) : registry.Matches w' := by
  refine ⟨tables ▸ h.1, fun entry mem => ?_⟩
  rw [FileDescriptorInfo.tryFrom_congr (w := w) _ (quiet'.queryFault _) (quiet.queryFault _)
    (by rw [tables]) fun _ _ => by rw [tables]]
  exact h.2 entry mem

/-- Live entries that are exactly the open numbers are listed as the table lists them. -/
theorem live_eq_numbers (ordered : registry.Ordered)
    (agrees : ∀ fd, registry.Live fd ↔ w.fds.isOpen fd = true) :
    registry.live.map byFd = w.fds.numbers := by
  have ascends : Ascends id (registry.live.map byFd) :=
    List.pairwise_map.mpr (Ascends.filter ordered _)
  refine Ascends.eq_of_mem_iff ascends Table.numbers_ascends fun fd => ?_
  rw [Table.mem_numbers, ← agrees]
  constructor
  · intro mem
    obtain ⟨entry, hentry, rfl⟩ := List.mem_map.mp mem
    obtain ⟨hmem, live⟩ := mem_live.mp hentry
    exact ⟨entry, hmem, rfl, live⟩
  · rintro ⟨entry, mem, rfl, live⟩
    exact List.mem_map_of_mem (mem_live.mpr ⟨mem, live⟩)

end agreement

section acted
variable {n : RawFd} {f : OpenFile}

theorem closed_mark {entry : FileDescriptorEntry} : (entry.mark forkType).closed =
    (entry.closed || entry.pending forkType &&
      (entry.action = .close || entry.action = .closeUnlessSpawnSubspecies)) := by
  unfold mark FileDescriptorEntry.closed pending
  cases entry.action <;> cases entry.executed <;> simp

theorem executed_of_pending {entry : FileDescriptorEntry} (p : entry.pending forkType = true) :
    entry.executed = false := by
  unfold pending at p
  cases executed : entry.executed <;> simp [executed] at p ⊢

theorem live_of_pending {entry : FileDescriptorEntry} (p : entry.pending forkType = true) :
    entry.closed = false := by
  unfold FileDescriptorEntry.closed
  cases entry.action <;> simp [executed_of_pending p]

/-- No pending action is about a number that is free. -/
theorem Acted.apart (acted : Acted forkType registry w after w' n f)
    (opened : ∀ fd, registry.Live fd → w.fds.isOpen fd = true) :
    ¬Touched forkType registry.data.toList n := by
  rintro ⟨entry, mem, p, same⟩
  have here := opened n ⟨entry, mem, same, live_of_pending p⟩
  rw [Table.isOpen, (w.fds.lowestFree_spec acted.lowest).2] at here
  cases here

/-- After the actions the null device is the only open descriptor without a live entry. -/
theorem Acted.live_iff (acted : Acted forkType registry w after w' n f) (ordered : registry.Ordered)
    (agrees : ∀ fd, registry.Live fd ↔ w.fds.isOpen fd = true) (fd : RawFd) :
    after.Live fd ↔ w'.fds.isOpen fd = true ∧ fd ≠ n := by
  have free : ¬registry.Live n := by
    rw [agrees, Table.isOpen, (w.fds.lowestFree_spec acted.lowest).2]
    simp
  have untouched := acted.apart fun fd => (agrees fd).mp
  constructor
  · rintro ⟨_, mem, rfl, live⟩
    rw [acted.entries] at mem
    obtain ⟨entry, hentry, rfl⟩ := List.mem_map.mp mem
    rw [closed_mark, Bool.or_eq_false_iff] at live
    have here : registry.Live entry.fd := ⟨entry, hentry, rfl, live.1⟩
    have apart : entry.fd ≠ n := fun same => free (same ▸ here)
    refine ⟨?_, apart⟩
    cases hp : entry.pending forkType with
    | true =>
        obtain ⟨v, -, -, result⟩ := acted.results entry hentry hp
        cases action : entry.action with
        | close | closeUnlessSpawnSubspecies => simp [hp, action] at live
        | ignore => simp [pending, action] at hp
        | dupeNull =>
            simp only [Result, action] at result
            obtain ⟨s, -, slot⟩ := result
            exact Table.isOpen_of_slot slot
        | reopen =>
            simp only [Result, action] at result
            obtain ⟨_, _, _, _, _, _, _, _, _, _, _, -, -, -, -, -, slot, -⟩ := result
            exact Table.isOpen_of_slot slot
    | false =>
        have off : ¬(entry.fd = n ∨ Touched forkType registry.data.toList entry.fd) := by
          rintro (same | ⟨other, mem', p, same⟩)
          · exact apart same
          · rw [ordered.eq_of_key_eq mem' hentry same, hp] at p
            cases p
        show w'.fds.isOpen entry.fd = true
        rw [Table.isOpen, acted.frame.fds.slot _ off]
        exact (agrees _).mp here
  · rintro ⟨opened, apart⟩
    by_cases touched : Touched forkType registry.data.toList fd
    · obtain ⟨entry, hentry, p, rfl⟩ := touched
      refine ⟨entry.mark forkType, acted.entries ▸ List.mem_map_of_mem hentry, rfl, ?_⟩
      obtain ⟨v, -, -, result⟩ := acted.results entry hentry p
      cases action : entry.action with
      | close | closeUnlessSpawnSubspecies =>
          simp only [Result, action] at result
          simp [Table.isOpen, result] at opened
      | ignore => simp [pending, action] at p
      | dupeNull | reopen =>
          rw [closed_mark]
          simp [FileDescriptorEntry.closed, action]
    · rw [Table.isOpen, acted.frame.fds.slot _ (not_or.mpr ⟨apart, touched⟩)] at opened
      obtain ⟨entry, hentry, rfl, live⟩ := (agrees fd).mpr opened
      refine ⟨entry.mark forkType, acted.entries ▸ List.mem_map_of_mem hentry, rfl, ?_⟩
      have idle : entry.pending forkType = false :=
        Bool.eq_false_iff.mpr fun p => touched ⟨entry, hentry, p, rfl⟩
      rw [closed_mark, idle, live]
      rfl

/-- The actions leave every recorded info current, but for those of the descriptors that
were pointed at the null device. -/
theorem Acted.info_current (acted : Acted forkType registry w after w' n f)
    (quiet : w.env.Quiet) (ordered : registry.Ordered) (agrees : registry.Matches w)
    (null : f.IsFile) {entry : FileDescriptorEntry} (mem : entry ∈ registry.data.toList)
    (live : (entry.mark forkType).closed = false)
    (regains : entry.pending forkType = true → entry.action = .reopen → entry.Regains w.env) :
    FileDescriptorInfo.tryFrom w' entry.fd =
      if entry.pending forkType = true ∧ entry.action = .dupeNull then
        .ok (.ofFile (nullFile f) true)
      else .ok entry.info := by
  have quiet' : w'.env.Quiet := acted.frame.env ▸ quiet
  rw [closed_mark, Bool.or_eq_false_iff] at live
  cases hp : entry.pending forkType with
  | false =>
      rw [if_neg (by simp)]
      have opened : w.fds.isOpen entry.fd = true :=
        agrees.live_iff.mp ⟨entry, mem, rfl, live.1⟩
      have off : ¬(entry.fd = n ∨ Touched forkType registry.data.toList entry.fd) := by
        rintro (same | ⟨other, mem', p, same⟩)
        · rw [same, Table.isOpen, (w.fds.lowestFree_spec acted.lowest).2] at opened
          cases opened
        · rw [ordered.eq_of_key_eq mem' mem same, hp] at p
          cases p
      rw [← agrees.2 entry (mem_live.mpr ⟨mem, live.1⟩)]
      exact FileDescriptorInfo.tryFrom_congr _ (quiet'.queryFault _) (quiet.queryFault _)
        (acted.frame.fds.slot _ off) fun s hs => acted.frame.fds.file _ (w.fds.fresh _ s hs)
  | true =>
      obtain ⟨v, frame, slot_n, result⟩ := acted.results entry mem hp
      have slot_n := slot_n (acted.apart fun _ => agrees.live_iff.mp)
      cases action : entry.action with
      | close | closeUnlessSpawnSubspecies => simp [hp, action] at live
      | ignore => simp [pending, action] at hp
      | dupeNull =>
          simp only [Result, action] at result
          obtain ⟨s, hs, slot⟩ := result
          obtain rfl : s = ⟨w.fds.next, true⟩ := Option.some.inj (hs.symm.trans slot_n)
          rw [if_pos ⟨rfl, rfl⟩]
          exact FileDescriptorInfo.tryFrom_file quiet' slot acted.contents null
      | reopen =>
          simp only [Result, action] at result
          obtain ⟨dev, ino, path, fdFlags, fsFlagsOpen, fsFlagsRest, offset, text, clock, g, file,
            info, htext, hg, -, -, slot, contents⟩ := result
          obtain ⟨text', g', htext', resolves, isFile, -, -, same⟩ :=
            regains hp action _ _ _ _ _ _ _ info
          obtain rfl : text = text' := Option.some.inj (htext.symm.trans htext')
          obtain rfl : g = g' := by
            have := hg.symm.trans (frame.env ▸ resolves clock)
            exact Except.ok.inj this
          rw [if_neg (by simp), ← same]
          exact FileDescriptorInfo.tryFrom_file quiet' slot contents isFile

end acted

section reset
variable {n : RawFd} {f : OpenFile}

structure NullDevice (w : World) (f : OpenFile) : Prop where
  resolves : w.env.resolve w.clock devNullPath = .ok f
  isFile : f.IsFile
  link : f.link = devNullPath

/-- The entries a reset can cope with: the descriptors it points at the null device are
recorded as just that already, what it reopens is a file, and no closed entry has the
number the null device gets. -/
structure Resettable (registry : FileDescriptorRegistry) (n : RawFd) (f : OpenFile) : Prop where
  dupes : ∀ entry ∈ registry.data.toList, entry.action = .dupeNull → entry.executed = false →
    entry.info = .ofFile (nullFile f) true
  reopens : ∀ entry ∈ registry.data.toList, entry.action = .reopen → entry.executed = false →
    entry.info.isFile = true
  fresh : ∀ entry ∈ registry.data.toList, entry.fd ≠ n

/-- The null device is on the allow list of every registry. -/
theorem entryFor_null (registry : FileDescriptorRegistry) {w : World} (quiet : w.env.Quiet) {s : Slot}
    (slot : w.fds.slot n = some s)
    (contents : w.fds.file s.file = nullFile f) (isFile : f.IsFile) (link : f.link = devNullPath) :
    ∃ action, entryFor registry w n =
      .ok (.new n (.ofFile (nullFile f) s.cloexec) action) := by
  have info := FileDescriptorInfo.tryFrom_file quiet slot contents isFile
  have path : CStringBuffer.asCStr ((nullFile f).link.take bufferSizeStrings) = some devNullPath := by
    rw [show (nullFile f).link = devNullPath from link]
    decide
  have allowed : registry.fileIsAllowed devNullPath = .ok true := by
    have text : String.fromUTF8? devNullPath.toByteArray = some "/dev/null" := by decide
    simp [fileIsAllowed, text, Zygote.allowedFilePaths]
  refine ⟨(registry.species.getFileAction devNullPath).getD .reopen, ?_⟩
  refine Outcome.bind_eq_ok.mpr ⟨_, Outcome.mapErr_eq_ok.mpr info, ?_⟩
  refine Outcome.bind_eq_ok.mpr ⟨_, ?_, rfl⟩
  simp only [defaultAction, FileDescriptorInfo.ofFile, path, allowed]
  rfl

theorem Acted.newcomers_eq (acted : Acted forkType registry w after w' n f)
    (ordered : registry.Ordered) (agrees : registry.Matches w) :
    ∀ fd ∈ newcomers after w', fd = n := by
  intro fd mem
  obtain ⟨opened, new⟩ := mem_newcomers.mp mem
  by_contra apart
  obtain ⟨entry, hentry, same, -⟩ :=
    (acted.live_iff ordered (fun _ => agrees.live_iff) fd).mpr ⟨opened, apart⟩
  exact new entry hentry same

/-- An audited reset leaves nothing to complain about in the registry it started from. -/
theorem Acted.resettable {mid : FileDescriptorRegistry} {w₁ w₂ : World}
    (acted : Acted .subspecies registry w mid w₁ n f) (quiet : w.env.Quiet)
    (ordered : registry.Ordered) (agrees : registry.Matches w) (isFile : f.IsFile)
    (registered : registerNew (mid, w₁) = (.ok (), after, w₂)) (last : after.Matches w₂) :
    Resettable registry n f := by
  obtain ⟨rfl, entries, -⟩ := registerNew_ok registered
  have marked : ∀ entry ∈ registry.data.toList, entry.mark .subspecies ∈ mid.data.toList :=
    fun entry mem => acted.entries ▸ List.mem_map_of_mem mem
  refine ⟨fun entry mem action executed => ?_, fun entry mem action executed => ?_,
    fun entry mem same => ?_⟩
  · have p : entry.pending .subspecies = true := by simp [pending, action, executed]
    have live : (entry.mark .subspecies).closed = false := by
      rw [closed_mark]
      simp [FileDescriptorEntry.closed, action]
    have now := last.2 _ (mem_live.mpr ⟨(entries _).mpr (Or.inl (marked entry mem)), live⟩)
    have current := acted.info_current quiet ordered agrees isFile mem live
      fun _ reopen => by rw [action] at reopen; cases reopen
    rw [if_pos ⟨p, action⟩] at current
    have quiet₁ : w₁.env.Quiet := acted.frame.env ▸ quiet
    have same := FileDescriptorInfo.tryFrom_congr (v := w₁.note .opendir none) (w := w₁)
      entry.fd (quiet₁.queryFault _) (quiet₁.queryFault _) rfl fun _ _ => rfl
    exact Outcome.ok.inj (now.symm.trans (same.trans current))
  · obtain ⟨v, -, -, result⟩ := acted.results entry mem (by simp [pending, action, executed])
    simp only [Result, action] at result
    obtain ⟨_, _, _, _, _, _, _, _, _, _, _, info, -⟩ := result
    rw [info]
    rfl
  · -- the null device is open, and only an entry of `mid` can have its number
    have opened : (w₁.note .opendir none).fds.isOpen n = true := 
      Table.isOpen_of_slot (acted.null (acted.apart fun _ => agrees.live_iff.mp))
    obtain ⟨live, hlive, hfd, closed⟩ := last.live_iff.mpr opened
    rcases (entries live).mp hlive with old | ⟨fd, new, hmade⟩
    · have := (acted.live_iff ordered (fun _ => agrees.live_iff) n).mp ⟨live, old, hfd, closed⟩
      exact this.2 rfl
    · obtain rfl : fd = n := (entryFor_fd hmade).symm.trans hfd
      exact (mem_newcomers.mp new).2 _ (marked entry mem) same

/-- What `register_new` makes of the actions' result matches the table again. -/
theorem Acted.matches_registered {mid : FileDescriptorRegistry} {w₁ w₂ : World}
    (acted : Acted .subspecies registry w mid w₁ n f) (quiet : w.env.Quiet)
    (ordered : registry.Ordered) (agrees : registry.Matches w) (isFile : f.IsFile)
    (registered : registerNew (mid, w₁) = (.ok (), after, w₂)) (midOrdered : mid.Ordered)
    (clean : Resettable registry n f)
    (regains : ∀ entry ∈ registry.data.toList, entry.action = .reopen → entry.executed = false →
      entry.Regains w.env) : after.Matches w₂ := by
  obtain ⟨hw, entries, -⟩ := registerNew_ok registered
  have quiet₁ : w₁.env.Quiet := acted.frame.env ▸ quiet
  have live_iff := acted.live_iff ordered (fun _ => agrees.live_iff)
  have fresh : NoStaleNumber mid w₁ := by
    intro fd opened entry mem same
    refine (live_iff fd).mpr ⟨opened, fun here => ?_⟩
    rw [acted.entries] at mem
    obtain ⟨old, hold, rfl⟩ := List.mem_map.mp mem
    exact clean.fresh old hold (same.trans here)
  have accounted := (registerNew_accounted_iff registered).mpr fresh
  have tables : w₂.fds = w₁.fds := by rw [hw]; rfl
  refine ⟨live_eq_numbers (registerNew_ok_ordered midOrdered registered) fun fd => ⟨?_, fun opened =>
    (accounted fd opened).1⟩, fun entry mem => ?_⟩
  · rintro ⟨entry, mem, rfl, live⟩
    rw [tables]
    rcases (entries entry).mp mem with old | ⟨fd, new, hmade⟩
    · exact ((live_iff entry.fd).mp ⟨entry, old, rfl, live⟩).1
    · rw [entryFor_fd hmade]
      exact (mem_newcomers.mp new).1
  · obtain ⟨hmem, live⟩ := mem_live.mp mem
    rcases (entries entry).mp hmem with old | ⟨fd, new, hmade⟩
    · rw [acted.entries] at old
      obtain ⟨before, hbefore, rfl⟩ := List.mem_map.mp old
      have current := acted.info_current quiet ordered agrees isFile hbefore live
        fun p reopen => regains before hbefore reopen (executed_of_pending p)
      have same := FileDescriptorInfo.tryFrom_congr (v := w₂) (w := w₁) before.fd
        ((hw ▸ quiet₁ : w₂.env.Quiet).queryFault _) (quiet₁.queryFault _) (by rw [tables])
        fun _ _ => by rw [tables]
      refine same.trans (current.trans ?_)
      split
      · next dupe => rw [← clean.dupes before hbefore dupe.2 (executed_of_pending dupe.1)]; rfl
      · rfl
    · obtain ⟨info, action, hinfo, -, rfl⟩ := entryFor_ok hmade
      exact hinfo

/-- A reset of an audited registry, with no call failing and room for what it opens,
succeeds exactly when the entries are such that it can cope with them. -/
theorem resetForSubspecies_ok_iff (reached : Run ServerCall registry)
    (audited : (registry.audit w).1 = .ok ()) (quiet : w.env.Quiet)
    (silent : ∀ clock, w.env.synced clock = []) (null : NullDevice w f)
    (lowest : w.fds.lowestFree = some n)
    (spare : ∃ m : RawFd, m ≠ n ∧ (0 ≤ m ∧ m < w.fds.limit) ∧ w.fds.slot m = none)
    (capacity : registry.data.length < registrySize)
    (regains : ∀ entry ∈ registry.data.toList, entry.action = .reopen → entry.executed = false →
      entry.Regains w.env) :
    (resetForSubspecies (registry, w)).1 = .ok () ↔ Resettable registry n f := by
  have ordered := server_ordered reached
  have agrees : registry.Matches w := (matches_of_audited audited).congr quiet quiet rfl
  have opened : ∀ entry ∈ registry.data.toList, entry.pending .subspecies = true →
      w.fds.isOpen entry.fd = true :=
    fun entry mem p => agrees.live_iff.mp ⟨entry, mem, rfl, live_of_pending p⟩
  have acts : ∀ {mid w₁}, executeActions .subspecies (registry, w) = (.ok (), mid, w₁) →
      Acted .subspecies registry w mid w₁ n f := by
    intro mid w₁ executed
    rw [executeActions_unsynced ordered silent] at executed
    obtain ⟨n', f', acted⟩ := performActions_ok ordered executed
    obtain rfl : n = n' := Option.some.inj (lowest.symm.trans acted.lowest)
    obtain rfl : f = f' := Except.ok.inj (null.resolves.symm.trans acted.resolves)
    exact acted
  constructor
  · intro ok
    obtain ⟨mid, w₁, w₂, executed, registered, passed⟩ :=
      resetForSubspecies_eq_ok.mp (Prod.ext ok rfl)
    have acted := acts executed
    obtain ⟨hw₃, last⟩ := audit_ok passed
    have quiet₂ : w₂.env.Quiet := by
      rw [(registerNew_ok registered).1]
      exact acted.frame.env ▸ quiet
    exact acted.resettable quiet ordered agrees null.isFile registered
      (last.congr (hw₃ ▸ quiet₂) quiet₂ (by rw [hw₃]; rfl))
  · intro clean
    obtain ⟨m, other, inside, free⟩ := spare
    obtain ⟨mid, w₁, executed⟩ : ∃ mid w₁,
        executeActions .subspecies (registry, w) = (.ok (), mid, w₁) :=
      ⟨_, _, Prod.ext (executeActions_progress quiet ordered null.resolves lowest other inside free
        opened fun entry mem p reopen => ⟨clean.reopens entry mem reopen (executed_of_pending p),
          regains entry mem reopen (executed_of_pending p)⟩) rfl⟩
    have acted := acts executed
    have midOrdered := executeActions_ordered ordered executed
    have quiet₁ : w₁.env.Quiet := acted.frame.env ▸ quiet
    have listing : w₁.fds.lowestFree.isSome = true := by
      refine Table.lowestFree_isSome_iff.mpr ⟨m, acted.frame.fds.limit ▸ inside, ?_⟩
      rw [acted.frame.fds.slot _ (not_or.mpr ⟨other, ?_⟩), free]
      rintro ⟨entry, mem, p, rfl⟩
      have := opened entry mem p
      rw [Table.isOpen, free] at this
      cases this
    have new := acted.newcomers_eq ordered agrees
    obtain ⟨last, w₂, registered⟩ : ∃ last w₂, registerNew (mid, w₁) = (.ok (), last, w₂) := by
      refine ⟨_, _, Prod.ext (registerNew_progress midOrdered quiet₁ listing (fun fd mem => ?_) ?_)
        rfl⟩
      · rw [new fd mem]
        obtain ⟨action, admitted⟩ := entryFor_null mid
          (show (w₁.note .opendir none).env.Quiet from quiet₁)
          (acted.null (acted.apart fun _ => agrees.live_iff.mp)) acted.contents null.isFile null.link
        exact ⟨_, admitted⟩
      · have few := (newcomers_ascends mid w₁).length_le_one new
        have same : mid.data.length = registry.data.length := by
          simp [ArrayVec.length, acted.entries]
        omega
    have hw := (registerNew_ok registered).1
    have quiet₂ : w₂.env.Quiet := by rw [hw]; exact quiet₁
    have last_matches := acted.matches_registered quiet ordered agrees null.isFile registered
      midOrdered clean regains
    have audited := audit_progress quiet₂ (by rw [hw]; exact listing)
      (last_matches.congr quiet₂ quiet₂ rfl)
    rw [resetForSubspecies_eq_ok.mpr ⟨mid, w₁, w₂, executed, registered, Prod.ext audited rfl⟩]

theorem regains_of_info {env : Env} {entry : FileDescriptorEntry} {dev ino : Nat}
    {path : CStringBuffer} {fdFlags fsFlagsOpen fsFlagsRest : Flags} {offset : Int} {text : Bytes}
    (info : entry.info = .file dev ino path fdFlags fsFlagsOpen fsFlagsRest offset)
    (htext : path.asCStr = some text) (resolves : ∀ clock, env.resolve clock text = .ok f)
    (isFile : f.IsFile) (stays : f.seek = .stays)
    (same : FileDescriptorInfo.ofFile (reopened f fsFlagsOpen fsFlagsRest offset)
      (fdFlags &&& fdCloexec = fdCloexec) = entry.info) : entry.Regains env := by
  intro _ _ _ _ _ _ _ h
  cases info.symm.trans h
  exact ⟨text, f, htext, resolves, isFile, by simp [stays], by simp [stays], same⟩

theorem regains_of_reopens {env : Env} (only : FileDescriptorEntry)
    (reopens : registry.data.toList.filter (fun entry => entry.action = .reopen) = [only])
    (regains : only.Regains env) :
    ∀ entry ∈ registry.data.toList, entry.action = .reopen → entry.executed = false →
      entry.Regains env := by
  intro entry mem action _
  have reopening : entry ∈ registry.data.toList.filter (fun entry => entry.action = .reopen) :=
    List.mem_filter.mpr ⟨mem, by simp [action]⟩
  rw [reopens] at reopening
  rwa [List.mem_singleton.mp reopening]

/-- The standard descriptors and one file to reopen. -/
def settled : FileDescriptorRegistry := (registerNew (booted tidy, tidy)).2.1

theorem resetForSubspecies_ok_settled :
    (resetForSubspecies (settled, tidy)).1 = .ok () ↔ Resettable settled 3 .null :=
  resetForSubspecies_ok_iff
    (.step .registerNew tidy (@Run.new _ .turtle tidy (booted tidy) rfl) rfl rfl) rfl
    Env.calm_quiet (fun _ => rfl) ⟨rfl, Or.inl rfl, rfl⟩ rfl ⟨4, by decide, by decide, rfl⟩ (by decide)
    (regains_of_reopens (.new 5 (.ofFile .urandom false) .reopen) (by decide)
      (regains_of_info rfl rfl (fun _ => rfl) (Or.inl rfl) rfl rfl))

/-- A server with one descriptor to close, and the subspecies server its reset makes. -/
def parent : World := .boot .calm (stdio ++ [(3, .null)])
def parentRegistry : FileDescriptorRegistry := (register 3 .close (booted parent, parent)).2.1
def child : World := (resetForSubspecies (parentRegistry, parent)).2.2
def childRegistry : FileDescriptorRegistry := (resetForSubspecies (parentRegistry, parent)).2.1

theorem childRegistry_reached : Run ServerCall childRegistry := by
  have start : Run ServerCall (booted parent) := @Run.new _ .turtle parent _ rfl
  have registered : Run ServerCall parentRegistry := start.step (.register 3 .close) parent trivial rfl
  exact registered.step .resetForSubspecies parent
    (show (resetForSubspecies (parentRegistry, parent)).1 = .ok () by decide) (by decide)

/-- The null device of the second reset gets the number 3, which has a closed entry. -/
theorem resetForSubspecies_fails :
    ¬∀ (registry : FileDescriptorRegistry) (w : World) (n : RawFd) (f : OpenFile),
      Run ServerCall registry → (registry.audit w).1 = .ok () → w.env.Quiet → NullDevice w f →
      w.fds.lowestFree = some n →
      (∃ m : RawFd, m ≠ n ∧ (0 ≤ m ∧ m < w.fds.limit) ∧ w.fds.slot m = none) →
      registry.data.length < registrySize →
      (∀ entry ∈ registry.data.toList, entry.action = .reopen → entry.executed = false →
        entry.Regains w.env) →
      (resetForSubspecies (registry, w)).1 = .ok () := by
  intro claim
  have failed := claim childRegistry child 3 .null childRegistry_reached (by decide) Env.calm_quiet
    ⟨rfl, Or.inl rfl, rfl⟩ (by decide) ⟨5, by decide, by decide, by decide⟩ (by decide)
    (regains_of_reopens (.new 4 (.ofFile (nullFile .null) true) .reopen) (by decide)
      (regains_of_info rfl rfl (fun _ => rfl) (Or.inl rfl) rfl rfl))
  revert failed
  decide

end reset

end FileDescriptorRegistry
end Zygote
