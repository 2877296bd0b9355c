import Zygote.FileDescriptors.Execute

/-!
# When executing the actions succeeds

No call fails of its own accord, every pending action finds its descriptor open, and
one number stays free for the descriptors opened on the way.
-/
namespace Zygote
open Effect Descriptors Ascending

namespace FileDescriptorEntry
variable {entry : FileDescriptorEntry} {w : World} {devNullFd : RawFd} {forkType : ForkType}

/-- Opening the recorded path again finds the same file, and with the recorded flags and
offset it is again what was recorded. -/
def Regains (env : Env) (entry : FileDescriptorEntry) : Prop :=
  ∀ dev ino path fdFlags fsFlagsOpen fsFlagsRest offset,
    entry.info = .file dev ino path fdFlags fsFlagsOpen fsFlagsRest offset →
    ∃ text f, path.asCStr = some text ∧ (∀ clock, env.resolve clock text = .ok f) ∧ f.IsFile ∧
      f.seek ≠ .refuses ∧ (f.seek = .moves → 0 ≤ offset) ∧
      FileDescriptorInfo.ofFile (reopened f fsFlagsOpen fsFlagsRest offset)
        (fdFlags &&& fdCloexec = fdCloexec) = entry.info

/-- The flags that are set on a newly opened file change nothing of how it seeks. -/
theorem contents_of_opened {w₁ w₂ w₃ : World} {newFd : RawFd} {text : Bytes} {f : OpenFile}
    {fdFlags fsFlagsOpen fsFlagsRest : Flags} (resolves : w.env.resolve w.clock text = .ok f)
    (hopen : openFd text fsFlagsOpen w = (.ok newFd, w₁))
    (hsetfd : fcntlSetfd newFd fdFlags w₁ = (.ok (), w₂))
    (hsetfl : fcntlSetfl newFd fsFlagsRest w₂ = (.ok (), w₃)) :
    ∃ g, w₃.fds.contents newFd = some g ∧ g.seek = f.seek := by
  obtain ⟨-, g, hg, -, -, -, slot₁, file₁⟩ := openFd_effect hopen
  obtain rfl : f = g := Except.ok.inj (resolves.symm.trans hg)
  obtain ⟨-, t₂⟩ := fcntlSetfd_effect hsetfd
  obtain ⟨-, t₃⟩ := fcntlSetfl_effect hsetfl
  obtain ⟨g, contents⟩ := contents_of_isOpen
    (show w₃.fds.isOpen newFd = true by simp [Table.isOpen, t₃, t₂, slot₁])
  refine ⟨g, contents, ?_⟩
  simp only [Table.contents, t₃, t₂, Table.update_slot, Table.setCloexec_slot, slot₁, if_true,
    Option.map_some, Option.some.injEq, Table.update_file, Table.setCloexec_file, file₁] at contents
  rw [← contents]
  split <;> rfl

theorem reopen_progress {fd : RawFd} {path : CStringBuffer} {text : Bytes}
    (fdFlags fsFlagsOpen fsFlagsRest : Flags) {offset : Int} {f : OpenFile}
    (quiet : w.env.Quiet) (htext : path.asCStr = some text)
    (resolves : w.env.resolve w.clock text = .ok f) (seekable : f.seek ≠ .refuses)
    (nonneg : f.seek = .moves → 0 ≤ offset) (opened : w.fds.isOpen fd = true)
    (room : w.fds.lowestFree.isSome = true) :
    ∃ w', reopen fd path fdFlags fsFlagsOpen fsFlagsRest offset w = (.ok (), w') := by
  obtain ⟨newFd, w₁, hopen⟩ := openFd_quiet fsFlagsOpen quiet resolves room
  obtain ⟨b₁, g, hg, -, free, -, slot₁, file₁⟩ := openFd_effect hopen
  obtain rfl : f = g := Except.ok.inj (resolves.symm.trans hg)
  have isOpen₁ : w₁.fds.isOpen newFd = true := by simp [Table.isOpen, slot₁]
  obtain ⟨w₂, hsetfd⟩ := fcntlSetfd_quiet fdFlags (b₁.env ▸ quiet) isOpen₁
  obtain ⟨b₂, t₂⟩ := fcntlSetfd_effect hsetfd
  have quiet₂ : w₂.env.Quiet := (b₁.trans b₂).env ▸ quiet
  have isOpen₂ : w₂.fds.isOpen newFd = true := by simp [Table.isOpen, t₂, slot₁]
  obtain ⟨w₃, hsetfl⟩ := fcntlSetfl_quiet fsFlagsRest quiet₂ isOpen₂
  obtain ⟨b₃, t₃⟩ := fcntlSetfl_effect hsetfl
  have b₁₃ := (b₁.trans b₂).trans b₃
  obtain ⟨g, contents, seek⟩ := contents_of_opened resolves hopen hsetfd hsetfl
  obtain ⟨w₄, hseek⟩ := lseekSet_quiet offset (b₁₃.env ▸ quiet) contents
    (seek ▸ seekable) (seek ▸ nonneg)
  obtain ⟨b₄, g', -, -, moves, stays⟩ := lseekSet_effect hseek
  have slot₄ : ∀ n, w₄.fds.slot n =
      if n = newFd then some ⟨w.fds.next, fdFlags &&& fdCloexec != 0⟩ else w.fds.slot n := by
    intro n
    have : w₄.fds.slot n = w₃.fds.slot n := by
      by_cases move : g'.seek = .moves
      · rw [(moves move).2, Table.update_slot]
      · rw [stays move]
    rw [this, t₃, t₂, Table.update_slot, Table.setCloexec_slot, slot₁]
    split <;> simp_all
  have b₁₄ := b₁₃.trans b₄
  have apart : newFd ≠ fd := by
    rintro rfl
    simp [Table.isOpen, free] at opened
  have inside : 0 ≤ fd ∧ fd < w₄.fds.limit := by
    rw [b₁₄.limit]
    exact Table.inside_of_isOpen opened
  obtain ⟨w₅, hdup⟩ := dup3_quiet
    (if fdFlags &&& fdCloexec = fdCloexec then oCloexec else 0) (b₁₄.env ▸ quiet)
    (show w₄.fds.isOpen newFd = true by simp [Table.isOpen, slot₄]) apart inside
  obtain ⟨b₅, -, -, -, s, -, slot₅⟩ := dup3_effect hdup
  obtain ⟨w₆, hclose⟩ := close_quiet ((b₁₄.trans b₅).env ▸ quiet)
    (show w₅.fds.isOpen newFd = true by simp [Table.isOpen, slot₅, if_neg apart, slot₄])
  refine ⟨w₆, Prog.bind_eq_ok.mpr ⟨text, w, ?_, Prog.bind_eq_ok.mpr ⟨newFd, w₁,
    Prog.mapErr_eq_ok.mpr hopen, Prog.bind_eq_ok.mpr ⟨(), w₂, Prog.mapErr_eq_ok.mpr hsetfd,
    Prog.bind_eq_ok.mpr ⟨(), w₃, Prog.mapErr_eq_ok.mpr hsetfl, Prog.bind_eq_ok.mpr ⟨(), w₄,
    Prog.mapErr_eq_ok.mpr hseek, Prog.bind_eq_ok.mpr ⟨(), w₅, Prog.mapErr_eq_ok.mpr hdup,
    Prog.mapErr_eq_ok.mpr hclose⟩⟩⟩⟩⟩⟩⟩
  rw [htext]
  rfl

/-- What a pending action needs: its descriptor open, the null descriptor another open
one, room for a temporary descriptor, and a recorded file it can open again. -/
structure Ready (devNullFd : RawFd) (w : World) (entry : FileDescriptorEntry) : Prop where
  opened : w.fds.isOpen entry.fd = true
  devNull : w.fds.isOpen devNullFd = true
  apart : devNullFd ≠ entry.fd
  room : w.fds.lowestFree.isSome = true
  isFile : entry.action = .reopen → entry.info.isFile = true
  regains : entry.action = .reopen → entry.Regains w.env

theorem perform_progress (quiet : w.env.Quiet) (fresh : entry.executed = false)
    (ready : entry.pending forkType = true → entry.Ready devNullFd w) :
    ∃ done w', perform devNullFd forkType entry w = (.ok done, w') := by
  have closing : w.fds.isOpen entry.fd = true →
      ∃ done w', (do (close entry.fd).mapErr (.closeFailed entry.fd); pure true :
        Prog World FileDescriptorEntryError Bool) w = (.ok done, w') := by
    intro opened
    obtain ⟨w', hclose⟩ := close_quiet quiet opened
    exact ⟨true, w', Prog.bind_eq_ok.mpr ⟨(), w', Prog.mapErr_eq_ok.mpr hclose, rfl⟩⟩
  unfold pending at ready
  unfold perform
  cases action : entry.action with
  | close => exact closing (ready (by simp [fresh, action])).opened
  | closeUnlessSpawnSubspecies =>
      cases forkType with
      | application => exact closing (ready (by simp [fresh, action])).opened
      | subspecies => exact ⟨false, w, rfl⟩
  | dupeNull =>
      obtain ⟨opened, devNull, apart, -, -, -⟩ := ready (by simp [fresh, action])
      obtain ⟨w', hdup⟩ := dup3_quiet oCloexec quiet devNull apart
        (Table.inside_of_isOpen opened)
      exact ⟨true, w', Prog.bind_eq_ok.mpr ⟨(), w', Prog.mapErr_eq_ok.mpr hdup, rfl⟩⟩
  | ignore => exact ⟨false, w, rfl⟩
  | reopen =>
      obtain ⟨opened, -, -, room, isFile, regains⟩ := ready (by simp [fresh, action])
      cases info : entry.info with
      | file dev ino path fdFlags fsFlagsOpen fsFlagsRest offset =>
          obtain ⟨text, f, htext, resolves, -, seekable, nonneg, -⟩ :=
            regains action _ _ _ _ _ _ _ info
          obtain ⟨w', hreopen⟩ := reopen_progress fdFlags fsFlagsOpen fsFlagsRest quiet htext
            (resolves _) seekable nonneg opened room
          exact ⟨true, w', Prog.bind_eq_ok.mpr ⟨(), w', hreopen, rfl⟩⟩
      | boundSocket _ | connectedSocket _ | epollFd | fifo | signalFd =>
          simp [FileDescriptorInfo.isFile, info] at isFile
          exact absurd action isFile

theorem execute_progress (quiet : w.env.Quiet)
    (ready : entry.pending forkType = true → entry.Ready devNullFd w) :
    ∃ b after w', execute devNullFd forkType (entry, w) = (.ok b, after, w') := by
  simp only [execute]
  cases executed : entry.executed with
  | true => exact ⟨true, entry, w, rfl⟩
  | false =>
      obtain ⟨done, w', run⟩ := perform_progress quiet executed ready
      exact ⟨done, { entry with executed := done }, w', by simp [run]⟩

end FileDescriptorEntry

namespace FileDescriptorRegistry
open FileDescriptorEntry (mark pending Ready Regains)
variable {registry : FileDescriptorRegistry} {w : World} {forkType : ForkType}

/-- The loop succeeds when every pending action is ready at its start and a number that
no action touches is free: the actions before it leave both as they are. -/
theorem executeEach_progress {devNullFd spare : RawFd} {l : List FileDescriptorEntry}
    (quiet : w.env.Quiet) (distinct : (l.map byFd).Nodup)
    (apart : ¬Touched forkType l devNullFd) (free : w.fds.slot spare = none)
    (inside : 0 ≤ spare ∧ spare < w.fds.limit) (away : ¬Touched forkType l spare)
    (ready : ∀ entry ∈ l, entry.pending forkType = true → entry.Ready devNullFd w) :
    ∃ l' w', Prog.eachMut (executeBody devNullFd forkType) l w = (.ok (), l', w') := by
  induction l generalizing w with
  | nil => exact ⟨[], w, rfl⟩
  | cons entry rest ih =>
      obtain ⟨fresh, distinct'⟩ := List.nodup_cons.mp distinct
      obtain ⟨b, after, w₁, executed⟩ :=
        FileDescriptorEntry.execute_progress quiet (ready entry List.mem_cons_self)
      obtain ⟨-, idle, active⟩ := FileDescriptorEntry.execute_ok executed
      have weaken : ∀ {n}, ¬Touched forkType (entry :: rest) n →
          ¬Touched forkType rest n ∧ ¬(entry.pending forkType = true ∧ entry.fd = n) :=
        fun h => ⟨fun ⟨e, mem, p, same⟩ => h ⟨e, List.mem_cons_of_mem _ mem, p, same⟩,
          fun ⟨p, same⟩ => h ⟨entry, List.mem_cons_self, p, same⟩⟩
      have step : w.Frame w₁ fun n => entry.pending forkType = true ∧ entry.fd = n := by
        cases hp : entry.pending forkType with
        | false => exact idle hp ▸ .refl _ _
        | true => exact (active hp).1.mono fun n same => ⟨rfl, same.symm⟩
      have free₁ : w₁.fds.slot spare = none := by rw [step.fds.slot _ (weaken away).2, free]
      have inside₁ : 0 ≤ spare ∧ spare < w₁.fds.limit := step.fds.limit ▸ inside
      have run : executeBody devNullFd forkType (entry, w) = (.ok (), after, w₁) :=
        Prog.bind_eq_ok.mpr ⟨b, (after, w₁), executed, rfl⟩
      obtain ⟨l', w', hrest⟩ := ih (step.env ▸ quiet) distinct' (weaken apart).1 free₁ inside₁
        (weaken away).1 fun e mem p => by
          obtain ⟨opened, devNull, other, -, isFile, regains⟩ :=
            ready e (List.mem_cons_of_mem _ mem) p
          have off : ¬(entry.pending forkType = true ∧ entry.fd = e.fd) :=
            fun ⟨_, same⟩ => fresh (List.mem_map.mpr ⟨e, mem, same.symm⟩)
          exact ⟨by rwa [Table.isOpen, step.fds.slot _ off],
            by rwa [Table.isOpen, step.fds.slot _ (weaken apart).2], other,
            Table.lowestFree_isSome_iff.mpr ⟨spare, inside₁, free₁⟩, isFile,
            step.env ▸ regains⟩
      exact ⟨after :: l', w', by simp only [Prog.eachMut, run, hrest]⟩

/-- Executing the actions succeeds on a table that has room beside the null device and
holds the descriptor of every pending action. -/
theorem executeActions_progress {n spare : RawFd} {f : OpenFile} (quiet : w.env.Quiet)
    (ordered : registry.Ordered) (null : w.env.resolve w.clock devNullPath = .ok f)
    (lowest : w.fds.lowestFree = some n) (other : spare ≠ n)
    (inside : 0 ≤ spare ∧ spare < w.fds.limit) (free : w.fds.slot spare = none)
    (opened : ∀ entry ∈ registry.data.toList, entry.pending forkType = true →
      w.fds.isOpen entry.fd = true)
    (files : ∀ entry ∈ registry.data.toList, entry.pending forkType = true →
      entry.action = .reopen → entry.info.isFile = true ∧ entry.Regains w.env) :
    (executeActions forkType (registry, w)).1 = .ok () := by
  obtain ⟨n', v, hopen⟩ := openFd_quiet (oRdwr ||| oCloexec) quiet null
    (by rw [lowest]; rfl)
  obtain ⟨beside, g, -, lowest', closed, -, slot, -⟩ := openFd_effect hopen
  obtain rfl : n = n' := Option.some.inj (lowest.symm.trans lowest')
  have shut : ∀ m, w.fds.slot m = none → ¬Touched forkType registry.data.toList m := by
    rintro _ none ⟨entry, mem, p, rfl⟩
    have := opened entry mem p
    simp [Table.isOpen, none] at this
  have distinct : (registry.data.toList.map byFd).Nodup := ordered.nodup_keys
  have free' : v.fds.slot spare = none := by rw [slot, if_neg other, free]
  have inside' : 0 ≤ spare ∧ spare < v.fds.limit := beside.limit ▸ inside
  obtain ⟨l', w', run⟩ := executeEach_progress (beside.env ▸ quiet) distinct (shut n closed) free'
    inside' (shut spare free) fun entry mem p => by
      have apart : n ≠ entry.fd := by
        rintro rfl
        exact shut _ closed ⟨entry, mem, p, rfl⟩
      refine ⟨?_, by simp [Table.isOpen, slot], apart,
        Table.lowestFree_isSome_iff.mpr ⟨spare, inside', free'⟩, fun h => (files entry mem p h).1,
        fun h => beside.env ▸ (files entry mem p h).2⟩
      rw [Table.isOpen, slot, if_neg (Ne.symm apart)]
      exact opened entry mem p
  have hfirst : onWorld ((openFd devNullPath (oRdwr ||| oCloexec)).mapErr FdRegistryError.devNullFailure)
      (registry, w) = (.ok n, registry, v) := by
    simp only [onWorld, Prog.focus, Prog.mapErr_eq_ok.mpr hopen]
  have hrest : performActions forkType (registry, w) =
      eachEntry (executeBody n forkType) (registry, v) := Prog.bind_of_ok hfirst _
  rw [executeActions_exit, hrest]
  exact Outcome.mapErr_eq_ok.mpr (congrArg Prod.fst run)

end FileDescriptorRegistry
end Zygote
