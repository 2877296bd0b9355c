import Zygote.FileDescriptors.Order

/-!
# What executing the actions does

First one entry, then the loop over all of them. An execution that succeeds has made
every call of the pending actions, touched no other number, and changed the contents
of no file that existed before.
-/
namespace Zygote
open Effect Descriptors Ascending

namespace FileDescriptorEntry
variable {entry : FileDescriptorEntry} {w w' : World} {devNullFd : RawFd} {forkType : ForkType}

/-- The action makes calls after this kind of fork, unless they were made before. -/
def pending (forkType : ForkType) (entry : FileDescriptorEntry) : Bool :=
  !entry.executed && match entry.action with
    | .close | .dupeNull | .reopen => true
    | .closeUnlessSpawnSubspecies => forkType = .application
    | .ignore => false

/-- The entry after a successful execution. -/
def mark (forkType : ForkType) (entry : FileDescriptorEntry) : FileDescriptorEntry :=
  { entry with executed := entry.executed || entry.pending forkType }

def reopened (f : OpenFile) (fsFlagsOpen fsFlagsRest : Flags) (offset : Int) : OpenFile :=
  { f with
    status := setflStatus fsFlagsRest (openStatus fsFlagsOpen)
    offset := if f.seek = .moves then offset else 0 }

/-- What the number of an executed entry refers to, from the world before to the one after. -/
def Result (devNullFd : RawFd) (entry : FileDescriptorEntry) (w w' : World) : Prop :=
  match entry.action with
  | .close | .closeUnlessSpawnSubspecies => w'.fds.slot entry.fd = none
  | .dupeNull =>
      ∃ s, w.fds.slot devNullFd = some s ∧ w'.fds.slot entry.fd = some ⟨s.file, true⟩
  | .ignore => True
  | .reopen =>
      ∃ dev ino path fdFlags fsFlagsOpen fsFlagsRest offset text clock f file,
        entry.info = .file dev ino path fdFlags fsFlagsOpen fsFlagsRest offset ∧
        path.asCStr = some text ∧ w.env.resolve clock text = .ok f ∧
        w.fds.next ≤ file ∧ file < w'.fds.next ∧
        w'.fds.slot entry.fd = some ⟨file, fdFlags &&& fdCloexec = fdCloexec⟩ ∧
        w'.fds.file file = reopened f fsFlagsOpen fsFlagsRest offset

/-- A number that has been opened in between: it has a file of its own, and nothing else of the
table is any different. -/
structure Temporary (before after : Table OpenFile) (newFd : RawFd) (f : OpenFile)
    (cloexec : Bool) : Prop where
  slot : ∀ n, after.slot n = if n = newFd then some ⟨before.next, cloexec⟩ else before.slot n
  file : ∀ i, after.file i = if i = before.next then f else before.file i
  next : after.next = before.next + 1

namespace Temporary
variable {before after : Table OpenFile} {newFd : RawFd} {f : OpenFile} {cloexec : Bool}

theorem behind (h : Temporary before after newFd f cloexec) :
    after.fileOf newFd = some before.next := by
  simp [Table.fileOf, h.slot]

theorem setCloexec (h : Temporary before after newFd f cloexec) (flag : Bool) :
    Temporary before (after.setCloexec newFd flag) newFd f flag where
  slot n := by
    rw [Table.setCloexec_slot, h.slot]
    split <;> simp_all
  file i := by rw [Table.setCloexec_file, h.file]
  next := by rw [Table.setCloexec_next, h.next]

theorem update (h : Temporary before after newFd f cloexec) (change : OpenFile → OpenFile) :
    Temporary before (after.update newFd change) newFd (change f) cloexec where
  slot n := by rw [Table.update_slot, h.slot]
  file i := by
    rw [Table.update_file, h.behind, h.file]
    by_cases same : i = before.next
    · simp [same]
    · simp [same, Ne.symm same]
  next := by rw [Table.update_next, h.next]

theorem lseekSet {v v' : World} {offset : Int} (h : Temporary before v.fds newFd f cloexec)
    (seeks : lseekSet newFd offset v = (.ok (), v')) :
    Temporary before v'.fds newFd { f with offset := if f.seek = .moves then offset else f.offset }
      cloexec := by
  obtain ⟨-, g, hg, -, moves, stays⟩ := lseekSet_effect seeks
  obtain rfl : g = f := by simpa [Table.contents, h.slot, h.file] using hg.symm
  by_cases move : g.seek = .moves
  · rw [if_pos move, (moves move).2]
    exact h.update _
  · rw [if_neg move, stays move]
    exact h

end Temporary

theorem reopen_ok {fd : RawFd} {path : CStringBuffer} {fdFlags fsFlagsOpen fsFlagsRest : Flags}
    {offset : Int}
    (h : reopen fd path fdFlags fsFlagsOpen fsFlagsRest offset w = (.ok (), w')) :
    ∃ text f, path.asCStr = some text ∧ w.env.resolve w.clock text = .ok f ∧
      w.Frame w' (· = fd) ∧ w'.fds.next = w.fds.next + 1 ∧
      w'.fds.slot fd = some ⟨w.fds.next, fdFlags &&& fdCloexec = fdCloexec⟩ ∧
      w'.fds.file w.fds.next = reopened f fsFlagsOpen fsFlagsRest offset := by
  obtain ⟨text, w₀, hlift, h₁⟩ := Prog.bind_eq_ok.mp h
  obtain ⟨newFd, w₁, hopen, h₂⟩ := Prog.bind_eq_ok.mp h₁
  obtain ⟨_, w₂, hsetfd, h₃⟩ := Prog.bind_eq_ok.mp h₂
  obtain ⟨_, w₃, hsetfl, h₄⟩ := Prog.bind_eq_ok.mp h₃
  obtain ⟨_, w₄, hseek, h₅⟩ := Prog.bind_eq_ok.mp h₄
  obtain ⟨_, w₅, hdup, hclose⟩ := Prog.bind_eq_ok.mp h₅
  have htext : path.asCStr = some text := Prog.lift_ofOption_ok hlift
  obtain rfl : w = w₀ := congrArg Prod.snd hlift
  obtain ⟨b₁, f, hf, -, free, next₁, slot₁, file₁⟩ := openFd_effect (Prog.mapErr_eq_ok.mp hopen)
  obtain ⟨b₂, t₂⟩ := fcntlSetfd_effect (Prog.mapErr_eq_ok.mp hsetfd)
  obtain ⟨b₃, t₃⟩ := fcntlSetfl_effect (Prog.mapErr_eq_ok.mp hsetfl)
  have seeks := Prog.mapErr_eq_ok.mp hseek
  obtain ⟨b₅, apart, next₅, file₅, s, hs, slot₅⟩ := dup3_effect (Prog.mapErr_eq_ok.mp hdup)
  obtain ⟨b₆, t₆⟩ := close_effect (Prog.mapErr_eq_ok.mp hclose)
  have flagged : Temporary w.fds w₃.fds newFd
      { f with status := setflStatus fsFlagsRest (openStatus fsFlagsOpen), offset := 0 }
      (fdFlags &&& fdCloexec != 0) := by
    rw [t₃, t₂]
    exact .update (.setCloexec ⟨slot₁, file₁, next₁⟩ _) _
  have temporary : Temporary w.fds w₄.fds newFd (reopened f fsFlagsOpen fsFlagsRest offset)
      (fdFlags &&& fdCloexec != 0) := flagged.lseekSet seeks
  obtain rfl : s = ⟨w.fds.next, fdFlags &&& fdCloexec != 0⟩ := by
    simpa [temporary.slot] using hs.symm
  have beside := ((((b₁.trans b₂).trans b₃).trans (lseekSet_effect seeks).1).trans b₅).trans b₆
  refine ⟨text, f, htext, hf, ⟨⟨beside.limit, ?_, fun n hn => ?_, fun i hi => ?_⟩,
    beside.watches, beside.pid, beside.env⟩, ?_, ?_, ?_⟩
  · rw [t₆, Table.close_next, next₅, temporary.next]
    exact Nat.le_succ _
  · -- the temporary number is free before and after
    rw [t₆, Table.close_slot, slot₅, if_neg hn, temporary.slot]
    split
    · next same => rw [same, free]
    · rfl
  · rw [t₆, Table.close_file, file₅, temporary.file, if_neg hi.ne]
  · rw [t₆, Table.close_next, next₅, temporary.next]
  · rw [t₆, Table.close_slot, if_neg (Ne.symm apart), slot₅, if_pos rfl]
    by_cases flag : fdFlags &&& fdCloexec = fdCloexec
    · simp [flag]; decide
    · simp [flag]
  · rw [t₆, Table.close_file, file₅, temporary.file, if_pos rfl]

theorem close_frame {fd : RawFd} (h : close fd w = (.ok (), w')) :
    w.Frame w' (· = fd) ∧ w'.fds.slot fd = none := by
  obtain ⟨beside, tables⟩ := close_effect h
  refine ⟨⟨⟨beside.limit, ?_, fun n hn => ?_, fun i _ => ?_⟩, beside.watches, beside.pid,
    beside.env⟩, ?_⟩
  · rw [tables, Table.close_next]
  · rw [tables, Table.close_slot, if_neg hn]
  · rw [tables, Table.close_file]
  · rw [tables, Table.close_slot, if_pos rfl]

theorem perform_ok {done : Bool} (fresh : entry.executed = false)
    (h : perform devNullFd forkType entry w = (.ok done, w')) :
    done = entry.pending forkType ∧ (done = false → w' = w) ∧
      (done = true → w.Frame w' (· = entry.fd) ∧ Result devNullFd entry w w') := by
  have closing : ∀ {p : Prog World FileDescriptorEntryError Bool},
      p = (do (close entry.fd).mapErr (.closeFailed entry.fd); pure true) →
      p w = (.ok done, w') → done = true ∧ w.Frame w' (· = entry.fd) ∧
        w'.fds.slot entry.fd = none := by
    rintro p rfl h
    obtain ⟨_, w₁, hclose, hpure⟩ := Prog.bind_eq_ok.mp h
    cases hpure
    exact ⟨rfl, close_frame (Prog.mapErr_eq_ok.mp hclose)⟩
  unfold perform at h
  unfold pending Result
  cases action : entry.action with
  | close =>
      simp only [action] at h
      obtain ⟨rfl, frame, gone⟩ := closing rfl h
      exact ⟨by simp [fresh], by simp, fun _ => ⟨frame, gone⟩⟩
  | closeUnlessSpawnSubspecies =>
      cases forkType with
      | application =>
          simp only [action] at h
          obtain ⟨rfl, frame, gone⟩ := closing rfl h
          exact ⟨by simp [fresh], by simp, fun _ => ⟨frame, gone⟩⟩
      | subspecies =>
          simp only [action] at h
          cases h
          exact ⟨by simp, fun _ => rfl, by simp⟩
  | dupeNull =>
      simp only [action] at h
      obtain ⟨_, w₁, hdup, hpure⟩ := Prog.bind_eq_ok.mp h
      cases hpure
      obtain ⟨beside, -, next, file, s, hs, slot⟩ := dup3_effect (Prog.mapErr_eq_ok.mp hdup)
      refine ⟨by simp [fresh], by simp, fun _ => ⟨⟨⟨beside.limit, next.ge, fun n hn => ?_,
        fun i _ => by rw [file]⟩, beside.watches, beside.pid, beside.env⟩, s, hs, ?_⟩⟩
      · rw [slot, if_neg hn]
      · rw [slot, if_pos rfl]
        rfl
  | ignore =>
      simp only [action] at h
      cases h
      exact ⟨by simp, fun _ => rfl, by simp⟩
  | reopen =>
      cases info : entry.info with
      | file dev ino path fdFlags fsFlagsOpen fsFlagsRest offset =>
          simp only [action, info] at h
          obtain ⟨_, w₁, hreopen, hpure⟩ := Prog.bind_eq_ok.mp h
          cases hpure
          obtain ⟨text, f, htext, hf, frame, next, slot, file⟩ := reopen_ok hreopen
          exact ⟨by simp [fresh], by simp, fun _ => ⟨frame, dev, ino, path, fdFlags, fsFlagsOpen,
            fsFlagsRest, offset, text, w.clock, f, w.fds.next, rfl, htext, hf, le_refl _,
            next ▸ Nat.lt_succ_self _, slot, file⟩⟩
      | boundSocket _ | connectedSocket _ | epollFd | fifo | signalFd =>
          simp [action, info, Prog.panic] at h

theorem execute_ok {after : FileDescriptorEntry} {b : Bool}
    (h : execute devNullFd forkType (entry, w) = (.ok b, after, w')) :
    after = entry.mark forkType ∧ (entry.pending forkType = false → w' = w) ∧
      (entry.pending forkType = true → w.Frame w' (· = entry.fd) ∧ Result devNullFd entry w w') := by
  simp only [execute] at h
  cases executed : entry.executed with
  | true =>
      rw [executed, if_pos rfl] at h
      obtain ⟨rfl, rfl⟩ : entry = after ∧ w = w' := by simpa using (Prod.mk.inj h).2
      refine ⟨?_, fun _ => rfl, by simp [pending, executed]⟩
      rw [mark, executed, Bool.true_or, ← executed]
  | false =>
      rw [executed] at h
      simp only [Bool.false_eq_true, if_false] at h
      split at h
      · next done w₁ run =>
        cases h
        obtain ⟨rfl, idle, active⟩ := perform_ok executed run
        exact ⟨by simp [mark, executed], idle, active⟩
      · cases h
      · cases h

theorem Result.later {u v : World} {touched : RawFd → Prop} (h : Result devNullFd entry w u)
    (frame : u.Frame v touched) (apart : ¬touched entry.fd) : Result devNullFd entry w v := by
  unfold Result at *
  rw [frame.fds.slot _ apart]
  cases action : entry.action with
  | reopen =>
      simp only [action] at h
      obtain ⟨dev, ino, path, fdFlags, fsFlagsOpen, fsFlagsRest, offset, text, clock, f, file, info,
        htext, hf, le, lt, slot, contents⟩ := h
      exact ⟨dev, ino, path, fdFlags, fsFlagsOpen, fsFlagsRest, offset, text, clock, f, file, info,
        htext, hf, le, lt.trans_le frame.fds.next, slot, (frame.fds.file _ lt).trans contents⟩
  | close | closeUnlessSpawnSubspecies | dupeNull => simpa only [action] using h
  | ignore => simp only

end FileDescriptorEntry

namespace FileDescriptorRegistry
open FileDescriptorEntry (mark pending Result)
variable {registry after : FileDescriptorRegistry} {w w' : World} {forkType : ForkType}

def Touched (forkType : ForkType) (l : List FileDescriptorEntry) (fd : RawFd) : Prop :=
  ∃ entry ∈ l, entry.pending forkType = true ∧ entry.fd = fd

/-- A loop that succeeds has marked every entry and touched no other number. Each pending
action ran in a world the actions before it had reached. -/
theorem executeEach_ok {devNullFd : RawFd} {l l' : List FileDescriptorEntry}
    (distinct : (l.map byFd).Nodup)
    (h : Prog.eachMut (executeBody devNullFd forkType) l w = (.ok (), l', w')) :
    l' = l.map (mark forkType) ∧ w.Frame w' (Touched forkType l) ∧
      ∀ entry ∈ l, entry.pending forkType = true →
        ∃ u, w.Frame u (Touched forkType l) ∧ Result devNullFd entry u w' := by
  induction l generalizing w l' with
  | nil =>
      cases h
      exact ⟨rfl, .refl _ _, by simp⟩
  | cons entry rest ih =>
      obtain ⟨fresh, distinct'⟩ := List.nodup_cons.mp distinct
      unfold Prog.eachMut at h
      split at h
      case h_2 => cases h
      case h_3 => cases h
      case h_1 value entry' w₁ run =>
      obtain ⟨b, ⟨e, u⟩, executed, hpure⟩ := Prog.bind_eq_ok.mp run
      cases hpure
      obtain ⟨marked, idle, active⟩ := FileDescriptorEntry.execute_ok executed
      have ends : (Prog.eachMut (executeBody devNullFd forkType) rest w₁).1 = .ok () :=
        congrArg Prod.fst h
      have state : (Prog.eachMut (executeBody devNullFd forkType) rest w₁).2.2 = w' :=
        congrArg (fun r => r.2.2) h
      have hrest : Prog.eachMut (executeBody devNullFd forkType) rest w₁ =
          (.ok (), (Prog.eachMut (executeBody devNullFd forkType) rest w₁).2.1, w') :=
        Prod.ext ends (Prod.ext rfl state)
      have hl : l' = entry' :: (Prog.eachMut (executeBody devNullFd forkType) rest w₁).2.1 :=
        (congrArg (fun r => r.2.1) h).symm
      obtain ⟨tail, frame, results⟩ := ih distinct' hrest
      have off : ¬Touched forkType rest entry.fd :=
        fun ⟨e, mem, _, same⟩ => fresh (List.mem_map.mpr ⟨e, mem, same⟩)
      have later : ∀ n, Touched forkType rest n → Touched forkType (entry :: rest) n :=
        fun n ⟨e, mem, p, same⟩ => ⟨e, List.mem_cons_of_mem _ mem, p, same⟩
      have step : w.Frame w₁ (Touched forkType (entry :: rest)) := by
        cases hp : entry.pending forkType with
        | false => exact idle hp ▸ .refl _ _
        | true => exact (active hp).1.mono fun n same => ⟨entry, List.mem_cons_self, hp, same.symm⟩
      refine ⟨by rw [hl, marked, tail, List.map_cons], step.trans (frame.mono later), ?_⟩
      intro e mem p
      rcases List.mem_cons.mp mem with rfl | mem
      · exact ⟨w, .refl _ _, (active p).2.later frame off⟩
      · obtain ⟨u, before, result⟩ := results e mem p
        exact ⟨u, step.trans (before.mono later), result⟩

def nullFile (f : OpenFile) : OpenFile :=
  { f with status := openStatus (oRdwr ||| oCloexec), offset := 0 }

/-- What a successful execution of the actions has done: the null device was opened at
the lowest free number, every entry is marked, and every pending action has its result. -/
structure Acted (forkType : ForkType) (registry : FileDescriptorRegistry) (w : World)
    (after : FileDescriptorRegistry) (w' : World) (n : RawFd) (f : OpenFile) : Prop where
  lowest : w.fds.lowestFree = some n
  resolves : w.env.resolve w.clock devNullPath = .ok f
  entries : after.data.toList = registry.data.toList.map (mark forkType)
  frame : w.Frame w' fun m => m = n ∨ Touched forkType registry.data.toList m
  contents : w'.fds.file w.fds.next = nullFile f
  null : ¬Touched forkType registry.data.toList n → w'.fds.slot n = some ⟨w.fds.next, true⟩
  results : ∀ entry ∈ registry.data.toList, entry.pending forkType = true →
    ∃ u, w.Frame u (fun m => m = n ∨ Touched forkType registry.data.toList m) ∧
      (¬Touched forkType registry.data.toList n → u.fds.slot n = some ⟨w.fds.next, true⟩) ∧
      Result n entry u w'

theorem performActions_ok (ordered : registry.Ordered)
    (h : performActions forkType (registry, w) = (.ok (), after, w')) :
    ∃ n f, Acted forkType registry w after w' n f := by
  obtain ⟨n, ⟨mid, v⟩, hopen, hrun⟩ := Prog.bind_eq_ok.mp h
  obtain rfl : registry = mid := congrArg (fun r => r.2.1) hopen
  have opened : openFd devNullPath (oRdwr ||| oCloexec) w = (.ok n, v) := by
    have value := Outcome.mapErr_eq_ok.mp (congrArg Prod.fst hopen)
    exact Prod.ext value (congrArg (fun r => r.2.2) hopen)
  obtain ⟨beside, f, hf, lowest, -, next, slot, file⟩ := openFd_effect opened
  have frame₁ : w.Frame v (· = n) :=
    ⟨⟨beside.limit, next ▸ Nat.le_succ _, fun m hm => by rw [slot, if_neg hm],
      fun i hi => by rw [file, if_neg hi.ne]⟩, beside.watches, beside.pid, beside.env⟩
  have slot_n : v.fds.slot n = some ⟨w.fds.next, true⟩ := by
    rw [slot, if_pos rfl]
    rfl
  have run : Prog.eachMut (executeBody n forkType) registry.data.toList v =
      (.ok (), after.data.toList, w') := by
    have value := Outcome.mapErr_eq_ok.mp (congrArg Prod.fst hrun)
    refine Prod.ext value (Prod.ext ?_ (congrArg (fun r => r.2.2) hrun))
    exact congrArg (fun r => r.2.1.data.toList) hrun
  obtain ⟨marked, frame₂, results⟩ := executeEach_ok ordered.nodup_keys run
  have fresh : w.fds.next < v.fds.next := next ▸ Nat.lt_succ_self _
  have whole : ∀ {u}, v.Frame u (Touched forkType registry.data.toList) →
      w.Frame u fun m => m = n ∨ Touched forkType registry.data.toList m :=
    fun frame => (frame₁.mono fun m => Or.inl).trans (frame.mono fun m => Or.inr)
  refine ⟨n, f, lowest, hf, marked, whole frame₂, ?_, fun apart => ?_, fun entry mem p => ?_⟩
  · rw [frame₂.fds.file _ fresh, file, if_pos rfl]
    rfl
  · rw [frame₂.fds.slot _ apart, slot_n]
  · obtain ⟨u, before, result⟩ := results entry mem p
    exact ⟨u, whole before, fun apart => by rw [before.fds.slot _ apart, slot_n], result⟩

theorem executeActions_ok (ordered : registry.Ordered)
    (h : executeActions forkType (registry, w) = (.ok (), after, w')) :
    ∃ n f v, Acted forkType registry w after v n f ∧ Synced v w' := by
  obtain ⟨v, performed, synced⟩ := executeActions_synced h
  obtain ⟨n, f, acted⟩ := performActions_ok ordered performed
  exact ⟨n, f, v, acted, synced⟩

/-- A species that closes nothing leaves what the actions made. -/
theorem executeActions_unsynced (ordered : registry.Ordered)
    (silent : ∀ clock, w.env.synced clock = []) :
    executeActions forkType (registry, w) = performActions forkType (registry, w) := by
  rw [executeActions_eq]
  refine bind_syncFdState_none fun after v performed => ?_
  obtain ⟨n, f, acted⟩ := performActions_ok ordered performed
  rw [acted.frame.env, silent]

end FileDescriptorRegistry
end Zygote
