import Zygote.Server.Renewal

/-!
# A child between the fork and its own epoll instance

A child that becomes a subspecies shares the epoll instance and the sockets of its parent until
it has closed them. What it acts on in the meantime, and what it is left with when it fails.
-/
namespace Zygote
open Effect Descriptors Prog

/-- How many descriptions there were when the process began. What is behind the calls of the
process itself is the fork it began with. -/
def inherited (pid : Nat) (log : List Event) : Nat :=
  match log.dropWhile fun event => event.pid = pid with
  | fork :: _ => fork.known
  | [] => 0

/-- No process has accepted, received, sent or changed an interest set on a description that
was there when it began. -/
def Detached : List Event → Prop
  | [] => True
  | event :: earlier => (event.call.acts = true → ∀ file ∈ event.on,
        inherited event.pid earlier ≤ file) ∧
      Detached earlier

/-- The call puts another description behind the number. -/
def Call.refills (fd : RawFd) : Call → Bool
  | .dup3 _ newFd _ => newFd == fd
  | _ => false

/-- Since it began, the process has closed the number, and has made no copy at it. -/
def Vacated (fd : RawFd) (pid : Nat) : List Event → Prop
  | [] => False
  | event :: earlier => event.pid = pid ∧
      (event.call = .close fd ∨ event.call.refills fd = false ∧ Vacated fd pid earlier)

/-- A process that fails to become a subspecies fails when it has closed the number. -/
def Sheds (fd : RawFd) : List Event → Prop
  | [] => True
  | event :: earlier => (event.call = .reinitialized false → Vacated fd event.pid earlier) ∧
      Sheds fd earlier

instance Detached.decidable : DecidablePred Detached
  | [] => inferInstanceAs (Decidable True)
  | _ :: earlier =>
      have := decidable earlier
      inferInstanceAs (Decidable (_ ∧ _))

instance Vacated.decidable (fd : RawFd) (pid : Nat) : DecidablePred (Vacated fd pid)
  | [] => inferInstanceAs (Decidable False)
  | _ :: earlier =>
      have := decidable fd pid earlier
      inferInstanceAs (Decidable (_ ∧ _))

instance Sheds.decidable (fd : RawFd) : DecidablePred (Sheds fd)
  | [] => inferInstanceAs (Decidable True)
  | _ :: earlier =>
      have := decidable fd earlier
      inferInstanceAs (Decidable (_ ∧ _))

section record
variable {fd : RawFd} {pid : Nat} {event : Event} {log newer : List Event}

theorem inherited_append (own : ∀ event ∈ newer, event.pid = pid) :
    inherited pid (newer ++ log) = inherited pid log := by
  have all : ∀ event ∈ newer, decide (event.pid = pid) = true := fun event mem =>
    decide_eq_true (own event mem)
  rw [inherited, List.dropWhile_append_of_pos all, inherited]

theorem inherited_note (w : World) (call : Call) (made : Option RawFd) :
    inherited w.pid (w.note call made).log = inherited w.pid w.log :=
  @inherited_append w.pid w.log [_] (List.forall_mem_singleton.mpr rfl)

theorem inherited_cons (apart : event.pid ≠ pid) : inherited pid (event :: log) = event.known := by
  rw [inherited, List.dropWhile_cons_of_neg (by simpa using apart)]

/-- What a process puts on the record leaves it detached, when it acts on later descriptions only. -/
theorem Detached.append (h : Detached log) (own : ∀ event ∈ newer, event.pid = pid)
    (acts : ∀ event ∈ newer, event.call.acts = true → ∀ file, event.on = some file →
      inherited pid log ≤ file) : Detached (newer ++ log) := by
  induction newer with
  | nil => exact h
  | cons event rest ih =>
      obtain ⟨here, others⟩ := List.forall_mem_cons.mp own
      obtain ⟨now, before⟩ := List.forall_mem_cons.mp acts
      refine ⟨fun acting file on => ?_, ih others before⟩
      show inherited event.pid (rest ++ log) ≤ file
      rw [here, inherited_append others]
      exact now acting file on

theorem Sheds.of_append (h : Sheds fd (newer ++ log)) : Sheds fd log := by
  induction newer with
  | nil => exact h
  | cons event rest ih => exact ih h.2

end record

/-- All that the process acts on came after it, and so does all from `N` on. No path names an
epoll instance. -/
structure World.Weaned (N : Nat) (w : World) : Prop where
  record : Detached w.log
  since : inherited w.pid w.log ≤ N
  paths : ∀ n path f, w.env.resolve n path = .ok f → f.isEpoll = false

namespace World.Weaned
variable {N M : Nat} {old : List Event} {w v : World}

theorem mono (h : w.Weaned N) (le : N ≤ M) : w.Weaned M := ⟨h.record, h.since.trans le, h.paths⟩

/-- A process that goes on as itself and acts on what came after it. -/
theorem goes (h : w.Weaned N) {calls : Call → Prop} {deeds : Deed → Prop} (does : w.Does calls deeds v)
    (acts : ∃ newer, v.log = newer ++ w.log ∧ ∀ event ∈ newer, event.call.acts = true →
      ∀ file, event.on = some file → N ≤ file) : v.Weaned N := by
  obtain ⟨newer, split, all⟩ := does.log
  obtain ⟨newer', split', above⟩ := acts
  obtain rfl := List.append_cancel_right (split.symm.trans split')
  have own : ∀ event ∈ newer, event.pid = w.pid := fun event mem => (all event mem).1
  refine ⟨?_, ?_, does.env ▸ h.paths⟩
  · rw [split]
    exact h.record.append own fun event mem acting file on =>
      h.since.trans (above event mem acting file on)
  · rw [split, does.pid, inherited_append own]
    exact h.since

/-- The ledger of a server says on what it has acted. -/
theorem kept (h : w.Weaned N) {calls : Call → Prop} {deeds : Deed → Prop} (does : w.Does calls deeds v)
    (before : ∃ newer, w.log = newer ++ old) (kept : Kept N old v) : v.Weaned N := by
  obtain ⟨held, own, ledger⟩ := kept
  obtain ⟨early, first⟩ := before
  obtain ⟨newer, split, above⟩ := ledger.logged
  obtain ⟨late, more, -⟩ := does.log
  have same : newer = late ++ early := by
    have whole : newer ++ old = late ++ early ++ old := by
      rw [← split, more, first, List.append_assoc]
    exact List.append_cancel_right whole
  refine h.goes does ⟨late, more, fun event mem => above event ?_⟩
  rw [same]
  exact List.mem_append_left _ mem

end World.Weaned

/-- A child between the fork and its own epoll instance: once it has closed the inherited number,
whatever is behind it came later and is no epoll instance. -/
structure World.Orphan (fd : RawFd) (w : World) : Prop where
  weaned : w.Weaned w.fds.next
  releases : w.env.closeReleases = true
  vacated : Vacated fd w.pid w.log → ∀ file, w.fds.fileOf fd = some file →
    inherited w.pid w.log ≤ file ∧ (w.fds.file file).isEpoll = false

/-- What a call may have put behind the number: what was there, or something new. -/
def World.Behind (fd : RawFd) (call : Call) (w : World) (fds : Table OpenFile) : Prop :=
  ∀ file, fds.fileOf fd = some file → call.refills fd = true ∨
    w.fds.fileOf fd = some file ∧ call ≠ .close fd ∧
    (fds.file file).isEpoll = (w.fds.file file).isEpoll ∨
    w.fds.next ≤ file ∧ (fds.file file).isEpoll = false

section orphan
variable {fd : RawFd} {call : Call} {made : Option RawFd} {w v : World}

theorem World.Orphan.step (h : w.Orphan fd) (log : v.log = (w.note call made).log) (pid : v.pid = w.pid)
    (env : v.env = w.env) (next : w.fds.next ≤ v.fds.next) (idle : call.acts = false)
    (behind : World.Behind fd call w v.fds) : v.Orphan fd := by
  have same : inherited v.pid v.log = inherited w.pid w.log := by rw [pid, log, inherited_note]
  refine ⟨⟨?_, same ▸ h.weaned.since.trans next, env ▸ h.weaned.paths⟩, env ▸ h.releases,
    fun vacated file known => ?_⟩
  · rw [log]
    exact ⟨fun acts => (by rw [idle] at acts; cases acts), h.weaned.record⟩
  · rw [same]
    rw [log, pid] at vacated
    obtain ⟨-, closes | ⟨apart, before⟩⟩ := vacated
    · obtain rfl : call = .close fd := closes
      rcases behind file known with fills | ⟨-, other, -⟩ | ⟨later, plain⟩
      · cases fills
      · exact absurd rfl other
      · exact ⟨h.weaned.since.trans later, plain⟩
    · rcases behind file known with fills | ⟨there, -, kind⟩ | ⟨later, plain⟩
      · cases fills.symm.trans apart
      · rw [kind]
        exact h.vacated before file there
      · exact ⟨h.weaned.since.trans later, plain⟩

/-- A relation for the calls of a child that is not a server of its own yet. -/
abbrev Bereft (fd : RawFd) (w v : World) : Prop := w.Orphan fd → v.Orphan fd

theorem attempt_bereft {α : Type} {act : World → Except Errno (α × Option RawFd × Tables)}
    (idle : call.acts = false) (opens : call ≠ .close fd)
    (kept : ∀ w a made tables, w.Orphan fd → act w = .ok (a, made, tables) →
      w.fds.next ≤ tables.fds.next ∧ World.Behind fd call w tables.fds) :
    Within (Bereft fd) (attempt call act) := by
  intro w orphan
  have failed : (w.note call none).Orphan fd :=
    @World.Orphan.step fd call none w _ orphan rfl rfl rfl (le_refl _) idle
      fun file known => .inr (.inl ⟨known, opens, rfl⟩)
  unfold attempt
  split
  · exact failed
  · split
    · exact failed
    · next a made tables acted =>
      obtain ⟨next, behind⟩ := kept w a made tables orphan acted
      exact @World.Orphan.step fd call made w _ orphan rfl rfl rfl next idle behind

theorem onOpen_bereft {n : RawFd} {act : OpenFile → Table OpenFile → Except Errno (Table OpenFile)}
    (idle : call.acts = false) (opens : call ≠ .close fd)
    (kept : ∀ w f t, w.fds.contents n = some f → act f w.fds = .ok t →
      w.fds.next ≤ t.next ∧ World.Behind fd call w t) :
    Within (Bereft fd) (onOpen call n act) := by
  refine attempt_bereft idle opens fun w a made tables _ acted => ?_
  split at acted
  · cases acted
  · next f known =>
    split at acted
    · cases acted
    · next t changed =>
      cases acted
      exact kept w f t known changed

/-- What a new file is at does not matter as long as it is no epoll instance. -/
theorem makeFd_bereft {cloexec : Bool} {file : World → Except Errno OpenFile} (idle : call.acts = false)
    (opens : call ≠ .close fd) (plain : ∀ w f, w.Orphan fd → file w = .ok f → f.isEpoll = false) :
    Within (Bereft fd) (makeFd call cloexec file) := by
  refine attempt_bereft idle opens fun w a made tables orphan acted => ?_
  dsimp only at acted
  split at acted
  · cases acted
  · next f given =>
    split at acted
    · cases acted
    · next n fds allocated =>
      cases acted
      obtain ⟨-, -, next, -, slot, file⟩ := Table.alloc_eq_some allocated
      refine ⟨next ▸ Nat.le_succ _, fun i known => .inr ?_⟩
      rw [Table.fileOf, slot] at known
      rw [file]
      split at known
      · cases known
        rw [if_pos rfl]
        exact .inr ⟨le_refl _, plain w f orphan given⟩
      · have lt := Table.fileOf_lt known
        rw [if_neg lt.ne]
        exact .inl ⟨known, opens, rfl⟩

/-- A change of a table that leaves what is behind the numbers, and the kind of it. -/
theorem behind_of_same {fds : Table OpenFile} (opens : call ≠ .close fd)
    (same : ∀ file, fds.fileOf fd = some file → w.fds.fileOf fd = some file)
    (kind : ∀ file, (fds.file file).isEpoll = (w.fds.file file).isEpoll) : World.Behind fd call w fds :=
  fun file known => .inr (.inl ⟨same file known, opens, kind file⟩)

theorem update_kind {n : RawFd} {change : OpenFile → OpenFile} (t : Table OpenFile)
    (kept : ∀ f, (change f).link = f.link) (file : Nat) :
    ((t.update n change).file file).isEpoll = (t.file file).isEpoll := by
  rw [Table.update_file]
  split
  · rw [OpenFile.isEpoll, kept, OpenFile.isEpoll]
  · rfl

theorem close_bereft (n : RawFd) : Within (Bereft fd) (close n) := by
  intro w orphan
  have does := @close_does (fun _ => True) (fun _ => True) n trivial w
  have fds : (close n w).2.fds = w.fds.close n ∨ w.fds.isOpen n = false ∧ (close n w).2.fds = w.fds := by
    unfold close
    split
    · split
      · exact .inl rfl
      · split
        · exact .inl rfl
        · next kept => exact absurd orphan.releases kept
    · next shut => exact .inr ⟨by simpa using shut, rfl⟩
  refine orphan.step (close_log n w) does.pid does.env ?_ rfl fun file known => .inr (.inl ?_)
  · rcases fds with closed | ⟨-, same⟩
    · rw [closed]
      exact le_refl _
    · rw [same]
  · rcases fds with closed | ⟨shut, same⟩
    · rw [closed, Table.fileOf, Table.close_slot] at known
      split at known
      · cases known
      · next apart =>
        refine ⟨known, fun same => apart ?_, by rw [closed]; rfl⟩
        cases same
        rfl
    · rw [same] at known
      refine ⟨known, fun closes => ?_, by rw [same]⟩
      cases closes
      rw [Table.isOpen_iff_fileOf.mpr ⟨file, known⟩] at shut
      cases shut

theorem dup3_bereft (oldFd newFd : RawFd) (flags : Flags) :
    Within (Bereft fd) (dup3 oldFd newFd flags) := by
  refine onOpen_bereft rfl nofun fun w f t _ acted => ?_
  split at acted
  · cases acted
  · split at acted
    · cases acted
    · next u copied =>
      cases acted
      obtain ⟨s, -, -, next, -, file, slot⟩ := Table.dup_eq_some copied
      refine ⟨next.ge, fun i known => ?_⟩
      by_cases here : newFd = fd
      · exact .inl (beq_iff_eq.mpr here)
      · rw [Table.fileOf, slot, if_neg (Ne.symm here)] at known
        exact .inr (.inl ⟨known, nofun, by rw [file]⟩)

theorem fcntlSetfd_bereft (n : RawFd) (flags : Flags) : Within (Bereft fd) (fcntlSetfd n flags) := by
  refine onOpen_bereft rfl nofun fun w f t _ acted => ?_
  cases acted
  refine ⟨le_refl _, behind_of_same nofun (fun file known => ?_) fun _ => rfl⟩
  rw [Table.fileOf, Table.setCloexec_slot] at known
  split at known
  · next same =>
    rw [Option.map_map] at known
    rw [Table.fileOf]
    exact known
  · exact known

theorem fcntlSetfl_bereft (n : RawFd) (flags : Flags) : Within (Bereft fd) (fcntlSetfl n flags) := by
  refine onOpen_bereft rfl nofun fun w f t _ acted => ?_
  cases acted
  exact ⟨le_refl _, behind_of_same nofun (fun _ => id) (update_kind _ fun _ => rfl)⟩

theorem lseekSet_bereft (n : RawFd) (offset : Int) : Within (Bereft fd) (lseekSet n offset) := by
  refine onOpen_bereft rfl nofun fun w f t _ acted => ?_
  split at acted
  · cases acted
  · cases acted
    exact ⟨le_refl _, behind_of_same nofun (fun _ => id) fun _ => rfl⟩
  · split at acted
    · cases acted
    · cases acted
      exact ⟨le_refl _, behind_of_same nofun (fun _ => id) (update_kind _ fun _ => rfl)⟩

theorem bereft_handles : Handles (Bereft fd) where
  refl _ := id
  trans h k := k ∘ h
  openFd path flags := by
    refine makeFd_bereft rfl nofun fun w f orphan given => ?_
    split at given
    · cases given
    · next g resolved =>
      cases given
      exact orphan.weaned.paths _ _ g resolved
  close := close_bereft
  dup3 := dup3_bereft
  fcntlSetfd := fcntlSetfd_bereft
  fcntlSetfl := fcntlSetfl_bereft
  lseekSet := lseekSet_bereft
  procFdIterator := by
    intro w orphan
    unfold procFdIterator
    split
    · exact orphan
    · refine attempt_bereft rfl ?_ (fun w a made tables _ acted => ?_) w orphan
      · exact nofun
      split at acted
      · cases acted
        exact ⟨le_refl _, behind_of_same nofun (fun _ => id) fun _ => rfl⟩
      · cases acted

theorem plainCall_bereft {α : Type} {value : α} (idle : call.acts = false) (opens : call ≠ .close fd) :
    Within (Bereft fd) (plainCall call value) := by
  refine attempt_bereft idle opens fun w a made tables _ acted => ?_
  cases acted
  exact ⟨le_refl _, behind_of_same opens (fun _ => id) fun _ => rfl⟩

theorem bereft_bind {ε α β : Type} {p : Prog World ε α} {f : α → Prog World ε β}
    (first : Within (Bereft fd) p) (rest : ∀ a, Within (Bereft fd) (f a)) :
    Within (Bereft fd) (p >>= f) :=
  bereft_handles.bind first rest

theorem World.Orphan.did (h : w.Orphan fd) (deed : Deed) : (w.did deed).Orphan fd :=
  ⟨⟨h.weaned.record, h.weaned.since, h.weaned.paths⟩, h.releases, h.vacated⟩

theorem doing_bereft {α : Type} {deed : World → α → Deed} {p : Prog World Errno α}
    (h : Within (Bereft fd) p) : Within (Bereft fd) (doing deed p) := by
  intro w orphan
  have made := h w orphan
  unfold doing
  split
  · next a v run => rw [run] at made; exact made.did _
  · next e v run => rw [run] at made; exact made
  · next m v run => rw [run] at made; exact made

/-- The credentials are no business of the table. -/
theorem bereft_sets : ChildProcess.Sets (fun call => call.acts = false ∧ call ≠ .close fd)
    (Bereft fd) where
  refl _ := id
  trans h k := k ∘ h
  call {call} idle w _ orphan :=
    @World.Orphan.step fd call none w _ orphan rfl rfl rfl (le_refl _) idle.1
    (behind_of_same idle.2 (fun _ => id) fun _ => rfl)

theorem reInitialize_bereft {ε : Type} (params : SpawnParamsCommon) :
    Within (Bereft fd) (ChildProcess.reInitialize false params : Prog World ε Unit) := by
  refine ChildProcess.reInitialize_within bereft_sets (fun call free => ?_) (fun id _ => ⟨rfl, ?_⟩)
    fun id _ => ⟨rfl, ?_⟩
  · refine ⟨?_, ?_⟩
    · cases call <;> first | rfl | cases free
    · rintro rfl
      cases free
  · exact nofun
  · exact nofun

/-- The file of a socket is named after its inode. -/
theorem socket_plain (ino sockType : Nat) : (OpenFile.socket ino sockType).isEpoll = false := by
  have named : (OpenFile.socket ino sockType).link =
      "socket:[".toUTF8.data.toList ++ (toString ino ++ "]").toUTF8.data.toList := by
    show (("socket:[" ++ toString ino) ++ "]").toUTF8.data.toList = _
    simp [String.toUTF8]
  rw [OpenFile.isEpoll, named, beq_eq_false_iff_ne]
  intro same
  have first := congrArg (List.take 1) same
  rw [List.take_append_of_le_length (by decide)] at first
  exact absurd first (by decide)

theorem bind_bereft (n : RawFd) (address : SocketAddr) : Within (Bereft fd) (bind n address) := by
  refine doing_bereft (onOpen_bereft rfl nofun fun w f t _ acted => ?_)
  split at acted
  · cases acted
  · split at acted
    · cases acted
    · cases acted
      exact ⟨le_refl _, behind_of_same nofun (fun _ => id) (update_kind _ fun _ => rfl)⟩

theorem listen_bereft (n : RawFd) : Within (Bereft fd) (listen n) := by
  refine onOpen_bereft rfl nofun fun w f t _ acted => ?_
  split at acted
  · cases acted
  · split at acted
    · cases acted
    · split at acted
      · cases acted
      · cases acted
        exact ⟨le_refl _, behind_of_same nofun (fun _ => id) fun _ => rfl⟩

theorem socket_bereft (sockType : Nat) : Within (Bereft fd) (socket sockType) := by
  refine makeFd_bereft rfl nofun fun w f _ given => ?_
  cases given
  exact socket_plain _ _

theorem providedSocket_bereft (n : RawFd) : Within (Bereft fd) (Server.providedSocket n) := by
  have stays : ∀ {ε α : Type} {o : Outcome ε α},
    Within (Bereft fd) (Prog.lift o) := .lift (fun _ => id) _
  refine .reading fun w => ?_
  split
  · refine bereft_bind (.mapErr _ stays) fun stat => ?_
    split
    · refine bereft_bind (.mapErr _ stays) fun socketType => ?_
      split
      · refine bereft_bind (.mapErr _ (fcntlSetfl_bereft _ _)) fun _ => ?_
        exact bereft_bind (.mapErr _ (listen_bereft _)) fun _ => fun _ => id
      · exact fun _ => id
    · exact fun _ => id
  · exact fun _ => id

theorem boundSocket_bereft (socketPath : String) :
    Within (Bereft fd) (Server.boundSocket socketPath) := by
  unfold Server.boundSocket
  split
  · refine bereft_bind (.mapErr _ ?_) fun _ => fun _ => id
    exact bereft_bind (socket_bereft _) fun _ => bereft_bind (bind_bereft _ _) fun _ => fun _ => id
  · refine .reading fun w => ?_
    split
    · exact fun _ => id
    · cases Text.parent _ with
      | none => exact fun _ => id
      | some parent =>
        refine bereft_bind (.mapErr _ (plainCall_bereft rfl nofun)) fun _ => ?_
        refine bereft_bind (.mapErr _ ?_) fun _ => fun _ => id
        exact bereft_bind (socket_bereft _) fun _ => bereft_bind (bind_bereft _ _) fun _ => fun _ => id

theorem getServerSocket_bereft (socketPath : String) :
    Within (Bereft fd) (Server.getServerSocket socketPath) := by
  unfold Server.getServerSocket
  split
  · exact providedSocket_bereft _
  · refine bereft_bind (boundSocket_bereft _) fun (socketFd, path) => ?_
    refine bereft_bind (.mapErr _ (fcntlSetfl_bereft _ _)) fun _ => ?_
    exact bereft_bind (.mapErr _ (listen_bereft _)) fun _ => fun _ => id

end orphan

/-- Whatever comes of it, a change of an interest set is one call on the record. -/
theorem epollCtl_noted {epfd n : RawFd} {call : Call}
    {act : Nat → List Watch → Except Errno (List Watch)}
    (w : World) : (epollCtl call epfd n act w).2.log = (w.note call none).log ∧
      (epollCtl call epfd n act w).2.pid = w.pid := by
  have returns : (epollCtl call epfd n act w).1.isPanic = false := attempt_not_panic
  cases run : epollCtl call epfd n act w with
  | mk o v =>
      cases o with
      | ok u =>
          obtain ⟨ep, target, watches, -, -, -, -, -, rfl⟩ := epollCtl_ok run
          exact ⟨rfl, rfl⟩
      | err e =>
          obtain rfl := epollCtl_err run
          exact ⟨rfl, rfl⟩
      | panic m =>
          rw [run] at returns
          cases returns

namespace Process

/-- A child that still has the epoll instance of its parent, or what has come in its place. -/
def Clings (fd : RawFd) (s : Process) : Prop := s.world.Orphan fd ∧ s.server.epollHandle = some fd

/-- The server has an epoll instance of its own and no clients. -/
structure Anew (epfd : RawFd) (s : Process) : Prop where
  record : Detached s.world.log
  handle : s.server.epollHandle = some epfd
  clients : s.server.clients = []
  own : ∀ file, s.world.fds.fileOf epfd = some file → inherited s.world.pid s.world.log ≤ file

/-- What is left of a child that could not become a subspecies. -/
def Torn (fd : RawFd) (s : Process) : Prop := s.Clings fd ∨ ∃ epfd, s.Anew epfd

theorem Torn.record {fd : RawFd} {s : Process} (h : s.Torn fd) : Detached s.world.log := by
  rcases h with ⟨orphan, -⟩ | ⟨epfd, anew⟩
  · exact orphan.weaned.record
  · exact anew.record

/-- The number is open on a description that the process has made since it began. -/
def Owns (s : Process) (number : Option RawFd) : Prop :=
  ∃ fd file, number = some fd ∧ s.world.fds.fileOf fd = some file ∧
    inherited s.world.pid s.world.log ≤ file

/-- A child that fails to become a subspecies does so when it has closed the epoll instance of its
parent. -/
def Sheds (s t : Process) : Prop :=
  ∀ epfd, s.server.epollHandle = some epfd → Zygote.Sheds epfd t.world.log

end Process

namespace Server
open Process

section tailor
open FileDescriptorRegistry (register resetForSubspecies)
variable {ε α : Type} {fd epfd : RawFd} {s : Process}

theorem sys_clings {p : Prog World ε α} (h : Within (Bereft fd) p) :
    Within (fun s t => s.Clings fd → t.Clings fd) (ServerM.sys p) := fun s clings =>
  ⟨h s.world clings.1, clings.2⟩

theorem registry_clings {p : RegistryM α} (h : Within (fun s t => Bereft fd s.2 t.2) p) :
    Within (fun s t => s.Clings fd → t.Clings fd) (ServerM.registry p) := fun s clings =>
  ⟨h (s.server.registry, s.world) clings.1, clings.2⟩

/-- A step that keeps the child as it is. -/
theorem clings_exits {p : ServerM ε α} (h : Within (fun s t => s.Clings fd → t.Clings fd) p) :
    Exits (Clings fd) p (fun _ => Clings fd) (fun _ => Torn fd) (Torn fd) := by
  have leads : Leads (Clings fd) p (fun _ => Clings fd) (Clings fd) := .within h
    fun _ _ before after => after before
  exact Exits.of_leads (leads.conseq (fun _ => id) (fun _ _ => id) fun _ => .inl)

theorem anew_exits {p : ServerM ε α} (h : Within (fun s t => s.Anew epfd → t.Anew epfd) p) :
    Exits (Anew epfd) p (fun _ => Anew epfd) (fun _ => Torn fd) (Torn fd) := by
  have leads : Leads (Anew epfd) p (fun _ => Anew epfd) (Anew epfd) := .within h
    fun _ _ before after => after before
  exact Exits.of_leads (leads.conseq (fun _ => id) (fun _ _ => id) fun _ anew => .inr ⟨epfd, anew⟩)

theorem register_anew (n : RawFd) (action : Action) :
    Within (fun s t => s.Anew epfd → t.Anew epfd) (ServerM.registry (register n action)) := by
  intro s anew
  cases run : register n action (s.server.registry, s.world) with
  | mk o r =>
  obtain ⟨registry, w⟩ := r
  have world : w = s.world := by
    simp only [register] at run
    split at run <;> (cases run; rfl)
  rw [registry_run run, world]
  exact ⟨anew.record, anew.handle, anew.clients, anew.own⟩

theorem unwrap_anew {field : Server → Option α} :
    Within (fun s t => s.Anew epfd → t.Anew epfd) (ServerM.unwrap field : ServerM ε α) := by
  intro s anew
  unfold ServerM.unwrap
  split <;> exact anew

/-- What is put into the new instance. -/
theorem epollAdd_anew (n : RawFd) (events : BitVec 32) (data : BitVec 64) :
    Within (fun s t => s.Anew epfd → t.Anew epfd) (ServerM.sys (epollAdd epfd n events data)) := by
  intro s anew
  have fds : (epollAdd epfd n events data s.world).2.fds = s.world.fds := epollCtl_fds s.world
  obtain ⟨log, pid⟩ := @epollCtl_noted epfd n (.epollAdd epfd n) _ s.world
  have world : (ServerM.sys (epollAdd epfd n events data) s).2.world =
    (epollAdd epfd n events data s.world).2 := rfl
  refine ⟨?_, anew.handle, anew.clients, fun file known => ?_⟩
  · rw [world, epollAdd, log]
    exact ⟨fun _ => anew.own, anew.record⟩
  · rw [world, fds] at known
    rw [world, epollAdd, log, pid, inherited_note]
    exact anew.own file known

/-- Up to its own epoll instance the child clings to that of its parent; behind it, it has none
of its clients. -/
theorem tailor_tears (socketPath : String) :
    Exits (Clings fd) (tailor socketPath) (fun _ _ => True) (fun _ => Torn fd) (Torn fd) := by
  refine .bind _ (clings_exits (.mapErr _ (registry_clings
    (FileDescriptorRegistry.resetForSubspecies_within bereft_handles)))) fun _ => ?_
  refine .bind _ (clings_exits (.mapErr _ (sys_clings (getServerSocket_bereft socketPath))))
    fun (n, path) => ?_
  refine .bind _ (clings_exits (.mapErr _ (registry_clings
    (FileDescriptorRegistry.register_within bereft_handles n .close)))) fun _ => ?_
  refine .bind (fun _ t => t.Clings fd ∧ t.server.clients = [])
    (fun s clings => ⟨clings, rfl⟩) fun _ => ?_
  refine .bind (fun epfd t => Detached t.world.log ∧ t.server.clients = [] ∧
    ∀ file, t.world.fds.fileOf epfd = some file → inherited t.world.pid t.world.log ≤ file)
    (.mapErr (attempt_exits ?_ ?_)) fun epfd => ?_
  · rintro s epfd w ⟨⟨orphan, -⟩, clients⟩ run
    obtain ⟨fds, allocated, rfl⟩ := epollCreate_ok run
    obtain ⟨-, -, -, -, slot, -⟩ := Table.alloc_eq_some allocated
    refine ⟨⟨fun acts => (nomatch acts), orphan.weaned.record⟩, clients, fun file known => ?_⟩
    obtain rfl : s.world.fds.next = file := by
      rw [Table.fileOf, slot, if_pos rfl] at known
      exact Option.some.inj known
    exact (inherited_note s.world .epollCreate _).trans_le orphan.weaned.since
  · rintro s e ⟨⟨orphan, handle⟩, clients⟩
    refine .inl ⟨?_, handle⟩
    exact @World.Orphan.step fd .epollCreate none s.world _ orphan rfl rfl rfl (le_refl _) rfl
      (behind_of_same (fun same => by cases same) (fun _ => id) fun _ => rfl)
  · refine .bind (fun _ => Anew epfd) (fun s h => ⟨h.1, rfl, h.2.1, h.2.2⟩) fun _ => ?_
    refine .bind _ (anew_exits (.mapErr _ (register_anew epfd .close))) fun _ => ?_
    refine .bind _ (anew_exits unwrap_anew) fun serverSocket => ?_
    refine .bind _ (anew_exits (.mapErr _ (epollAdd_anew serverSocket _ _))) fun _ => ?_
    refine .bind _ (anew_exits unwrap_anew) fun signalFd => ?_
    refine .bind _ (anew_exits (.mapErr _ (epollAdd_anew signalFd _ _))) fun _ => ?_
    exact fun _ _ => trivial

end tailor

section failure
open FileDescriptorRegistry (remove)
variable {fd epfd : RawFd} {s : Process}

/-- A child that has failed when its epoll instance was closed, or had become its own. -/
structure Stuck (epfd : RawFd) (s : Process) : Prop where
  record : Detached s.world.log
  handle : s.server.epollHandle = some epfd
  own : ∀ file, s.world.fds.fileOf epfd = some file → inherited s.world.pid s.world.log ≤ file
  idle : s.server.clients = [] ∨
    ∀ file, s.world.fds.fileOf epfd = some file → (s.world.fds.file file).isEpoll = false

/-- A child has failed when it had the epoll instance of its parent. -/
def Rash (fd : RawFd) (s : Process) : Prop := ¬Sheds fd s.world.log

theorem torn_fails (torn : s.Torn fd) :
    (∃ epfd, Stuck epfd { s with world := s.world.note (.reinitialized false) none }) ∨
      Rash fd { s with world := s.world.note (.reinitialized false) none } := by
  have noted := inherited_note s.world (.reinitialized false) none
  have record : Detached (s.world.note (.reinitialized false) none).log :=
    ⟨fun acts => (nomatch acts), torn.record⟩
  rcases torn with ⟨orphan, handle⟩ | ⟨epfd, anew⟩
  · by_cases vacated : Vacated fd s.world.pid s.world.log
    · refine .inl ⟨fd, record, handle, fun file known => ?_, .inr fun file known => ?_⟩
      · exact noted.trans_le (orphan.vacated vacated file known).1
      · exact (orphan.vacated vacated file known).2
    · exact .inr fun sheds => vacated (sheds.1 rfl)
  · exact .inl ⟨epfd, record, anew.handle, fun file known => noted.trans_le (anew.own file known),
      .inl anew.clients⟩

theorem remove_stuck (n : RawFd) :
    Within (fun s t => Stuck epfd s → Stuck epfd t) (ServerM.registry (remove n)) := by
  intro s stuck
  cases run : remove n (s.server.registry, s.world) with
  | mk o r =>
  obtain ⟨registry, w⟩ := r
  have world : w = s.world := by
    simp only [remove] at run
    split at run <;> (cases run; rfl)
  rw [registry_run run, world]
  exact ⟨stuck.record, stuck.handle, stuck.own, stuck.idle⟩

/-- Such a child cannot remove a client: it has no instance to remove it from, or no clients. -/
theorem removeClientSocket_stuck (n : RawFd) :
    Exits (Stuck epfd) (removeClientSocket n) (fun _ _ => False) (fun _ t => Detached t.world.log)
      fun t => Detached t.world.log := by
  have removes : Leads (Stuck epfd) ((ServerM.registry (remove n)).mapErr ClientError.registryUpdate)
      (fun _ => Stuck epfd) (Stuck epfd) :=
    .within (.mapErr _ (remove_stuck n)) fun _ _ before after => after before
  refine .bind _ (Exits.of_leads (removes.conseq (fun _ => id) (fun _ _ => id) fun _ => Stuck.record))
    fun _ => ?_
  refine .bind _ (unwrap_exits fun _ => Stuck.handle) fun a => ?_
  refine .bind (fun _ t => Detached t.world.log ∧ t.server.clients = [])
    (.mapErr (attempt_exits ?_ ?_)) fun _ => ?_
  · rintro s ⟨⟩ w ⟨rfl, stuck⟩ run
    have deleted : epollDel a n s.world = (.ok (), w) := run
    obtain ⟨ep, target, watches, behind, -, isEpoll, -, -, rfl⟩ := epollCtl_ok deleted
    refine ⟨⟨fun _ => stuck.own, stuck.record⟩, stuck.idle.resolve_right fun plain => ?_⟩
    cases isEpoll.symm.trans (plain ep behind)
  · rintro s e ⟨rfl, stuck⟩
    exact ⟨fun _ => stuck.own, stuck.record⟩
  · refine .read fun t h => ?_
    obtain ⟨record, empty⟩ := h
    have absent : t.server.clientSockets.toList.findIdx? (· == n) = none := by
      rw [show t.server.clientSockets.toList = [] from empty]
      rfl
    rw [absent]
    exact .throw fun _ same => same ▸ record

end failure

end Server
end Zygote
