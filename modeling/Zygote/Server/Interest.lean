import Zygote.Record
import Zygote.Server.Handlers

/-!
# The interest set

What an epoll instance watches, as the server sees it: which numbers it put in, and the
words it stored with them.
-/
namespace Zygote
open Effect Descriptors

/-- The low half of the stored word is the descriptor. -/
theorem EpollData.toU64_lower (data : EpollData) : data.toU64.setWidth 32 = BitVec.ofInt 32 data.fd := by
  apply BitVec.eq_of_getLsbD_eq
  intro i inside
  simp [toU64, inside]

/-- The high half is the tag. -/
theorem EpollData.toU64_upper (data : EpollData) :
    data.toU64 >>> 32 = BitVec.ofNat 64 data.tag.code := by
  have none : (BitVec.ofInt 32 data.fd).setWidth 64 >>> 32 = 0#64 := by
    apply BitVec.eq_of_getLsbD_eq
    intro i inside
    simp
  have code : BitVec.ofNat 64 data.tag.code <<< 32 >>> 32 = BitVec.ofNat 64 data.tag.code := by
    cases data.tag <;> rfl
  rw [toU64, BitVec.ushiftRight_or_distrib, none, code, BitVec.zero_or]

theorem EpollData.tryFrom_toU64 {fd : Int} (tag : EpollTag) (nonneg : 0 ≤ fd)
    (small : fd < 0x80000000) : EpollData.tryFrom (EpollData.toU64 ⟨fd, tag⟩) = .ok ⟨fd, tag⟩ := by
  have value : (BitVec.ofInt 32 fd).toInt = fd := by
    rw [BitVec.toInt_ofInt]
    apply Int.bmod_eq_of_le
    · omega
    · omega
  rw [EpollData.tryFrom, toU64_lower, toU64_upper, value]
  cases tag <;> rfl

/-- The instance behind the number watches these and nothing else, each for the file that its
number refers to. -/
def Polls (epfd : RawFd) (datas : List EpollData) (w : World) : Prop :=
  ∃ ep, w.fds.fileOf epfd = some ep ∧ (w.fds.file ep).isEpoll = true ∧
    (∀ watch ∈ w.watches ep, watch.file ≠ ep ∧ ∃ data ∈ datas, watch.fd = data.fd ∧
      watch.data = data.toU64 ∧ w.fds.fileOf data.fd = some watch.file) ∧
    ∀ data ∈ datas, ∃ watch ∈ w.watches ep, watch.fd = data.fd ∧ watch.data = data.toU64

/-- What a call leaves of the table: the numbers that were not touched, the kind of every file,
and the interest sets. -/
structure World.Leaves (touched : RawFd → Prop) (w w' : World) : Prop where
  fileOf : ∀ fd, ¬touched fd → w'.fds.fileOf fd = w.fds.fileOf fd
  epoll : ∀ file, file < w.fds.next → (w'.fds.file file).isEpoll = (w.fds.file file).isEpoll
  watches : ∀ file, file < w.fds.next → w'.watches file = w.watches file

theorem World.Leaves.of_tables {touched : RawFd → Prop} {w w' : World}
    (tables : w'.toTables = w.toTables) : w.Leaves touched w' := by
  refine ⟨fun fd _ => ?_, fun file _ => ?_, fun file _ => ?_⟩ <;> rw [tables]

namespace Polls
variable {epfd fd : RawFd} {datas : List EpollData} {w w' : World}

theorem leaves {touched : RawFd → Prop} (h : Polls epfd datas w) (leaves : w.Leaves touched w')
    (apart : ¬touched epfd) (aparts : ∀ data ∈ datas, ¬touched data.fd) : Polls epfd datas w' := by
  obtain ⟨ep, behind, isEpoll, watched, listed⟩ := h
  have lt := Table.fileOf_lt behind
  refine ⟨ep, (leaves.fileOf _ apart).trans behind, (leaves.epoll ep lt).trans isEpoll, ?_, ?_⟩
  · intro watch mem
    rw [leaves.watches ep lt] at mem
    obtain ⟨other, data, member, same, stored, file⟩ := watched watch mem
    exact ⟨other, data, member, same, stored, (leaves.fileOf _ (aparts data member)).trans file⟩
  · intro data member
    rw [leaves.watches ep lt]
    exact listed data member

theorem mono {others : List EpollData} (h : Polls epfd datas w)
    (same : ∀ data, data ∈ others ↔ data ∈ datas) : Polls epfd others w := by
  obtain ⟨ep, behind, isEpoll, watched, listed⟩ := h
  refine ⟨ep, behind, isEpoll, fun watch mem => ?_, fun data member => ?_⟩
  · obtain ⟨other, data, member, rest⟩ := watched watch mem
    exact ⟨other, data, (same data).mpr member, rest⟩
  · exact listed data ((same data).mp member)

end Polls

section calls
variable {epfd fd : RawFd} {datas : List EpollData} {w w' : World}

/-- `epoll_ctl` that succeeds changes the set of the one instance. -/
theorem epollCtl_ok {call : Call} {act : Nat → List Watch → Except Errno (List Watch)}
    (h : epollCtl call epfd fd act w = (.ok (), w')) :
    ∃ ep target watches, w.fds.fileOf epfd = some ep ∧ w.fds.fileOf fd = some target ∧
      (w.fds.file ep).isEpoll = true ∧ ep ≠ target ∧ act target (w.watches ep) = .ok watches ∧
      w' = { w.note call none with
        watches := fun i => if i = ep then watches else w.watches i } := by
  obtain ⟨-, made, tables, acted, rfl⟩ := attempt_ok_iff.mp h
  split at acted
  case h_2 => cases acted
  case h_1 ep target atEp atFd =>
  split at acted
  · cases acted
  · next good =>
    obtain ⟨isEpoll, apart⟩ := not_or.mp good
    split at acted
    · cases acted
    · next watches changed =>
      cases acted
      refine ⟨ep.file, target.file, watches, ?_, ?_, Bool.not_eq_false _ ▸ isEpoll, apart, changed, rfl⟩
      · rw [Table.fileOf, atEp]
        rfl
      · rw [Table.fileOf, atFd]
        rfl

/-- A change of an interest set leaves the table alone, and is made by a server. -/
theorem epollCtl_ledger {call : Call} {act : Nat → List Watch → Except Errno (List Watch)} {N : Nat}
    {old : List Event} {held own : List RawFd} (h : epollCtl call epfd fd act w = (.ok (), w'))
    (ledger : Ledger N old held own w) (mem : epfd ∈ own) (target : call.target = some epfd)
    (mute : call.listens = none) :
    w'.fds = w.fds ∧ w'.env = w.env ∧ Ledger N old held own w' := by
  obtain ⟨ep, file, watches, -, -, -, -, -, rfl⟩ := epollCtl_ok h
  refine ⟨rfl, rfl, ledger.step rfl rfl rfl rfl (fun _ _ => id) mute fun _ file on => ?_⟩
  rw [target] at on
  exact ledger.own epfd mem file on

theorem epollCtl_privileged {call : Call} {act : Nat → List Watch → Except Errno (List Watch)}
    {n : RawFd}
    (h : epollCtl call epfd fd act w = (.ok (), w')) (marked : Privileged w n) : Privileged w' n := by
  obtain ⟨ep, file, watches, -, -, -, -, -, rfl⟩ := epollCtl_ok h
  exact marked.later rfl ⟨[_], rfl⟩

theorem epollCtl_err {call : Call} {act : Nat → List Watch → Except Errno (List Watch)} {e : Errno}
    (h : epollCtl call epfd fd act w = (.err e, w')) : w' = w.note call none := by
  unfold epollCtl at h
  exact (attempt_err h).1

/-- What is added is watched from then on. -/
theorem epollAdd_polls {events : BitVec 32} {tag : EpollTag} (polls : Polls epfd datas w)
    (h : epollAdd epfd fd events (EpollData.toU64 ⟨fd, tag⟩) w = (.ok (), w')) :
    Polls epfd (⟨fd, tag⟩ :: datas) w' := by
  obtain ⟨ep, target, watches, behind, atFd, isEpoll, apart, acted, rfl⟩ := epollCtl_ok h
  obtain ⟨ep', behind', -, watched, listed⟩ := polls
  obtain rfl : ep = ep' := Option.some.inj (behind.symm.trans behind')
  have more : w.watches ep ++ [⟨fd, target, events, EpollData.toU64 ⟨fd, tag⟩⟩] = watches := by
    split at acted
    · cases acted
    · exact Except.ok.inj acted
  refine ⟨ep, behind, isEpoll, ?_, ?_⟩
  · intro watch mem
    have mem : watch ∈ watches := by simpa only [if_true] using mem
    rw [← more] at mem
    rcases List.mem_append.mp mem with old | new
    · obtain ⟨other, data, member, rest⟩ := watched watch old
      exact ⟨other, data, List.mem_cons_of_mem _ member, rest⟩
    · obtain rfl := List.mem_singleton.mp new
      exact ⟨Ne.symm apart, ⟨fd, tag⟩, List.mem_cons_self, rfl, rfl, atFd⟩
  · intro data member
    have grown : ∀ watch, watch ∈ w.watches ep ∨
        watch = ⟨fd, target, events, EpollData.toU64 ⟨fd, tag⟩⟩ →
        watch ∈ (fun i => if i = ep then watches else w.watches i) ep := by
      intro watch mem
      simp only [if_true, ← more]
      exact List.mem_append.mpr (mem.imp id List.mem_singleton.mpr)
    rcases List.mem_cons.mp member with rfl | old
    · exact ⟨_, grown _ (.inr rfl), rfl, rfl⟩
    · obtain ⟨watch, mem, rest⟩ := listed data old
      exact ⟨watch, grown watch (.inl mem), rest⟩

/-- What is deleted is watched no more; the others are. -/
theorem epollDel_polls (polls : Polls epfd datas w) (h : epollDel epfd fd w = (.ok (), w')) :
    Polls epfd (datas.filter fun data => data.fd ≠ fd) w' := by
  obtain ⟨ep, target, watches, behind, atFd, isEpoll, -, acted, rfl⟩ := epollCtl_ok h
  obtain ⟨ep', behind', -, watched, listed⟩ := polls
  obtain rfl : ep = ep' := Option.some.inj (behind.symm.trans behind')
  have fewer : (w.watches ep).filter (fun w => !(w.fd == fd && w.file == target)) = watches := by
    split at acted
    · exact Except.ok.inj acted
    · cases acted
  have member_iff : ∀ watch, watch ∈ watches ↔ watch ∈ w.watches ep ∧ watch.fd ≠ fd := by
    intro watch
    rw [← fewer, List.mem_filter]
    refine and_congr_right fun mem => ?_
    obtain ⟨-, data, member, same, -, file⟩ := watched watch mem
    have own : watch.fd = fd → watch.file = target := by
      intro eq
      rw [← same, eq, atFd] at file
      exact (Option.some.inj file).symm
    by_cases eq : watch.fd = fd
    · simp [eq, own eq]
    · simp [eq]
  refine ⟨ep, behind, isEpoll, ?_, ?_⟩
  · intro watch mem
    have mem : watch ∈ watches := by simpa only [if_true] using mem
    obtain ⟨old, apart⟩ := (member_iff watch).mp mem
    obtain ⟨other, data, member, same, rest⟩ := watched watch old
    refine ⟨other, data, List.mem_filter.mpr ⟨member, ?_⟩, same, rest⟩
    rw [← same]
    simpa using apart
  · intro data kept
    obtain ⟨member, apart⟩ := List.mem_filter.mp kept
    obtain ⟨watch, mem, same, stored⟩ := listed data member
    refine ⟨watch, ?_, same, stored⟩
    show watch ∈ if ep = ep then watches else w.watches ep
    rw [if_pos rfl]
    refine (member_iff watch).mpr ⟨mem, ?_⟩
    rw [same]
    simpa using apart

theorem epollCtl_progress {call : Call} {act : Nat → List Watch → Except Errno (List Watch)}
    {ep target : Nat} {watches : List Watch} (faultless : w.env.fault w.clock call = none)
    (atEp : w.fds.fileOf epfd = some ep) (atFd : w.fds.fileOf fd = some target)
    (isEpoll : (w.fds.file ep).isEpoll = true) (apart : ep ≠ target)
    (acted : act target (w.watches ep) = .ok watches) :
    (epollCtl call epfd fd act w).1 = .ok () := by
  obtain ⟨e, slotEp, rfl⟩ := Table.fileOf_eq_some.mp atEp
  obtain ⟨t, slotFd, rfl⟩ := Table.fileOf_eq_some.mp atFd
  have good : ¬((w.fds.file e.file).isEpoll = false ∨ e.file = t.file) := by
    rw [isEpoll]
    exact not_or.mpr ⟨Bool.noConfusion, apart⟩
  unfold epollCtl attempt
  simp only [faultless, slotEp, slotFd, if_neg good, acted]

/-- What is watched can be deleted. -/
theorem epollDel_progress {tag : EpollTag} (polls : Polls epfd datas w) (member : ⟨fd, tag⟩ ∈ datas)
    (faultless : w.env.fault w.clock (.epollDel epfd fd) = none) :
    (epollDel epfd fd w).1 = .ok () := by
  obtain ⟨ep, behind, isEpoll, watched, listed⟩ := polls
  obtain ⟨watch, mem, same, -⟩ := listed _ member
  obtain ⟨other, data, -, same', -, file⟩ := watched watch mem
  rw [← same', same] at file
  exact epollCtl_progress faultless behind file isEpoll (Ne.symm other)
    (if_pos (List.any_eq_true.mpr ⟨watch, mem, by simp [same]⟩))

/-- A new instance watches nothing. -/
theorem epollCreate_ok {n : RawFd} (h : epollCreate w = (.ok n, w')) :
    ∃ fds, w.fds.alloc .epoll false = some (n, fds) ∧ w' = { w.note .epollCreate (some n) with
      fds := fds
      watches := fun i => if i = w.fds.next then [] else w.watches i } := by
  obtain ⟨-, made, tables, acted, rfl⟩ := attempt_ok_iff.mp h
  split at acted
  · cases acted
  · next fd fds allocated =>
    cases acted
    exact ⟨fds, allocated, rfl⟩

theorem epollCreate_polls {n : RawFd} (h : epollCreate w = (.ok n, w')) : Polls n [] w' := by
  obtain ⟨fds, allocated, rfl⟩ := epollCreate_ok h
  obtain ⟨-, -, -, -, slot, file⟩ := Table.alloc_eq_some allocated
  refine ⟨w.fds.next, ?_, ?_, ?_, fun data member => nomatch member⟩
  · show fds.fileOf n = some w.fds.next
    rw [Table.fileOf, slot, if_pos rfl]
    rfl
  · show (fds.file w.fds.next).isEpoll = true
    rw [file, if_pos rfl]
    decide
  · intro watch mem
    have none : watch ∈ ([] : List Watch) := by simpa only [if_true] using mem
    cases none

end calls

section numbers
variable {call : Call} {n : RawFd} {w w' : World}

/-- A call that made a descriptor and did nothing else. -/
structure World.Opens (call : Call) (n : RawFd) (w w' : World) : Prop where
  free : w.fds.slot n = none
  log : w'.log = (w.note call (some n)).log
  env : w'.env = w.env
  limit : w'.fds.limit = w.fds.limit
  next : w'.fds.next = w.fds.next + 1
  slot : ∃ cloexec, ∀ fd, w'.fds.slot fd = if fd = n then some ⟨w.fds.next, cloexec⟩ else w.fds.slot fd
  leaves : w.Leaves (· = n) w'

/-- A call that left every number with its file. -/
structure World.Steady (call : Call) (w w' : World) : Prop where
  log : w'.log = (w.note call none).log
  env : w'.env = w.env
  limit : w'.fds.limit = w.fds.limit
  next : w'.fds.next = w.fds.next
  slot : w'.fds.slot = w.fds.slot
  leaves : w.Leaves (fun _ => False) w'

theorem leaves_alloc {f : OpenFile} {cloexec : Bool} {fds : Table OpenFile}
    (allocated : w.fds.alloc f cloexec = some (n, fds)) (tables : w'.fds = fds)
    (watches : ∀ file, file < w.fds.next → w'.watches file = w.watches file) :
    w.Leaves (· = n) w' := by
  obtain ⟨-, -, -, -, slot, file⟩ := Table.alloc_eq_some allocated
  refine ⟨fun fd apart => ?_, fun i lt => ?_, watches⟩
  · rw [tables, Table.fileOf, Table.fileOf, slot, if_neg apart]
  · rw [tables, file, if_neg lt.ne]

theorem makeFd_opens {cloexec : Bool} {file : World → Except Errno OpenFile}
    (h : makeFd call cloexec file w = (.ok n, w')) : w.Opens call n w' := by
  obtain ⟨-, f, fds, -, allocated, rfl⟩ := makeFd_ok_iff.mp h
  obtain ⟨-, free, next, limit, slot, -⟩ := Table.alloc_eq_some allocated
  exact ⟨free, rfl, rfl, limit, next, ⟨cloexec, slot⟩, leaves_alloc allocated rfl fun _ _ => rfl⟩

theorem epollCreate_opens (h : epollCreate w = (.ok n, w')) : w.Opens .epollCreate n w' := by
  obtain ⟨fds, allocated, rfl⟩ := epollCreate_ok h
  obtain ⟨-, free, next, limit, slot, -⟩ := Table.alloc_eq_some allocated
  refine ⟨free, rfl, rfl, limit, next, ⟨false, slot⟩, leaves_alloc allocated rfl fun i lt => ?_⟩
  exact if_neg lt.ne

theorem onOpen_steady {fd : RawFd} {act : OpenFile → Table OpenFile → Except Errno (Table OpenFile)}
    (h : onOpen call fd act w = (.ok (), w'))
    (acts : ∀ f t, act f w.fds = .ok t → t = w.fds ∨
      ∃ change : OpenFile → OpenFile, (∀ f, (change f).link = f.link) ∧ t = w.fds.update fd change) :
    w.Steady call w' := by
  obtain ⟨-, f, t, -, acted, rfl⟩ := onOpen_ok_iff.mp h
  rcases acts f t acted with rfl | ⟨change, kept, rfl⟩
  · exact ⟨rfl, rfl, rfl, rfl, rfl, .of_tables rfl⟩
  · refine ⟨rfl, rfl, rfl, rfl, rfl, fun _ _ => rfl, fun i _ => ?_, fun _ _ => rfl⟩
    show ((w.fds.update fd change).file i).isEpoll = _
    rw [Table.update_file]
    split
    · simp only [OpenFile.isEpoll, kept]
    · rfl

theorem fcntlSetfl_steady {fd : RawFd} {flags : Flags} (h : fcntlSetfl fd flags w = (.ok (), w')) :
    w.Steady (.fcntlSetfl fd flags) w' :=
  onOpen_steady h fun _ _ acted =>
    .inr ⟨fun f => { f with status := setflStatus flags f.status }, fun _ => rfl,
      (Except.ok.inj acted).symm⟩

theorem bind_steady {fd : RawFd} {address : SocketAddr} (h : bind fd address w = (.ok (), w')) :
    w.Steady (.bind fd address.covered) w' := by
  obtain ⟨v, bound, rfl⟩ := doing_ok_iff.mp h
  have steady : w.Steady (.bind fd address.covered) v := by
    refine onOpen_steady bound fun f t acted => .inr ?_
    split at acted
    · cases acted
    · split at acted
      · cases acted
      · exact ⟨fun f => { f with name := ⟨afUnix, kernelName address.covered.path⟩ }, fun _ => rfl,
          (Except.ok.inj acted).symm⟩
  exact ⟨steady.log, steady.env, steady.limit, steady.next, steady.slot, steady.leaves.fileOf,
    steady.leaves.epoll, steady.leaves.watches⟩

namespace World.Opens
variable {fd : RawFd}

theorem isOpen_iff (h : w.Opens call n w') :
    w'.fds.isOpen fd = true ↔ fd = n ∨ w.fds.isOpen fd = true := by
  obtain ⟨cloexec, slot⟩ := h.slot
  rw [Table.isOpen, slot, Table.isOpen]
  by_cases same : fd = n
  · simp [same]
  · simp [same]

theorem ledger {N : Nat} {old : List Event} {held own : List RawFd} (h : w.Opens call n w')
    (ledger : Ledger N old held own w) (mute : call.listens = none)
    (acts : call.acts = true → ∃ fd ∈ own, call.target = some fd) :
    Ledger N old (n :: held) (n :: own) w' := by
  obtain ⟨cloexec, slot⟩ := h.slot
  refine ledger.made h.log h.env h.limit h.next slot mute fun acting file on => ?_
  obtain ⟨fd, mem, target⟩ := acts acting
  rw [target] at on
  exact ledger.own fd mem file on

/-- What a server makes is its own. -/
theorem privileged (h : w.Opens call n w') (makes : call.makes = true) : Privileged w' n := by
  obtain ⟨cloexec, slot⟩ := h.slot
  have mem : ⟨w.pid, call, call.target.bind w.fds.fileOf, w.fds.next, some n⟩ ∈ w'.log := by
    rw [h.log]
    exact List.mem_cons_self
  refine ⟨w.fds.next, ?_, _, mem, .inl ⟨rfl, makes, rfl⟩⟩
  rw [Table.fileOf, slot, if_pos rfl]
  rfl

/-- What is privileged stays so; it has another number than the one that is handed out. -/
theorem keeps (h : w.Opens call n w') (marked : Privileged w fd) : Privileged w' fd := by
  refine marked.later (h.leaves.fileOf fd ?_) ⟨[_], h.log⟩
  rintro rfl
  obtain ⟨file, behind, -⟩ := marked
  rw [Table.fileOf, h.free] at behind
  cases behind

end World.Opens

namespace World.Steady
variable {fd : RawFd} {N : Nat} {old : List Event} {held own : List RawFd}

theorem fileOf (h : w.Steady call w') : w'.fds.fileOf fd = w.fds.fileOf fd := by
  rw [Table.fileOf, h.slot, Table.fileOf]

theorem isOpen (h : w.Steady call w') : w'.fds.isOpen fd = w.fds.isOpen fd := by
  rw [Table.isOpen, h.slot, Table.isOpen]

theorem privileged (h : w.Steady call w') (marked : Privileged w fd) : Privileged w' fd :=
  marked.later h.fileOf ⟨[_], h.log⟩

theorem ledger (h : w.Steady call w') (ledger : Ledger N old held own w) (mute : call.listens = none)
    (idle : call.acts = false) : Ledger N old held own w' := by
  refine ledger.step h.log h.env h.limit h.next (fun fd file behind => h.fileOf ▸ behind) mute ?_
  intro acts
  rw [idle] at acts
  cases acts

end World.Steady

/-- Whatever a close reports, it takes the number off the table. -/
theorem close_closes {fd : RawFd} (opened : w.fds.isOpen fd = true)
    (releases : w.env.closeReleases = true) :
    (close fd w).2.fds = w.fds.close fd ∧ (close fd w).2.watches = w.watches := by
  unfold close
  rw [if_pos opened, releases]
  split <;> exact ⟨rfl, rfl⟩

theorem closed_leaves {fd : RawFd} (fds : w'.fds = w.fds.close fd) (watches : w'.watches = w.watches) :
    w.Leaves (· = fd) w' := by
  refine ⟨fun n apart => ?_, fun i _ => ?_, fun i _ => ?_⟩
  · rw [fds, Table.fileOf, Table.close_slot, if_neg apart, Table.fileOf]
  · rw [fds, Table.close_file]
  · rw [watches]

end numbers
end Zygote
