import Zygote.FileDescriptors.Handover
import Zygote.Server.Frames
import Zygote.Server.Interest

/-!
# What a server keeps true

The clients, the registry, the interest set and the descriptor table agree whenever the
server is between two events. A descriptor that is open but not registered yet is loose.
-/
namespace Zygote
open Effect Descriptors Prog

abbrev Server.clients (server : Server) : List RawFd := server.clientSockets.toList

/-- What the interest set of a server lists. -/
def interests (lfd sfd : RawFd) (clients : List RawFd) : List EpollData :=
  ⟨lfd, .server⟩ :: ⟨sfd, .signal⟩ :: clients.map fun fd => ⟨fd, .client⟩

structure Serving (N : Nat) (old : List Event) (epfd lfd sfd : RawFd) (loose : List RawFd)
    (s : Process) : Prop where
  epollHandle : s.server.epollHandle = some epfd
  serverSocket : s.server.serverSocket = some lfd
  signalFd : s.server.signalFd = some sfd
  ordered : s.server.registry.Ordered
  live : ∀ fd, s.server.registry.Live fd ↔ s.world.fds.isOpen fd = true ∧ fd ∉ loose
  nodup : (loose ++ epfd :: lfd :: sfd :: s.server.clients).Nodup
  closes : ∀ fd ∈ epfd :: lfd :: s.server.clients, s.server.registry.Has fd .close
  spares : s.server.registry.Has sfd .closeUnlessSpawnSubspecies
  polls : Polls epfd (interests lfd sfd s.server.clients) s.world
  marked : ∀ fd ∈ loose ++ epfd :: lfd :: sfd :: s.server.clients, Privileged s.world fd
  ledger : Ledger N old (loose ++ epfd :: lfd :: sfd :: s.server.clients)
    (loose ++ epfd :: lfd :: s.server.clients) s.world

/-- The process may be another one, but it has the same server and the same descriptors. -/
structure Process.Departs (about : RawFd → Prop) (s t : Process) : Prop where
  server : t.server = s.server
  calm : s.world.Calm about t.world

namespace Process.Departs
variable {about : RawFd → Prop} {s t u : Process}

theorem refl (s : Process) : s.Departs about s := ⟨rfl, .refl _⟩

theorem trans (h : s.Departs about t) (k : t.Departs about u) : s.Departs about u :=
  ⟨k.server.trans h.server, h.calm.trans k.calm⟩

theorem bind {ε α β : Type} {p : ServerM ε α} {f : α → ServerM ε β}
    (first : Within (Process.Departs about) p) (rest : ∀ a, Within (Process.Departs about) (f a)) :
    Within (Process.Departs about) (p >>= f) := Within.bind trans first rest

end Process.Departs

section departs
variable {about : RawFd → Prop} {ε α : Type} {fd : RawFd}
open World

/-- A call of the process that leaves the tables alone. -/
theorem sys_departs {p : Prog World ε α} (calm : Within (Calm about) p) :
    Within (Process.Departs about) (ServerM.sys p) := fun s => ⟨rfl, calm s.world⟩

theorem takeAnswer_calm {call : Call} {answer : Option α} (mute : call.listens = none)
    (acts : call.acts = true → ∃ fd, call.target = some fd ∧ about fd) :
    Within (Calm about) (takeAnswer call fd answer) := by
  refine attempt_calm (fun w a made tables acted => ?_) mute acts
  split at acted
  · cases acted
  · cases acted
  · cases acted
    exact ⟨rfl, rfl⟩

theorem did_calm (deed : World → Deed) :
    Within (Calm about) (fun w => (.ok (), w.did (deed w)) : Prog World ε Unit) :=
  fun _ => ⟨.did _ _, rfl, [], rfl, List.forall_mem_nil _⟩

theorem doing_calm {deed : World → α → Deed} {p : Prog World Errno α} (h : Within (Calm about) p) :
    Within (Calm about) (doing deed p) := by
  intro w
  have made := h w
  unfold doing
  split
  · next a v run => rw [run] at made; exact made.trans ⟨.did _ _, rfl, [], rfl, List.forall_mem_nil _⟩
  · next e v run => rw [run] at made; exact made
  · next m v run => rw [run] at made; exact made

theorem recvmsg_calm {bufferSize : Nat} {datagram : Option Bytes} (mem : about fd) :
    Within (Calm about) (recvmsg bufferSize fd datagram) :=
  doing_calm (takeAnswer_calm rfl fun _ => ⟨fd, rfl, mem⟩)

theorem sendMessage_calm {message : Message} (mem : about fd) :
    Within (Calm about) (Server.sendMessage fd message) := by
  intro w
  refine doing_calm (attempt_calm (fun w a made tables acted => ?_) rfl fun _ => ⟨fd, rfl, mem⟩) w
  split at acted
  · cases acted
  · cases acted
    exact ⟨rfl, rfl⟩

/-- A fork leaves both processes with what there was. -/
theorem fork_calm : Within (Calm about) fork := by
  intro w
  have ages := fork_ages w
  rcases fork_cases w with ⟨errno, run⟩ | ⟨newPid, run⟩ | ⟨newPid, -, -, run⟩
  all_goals
    rw [run] at ages ⊢
    exact ⟨ages, rfl, [_], rfl, List.forall_mem_singleton.mpr ⟨rfl, rfl, rfl, fun acts => nomatch acts⟩⟩

end departs

/-- An operation on the registry as the process makes it. -/
theorem registry_run {α : Type} {p : RegistryM α} {s : Process} {o : Outcome FdRegistryError α}
    {registry : FileDescriptorRegistry} {w : World}
    (h : p (s.server.registry, s.world) = (o, registry, w)) :
    ServerM.registry p s = (o, ⟨{ s.server with registry }, w⟩) := by
  unfold ServerM.registry Prog.focus
  rw [h]

theorem close_ledger {N : Nat} {old : List Event} {held own : List RawFd} {w : World} {fd : RawFd}
    (h : Ledger N old held own w) : Ledger N old held own (close fd w).2 := by
  refine @Ledger.step N old held own w _ (.close fd) h (close_log fd w) ?_ ?_ ?_ ?_ rfl
    fun acts => nomatch acts
  · exact (@close_does (fun _ => True) (fun _ => True) fd trivial w).env
  · exact (close_records fd w).limit
  · unfold close
    split
    · split
      · rfl
      · split <;> rfl
    · rfl
  · intro n file behind
    have less : (close fd w).2.fds = w.fds ∨ (close fd w).2.fds = w.fds.close fd := by
      unfold close
      split
      · split
        · exact .inr rfl
        · split
          · exact .inr rfl
          · exact .inl rfl
      · exact .inl rfl
    rcases less with same | gone
    · rwa [same] at behind
    · rw [gone, Table.fileOf, Table.close_slot] at behind
      split at behind
      · cases behind
      · exact behind

namespace Serving
variable {N : Nat} {old : List Event} {epfd lfd sfd fd : RawFd} {loose : List RawFd} {s t : Process}

theorem departs (h : Serving N old epfd lfd sfd loose s)
    (departs : s.Departs (· ∈ loose ++ epfd :: lfd :: s.server.clients) t) :
    Serving N old epfd lfd sfd loose t := by
  obtain ⟨server, calm⟩ := departs
  have fds : t.world.fds = s.world.fds := congrArg Tables.fds calm.tables
  have unmoved : s.world.Leaves (fun _ => False) t.world := .of_tables calm.tables
  have polls := h.polls.leaves unmoved id fun _ _ => id
  have ledger := h.ledger.calm calm
  have marked := fun fd mem => calm.privileged (h.marked fd mem)
  exact ⟨server ▸ h.epollHandle, server ▸ h.serverSocket, server ▸ h.signalFd, server ▸ h.ordered,
    server ▸ fds ▸ h.live, server ▸ h.nodup, server ▸ h.closes, server ▸ h.spares, server ▸ polls,
    server ▸ marked, server ▸ ledger⟩

/-- The descriptors of the server are open. -/
theorem isOpen (h : Serving N old epfd lfd sfd [] s)
    (mem : fd ∈ epfd :: lfd :: sfd :: s.server.clients) :
    s.world.fds.isOpen fd = true := by
  have has : s.server.registry.Live fd := by
    by_cases signal : fd = sfd
    · exact signal ▸ h.spares.live
    · refine (h.closes fd ?_).live
      simp only [List.mem_cons] at mem ⊢
      tauto
  exact ((h.live fd).mp has).1

theorem mem_interests {lfd sfd : RawFd} {clients : List RawFd} {data : EpollData} :
    data ∈ interests lfd sfd clients ↔ data = ⟨lfd, .server⟩ ∨ data = ⟨sfd, .signal⟩ ∨
      data.tag = .client ∧ data.fd ∈ clients := by
  unfold interests
  simp only [List.mem_cons, List.mem_map]
  refine or_congr_right (or_congr_right ?_)
  constructor
  · rintro ⟨fd, mem, rfl⟩
    exact ⟨rfl, mem⟩
  · rintro ⟨tag, mem⟩
    exact ⟨data.fd, mem, by rw [← tag]⟩

/-- A client has a number of its own. -/
theorem apart (h : Serving N old epfd lfd sfd loose s) (mem : fd ∈ s.server.clients) :
    epfd ≠ fd ∧ lfd ≠ fd ∧ sfd ≠ fd := by
  have nodup := (List.nodup_append.mp h.nodup).2.1
  simp only [List.nodup_cons, List.mem_cons, not_or] at nodup
  exact ⟨fun same => nodup.1.2.2 (same ▸ mem), fun same => nodup.2.1.2 (same ▸ mem),
    fun same => nodup.2.2.1 (same ▸ mem)⟩

section removal
variable {registry : FileDescriptorRegistry}

/-- The entries of the number, live or not, have been taken out of the registry. -/
def Dropped (fd : RawFd) (before after : FileDescriptorRegistry) : Prop :=
  ∀ entry, entry ∈ after.data.toList ↔ entry ∈ before.data.toList ∧ entry.fd ≠ fd

theorem Dropped.has {other : RawFd} {action : Action} {before after : FileDescriptorRegistry}
    (h : Dropped fd before after) (apart : other ≠ fd) (has : before.Has other action) :
    after.Has other action := by
  obtain ⟨entry, mem, rfl, rest⟩ := has
  exact ⟨entry, (h entry).mpr ⟨mem, apart⟩, rfl, rest⟩

theorem Dropped.live_iff {other : RawFd} {before after : FileDescriptorRegistry}
    (h : Dropped fd before after) : after.Live other ↔ before.Live other ∧ other ≠ fd := by
  constructor
  · rintro ⟨entry, mem, rfl, live⟩
    obtain ⟨mem, apart⟩ := (h entry).mp mem
    exact ⟨⟨entry, mem, rfl, live⟩, apart⟩
  · rintro ⟨⟨entry, mem, rfl, live⟩, apart⟩
    exact ⟨entry, (h entry).mpr ⟨mem, apart⟩, rfl, live⟩

/-- The numbers of the server without one of its clients. -/
theorem erase_numbers (h : Serving N old epfd lfd sfd [] s) (mem : fd ∈ s.server.clients) :
    epfd :: lfd :: sfd :: s.server.clients.erase fd =
      (epfd :: lfd :: sfd :: s.server.clients).erase fd := by
  obtain ⟨epoll, server, signal⟩ := h.apart mem
  rw [List.erase_cons_tail (by simpa using epoll), List.erase_cons_tail (by simpa using server),
    List.erase_cons_tail (by simpa using signal)]

theorem mem_numbers_erase {other : RawFd} (h : Serving N old epfd lfd sfd [] s)
    (mem : fd ∈ s.server.clients) :
    other ∈ epfd :: lfd :: sfd :: s.server.clients.erase fd ↔
      other ≠ fd ∧ other ∈ epfd :: lfd :: sfd :: s.server.clients := by
  have nodup : (epfd :: lfd :: sfd :: s.server.clients).Nodup := h.nodup
  rw [h.erase_numbers mem, nodup.mem_erase_iff]

theorem mem_clients_erase {other : RawFd} (h : Serving N old epfd lfd sfd [] s) :
    other ∈ s.server.clients.erase fd ↔ other ≠ fd ∧ other ∈ s.server.clients := by
  have nodup : (epfd :: lfd :: sfd :: s.server.clients).Nodup := h.nodup
  simp only [List.nodup_cons] at nodup
  exact nodup.2.2.2.mem_erase_iff

theorem mem_interests_erase {data : EpollData} (h : Serving N old epfd lfd sfd [] s)
    (mem : fd ∈ s.server.clients) :
    data ∈ interests lfd sfd (s.server.clients.erase fd) ↔
      data ∈ (interests lfd sfd s.server.clients).filter fun data => data.fd ≠ fd := by
  obtain ⟨-, server, signal⟩ := h.apart mem
  rw [List.mem_filter, mem_interests, mem_interests]
  simp only [h.mem_clients_erase, decide_eq_true_eq, ne_eq]
  constructor
  · rintro (rfl | rfl | ⟨tag, other, mem⟩)
    · exact ⟨.inl rfl, server⟩
    · exact ⟨.inr (.inl rfl), signal⟩
    · exact ⟨.inr (.inr ⟨tag, mem⟩), other⟩
  · rintro ⟨rfl | rfl | ⟨tag, mem⟩, other⟩
    · exact .inl rfl
    · exact .inr (.inl rfl)
    · exact .inr (.inr ⟨tag, other, mem⟩)

/-- A client has been taken out of the registry, the interest set, the clients and the table. -/
theorem without (h : Serving N old epfd lfd sfd [] s) (mem : fd ∈ s.server.clients)
    {clientSockets : ArrayVec RawFd bufferSizeClientSockets} {w : World}
    (ordered : registry.Ordered) (dropped : Dropped fd s.server.registry registry)
    (clients : clientSockets.toList = s.server.clients.erase fd)
    (slot : ∀ n, w.fds.slot n = if n = fd then none else s.world.fds.slot n)
    (grows : ∃ newer, w.log = newer ++ s.world.log)
    (polls : Polls epfd ((interests lfd sfd s.server.clients).filter fun data => data.fd ≠ fd) w)
    (ledger : Ledger N old (epfd :: lfd :: sfd :: s.server.clients)
      (epfd :: lfd :: s.server.clients) w) :
    Serving N old epfd lfd sfd [] ⟨{ s.server with registry, clientSockets }, w⟩ := by
  have apart := h.apart mem
  have numbers : ∀ other ∈ epfd :: lfd :: sfd :: clientSockets.toList,
      other ≠ fd ∧ other ∈ epfd :: lfd :: sfd :: s.server.clients := by
    intro other mem'
    rw [clients] at mem'
    exact (h.mem_numbers_erase mem).mp mem'
  refine ⟨h.epollHandle, h.serverSocket, h.signalFd, ordered, fun other => ?_, ?_,
    fun other mem' => ?_, dropped.has apart.2.2 h.spares, polls.mono fun data => ?_,
    fun other mem' => ?_, ledger.mono (fun other mem' here => ?_) fun other mem' => ?_⟩
  · rw [dropped.live_iff, h.live, Table.isOpen, Table.isOpen, slot]
    by_cases same : other = fd
    · simp [same]
    · simp [same]
  · show (epfd :: lfd :: sfd :: clientSockets.toList).Nodup
    rw [clients, h.erase_numbers mem]
    exact h.nodup.erase fd
  · have known : other ∈ epfd :: lfd :: sfd :: clientSockets.toList := by
      simp only [List.mem_cons] at mem' ⊢
      tauto
    refine dropped.has (numbers other known).1 (h.closes other ?_)
    rw [Server.clients, clients] at mem'
    simp only [List.mem_cons, h.mem_clients_erase] at mem' ⊢
    tauto
  · rw [Server.clients, clients]
    exact h.mem_interests_erase mem
  · obtain ⟨other, still⟩ := numbers other mem'
    refine (h.marked _ still).later ?_ grows
    rw [Table.fileOf, slot, if_neg other, Table.fileOf]
  · rw [Server.clients, clients]
    refine (h.mem_numbers_erase mem).mpr ⟨?_, mem'⟩
    rintro rfl
    rw [Table.isOpen, slot, if_pos rfl] at here
    cases here
  · left
    simp only [List.nil_append, Server.clients, clients, List.mem_cons, h.mem_clients_erase] at mem' ⊢
    tauto

end removal

section removes
variable {registry : FileDescriptorRegistry} {w w' : World} (h : Serving N old epfd lfd sfd [] s)
  (removed : FileDescriptorRegistry.remove fd (s.server.registry, s.world) =
    (.ok (), registry, s.world))
include h removed

/-- The client stays in the list when the interest set does not let go of it. -/
theorem removeClientSocket_stops {e : Errno} (deleted : epollDel epfd fd s.world = (.err e, w)) :
    Server.removeClientSocket fd s = (.err (.poll e), ⟨{ s.server with registry }, w⟩) := by
  have known : (ServerM.unwrap Server.epollHandle : ServerM ClientError RawFd)
      ⟨{ s.server with registry }, s.world⟩ = (.ok epfd, ⟨{ s.server with registry }, s.world⟩) := by
    simp only [ServerM.unwrap, h.epollHandle]
  have run : ServerM.sys (epollDel epfd fd) ⟨{ s.server with registry }, s.world⟩ =
      (.err e, ⟨{ s.server with registry }, w⟩) := ServerM.sys_eq.mpr ⟨deleted, rfl⟩
  unfold Server.removeClientSocket
  rw [bind_of_ok (mapErr_eq_ok.mpr (registry_run removed)), bind_of_ok known, bind_apply, Prog.mapErr,
    run]
  rfl

theorem removeClientSocket_closes (mem : fd ∈ s.server.clients) {u : Unit}
    (deleted : epollDel epfd fd s.world = (.ok u, w)) :
    Server.removeClientSocket fd s = ((close fd w).1.mapErr (ClientError.close fd),
      ⟨{ s.server with
        registry
        clientSockets := s.server.clientSockets.removeAt (s.server.clients.findIdx (· == fd)) },
        (close fd w).2⟩) := by
  have known : (ServerM.unwrap Server.epollHandle : ServerM ClientError RawFd)
      ⟨{ s.server with registry }, s.world⟩ = (.ok epfd, ⟨{ s.server with registry }, s.world⟩) := by
    simp only [ServerM.unwrap, h.epollHandle]
  have run : ServerM.sys (epollDel epfd fd) ⟨{ s.server with registry }, s.world⟩ =
      (.ok u, ⟨{ s.server with registry }, w⟩) := ServerM.sys_eq.mpr ⟨deleted, rfl⟩
  have found : s.server.clients.findIdx? (· == fd) = some (s.server.clients.findIdx (· == fd)) :=
    List.findIdx?_eq_some_of_exists ⟨fd, mem, beq_self_eq_true fd⟩
  unfold Server.removeClientSocket
  rw [bind_of_ok (mapErr_eq_ok.mpr (registry_run removed)), bind_of_ok known,
    bind_of_ok (mapErr_eq_ok.mpr run), bind_of_ok (show Prog.read _ = (.ok _, _) from rfl)]
  simp only [found]
  rfl

/-- A client that could be taken out of everything leaves the others as they were. -/
theorem closed_serves (mem : fd ∈ s.server.clients)
    {clientSockets : ArrayVec RawFd bufferSizeClientSockets} {u : Unit}
    (clients : clientSockets.toList = s.server.clients.erase fd)
    (deleted : epollDel epfd fd s.world = (.ok u, w)) (closed : close fd w = (.ok (), w')) :
    Serving N old epfd lfd sfd [] ⟨{ s.server with registry, clientSockets }, w'⟩ := by
  obtain ⟨-, ordered, entries⟩ := FileDescriptorRegistry.remove_ok h.ordered removed
  obtain ⟨fds, -, ledger⟩ := epollCtl_ledger deleted h.ledger (by simp) rfl rfl
  obtain ⟨-, -, gone⟩ := close_ok_iff.mp closed
  have table : w'.fds = w.fds.close fd := by rw [gone]
  have after := @close_ledger _ _ _ _ _ fd ledger
  rw [closed] at after
  refine h.without mem ordered entries clients (fun n => ?_) ?_ ?_ after
  · rw [table, Table.close_slot, fds]
  · obtain ⟨ep, file, watches, -, -, -, -, -, rfl⟩ := epollCtl_ok deleted
    exact ⟨[_, _], by rw [gone]; rfl⟩
  · refine (epollDel_polls h.polls deleted).leaves (closed_leaves table (by rw [gone]; rfl)) ?_
      fun data kept => ?_
    · exact (h.apart mem).1
    · simpa using (List.mem_filter.mp kept).2

end removes

/-- What comes of removing a client. -/
structure Removal (N : Nat) (old : List Event) (epfd lfd sfd fd : RawFd) (s : Process)
    (o : Outcome ClientError Unit) (t : Process) : Prop where
  serves : o = .ok () → Serving N old epfd lfd sfd [] t ∧
    t.server.clients = s.server.clients.erase fd
  ledger : ∃ held own, Ledger N old held own t.world
  completes : (∀ n, s.world.env.fault n (.epollDel epfd fd) = none) →
    (∀ n, s.world.env.fault n (.close fd) = none) → o = .ok ()
  returns : o.isPanic = false

theorem removeClientSocket_removes (h : Serving N old epfd lfd sfd [] s)
    (mem : fd ∈ s.server.clients) {o : Outcome ClientError Unit}
    (run : Server.removeClientSocket fd s = (o, t)) : Removal N old epfd lfd sfd fd s o t := by
  obtain ⟨entry, hentry, same, -⟩ := h.closes fd (by simp [mem])
  obtain ⟨registry, removed⟩ :=
    @FileDescriptorRegistry.remove_some s.server.registry s.world fd h.ordered ⟨entry, hentry, same⟩
  have progress := fun faultless => @epollDel_progress epfd fd _ s.world .client h.polls
    (mem_interests.mpr (.inr (.inr ⟨rfl, mem⟩))) faultless
  have returns : (epollDel epfd fd s.world).1.isPanic = false := attempt_not_panic
  rcases deleted : epollDel epfd fd s.world with ⟨u | e | m, w⟩
  · obtain ⟨fds, env, ledger⟩ := epollCtl_ledger deleted h.ledger (by simp) rfl rfl
    have after := @close_ledger _ _ _ _ _ fd ledger
    have opened : w.fds.isOpen fd = true := fds ▸ h.isOpen (by simp [mem])
    have erased : (s.server.clientSockets.removeAt (s.server.clients.findIdx (· == fd))).toList =
        s.server.clients.erase fd := List.eraseIdx_idxOf_eq_erase fd s.server.clients
    cases run.symm.trans (h.removeClientSocket_closes removed mem deleted)
    refine ⟨fun ok => ⟨?_, erased⟩, ⟨_, _, after⟩, fun _ faultless => ?_, ?_⟩
    · exact h.closed_serves removed mem erased deleted (Prod.ext (Outcome.mapErr_eq_ok.mp ok) rfl)
    · rw [close_ok_iff.mpr ⟨opened, by rw [env, faultless], rfl⟩]
      rfl
    · rw [Outcome.mapErr_isPanic]
      exact close_not_panic
  · cases run.symm.trans (h.removeClientSocket_stops removed deleted)
    obtain rfl := epollCtl_err deleted
    refine ⟨nofun, ⟨_, _, h.ledger.note (.epollDel epfd fd) rfl fun _ => h.ledger.own epfd (by simp)⟩,
      fun faultless => ?_, rfl⟩
    rw [deleted] at progress
    cases progress (faultless _)
  · rw [deleted] at returns
    cases returns

end Serving
end Zygote
