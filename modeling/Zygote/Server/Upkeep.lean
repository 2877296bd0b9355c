import Zygote.Server.Rounds

/-!
# What a server has open

The table of a server is what it was when the server began, and the clients. A connection that
is accepted becomes a client or is closed again, and a client that goes leaves nothing behind.
-/
namespace Zygote
open Effect Descriptors Prog

/-- Apart from the clients, and from loose connections, these numbers are open on these files. -/
structure Process.Upkeep (base : RawFd → Option Nat) (loose : List RawFd) (s : Process) : Prop where
  held : ∀ fd ∈ loose ++ s.server.clients, base fd = none ∧ s.world.fds.isOpen fd = true
  rest : ∀ fd, fd ∉ loose ++ s.server.clients → s.world.fds.fileOf fd = base fd

def Process.besides (s : Process) (fd : RawFd) : Option Nat :=
  if fd ∈ s.server.clients then none else s.world.fds.fileOf fd

namespace Process.Upkeep
variable {base : RawFd → Option Nat} {loose : List RawFd} {s t : Process} {n : RawFd} {w : World}

theorem start (opened : ∀ fd ∈ s.server.clients, s.world.fds.isOpen fd = true) : s.Upkeep s.besides [] :=
  ⟨fun fd mem => ⟨if_pos mem, opened fd mem⟩, fun _ apart => (if_neg apart).symm⟩

theorem besides (h : s.Upkeep base []) : s.besides = base := by
  funext fd
  unfold Process.besides
  split
  · next mem => exact (h.held fd mem).1.symm
  · next apart => exact h.rest fd apart

theorem of_same (h : s.Upkeep base loose) (clients : t.server.clients = s.server.clients)
    (fds : t.world.fds.slot = s.world.fds.slot) : t.Upkeep base loose := by
  refine ⟨fun fd mem => ?_, fun fd apart => ?_⟩
  · rw [Table.isOpen, fds]
    exact h.held fd (clients ▸ mem)
  · rw [Table.fileOf, fds]
    exact h.rest fd (clients ▸ apart)

theorem departs {about : RawFd → Prop} (h : s.Upkeep base loose) (departs : s.Departs about t) :
    t.Upkeep base loose :=
  h.of_same (by rw [departs.server]) (by rw [departs.calm.tables])

/-- A number that is free is none of the table the server began with. -/
theorem accepted {call : Call} (h : s.Upkeep base []) (opens : s.world.Opens call n w) :
    Process.Upkeep base [n] ⟨s.server, w⟩ := by
  have free : s.world.fds.isOpen n = false := by
    rw [Table.isOpen, opens.free]
    rfl
  have fresh : n ∉ s.server.clients := fun mem => by
    rw [(h.held n mem).2] at free
    cases free
  refine ⟨fun fd mem => ?_, fun fd apart => ?_⟩
  · rcases List.mem_cons.mp mem with rfl | client
    · refine ⟨?_, opens.isOpen_iff.mpr (.inl rfl)⟩
      rw [← h.rest fd fresh, Table.fileOf, opens.free]
      rfl
    · exact ⟨(h.held fd client).1, opens.isOpen_iff.mpr (.inr (h.held fd client).2)⟩
  · have other : fd ≠ n := fun same => apart (same ▸ List.mem_cons_self)
    exact (opens.leaves.fileOf fd other).trans (h.rest fd fun mem => apart (List.mem_cons_of_mem _ mem))

theorem closed (h : s.Upkeep base loose) (held : n ∈ loose ++ s.server.clients)
    (fds : t.world.fds = s.world.fds.close n) {left : List RawFd}
    (members : ∀ fd, fd ∈ left ++ t.server.clients ↔ fd ∈ loose ++ s.server.clients ∧ fd ≠ n) :
    t.Upkeep base left := by
  refine ⟨fun fd mem => ?_, fun fd apart => ?_⟩
  · obtain ⟨before, other⟩ := (members fd).mp mem
    refine ⟨(h.held fd before).1, ?_⟩
    rw [fds, Table.isOpen, Table.close_slot, if_neg other]
    exact (h.held fd before).2
  · rw [fds, Table.fileOf, Table.close_slot]
    by_cases same : fd = n
    · rw [if_pos same, same, (h.held n held).1]
      rfl
    · rw [if_neg same]
      exact h.rest fd fun mem => apart ((members fd).mpr ⟨mem, same⟩)

end Process.Upkeep

section upkeep
variable {base : RawFd → Option Nat} {N : Nat} {old : List Event} {epfd lfd sfd fd n : RawFd}
  {loose clients : List RawFd} {s t : Process}
open Process

/-- A server with its connections, and what it has open besides. -/
def Holding (N : Nat) (old : List Event) (epfd lfd sfd : RawFd) (base : RawFd → Option Nat)
    (loose : List RawFd) (s : Process) : Prop :=
  Serving N old epfd lfd sfd loose s ∧ s.Upkeep base loose

/-- A connection is taken in, or it is one too many and closed again. -/
theorem handleConnection_holds (n : RawFd) :
    Exits (Holding N old epfd lfd sfd base [n]) (Server.handleConnection n)
      (fun _ s => s.Upkeep base []) (fun e s => e = .tooManyClients → s.Upkeep base [])
        fun _ => True := by
  unfold Server.handleConnection
  refine .bind (fun _ => Holding N old epfd lfd sfd base [n]) (.mapErr (attempt_exits ?_ ?_)) fun _ =>
    .read fun s => ?_
  · rintro s ⟨⟩ w ⟨serves, upkeep⟩ run
    have steady := fcntlSetfl_steady run
    exact ⟨serves.steady steady rfl rfl, upkeep.of_same rfl steady.slot⟩
  · exact fun s e _ => nofun
  rintro ⟨serves, upkeep⟩
  have apart : n ∉ s.server.clients := fun mem => (List.nodup_cons.mp serves.nodup).1 (by simp [mem])
  split
  · refine .bind (fun _ t => t.Upkeep base []) (.result ?_) fun _ => .throw fun t upkeep _ => upkeep
    rintro s rfl
    obtain ⟨fds, -⟩ := close_closes (upkeep.held n List.mem_cons_self).2 serves.ledger.releases
    have closed : Upkeep base [] (ServerM.sys (close n) s).2 := by
      refine @Upkeep.closed base [n] s _ n upkeep List.mem_cons_self fds [] fun fd => ?_
      show fd ∈ s.server.clients ↔ fd ∈ n :: s.server.clients ∧ fd ≠ n
      rw [List.mem_cons]
      constructor
      · rintro mem
        exact ⟨.inr mem, fun same => apart (same ▸ mem)⟩
      · rintro ⟨same | mem, other⟩
        · exact absurd same other
        · exact mem
    revert closed
    cases ServerM.sys (close n) s with
    | mk o t => cases o <;> first | exact id | exact fun _ => trivial
  · have pushes : ∀ {registry t}, Listed s n registry t → t.Upkeep base [] := by
      rintro registry t ⟨clientSockets, pushed, rfl⟩
      have members : ∀ fd, fd ∈ clientSockets.toList ↔ fd ∈ n :: s.server.clients := fun fd => by
        rw [pushed, List.mem_append, List.mem_singleton, List.mem_cons]
        exact or_comm
      exact ⟨fun fd mem => upkeep.held fd ((members fd).mp mem),
        fun fd apart => upkeep.rest fd fun mem => apart ((members fd).mpr mem)⟩
    refine .bind (fun _ => Listed s n s.server.registry) ((pushClient_exits n).conseq (fun _ => id)
      (fun _ _ => id) (fun _ _ => False.elim) fun _ _ => trivial) fun _ => ?_
    refine .bind (fun _ t => ∃ registry, Listed s n registry t) (.mapErr (register_exits ?_ ?_ ?_ ?_))
      fun _ => ?_
    · rintro _ ⟨clientSockets, -, rfl⟩
      exact serves.ordered
    · rintro _ registry ⟨clientSockets, pushed, rfl⟩ -
      exact ⟨registry, clientSockets, pushed, rfl⟩
    · exact fun _ e _ => nofun
    · exact fun _ _ => trivial
    refine .bind _ (unwrap_exits (a := epfd) ?_) fun a => ?_
    · rintro _ ⟨registry, clientSockets, pushed, rfl⟩
      exact serves.epollHandle
    refine .bind (fun _ t => t.Upkeep base []) (.mapErr (attempt_exits ?_ ?_)) fun _ => .pure fun _ => id
    · rintro t ⟨⟩ w ⟨rfl, registry, listed⟩ run
      have added : epollAdd a n epollIn (EpollData.toU64 ⟨n, .client⟩) t.world = (.ok (), w) := run
      obtain ⟨ep, target, watches, -, -, -, -, -, rfl⟩ := epollCtl_ok added
      exact (pushes listed).of_same rfl rfl
    · exact fun _ e _ => nofun

/-- Both at once: the server serves on with what it has open. -/
theorem handleServerEvents_holds :
    Exits (Holding N old epfd lfd sfd base []) (Server.handleServerEvents lfd)
      (fun _ s => s.Upkeep base []) (fun e s => e = .tooManyClients → s.Upkeep base [])
        fun _ => True := by
  unfold Server.handleServerEvents
  refine .read fun s holding => .bind (fun _ => Holding N old epfd lfd sfd base []) ?_
    fun _ => .pure fun _ h => h.2
  have loop := @tryUntilWouldBlock_exits _ _ _ Unit _ ServerSocketError.taskFailure
    (fun connection => ServerM.sys (accept lfd connection)) Server.handleConnection
    (Holding N old epfd lfd sfd base []) (fun _ => True) (fun _ _ => False)
    (fun e s => e = .tooManyClients → s.Upkeep base [])
    (fun n => Holding N old epfd lfd sfd base [n])
    (fun _ _ _ => accept_exhausted) (fun connection => attempt_exits ?_ ?_) (fun n => ?_)
    (s.world.env.backlog s.world.clock)
  · refine loop.conseq (fun t same => same ▸ holding) (fun exit s h => ?_) (fun _ _ => id) fun _ => id
    cases exit with
    | early b => exact h.elim
    | wouldBlock => exact h
  · rintro s n w ⟨serves, upkeep⟩ run
    have opens := makeFd_opens run
    exact ⟨serves.accepted opens, upkeep.accepted opens⟩
  · rintro s e ⟨serves, upkeep⟩
    have noted := serves.noted (.accept lfd) rfl fun _ => ⟨lfd, rfl, by simp⟩
    split
    · exact ⟨noted, upkeep.of_same rfl rfl⟩
    · exact nofun
  · refine ((@handleConnection_exits N old epfd lfd sfd [] n).both (handleConnection_holds n)).conseq
      (fun s h => ⟨⟨⟨h.1, nofun⟩, (h.2.held n List.mem_cons_self).2⟩, h⟩) (fun control s h => ?_)
      (fun e s => And.right) fun _ => And.right
    obtain ⟨⟨rfl, accepting⟩, upkeep⟩ := h
    exact ⟨accepting.serves, upkeep⟩

theorem removeClientSocket_holds (holding : Holding N old epfd lfd sfd base [] s)
    (mem : fd ∈ s.server.clients) (run : Server.removeClientSocket fd s = (.ok (), t)) :
    t.Upkeep base [] := by
  obtain ⟨serves, upkeep⟩ := holding
  obtain ⟨-, clients⟩ := (serves.removeClientSocket_removes mem run).serves rfl
  obtain ⟨_, u, removed, h₁⟩ := Prog.bind_eq_ok.mp run
  obtain ⟨registry, v, removes, rfl⟩ := registry_ok (Prog.mapErr_eq_ok.mp removed)
  obtain ⟨rfl, -, -⟩ := FileDescriptorRegistry.remove_ok serves.ordered removes
  obtain ⟨a, _, unwrapped, h₂⟩ := Prog.bind_eq_ok.mp h₁
  obtain ⟨-, rfl⟩ := unwrap_ok unwrapped
  obtain ⟨_, _, deleted, h₃⟩ := Prog.bind_eq_ok.mp h₂
  obtain ⟨x, deletes, rfl⟩ := sys_ok (Prog.mapErr_eq_ok.mp deleted)
  have fds : x.fds = s.world.fds := by
    have kept : (epollDel a fd s.world).2.fds = s.world.fds := epollCtl_fds s.world
    rw [deletes] at kept
    exact kept
  obtain ⟨_, _, ⟨⟩, h₄⟩ := Prog.bind_eq_ok.mp h₃
  cases found : s.server.clientSockets.toList.findIdx? (· == fd) with
  | none =>
      simp only [found] at h₄
      cases h₄
  | some position =>
      simp only [found] at h₄
      obtain ⟨_, _, ⟨⟩, h₅⟩ := Prog.bind_eq_ok.mp h₄
      obtain ⟨y, closed, rfl⟩ := sys_ok (Prog.mapErr_eq_ok.mp h₅)
      obtain ⟨-, -, rfl⟩ := close_ok_iff.mp closed
      have nodup := serves.nodup
      simp only [List.nil_append, List.nodup_cons] at nodup
      refine upkeep.closed mem (congrArg (Table.close · fd) fds) fun other => ?_
      rw [List.nil_append, List.nil_append, clients, nodup.2.2.2.mem_erase_iff]
      exact and_comm

end upkeep
end Zygote
