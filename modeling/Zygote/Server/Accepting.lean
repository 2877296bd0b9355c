import Zygote.Server.Serving

/-!
# How clients come

A connection that is accepted is loose until it is in the registry, the interest set and the
clients; one that is too many is closed again. Either way the server serves on.
-/
namespace Zygote
open Effect Descriptors Prog

/-- The record has been kept, whatever has become of the rest. -/
def Kept (N : Nat) (old : List Event) (w : World) : Prop := ∃ held own, Ledger N old held own w

/-- The server serves on, with at least these clients. -/
structure Accepting (N : Nat) (old : List Event) (epfd lfd sfd : RawFd) (loose clients : List RawFd)
    (s : Process) : Prop where
  serves : Serving N old epfd lfd sfd loose s
  stays : ∀ fd ∈ clients, fd ∈ s.server.clients

/-- A connection could not be taken in. One that was too many leaves the server as it was. -/
def Refused (N : Nat) (old : List Event) (epfd lfd sfd : RawFd) (clients : List RawFd)
    (e : ServerSocketError) (s : Process) : Prop :=
  (e = .tooManyClients → Accepting N old epfd lfd sfd [] clients s) ∧ Kept N old s.world

section accepting
variable {N : Nat} {old : List Event} {epfd lfd sfd fd n : RawFd} {loose clients : List RawFd}
  {s t : Process}

theorem Serving.kept (h : Serving N old epfd lfd sfd loose s) : Kept N old s.world := ⟨_, _, h.ledger⟩

theorem Serving.noted (h : Serving N old epfd lfd sfd loose s) (call : Call) (mute : call.listens = none)
    (acts : call.acts = true →
      ∃ fd, call.target = some fd ∧ fd ∈ loose ++ epfd :: lfd :: s.server.clients) :
    Serving N old epfd lfd sfd loose { s with world := s.world.note call none } :=
  h.departs ⟨rfl, .call rfl rfl rfl rfl mute acts⟩

theorem Serving.accepted (h : Serving N old epfd lfd sfd [] s) {w : World}
    (opens : s.world.Opens (.accept lfd) n w) : Serving N old epfd lfd sfd [n] ⟨s.server, w⟩ := by
  have free : s.world.fds.isOpen n = false := by
    rw [Table.isOpen, opens.free]
    rfl
  have apart : ∀ other ∈ epfd :: lfd :: sfd :: s.server.clients, other ≠ n := by
    rintro other mem rfl
    rw [h.isOpen mem] at free
    cases free
  refine ⟨h.epollHandle, h.serverSocket, h.signalFd, h.ordered, fun other => ?_, ?_, h.closes, h.spares,
    h.polls.leaves opens.leaves (apart _ (by simp)) fun data member => apart _ ?_,
    List.forall_mem_cons.mpr
      ⟨opens.privileged rfl, fun other mem => opens.keeps (h.marked other mem)⟩, ?_⟩
  · rw [h.live, opens.isOpen_iff, List.mem_singleton]
    simp only [List.not_mem_nil, not_false_eq_true, and_true]
    constructor
    · intro opened
      refine ⟨.inr opened, ?_⟩
      rintro rfl
      rw [opened] at free
      cases free
    · rintro ⟨same | opened, other⟩
      · exact absurd same other
      · exact opened
  · refine List.nodup_cons.mpr ⟨fun mem => apart n mem rfl, h.nodup⟩
  · rcases mem_interests.mp member with rfl | rfl | ⟨-, mem⟩
    · simp
    · simp
    · simp [mem]
  · refine opens.ledger h.ledger rfl fun _ => ⟨lfd, by simp, rfl⟩

theorem Serving.dropped (h : Serving N old epfd lfd sfd [n] s) (opened : s.world.fds.isOpen n = true) :
    Serving N old epfd lfd sfd [] ⟨s.server, (close n s.world).2⟩ := by
  obtain ⟨fds, watches⟩ := close_closes opened h.ledger.releases
  have apart : ∀ other ∈ epfd :: lfd :: sfd :: s.server.clients, other ≠ n := by
    rintro other mem rfl
    exact (List.nodup_cons.mp h.nodup).1 mem
  have gone : (close n s.world).2.fds.isOpen n = false := by
    rw [fds, Table.isOpen, Table.close_slot, if_pos rfl]
    rfl
  refine ⟨h.epollHandle, h.serverSocket, h.signalFd, h.ordered, fun other => ?_,
    (List.nodup_cons.mp h.nodup).2, h.closes, h.spares,
    h.polls.leaves (closed_leaves fds watches) (apart _ (by simp)) fun data member => apart _ ?_,
    fun other mem => ?_, ?_⟩
  · rw [h.live, fds, Table.isOpen, Table.isOpen, Table.close_slot, List.mem_singleton]
    by_cases same : other = n
    · simp [same]
    · simp [same]
  · rcases mem_interests.mp member with rfl | rfl | ⟨-, mem⟩
    · simp
    · simp
    · simp [mem]
  · exact (h.marked other (List.mem_cons_of_mem _ mem)).later
      ((closed_leaves fds watches).fileOf other (apart other mem)) ⟨[_], close_log n s.world⟩
  · refine (close_ledger h.ledger).mono (fun other mem here => ?_) fun other mem => ?_
    · refine (List.mem_cons.mp mem).resolve_left ?_
      rintro rfl
      rw [gone] at here
      cases here
    · exact .inl (List.mem_cons_of_mem _ mem)

theorem Serving.joined (h : Serving N old epfd lfd sfd [n] s) {registry : FileDescriptorRegistry}
    {clientSockets : ArrayVec RawFd bufferSizeClientSockets} {w : World}
    (pushed : clientSockets.toList = s.server.clients ++ [n])
    (registered : FileDescriptorRegistry.Registered s.server.registry registry n .close)
    (opened : s.world.fds.isOpen n = true)
    (added : epollAdd epfd n epollIn (EpollData.toU64 ⟨n, .client⟩) s.world = (.ok (), w)) :
    Serving N old epfd lfd sfd [] ⟨{ s.server with registry, clientSockets }, w⟩ := by
  have polls := epollAdd_polls h.polls added
  obtain ⟨fds, -, ledger⟩ := epollCtl_ledger added h.ledger (by simp) rfl rfl
  have perm : ([n] ++ epfd :: lfd :: sfd :: s.server.clients).Perm
      (epfd :: lfd :: sfd :: clientSockets.toList) := by
    rw [pushed]
    exact @List.perm_append_comm _ [n] (epfd :: lfd :: sfd :: s.server.clients)
  refine ⟨h.epollHandle, h.serverSocket, h.signalFd, registered.ordered, fun other => ?_,
    perm.nodup_iff.mp h.nodup, fun other mem => ?_, registered.keeps h.spares, polls.mono fun data => ?_,
    fun other mem => epollCtl_privileged added (h.marked other (perm.mem_iff.mpr mem)), ?_⟩
  · show registry.Live other ↔ w.fds.isOpen other = true ∧ other ∉ []
    rw [registered.live_iff, h.live, fds, List.mem_singleton]
    by_cases same : other = n
    · simp [same, opened]
    · simp [same]
  · rw [Server.clients, pushed] at mem
    rcases List.mem_append.mp (show other ∈ (epfd :: lfd :: s.server.clients) ++ [n] from mem) with
      old | new
    · exact registered.keeps (h.closes other old)
    · rw [List.mem_singleton.mp new]
      exact registered.has
  · rw [List.mem_cons, mem_interests, mem_interests, Server.clients, pushed]
    simp only [List.mem_append, List.mem_singleton]
    constructor
    · rintro (lfd | sfd | ⟨tag, old | same⟩)
      · exact .inr (.inl lfd)
      · exact .inr (.inr (.inl sfd))
      · exact .inr (.inr (.inr ⟨tag, old⟩))
      · exact .inl (by rw [← same, ← tag])
    · rintro (rfl | lfd | sfd | ⟨tag, old⟩)
      · exact .inr (.inr ⟨rfl, .inr rfl⟩)
      · exact .inl lfd
      · exact .inr (.inl sfd)
      · exact .inr (.inr ⟨tag, .inl old⟩)
  · refine ledger.mono (fun other mem _ => perm.mem_iff.mp mem) fun other mem => .inl ?_
    rw [Server.clients, pushed] at mem
    simp only [List.mem_cons, List.mem_append, List.not_mem_nil, or_false] at mem ⊢
    tauto

/-- A call changes the world only, and one that fails nothing but the record. -/
theorem attempt_exits {α : Type} {call : Call} {act : World → Except Errno (α × Option RawFd × Tables)}
    {pre panic : Process → Prop} {ok : α → Process → Prop} {err : Errno → Process → Prop}
    (done : ∀ s a w, pre s → attempt call act s.world = (.ok a, w) → ok a ⟨s.server, w⟩)
    (failed : ∀ s e, pre s → err e ⟨s.server, s.world.note call none⟩) :
    Exits pre (ServerM.sys (attempt call act)) ok err panic := by
  intro s hs
  have returns : (attempt call act s.world).1.isPanic = false := attempt_not_panic
  unfold ServerM.sys Prog.focus
  revert returns
  cases run : attempt call act s.world with
  | mk o w =>
      cases o with
      | ok a => exact fun _ => done s a w hs run
      | err e =>
          obtain ⟨rfl, -⟩ := attempt_err run
          exact fun _ => failed s e hs
      | panic m => exact fun returns => nomatch returns

theorem Serving.steady (h : Serving N old epfd lfd sfd loose s) {call : Call} {w : World}
    (steady : s.world.Steady call w) (mute : call.listens = none) (idle : call.acts = false) :
    Serving N old epfd lfd sfd loose ⟨s.server, w⟩ :=
  ⟨h.epollHandle, h.serverSocket, h.signalFd, h.ordered, fun fd => by
    rw [steady.isOpen]; exact h.live fd,
    h.nodup, h.closes, h.spares, h.polls.leaves steady.leaves id fun _ _ => id,
    fun fd mem => steady.privileged (h.marked fd mem), steady.ledger h.ledger mute idle⟩

/-- The connection has been put among the clients. -/
def Listed (s : Process) (n : RawFd) (registry : FileDescriptorRegistry) (t : Process) : Prop :=
  ∃ clientSockets : ArrayVec RawFd bufferSizeClientSockets,
    clientSockets.toList = s.server.clients ++ [n] ∧
      t = ⟨{ s.server with registry, clientSockets }, s.world⟩

theorem pushClient_exits {ε : Type} {s : Process} (n : RawFd) :
    Exits (· = s) (Server.pushClient n : ServerM ε Unit) (fun _ => Listed s n s.server.registry)
      (fun _ _ => False) (· = s) := by
  rintro s rfl
  unfold Server.pushClient
  cases pushed : s.server.clientSockets.push n with
  | none => exact rfl
  | some clientSockets => exact ⟨clientSockets, (ArrayVec.push_eq_some.mp pushed).2, rfl⟩

theorem unwrap_exits {α ε : Type} {pre panic : Process → Prop} {err : ε → Process → Prop}
    {field : Server → Option α} {a : α} (present : ∀ s, pre s → field s.server = some a) :
    Exits pre (ServerM.unwrap field : ServerM ε α) (fun b s => b = a ∧ pre s) err panic := by
  intro s hs
  unfold ServerM.unwrap
  rw [present s hs]
  exact ⟨rfl, hs⟩

/-- A registration changes the registry, or fails without a trace. -/
theorem register_exits {pre panic : Process → Prop} {ok : Unit → Process → Prop}
    {err : FdRegistryError → Process → Prop} {fd : RawFd} {action : Action}
    (ordered : ∀ s, pre s → s.server.registry.Ordered)
    (done : ∀ s registry, pre s → FileDescriptorRegistry.Registered s.server.registry
      registry fd action →
      ok () ⟨{ s.server with registry }, s.world⟩)
    (failed : ∀ s e, pre s → err e s) (panicked : ∀ s, pre s → panic s) :
    Exits pre (ServerM.registry (FileDescriptorRegistry.register fd action)) ok err panic := by
  intro s hs
  cases run : FileDescriptorRegistry.register fd action (s.server.registry, s.world) with
  | mk o r =>
  obtain ⟨registry, w⟩ := r
  rw [registry_run run]
  cases o with
  | ok u =>
      obtain ⟨rfl, registered⟩ := FileDescriptorRegistry.register_ok (ordered s hs) run
      exact done s registry hs registered
  | err e =>
      unfold FileDescriptorRegistry.register at run
      dsimp only at run
      split at run <;> cases run
      exact failed s e hs
  | panic m =>
      unfold FileDescriptorRegistry.register at run
      dsimp only at run
      split at run <;> cases run
      exact panicked s hs

theorem handleConnection_exits (n : RawFd) :
    Exits (fun s => Accepting N old epfd lfd sfd [n] clients s ∧ s.world.fds.isOpen n = true)
      (Server.handleConnection n)
      (fun control s => control = .continue ∧ Accepting N old epfd lfd sfd [] clients s)
      (Refused N old epfd lfd sfd clients)
      (fun s => Kept N old s.world) := by
  unfold Server.handleConnection
  refine .bind (fun _ s => Accepting N old epfd lfd sfd [n] clients s ∧ s.world.fds.isOpen n = true)
    (.mapErr (attempt_exits ?_ ?_)) fun _ => .read fun s => ?_
  · rintro s ⟨⟩ w ⟨⟨serves, stays⟩, opened⟩ run
    have steady := fcntlSetfl_steady run
    exact ⟨⟨serves.steady steady rfl rfl, stays⟩, steady.isOpen ▸ opened⟩
  · rintro s e ⟨⟨serves, -⟩, -⟩
    exact ⟨fun full => (by cases full),
      (serves.noted (.fcntlSetfl n oNonblock) rfl fun acts => by cases acts).kept⟩
  rintro ⟨accepting, opened⟩
  obtain ⟨serves, stays⟩ := accepting
  split
  · refine .bind (fun _ => Accepting N old epfd lfd sfd [] clients) (.result ?_) fun _ => ?_
    · rintro s rfl
      have dropped := serves.dropped opened
      have returns := @close_not_panic n s.world
      unfold ServerM.sys Prog.focus
      revert dropped returns
      cases close n s.world with
      | mk o w => cases o with
        | ok u => exact fun dropped _ => ⟨dropped, stays⟩
        | err e => exact fun dropped _ => ⟨dropped, stays⟩
        | panic m => exact fun _ returns => by cases returns
    · exact .throw fun s accepting => ⟨fun _ => accepting, accepting.serves.kept⟩
  · refine .bind (fun _ => Listed s n s.server.registry) ?_ fun _ => ?_
    · refine (pushClient_exits n).conseq (fun _ => id) (fun _ _ => id) (fun _ _ => False.elim) ?_
      rintro _ rfl
      exact serves.kept
    refine .bind (fun _ t => ∃ registry,
      FileDescriptorRegistry.Registered s.server.registry registry n .close ∧
      Listed s n registry t) (.mapErr (register_exits ?_ ?_ ?_ ?_)) fun _ => ?_
    · rintro _ ⟨clientSockets, -, rfl⟩
      exact serves.ordered
    · rintro _ registry ⟨clientSockets, pushed, rfl⟩ registered
      exact ⟨registry, registered, clientSockets, pushed, rfl⟩
    · rintro _ e ⟨clientSockets, -, rfl⟩
      exact ⟨fun full => (by cases full), serves.kept⟩
    · rintro _ ⟨clientSockets, -, rfl⟩
      exact serves.kept
    refine .bind _ (unwrap_exits (a := epfd) ?_) fun a => ?_
    · rintro _ ⟨registry, registered, clientSockets, pushed, rfl⟩
      exact serves.epollHandle
    refine .bind (fun _ => Accepting N old epfd lfd sfd [] clients)
      (.mapErr (attempt_exits ?_ ?_)) fun _ => .pure fun _ h => ⟨rfl, h⟩
    · rintro _ ⟨⟩ w ⟨rfl, registry, registered, clientSockets, pushed, rfl⟩ run
      refine ⟨serves.joined pushed registered opened run, fun fd mem => ?_⟩
      rw [Server.clients, pushed]
      exact List.mem_append_left _ (stays fd mem)
    · rintro _ e ⟨rfl, registry, registered, clientSockets, pushed, rfl⟩
      exact ⟨fun full => (by cases full),
        (serves.noted (.epollAdd a n) rfl fun _ => ⟨a, rfl, by simp⟩).kept⟩

theorem accept_exhausted {fd : RawFd} {s t : Process} :
    ServerM.sys (accept fd none) s ≠ (.ok n, t) := by
  intro run
  obtain ⟨-, f, fds, given, -⟩ := makeFd_ok_iff.mp (ServerM.sys_eq.mp run).1
  split at given
  · cases given
  · split at given <;> cases given

/-- However many connections wait, all of them are taken in until one is too many. -/
theorem handleServerEvents_exits :
    Exits (Accepting N old epfd lfd sfd [] clients) (Server.handleServerEvents lfd)
      (fun control s => control = .pollContinue ∧ Accepting N old epfd lfd sfd [] clients s)
      (Refused N old epfd lfd sfd clients)
      (fun s => Kept N old s.world) := by
  unfold Server.handleServerEvents
  refine .read fun s accepting => .bind (fun _ => Accepting N old epfd lfd sfd [] clients) ?_
    fun _ => .pure fun _ h => ⟨rfl, h⟩
  have loop := @tryUntilWouldBlock_exits _ _ _ Unit _ ServerSocketError.taskFailure
    (fun connection => ServerM.sys (accept lfd connection)) Server.handleConnection
    (Accepting N old epfd lfd sfd [] clients) (fun s => Kept N old s.world) (fun _ _ => False)
    (Refused N old epfd lfd sfd clients)
    (fun n s => Accepting N old epfd lfd sfd [n] clients s ∧ s.world.fds.isOpen n = true)
    (fun _ _ _ => accept_exhausted) (fun connection => attempt_exits ?_ ?_) (fun n => ?_)
    (s.world.env.backlog s.world.clock)
  · refine loop.conseq (fun t same => same ▸ accepting) (fun exit s h => ?_) (fun _ _ => id)
      fun _ => id
    cases exit with
    | early b => exact h.elim
    | wouldBlock => exact h
  · rintro s n w ⟨serves, stays⟩ run
    have opens := makeFd_opens run
    exact ⟨⟨serves.accepted opens, stays⟩, opens.isOpen_iff.mpr (.inl rfl)⟩
  · rintro s e ⟨serves, stays⟩
    have noted := serves.noted (.accept lfd) rfl fun _ => ⟨lfd, rfl, by simp⟩
    split
    · exact ⟨noted, stays⟩
    · exact ⟨(nomatch ·), noted.kept⟩
  · refine (handleConnection_exits n).conseq (fun _ => id) ?_ (fun _ _ => id) fun _ => id
    rintro control s ⟨rfl, h⟩
    exact h

end accepting
end Zygote
