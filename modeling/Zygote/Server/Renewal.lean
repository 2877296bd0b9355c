import Zygote.Server.Accepting

/-!
# What a new server starts with

The listening socket, the construction and the tailoring for a subspecies. Both end with a
server whose registry, interest set and table agree, and with no clients.
-/
namespace Zygote
open Effect Descriptors Prog

/-- The number refers to a socket of the server that listens, and all others to what they did
before. -/
structure World.Gains (n : RawFd) (w w' : World) : Prop where
  isOpen : ∀ fd, w'.fds.isOpen fd = true ↔ fd = n ∨ w.fds.isOpen fd = true
  next : w.fds.next ≤ w'.fds.next
  leaves : w.Leaves (fun fd => w.fds.isOpen fd = false) w'
  grows : ∃ newer, w'.log = newer ++ w.log
  held : ∀ {N old held own}, Ledger N old held own w → Ledger N old (n :: held) own w'
  own : ∀ {N old held own}, w.fds.isOpen n = false → Ledger N old held own w →
    Ledger N old (n :: held) (n :: own) w'

section gains
variable {call : Call} {n : RawFd} {u v w : World}

theorem World.Opens.gains (h : v.Opens call n w) (mute : call.listens = none)
    (idle : call.acts = false) : v.Gains n w := by
  have ledger : ∀ {N old held own}, Ledger N old held own v → Ledger N old (n :: held) (n :: own) w :=
    fun ledger => h.ledger ledger mute fun acts => by rw [idle] at acts; cases acts
  refine ⟨fun _ => h.isOpen_iff, h.next ▸ Nat.le_succ _,
    ⟨fun fd opened => h.leaves.fileOf fd ?_, h.leaves.epoll, h.leaves.watches⟩, ⟨[_], h.log⟩,
      fun before => (ledger before).mono (fun _ mem _ => mem)
        fun _ mem => .inl (List.mem_cons_of_mem _ mem),
    fun _ => ledger⟩
  rintro rfl
  refine opened ?_
  rw [Table.isOpen, h.free]
  rfl

namespace World.Gains

theorem calm {about : RawFd → Prop} (none : ∀ fd, ¬about fd) (h : u.Calm about v) (k : v.Gains n w) :
    u.Gains n w := by
  have fds : v.fds = u.fds := congrArg Tables.fds h.tables
  have calm : ∀ {own : List RawFd}, u.Calm (· ∈ own) v := by
    intro own
    obtain ⟨newer, split, all⟩ := h.log
    refine ⟨h.ages, h.tables, newer, split, fun event mem => ?_⟩
    obtain ⟨made, mute, on, acts⟩ := all event mem
    refine ⟨made, mute, on, fun acting => ?_⟩
    obtain ⟨fd, -, mem⟩ := acts acting
    exact absurd mem (none fd)
  refine ⟨fun fd => fds ▸ k.isOpen fd, fds ▸ k.next,
    ⟨fun fd opened => ?_, fun file lt => ?_, fun file lt => ?_⟩, ?_,
    fun ledger => k.held (ledger.calm calm), fun free ledger => k.own (fds ▸ free) (ledger.calm calm)⟩
  · rw [k.leaves.fileOf fd (fds ▸ opened), fds]
  · rw [k.leaves.epoll file (fds ▸ lt), fds]
  · rw [k.leaves.watches file (fds ▸ lt), h.tables]
  · obtain ⟨early, first⟩ := h.grows
    obtain ⟨late, second⟩ := k.grows
    exact ⟨late ++ early, by rw [second, first, List.append_assoc]⟩

theorem steady (h : u.Gains n v) (k : v.Steady call w) (mute : call.listens = none)
    (idle : call.acts = false) : u.Gains n w := by
  refine ⟨fun fd => by rw [k.isOpen, h.isOpen], k.next ▸ h.next,
    ⟨fun fd opened => ?_, fun file lt => ?_, fun file lt => ?_⟩, ?_,
    fun ledger => k.ledger (h.held ledger) mute idle,
    fun free ledger => k.ledger (h.own free ledger) mute idle⟩
  · rw [k.fileOf, h.leaves.fileOf fd opened]
  · rw [k.leaves.epoll file (lt.trans_le h.next), h.leaves.epoll file lt]
  · rw [k.leaves.watches file (lt.trans_le h.next), h.leaves.watches file lt]
  · obtain ⟨early, first⟩ := h.grows
    exact ⟨_ :: early, k.log.trans (congrArg _ first)⟩

theorem keeps {fd : RawFd} (h : u.Gains n v) (marked : Privileged u fd) : Privileged v fd := by
  obtain ⟨file, behind, event⟩ := marked
  refine Privileged.later ⟨file, behind, event⟩ (h.leaves.fileOf fd ?_) h.grows
  rw [Table.isOpen_iff_fileOf.mpr ⟨file, behind⟩]
  exact Bool.noConfusion

theorem listened (h : u.Gains n v) : u.Gains n (v.note (.listen n) none) ∧
    Privileged (v.note (.listen n) none) n := by
  obtain ⟨early, first⟩ := h.grows
  have opened := (h.isOpen n).mpr (.inl rfl)
  obtain ⟨file, behind⟩ := Table.isOpen_iff_fileOf.mp opened
  refine ⟨⟨h.isOpen, h.next, ⟨h.leaves.fileOf, h.leaves.epoll, h.leaves.watches⟩,
    ⟨_ :: early, congrArg _ first⟩, fun ledger => ?_, fun free ledger => ?_⟩,
    file, behind, _, List.mem_cons_self, .inr ⟨rfl, behind⟩⟩
  · exact (h.held ledger).listened.mono (fun fd mem _ => by simpa using mem) fun _ mem => .inl mem
  · exact (h.own free ledger).listened.mono (fun fd mem _ => by simpa using mem) fun _ mem => .inl mem

end World.Gains

theorem listen_ok (h : listen n v = (.ok (), w)) : w = v.note (.listen n) none := by
  obtain ⟨-, f, t, -, acted, rfl⟩ := onOpen_ok_iff.mp h
  split at acted
  · cases acted
  · split at acted
    · cases acted
    · split at acted
      · cases acted
      · cases acted
        rfl

theorem providedSocket_gains {fd : RawFd} {path : Option String}
    (h : Server.providedSocket fd v = (.ok (n, path), w)) : v.Gains n w ∧ Privileged w n := by
  unfold Server.providedSocket at h
  obtain ⟨u, x, ⟨⟩, h⟩ := Prog.bind_eq_ok.mp h
  split at h
  case isFalse => cases h
  case isTrue opened =>
  obtain ⟨stat, x, read, h⟩ := Prog.bind_eq_ok.mp h
  cases congrArg Prod.snd (Prog.mapErr_eq_ok.mp read)
  split at h
  case isFalse => cases h
  obtain ⟨socketType, x, read, h⟩ := Prog.bind_eq_ok.mp h
  cases congrArg Prod.snd (Prog.mapErr_eq_ok.mp read)
  split at h
  case isFalse => cases h
  obtain ⟨⟨⟩, x, metadata, h⟩ := Prog.bind_eq_ok.mp h
  obtain ⟨⟨⟩, y, listens, h⟩ := Prog.bind_eq_ok.mp h
  cases h
  have steady := fcntlSetfl_steady (Prog.mapErr_eq_ok.mp metadata)
  cases listen_ok (Prog.mapErr_eq_ok.mp listens)
  have before : v.Gains n v := by
    refine ⟨fun fd => ⟨.inr, ?_⟩, le_refl _, .of_tables rfl, ⟨[], rfl⟩, fun ledger => ?_, fun free => ?_⟩
    · rintro (rfl | mem)
      · exact opened
      · exact mem
    · exact ledger.mono (fun fd mem _ => List.mem_cons_of_mem _ mem) fun _ mem => .inl mem
    · rw [opened] at free
      cases free
  exact (before.steady steady rfl rfl).listened

theorem createAbstractSocket_gains {name : String} {sockType : Nat}
    (h : createAbstractSocket name sockType v = (.ok n, w)) : v.Gains n w := by
  obtain ⟨socketFd, x, made, h⟩ := Prog.bind_eq_ok.mp h
  obtain ⟨⟨⟩, y, bound, h⟩ := Prog.bind_eq_ok.mp h
  cases h
  exact ((makeFd_opens made).gains rfl rfl).steady (bind_steady bound) rfl rfl

theorem createBoundSocket_gains {path : String} {sockType : Nat}
    (h : createBoundSocket path sockType v = (.ok n, w)) : v.Gains n w := by
  obtain ⟨socketFd, x, made, h⟩ := Prog.bind_eq_ok.mp h
  obtain ⟨⟨⟩, y, bound, h⟩ := Prog.bind_eq_ok.mp h
  cases h
  exact ((makeFd_opens made).gains rfl rfl).steady (bind_steady bound) rfl rfl

theorem boundSocket_gains (socketPath : String) :
    Leads (· = v) (Server.boundSocket socketPath) (fun r w => v.Gains r.1 w) fun _ => True := by
  unfold Server.boundSocket
  split
  · refine .of_ok fun u r w same h => ?_
    obtain ⟨fd, x, created, h⟩ := Prog.bind_eq_ok.mp h
    cases h
    exact same ▸ createAbstractSocket_gains (Prog.mapErr_eq_ok.mp created)
  · refine .read fun u => ?_
    split
    · exact .throw fun _ _ => trivial
    · split
      · exact .throw fun _ _ => trivial
      · next parent _ =>
        refine .of_ok fun u r w same h => ?_
        obtain ⟨⟨⟩, x, directory, h⟩ := Prog.bind_eq_ok.mp h
        obtain ⟨fd, y, created, h⟩ := Prog.bind_eq_ok.mp h
        cases h
        obtain rfl := same.1
        have calm : u.Calm (fun _ => False)
          (createDirAll (String.ofList parent).toUTF8.data.toList u).2 :=
          plainCall_calm rfl rfl u
        rw [Prog.mapErr_eq_ok.mp directory] at calm
        exact .calm (fun _ => id) calm (createBoundSocket_gains (Prog.mapErr_eq_ok.mp created))

/-- Whatever socket the server ends up with listens for it. -/
theorem getServerSocket_gains (socketPath : String) :
    Leads (· = v) (Server.getServerSocket socketPath) (fun r w => v.Gains r.1 w ∧ Privileged w r.1)
      fun _ => True := by
  unfold Server.getServerSocket
  split
  · exact .of_ok fun u r w same h => same ▸ providedSocket_gains h
  · refine .bind _ (boundSocket_gains socketPath) fun (socketFd, path) => .of_ok fun x r w gains h => ?_
    obtain ⟨⟨⟩, y, metadata, h⟩ := Prog.bind_eq_ok.mp h
    obtain ⟨⟨⟩, z, listens, h⟩ := Prog.bind_eq_ok.mp h
    cases h
    have steady := fcntlSetfl_steady (Prog.mapErr_eq_ok.mp metadata)
    cases listen_ok (Prog.mapErr_eq_ok.mp listens)
    exact (gains.steady steady rfl rfl).listened

end gains

/-- A new epoll instance, and what has been put into it. -/
structure Wired (N : Nat) (old : List Event) (held own : List RawFd) (epfd : RawFd)
    (datas : List EpollData) (w : World) : Prop where
  polls : Polls epfd datas w
  opened : ∀ fd ∈ held, w.fds.isOpen fd = true
  listed : ∀ data ∈ datas, data.fd ∈ held
  handle : epfd ∈ held ∧ epfd ∈ own
  marked : ∀ fd ∈ held, Privileged w fd
  ledger : Ledger N old held own w

namespace Wired
variable {N : Nat} {old : List Event} {held own : List RawFd} {epfd n : RawFd}
  {datas : List EpollData} {w w' : World}

theorem create (marked : ∀ fd ∈ held, Privileged w fd) (ledger : Ledger N old held own w)
    (h : epollCreate w = (.ok n, w')) : Wired N old (n :: held) (n :: own) n [] w' := by
  have opens := epollCreate_opens h
  refine ⟨epollCreate_polls h, fun fd mem => opens.isOpen_iff.mpr ?_, List.forall_mem_nil _,
    ⟨List.mem_cons_self, List.mem_cons_self⟩,
    List.forall_mem_cons.mpr ⟨opens.privileged rfl, fun fd mem => opens.keeps (marked fd mem)⟩,
    opens.ledger ledger rfl fun acts => nomatch acts⟩
  refine (List.mem_cons.mp mem).imp id fun mem => ?_
  obtain ⟨file, behind, -⟩ := marked fd mem
  exact Table.isOpen_iff_fileOf.mpr ⟨file, behind⟩

theorem gains (h : Wired N old held own epfd datas w) (gains : w.Gains n w') (marked : Privileged w' n) :
    Wired N old (n :: held) own epfd datas w' := by
  have kept : ∀ fd ∈ held, ¬w.fds.isOpen fd = false := fun fd mem => by simp [h.opened fd mem]
  refine ⟨h.polls.leaves gains.leaves (kept epfd h.handle.1) fun data mem => kept _ (h.listed data mem),
    fun fd mem => (gains.isOpen fd).mpr ((List.mem_cons.mp mem).imp id (h.opened fd)),
    fun data mem => List.mem_cons_of_mem _ (h.listed data mem),
    ⟨List.mem_cons_of_mem _ h.handle.1, h.handle.2⟩,
    List.forall_mem_cons.mpr ⟨marked, fun fd mem => gains.keeps (h.marked fd mem)⟩, gains.held h.ledger⟩

theorem add (h : Wired N old held own epfd datas w) {events : BitVec 32} {tag : EpollTag}
    (mem : n ∈ held) (added : epollAdd epfd n events (EpollData.toU64 ⟨n, tag⟩) w = (.ok (), w')) :
    w'.fds = w.fds ∧ Wired N old held own epfd (⟨n, tag⟩ :: datas) w' := by
  obtain ⟨fds, -, ledger⟩ := epollCtl_ledger added h.ledger h.handle.2 rfl rfl
  exact ⟨fds, epollAdd_polls h.polls added, fds ▸ h.opened, List.forall_mem_cons.mpr ⟨mem, h.listed⟩,
    h.handle, fun fd mem => epollCtl_privileged added (h.marked fd mem), ledger⟩

theorem calm (h : Wired N old held own epfd datas w) (calm : w.Calm (· ∈ own) w') :
    Wired N old held own epfd datas w' := by
  have unmoved : w.Leaves (fun _ => False) w' := .of_tables calm.tables
  have fds : w'.fds = w.fds := congrArg Tables.fds calm.tables
  exact ⟨h.polls.leaves unmoved id fun _ _ => id, fds ▸ h.opened, h.listed, h.handle,
    fun fd mem => calm.privileged (h.marked fd mem), h.ledger.calm calm⟩

end Wired

/-- The numbers that have been registered so far, and for what. -/
structure Begun (fds : List (RawFd × Action)) (registry : FileDescriptorRegistry) : Prop where
  ordered : registry.Ordered
  has : ∀ fd action, (fd, action) ∈ fds → registry.Has fd action
  nodup : (fds.map Prod.fst).Nodup

namespace Begun
variable {fds : List (RawFd × Action)} {registry after : FileDescriptorRegistry} {n : RawFd}
  {action : Action}

/-- A number that is registered had no live entry, so it is none of those before. -/
theorem register (h : Begun fds registry)
    (registered : FileDescriptorRegistry.Registered registry after n action) :
    Begun ((n, action) :: fds) after := by
  refine ⟨registered.ordered, fun fd other mem => ?_, List.nodup_cons.mpr ⟨fun mem => ?_, h.nodup⟩⟩
  · rcases List.mem_cons.mp mem with same | mem
    · cases same
      exact registered.has
    · exact registered.keeps (h.has fd other mem)
  · obtain ⟨⟨fd, other⟩, member, rfl⟩ := List.mem_map.mp mem
    exact registered.free (h.has fd other member).live

theorem mono (h : Begun fds registry) (ordered : after.Ordered)
    (more : ∀ entry ∈ registry.data.toList, entry ∈ after.data.toList) : Begun fds after := by
  refine ⟨ordered, fun fd action mem => ?_, h.nodup⟩
  obtain ⟨entry, member, rest⟩ := h.has fd action mem
  exact ⟨entry, more entry member, rest⟩

end Begun

/-- A server below which nothing was known acts on all descriptions. -/
theorem Ledger.zero {old : List Event} {held own : List RawFd} {w : World}
    (h : Ledger 0 old held own w) (others : List RawFd) : Ledger 0 old held others w :=
  ⟨h.privileged, h.bounded, h.logged, fun _ _ _ _ => Nat.zero_le _, h.base, h.limit, h.releases⟩

/-- A server whose own numbers are all there is to it so far. -/
theorem Serving.start {N : Nat} {old : List Event} {held own : List RawFd} {epfd lfd sfd : RawFd}
    {fds : List (RawFd × Action)} {server : Server} {w : World}
    (handles : server.epollHandle = some epfd ∧ server.serverSocket = some lfd ∧
      server.signalFd = some sfd ∧ server.clientSockets.toList = [])
    (begun : Begun fds server.registry)
    (all : fds.Perm [(epfd, .close), (lfd, .close), (sfd, .closeUnlessSpawnSubspecies)])
    (live : ∀ fd, server.registry.Live fd ↔ w.fds.isOpen fd = true)
    (wired : Wired N old held own epfd [⟨sfd, .signal⟩, ⟨lfd, .server⟩] w)
    (holds : ∀ fd, fd ∈ held ↔ fd ∈ [epfd, lfd, sfd]) (owns : ∀ fd ∈ [epfd, lfd], fd ∈ own) :
    Serving N old epfd lfd sfd [] ⟨server, w⟩ := by
  obtain ⟨epoll, socket, signal, none⟩ := handles
  have clients : server.clients = [] := none
  have has : ∀ fd action, (fd, action) ∈ [(epfd, Action.close), (lfd, .close),
      (sfd, .closeUnlessSpawnSubspecies)] → server.registry.Has fd action :=
    fun fd action mem => begun.has fd action (all.mem_iff.mpr mem)
  refine ⟨epoll, socket, signal, begun.ordered, fun fd => ?_, ?_, fun fd mem => ?_, has _ _ (by simp),
    wired.polls.mono fun data => ?_, fun fd mem => wired.marked fd ((holds fd).mpr ?_), ?_⟩
  · simp [live]
  · simpa [clients] using (all.map Prod.fst).nodup_iff.mp begun.nodup
  · simp only [clients, List.mem_cons, List.not_mem_nil, or_false] at mem
    rcases mem with rfl | rfl
    · exact has _ _ (by simp)
    · exact has _ _ (by simp)
  · simp only [interests, clients, List.map_nil, List.mem_cons, List.not_mem_nil, or_false]
    exact or_comm
  · simpa [clients] using mem
  · refine wired.ledger.mono (fun fd mem _ => ?_) fun fd mem => .inl (owns fd ?_)
    · simpa [clients] using (holds fd).mp mem
    · simpa [clients] using mem

section construct
open FileDescriptorRegistry (register registerNew audit onWorld)
variable {registry after : FileDescriptorRegistry} {w w' : World}

theorem onWorld_ok {ε ε' α : Type} {p : Prog World ε α} {f : ε → ε'} {a : α}
    (h : (onWorld p).mapErr f (registry, w) = (.ok a, after, w')) :
    p w = (.ok a, w') ∧ registry = after := by
  have run := Prog.mapErr_eq_ok.mp h
  have value : (p w).1 = .ok a := congrArg Prod.fst run
  have state : (registry, (p w).2) = (after, w') := congrArg Prod.snd run
  exact ⟨Prod.ext value (Prod.mk.inj state).2, (Prod.mk.inj state).1⟩

/-- The steps in which a server that is going to serve opens its descriptors. -/
theorem openDescriptors_ok {config : Config.Server} {own : Server.Opened} (ordered : registry.Ordered)
    (h : Server.openDescriptors false config (registry, w) = (.ok own, after, w')) :
    ∃ epfd lfd sfd path r₁ r₂ w₁ w₂ w₃ w₄ w₅,
      epollCreate w = (.ok epfd, w₁) ∧ registry.Registered r₁ epfd .close ∧
      Server.getServerSocket config.socket w₁ = (.ok (lfd, path), w₂) ∧ r₁.Registered r₂ lfd .close ∧
      epollAdd epfd lfd epollIn (EpollData.toU64 ⟨lfd, .server⟩) w₂ = (.ok (), w₃) ∧
      sigprocmask w₃ = (.ok (), w₄) ∧ signalfd w₄ = (.ok sfd, w₅) ∧
      r₂.Registered after sfd .closeUnlessSpawnSubspecies ∧
      epollAdd epfd sfd epollIn (EpollData.toU64 ⟨sfd, .signal⟩) w₅ = (.ok (), w') ∧
      own = (some epfd, some lfd, path, some sfd) := by
  obtain ⟨epfd, ⟨r₁, w₁⟩, run₁, h₁⟩ := Prog.bind_eq_ok.mp h
  obtain ⟨created, rfl⟩ := onWorld_ok run₁
  obtain ⟨⟨⟩, ⟨r₂, w₂⟩, run₂, h₂⟩ := Prog.bind_eq_ok.mp h₁
  obtain ⟨rfl, registered⟩ := FileDescriptorRegistry.register_ok ordered (Prog.mapErr_eq_ok.mp run₂)
  obtain ⟨⟨lfd, path⟩, ⟨r₃, w₃⟩, run₃, h₃⟩ := Prog.bind_eq_ok.mp h₂
  obtain ⟨made, rfl⟩ := onWorld_ok run₃
  obtain ⟨⟨⟩, ⟨r₄, w₄⟩, run₄, h₄⟩ := Prog.bind_eq_ok.mp h₃
  obtain ⟨rfl, listens⟩ :=
    FileDescriptorRegistry.register_ok registered.ordered (Prog.mapErr_eq_ok.mp run₄)
  obtain ⟨⟨⟩, ⟨r₅, w₅⟩, run₅, h₅⟩ := Prog.bind_eq_ok.mp h₄
  obtain ⟨added, rfl⟩ := onWorld_ok run₅
  obtain ⟨⟨⟩, ⟨r₆, w₆⟩, run₆, h₆⟩ := Prog.bind_eq_ok.mp h₅
  obtain ⟨masked, rfl⟩ := onWorld_ok run₆
  obtain ⟨sfd, ⟨r₇, w₇⟩, run₇, h₇⟩ := Prog.bind_eq_ok.mp h₆
  obtain ⟨signal, rfl⟩ := onWorld_ok run₇
  obtain ⟨⟨⟩, ⟨r₈, w₈⟩, run₈, h₈⟩ := Prog.bind_eq_ok.mp h₇
  obtain ⟨rfl, spared⟩ :=
    FileDescriptorRegistry.register_ok listens.ordered (Prog.mapErr_eq_ok.mp run₈)
  obtain ⟨⟨⟩, ⟨r₉, w₉⟩, run₉, h₉⟩ := Prog.bind_eq_ok.mp h₈
  obtain ⟨signalled, rfl⟩ := onWorld_ok run₉
  cases h₉
  exact ⟨_, _, _, _, _, _, _, _, _, _, _, created, registered, made, listens, added, masked,
    signal, spared,
    signalled, rfl⟩

/-- A server that is made of what was opened for it, in a process that is accounted for. -/
structure Accounted (config : Config.Server) (own : Server.Opened)
    (registry : FileDescriptorRegistry) (w : World)
    (server : Server) (w' : World) : Prop where
  newcomers : registerNew (registry, w) = (.ok (), server.registry, w.note .opendir none)
  world : w' = (w.note .opendir none).note .opendir none
  agrees : server.registry.Matches w'
  own : (server.epollHandle, server.serverSocket, server.serverSocketPath, server.signalFd) = own
  clients : server.clientSockets.toList = []
  species : server.species = config.species
  spawnParams : config.toSpawnParams = .ok server.spawnParams

/-- What was opened is all that the two ways of spawning differ in. -/
theorem construct_ok {exec : Bool} {config : Config.Server} {server : Server}
    (h : Server.construct exec config (registry, w) = (.ok server, after, w')) :
    ∃ own r v, Server.openDescriptors exec config (registry, w) = (.ok own, r, v) ∧
      Accounted config own r v server w' := by
  obtain ⟨⟨epollHandle, serverSocket, path, signalFd⟩, ⟨r, v⟩, opened, h₁⟩ := Prog.bind_eq_ok.mp h
  obtain ⟨⟨⟩, ⟨r₁, w₁⟩, run₁, h₂⟩ := Prog.bind_eq_ok.mp h₁
  have newcomers := Prog.mapErr_eq_ok.mp run₁
  obtain ⟨rfl, -, -⟩ := FileDescriptorRegistry.registerNew_ok newcomers
  obtain ⟨_, _, ⟨⟩, h₃⟩ := Prog.bind_eq_ok.mp h₂
  obtain ⟨⟨⟩, ⟨r₂, w₂⟩, run₂, h₄⟩ := Prog.bind_eq_ok.mp h₃
  obtain ⟨audited, rfl⟩ := onWorld_ok run₂
  obtain ⟨rfl, agrees⟩ := FileDescriptorRegistry.audit_ok audited
  obtain ⟨_, _, ⟨⟩, h₅⟩ := Prog.bind_eq_ok.mp h₄
  obtain ⟨params, ⟨r₃, w₃⟩, run₃, h₆⟩ := Prog.bind_eq_ok.mp h₅
  have merged := Prog.expect_eq_ok.mp run₃
  cases congrArg Prod.snd merged
  cases h₆
  exact ⟨_, r, v, opened, newcomers, rfl, agrees, rfl, rfl, rfl, congrArg Prod.fst merged⟩

theorem construct_serves {config : Config.Server} {server : Server} (ordered : registry.Ordered)
    (ledger : Ledger 0 [] [] [] w)
    (h : Server.construct false config (registry, w) = (.ok server, after, w')) :
    ∃ epfd lfd sfd, Serving 0 [] epfd lfd sfd [] ⟨server, w'⟩ := by
  obtain ⟨own, r₃, w₆, opened, accounted⟩ := construct_ok h
  obtain ⟨epfd, lfd, sfd, path, r₁, r₂, w₁, w₂, w₃, w₄, w₅, created, registered, made, listens,
    added, masked,
    signal, spared, signalled, rfl⟩ := openDescriptors_ok ordered opened
  obtain ⟨newcomers, rfl, agrees, own, clients, -, -⟩ := accounted
  simp only [Prod.mk.injEq] at own
  obtain ⟨epoll, socket, -, signalFd⟩ := own
  have fresh : Begun [] registry := ⟨ordered, fun _ _ mem => (List.not_mem_nil mem).elim, List.nodup_nil⟩
  have begun := ((fresh.register registered).register listens).register spared
  obtain ⟨-, entries, -⟩ := FileDescriptorRegistry.registerNew_ok newcomers
  have polled := Wired.create (List.forall_mem_nil _) ledger created
  obtain ⟨gains, listening⟩ := (getServerSocket_gains config.socket).ok_of rfl made
  have listened := polled.gains gains listening
  obtain ⟨-, served⟩ := listened.add List.mem_cons_self added
  have calm : w₃.Calm (· ∈ [epfd]) (sigprocmask w₃).2 := plainCall_calm rfl rfl w₃
  rw [masked] at calm
  have opens := makeFd_opens signal
  have signalling := (served.calm calm).gains (opens.gains rfl rfl) (opens.privileged rfl)
  obtain ⟨-, signalled⟩ := signalling.add List.mem_cons_self signalled
  have noted : ∀ w : World, w.Calm (· ∈ [epfd]) (w.note .opendir none) := fun w =>
    .call rfl rfl rfl rfl rfl fun acts => nomatch acts
  have wired := (signalled.calm (noted w₆)).calm (noted _)
  refine ⟨epfd, lfd, sfd, Serving.start ⟨epoll, socket, signalFd, clients⟩ (begun.mono
    (FileDescriptorRegistry.registerNew_ok_ordered begun.ordered newcomers)
    fun entry mem => (entries entry).mpr (.inl mem))
    (List.reverse_perm [(epfd, Action.close), (lfd, Action.close),
      (sfd, Action.closeUnlessSpawnSubspecies)])
    (fun fd => agrees.live_iff)
    { wired with ledger := wired.ledger.zero [epfd, lfd], handle := ⟨wired.handle.1, by simp⟩ } ?_
    fun fd mem => mem⟩
  exact fun fd => @List.mem_reverse _ fd [epfd, lfd, sfd]

/-- The calls on credentials act for no server. -/
theorem calm_sets {about : RawFd → Prop} :
    ChildProcess.Sets (fun call => call.listens = none ∧ call.acts = false) (World.Calm about) :=
  ⟨.refl, .trans, fun idle _ _ => .call rfl rfl rfl rfl idle.1 fun acts => by
    rw [idle.2] at acts; cases acts⟩

/-- Loading the libraries as another user leaves no trace in the tables. -/
theorem preload_calm {about : RawFd → Prop} (server : Server) :
    Within (World.Calm about) server.preload := by
  refine World.Calm.bind (.mapErr _ ?_) fun context => .expect _ ?_
  · refine World.Calm.bind ?_ fun _ => World.Calm.bind ?_ fun _ => .reading fun _ => World.Calm.refl
    · exact .forSome World.Calm.refl fun _ _ => ChildProcess.onTask_within calm_sets ⟨rfl, rfl⟩
    · exact .forSome World.Calm.refl fun _ _ => ChildProcess.onTask_within calm_sets ⟨rfl, rfl⟩
  · rw [EffectiveIdContext.exit_eq]
    refine World.Calm.bind ?_ fun _ => ?_
    · exact .forSome World.Calm.refl fun _ _ => ChildProcess.onTask_within calm_sets ⟨rfl, rfl⟩
    · exact .forSome World.Calm.refl fun _ _ => ChildProcess.onTask_within calm_sets ⟨rfl, rfl⟩

/-- The registry starts with its three entries, and no call is made for them. -/
theorem new_idle {species : Species} (h : FileDescriptorRegistry.new species w = (.ok registry, w')) :
    w' = w := by
  simp only [FileDescriptorRegistry.new] at h
  split at h
  · next value r v built =>
    cases h
    obtain ⟨_, ⟨r₀, w₀⟩, first, built₁⟩ := Prog.bind_eq_ok.mp built
    obtain ⟨_, ⟨r₁, w₁⟩, second, third⟩ := Prog.bind_eq_ok.mp built₁
    obtain ⟨rfl, step₀⟩ := FileDescriptorRegistry.register_ok (by exact Ascending.ascends_nil) first
    obtain ⟨rfl, step₁⟩ := FileDescriptorRegistry.register_ok step₀.ordered second
    exact (FileDescriptorRegistry.register_ok step₁.ordered third).1
  · cases h
  · cases h

theorem new_serves {config : Config.Server} {server : Server} (log : w.log = [])
    (limit : w.fds.limit ≤ 0x80000000) (releases : w.env.closeReleases = true)
    (h : Server.new false config w = (.ok server, w')) :
    ∃ epfd lfd sfd, Serving 0 [] epfd lfd sfd [] ⟨server, w'⟩ := by
  obtain ⟨registry, u, made, h₁⟩ := Prog.bind_eq_ok.mp h
  have made := Prog.mapErr_eq_ok.mp made
  obtain rfl := new_idle made
  obtain ⟨server', v, built, h₂⟩ := Prog.bind_eq_ok.mp h₁
  have value : (Server.construct false config (registry, u)).1 = .ok server' := congrArg Prod.fst built
  have state : (Server.construct false config (registry, u)).2.2 = v := congrArg Prod.snd built
  obtain ⟨r, x, loaded, h₃⟩ := Prog.bind_eq_ok.mp h₂
  cases r with
  | error error =>
      obtain ⟨_, y, -, h₄⟩ := Prog.bind_eq_ok.mp h₃
      cases h₄
  | ok _ =>
      cases h₃
      have empty : Ledger 0 [] [] [] u := by
        refine ⟨fun fd privileged => ?_, ?_, ⟨[], log, List.forall_mem_nil _⟩,
          (fun _ mem => nomatch mem),
          Nat.zero_le _, limit, releases⟩
        · obtain ⟨file, -, event, mem, -⟩ := privileged
          rw [log] at mem
          cases mem
        · rw [log]
          exact List.forall_mem_nil _
      obtain ⟨epfd, lfd, sfd, serving⟩ :=
        construct_serves (FileDescriptorRegistry.new_ordered made) empty (Prod.ext value rfl)
      have loads : Within (World.Calm (· ∈ epfd :: lfd :: server.clients)) (do
          setpgid.mapErr ServerError.processGroupFailure; server.preload) :=
        World.Calm.bind (.mapErr _ (plainCall_calm rfl rfl)) fun _ => preload_calm server
      have calm := (Within.result loads : Within _ (Prog.result _ : Prog World ServerError _)) v
      rw [loaded] at calm
      exact ⟨epfd, lfd, sfd, serving.departs ⟨rfl, state ▸ calm⟩⟩

end construct

/-- What a subspecies is tailored from. Files may be open that have no entry yet. -/
structure Inherits (sfd : RawFd) (s : Process) : Prop where
  signalFd : s.server.signalFd = some sfd
  ordered : s.server.registry.Ordered
  opened : ∀ fd, s.server.registry.Live fd → s.world.fds.isOpen fd = true
  spares : s.server.registry.Has sfd .closeUnlessSpawnSubspecies
  marked : Privileged s.world sfd
  ledger : ∃ N old held own, Ledger N old held own s.world ∧
    ∀ fd ∈ held, s.server.registry.Has fd .close ∨ fd = sfd

section tailor
open FileDescriptorRegistry (register resetForSubspecies)
variable {s t : Process} {sfd : RawFd}

theorem Serving.inherits {N : Nat} {old : List Event} {epfd lfd : RawFd}
    (h : Serving N old epfd lfd sfd [] s) : Inherits sfd s := by
  refine ⟨h.signalFd, h.ordered, fun fd live => ((h.live fd).mp live).1, h.spares,
    h.marked sfd (by simp), N, old, _, _,
    h.ledger, fun fd mem => ?_⟩
  by_cases signal : fd = sfd
  · exact .inr signal
  · refine .inl (h.closes fd ?_)
    simp only [List.nil_append, List.mem_cons] at mem ⊢
    tauto

theorem registry_ok {α : Type} {p : RegistryM α} {a : α} (h : ServerM.registry p s = (.ok a, t)) :
    ∃ registry w, p (s.server.registry, s.world) = (.ok a, registry, w) ∧
      t = ⟨{ s.server with registry }, w⟩ := by
  cases run : p (s.server.registry, s.world) with
  | mk o r =>
  obtain ⟨registry, w⟩ := r
  cases h.symm.trans (registry_run run)
  exact ⟨registry, w, rfl, rfl⟩

theorem sys_ok {ε α : Type} {p : Prog World ε α} {a : α} (h : ServerM.sys p s = (.ok a, t)) :
    ∃ w, p s.world = (.ok a, w) ∧ t = ⟨s.server, w⟩ := by
  obtain ⟨run, server⟩ := ServerM.sys_eq.mp h
  refine ⟨t.world, run, ?_⟩
  rw [← server]

theorem unwrap_ok {ε α : Type} {field : Server → Option α} {a : α}
    (h : (ServerM.unwrap field : ServerM ε α) s = (.ok a, t)) : field s.server = some a ∧ s = t := by
  unfold ServerM.unwrap at h
  split at h
  · next b present =>
    cases h
    exact ⟨present, rfl⟩
  · cases h

theorem tailor_ok {socketPath : String} (signal : s.server.signalFd = some sfd)
    (h : Server.tailor socketPath s = (.ok (), t)) :
    ∃ epfd lfd path r₁ r₂ r₃ w₁ w₂ w₃ w₄ w₅ w₆ w₇,
      resetForSubspecies (s.server.registry, s.world) = (.ok (), r₁, w₁) ∧
      Server.getServerSocket socketPath w₁ = (.ok (lfd, path), w₂) ∧
      register lfd .close (r₁, w₂) = (.ok (), r₂, w₃) ∧ epollCreate w₃ = (.ok epfd, w₄) ∧
      register epfd .close (r₂, w₄) = (.ok (), r₃, w₅) ∧
      epollAdd epfd lfd epollIn (EpollData.toU64 ⟨lfd, .server⟩) w₅ = (.ok (), w₆) ∧
      epollAdd epfd sfd epollIn (EpollData.toU64 ⟨sfd, .signal⟩) w₆ = (.ok (), w₇) ∧
      t = ⟨{ s.server with
        registry := r₃
        clientSockets := .empty
        serverSocket := some lfd
        serverSocketPath := path
        epollHandle := some epfd
        pid := w₇.pid }, w₇⟩ := by
  obtain ⟨⟨⟩, s₁, run₁, h₁⟩ := Prog.bind_eq_ok.mp h
  obtain ⟨r₁, w₁, reset, rfl⟩ := registry_ok (Prog.mapErr_eq_ok.mp run₁)
  obtain ⟨⟨lfd, path⟩, s₂, run₂, h₂⟩ := Prog.bind_eq_ok.mp h₁
  obtain ⟨w₂, made, rfl⟩ := sys_ok (Prog.mapErr_eq_ok.mp run₂)
  obtain ⟨⟨⟩, s₃, run₃, h₃⟩ := Prog.bind_eq_ok.mp h₂
  obtain ⟨r₂, w₃, listens, rfl⟩ := registry_ok (Prog.mapErr_eq_ok.mp run₃)
  obtain ⟨⟨⟩, s₄, ⟨⟩, h₄⟩ := Prog.bind_eq_ok.mp h₃
  obtain ⟨epfd, s₅, run₅, h₅⟩ := Prog.bind_eq_ok.mp h₄
  obtain ⟨w₅, created, rfl⟩ := sys_ok (Prog.mapErr_eq_ok.mp run₅)
  obtain ⟨⟨⟩, s₆, ⟨⟩, h₆⟩ := Prog.bind_eq_ok.mp h₅
  obtain ⟨⟨⟩, s₇, run₇, h₇⟩ := Prog.bind_eq_ok.mp h₆
  obtain ⟨r₃, w₇, polls, rfl⟩ := registry_ok (Prog.mapErr_eq_ok.mp run₇)
  obtain ⟨fd, s₈, run₈, h₈⟩ := Prog.bind_eq_ok.mp h₇
  obtain ⟨socket, rfl⟩ := unwrap_ok run₈
  obtain rfl := Option.some.inj socket
  obtain ⟨⟨⟩, s₉, run₉, h₉⟩ := Prog.bind_eq_ok.mp h₈
  obtain ⟨w₉, added, rfl⟩ := sys_ok (Prog.mapErr_eq_ok.mp run₉)
  obtain ⟨fd', s₁₀, run₁₀, h₁₀⟩ := Prog.bind_eq_ok.mp h₉
  obtain ⟨signalled, rfl⟩ := unwrap_ok run₁₀
  obtain rfl := Option.some.inj (signal.symm.trans signalled)
  obtain ⟨⟨⟩, s₁₁, run₁₁, h₁₁⟩ := Prog.bind_eq_ok.mp h₁₀
  obtain ⟨w₁₁, added', rfl⟩ := sys_ok (Prog.mapErr_eq_ok.mp run₁₁)
  obtain ⟨_, _, ⟨⟩, h₁₂⟩ := Prog.bind_eq_ok.mp h₁₁
  cases h₁₂
  exact ⟨epfd, lfd, path, r₁, r₂, r₃, w₁, w₂, w₃, w₅, w₇, w₉, w₁₁, reset, made, listens, created,
    polls, added, added', rfl⟩

/-- What is tailored serves, and from then on acts on nothing that was there before. -/
theorem tailor_serves {socketPath : String} (inherits : Inherits sfd s)
    (h : Server.tailor socketPath s = (.ok (), t)) :
    ∃ epfd lfd, Serving s.world.fds.next s.world.log epfd lfd sfd [] t := by
  obtain ⟨epfd, lfd, path, r₁, r₂, r₃, w₁, w₂, w₃, w₄, w₅, w₆, w₇, reset, made, listens, created,
    polls, added, signalled, rfl⟩ := tailor_ok inherits.signalFd h
  obtain ⟨N, old, held, own, ledger, closes⟩ := inherits.ledger
  have handed := FileDescriptorRegistry.resetForSubspecies_handsOn inherits.ordered inherits.opened reset
  obtain ⟨gains, listener⟩ := (getServerSocket_gains socketPath).ok_of rfl made
  obtain ⟨rfl, registered⟩ := FileDescriptorRegistry.register_ok handed.ordered listens
  obtain ⟨rfl, polled⟩ := FileDescriptorRegistry.register_ok registered.ordered polls
  have spared := handed.spared sfd inherits.spares
  -- the number was not open: all that is open has an entry, and could not be registered
  have free : w₁.fds.isOpen lfd = false := by
    rw [← Bool.not_eq_true, ← handed.live]
    exact registered.free
  have listening : Ledger s.world.fds.next s.world.log [lfd, sfd] [lfd] w₃ :=
    gains.own free (handed.ledger ledger.renew fun fd mem =>
      (closes fd mem).imp id List.mem_singleton.mpr)
  have marked : ∀ fd ∈ [lfd, sfd], Privileged w₃ fd := List.forall_mem_cons.mpr ⟨listener,
    List.forall_mem_singleton.mpr (gains.keeps (handed.marked sfd inherits.spares inherits.marked))⟩
  obtain ⟨fds, wired⟩ := (Wired.create marked listening created).add (by simp) added
  obtain ⟨fds', wired⟩ := wired.add (by simp) signalled
  have begun : Begun [(sfd, .closeUnlessSpawnSubspecies)] r₁ :=
    ⟨handed.ordered, fun fd action mem => by
      cases List.mem_singleton.mp mem; exact spared, List.nodup_singleton _⟩
  refine ⟨epfd, lfd, Serving.start ⟨rfl, rfl, inherits.signalFd, rfl⟩
    ((begun.register registered).register polled) (.refl _) (fun fd => ?_) wired (fun fd => .rfl)
    fun fd mem => mem⟩
  rw [polled.live_iff, registered.live_iff, handed.live, ← gains.isOpen,
    ← (epollCreate_opens created).isOpen_iff, fds', fds]

end tailor

section speciate

theorem opened_grows (files : List OpenFile) (t : Table OpenFile) :
    ∃ u, files.foldl (fun fds f => match fds.alloc f false with
        | some (_, fds) => fds
        | none => fds) t = u ∧ u.limit = t.limit ∧ t.next ≤ u.next ∧
      (∀ fd, t.isOpen fd = true → u.fileOf fd = t.fileOf fd) ∧
      ∀ fd file, u.fileOf fd = some file → t.fileOf fd = some file ∨ t.next ≤ file := by
  induction files generalizing t with
  | nil => exact ⟨t, rfl, rfl, le_refl _, fun _ _ => rfl, fun _ _ => .inl⟩
  | cons f rest ih =>
      rw [List.foldl_cons]
      cases allocated : t.alloc f false with
      | none => exact ih t
      | some r =>
          obtain ⟨n, v⟩ := r
          obtain ⟨-, free, next, limit, slot, -⟩ := Table.alloc_eq_some allocated
          obtain ⟨u, made, limit', next', opened, files⟩ := ih v
          refine ⟨u, made, limit'.trans limit, by omega, fun fd was => ?_,
            fun fd file behind => ?_⟩
          · have apart : fd ≠ n := by
              rintro rfl
              rw [Table.isOpen, free] at was
              cases was
            have same : v.fileOf fd = t.fileOf fd := by
              rw [Table.fileOf, slot, if_neg apart, Table.fileOf]
            rw [← same]
            refine opened fd (Table.isOpen_iff_fileOf.mpr ?_)
            rw [same]
            exact Table.isOpen_iff_fileOf.mp was
          · rcases files fd file behind with before | later
            · rw [Table.fileOf, slot] at before
              split at before
              · cases before
                exact .inr (le_refl _)
              · exact .inl before
            · exact .inr (by omega)

/-- Code of the species may leave files open; they are nothing of the server's. -/
theorem speciate_inherits {ε : Type} {sfd : RawFd} {s : Process} (h : Inherits sfd s) :
    ∃ t, (Server.speciate : ServerM ε Unit) s = (.ok (), t) ∧ Inherits sfd t := by
  obtain ⟨u, rfl, limit, next, opened, files⟩ :=
    opened_grows (s.world.env.speciated s.world.clock) s.world.fds
  obtain ⟨N, old, held, own, ledger, closes⟩ := h.ledger
  refine ⟨⟨s.server, { s.world with clock := s.world.clock + 1, fds := _ }⟩, rfl, h.signalFd, h.ordered,
    fun fd live => ?_, h.spares, ?_, N, old, held, own, ?_, closes⟩
  · have was := h.opened fd live
    exact Table.isOpen_iff_fileOf.mpr (opened fd was ▸ Table.isOpen_iff_fileOf.mp was)
  · exact h.marked.later (opened sfd (h.opened sfd h.spares.live)) ⟨[], rfl⟩
  · exact ledger.records ⟨rfl, limit, next, [], rfl, List.forall_mem_nil _⟩ files

end speciate
end Zygote
