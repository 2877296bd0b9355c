import Zygote.FileDescriptors.Calls
import Zygote.Server.Handlers

/-!
# What the handlers leave alone

Every part of the server but the fork stays in its process, adds to the record and the
trace of that process only, and removes no file. `deeds` are the deeds it may do.
-/
namespace Zygote
open Effect Descriptors Prog

/-- An address made for a path or for an abstract name. -/
def SockAddr.Made (address : SockAddr) : Prop :=
  (∃ path, address = (boundSocketAddress path afUnix).covered) ∨
    ∃ name, address = (abstractSocketAddress name afUnix).covered

/-- Every call but the removal of a file. -/
def Call.Spares (call : Call) : Prop := ∀ path, call ≠ .removeFile path

/-- The process puts more on its record; what it serves stays the same. -/
structure Process.Stays (deeds : Deed → Prop) (s t : Process) : Prop where
  world : s.world.Does Call.Spares deeds t.world
  species : t.server.species = s.server.species
  spawnParams : t.server.spawnParams = s.server.spawnParams

theorem Process.Stays.refl {deeds : Deed → Prop} (s : Process) : s.Stays deeds s := ⟨.refl _, rfl, rfl⟩

theorem Process.Stays.trans {deeds : Deed → Prop} {s t u : Process} (h : s.Stays deeds t)
    (k : t.Stays deeds u) : s.Stays deeds u :=
  ⟨h.world.trans k.world, k.species.trans h.species, k.spawnParams.trans h.spawnParams⟩

/-- The server, too, goes on as it is, but for its descriptors. -/
structure Process.Keeps (deeds : Deed → Prop) (s t : Process) : Prop extends s.Stays deeds t where
  pid : t.server.pid = s.server.pid
  path : t.server.serverSocketPath = s.server.serverSocketPath

namespace Process.Keeps
variable {deeds : Deed → Prop} {s t u : Process}

theorem refl (s : Process) : s.Keeps deeds s := ⟨.refl _, rfl, rfl⟩

theorem trans (h : s.Keeps deeds t) (k : t.Keeps deeds u) : s.Keeps deeds u :=
  ⟨h.toStays.trans k.toStays, k.pid.trans h.pid, k.path.trans h.path⟩

theorem bind {ε α β : Type} {p : ServerM ε α} {f : α → ServerM ε β}
    (first : Within (Process.Keeps deeds) p) (rest : ∀ a, Within (Process.Keeps deeds) (f a)) :
    Within (Process.Keeps deeds) (p >>= f) := Within.bind trans first rest

end Process.Keeps

section world
variable {deeds : Deed → Prop} {ε : Type}
open World

theorem doing_does {α : Type} {calls : Call → Prop} {deed : World → α → Deed}
    {p : Prog World Errno α} (h : Within (Does calls deeds) p) (done : ∀ w a, deeds (deed w a)) :
    Within (Does calls deeds) (doing deed p) := by
  intro w
  have made := h w
  unfold doing
  split
  · next a v run => rw [run] at made; exact made.trans (.did (done w a))
  · next e v run => rw [run] at made; exact made
  · next m v run => rw [run] at made; exact made

theorem createAbstractSocket_does {name : String} {sockType : Nat}
    (bound : ∀ address : SockAddr, address.Made → deeds (.bound address)) :
    Within (Does Call.Spares deeds) (createAbstractSocket name sockType) := by
  refine Does.bind (attempt_does fun _ => nofun) fun fd => ?_
  refine Does.bind (doing_does (attempt_does fun _ => nofun) fun _ _ => bound _ (.inr ⟨_, rfl⟩))
    fun _ => ?_
  exact Does.refl

theorem createBoundSocket_does {path : String} {sockType : Nat}
    (bound : ∀ address : SockAddr, address.Made → deeds (.bound address)) :
    Within (Does Call.Spares deeds) (createBoundSocket path sockType) := by
  refine Does.bind (attempt_does fun _ => nofun) fun fd => ?_
  refine Does.bind (doing_does (attempt_does fun _ => nofun) fun _ _ => bound _ (.inl ⟨_, rfl⟩))
    fun _ => ?_
  exact Does.refl

end world

section registry
open FileDescriptorRegistry World
variable {deeds : Deed → Prop}

/-- A registry operation as the process sees it. -/
abbrev RegistryKeeps (deeds : Deed → Prop) {α : Type} (p : RegistryM α) : Prop :=
  Within (fun s t => s.2.Does Call.Spares deeds t.2) p

theorem spares_handles : Handles (Does Call.Spares deeds) := does_handles fun _ => id

theorem register_keeps (fd : RawFd) (action : Action) : RegistryKeeps deeds (register fd action) :=
  register_within spares_handles fd action

theorem remove_keeps (fd : RawFd) : RegistryKeeps deeds (FileDescriptorRegistry.remove fd) :=
  remove_within spares_handles fd

theorem registerNew_keeps : RegistryKeeps deeds registerNew := registerNew_within spares_handles

theorem audit_does (registry : FileDescriptorRegistry) :
    Within (Does Call.Spares deeds) registry.audit := audit_within spares_handles registry

theorem executeActions_keeps (forkType : ForkType) : RegistryKeeps deeds (executeActions forkType) :=
  executeActions_within spares_handles forkType

theorem overrideAndClose_keeps : RegistryKeeps deeds overrideAndClose :=
  overrideAndClose_within spares_handles

theorem resetForSubspecies_keeps : RegistryKeeps deeds resetForSubspecies :=
  resetForSubspecies_within spares_handles

end registry

namespace Server
variable {deeds : Deed → Prop}

section calls
open World

theorem providedSocket_does (fd : RawFd) : Within (Does Call.Spares deeds) (providedSocket fd) := by
  refine .reading fun w => ?_
  split
  · refine Does.bind (.mapErr _ (.lift Does.refl _)) fun stat => ?_
    split
    · refine Does.bind (.mapErr _ (.lift Does.refl _)) fun socketType => ?_
      split
      · refine Does.bind (.mapErr _ (attempt_does fun _ => nofun)) fun _ => ?_
        exact Does.bind (.mapErr _ (attempt_does fun _ => nofun)) fun _ => Does.refl
      · exact Does.refl
    · exact Does.refl
  · exact Does.refl

theorem boundSocket_does (bound : ∀ address : SockAddr, address.Made → deeds (.bound address))
    (socketPath : String) :
    Within (Does Call.Spares deeds) (boundSocket socketPath) := by
  unfold boundSocket
  split
  · exact Does.bind (.mapErr _ (createAbstractSocket_does bound)) fun _ => Does.refl
  · refine .reading fun w => ?_
    split
    · exact Does.refl
    · cases Text.parent _ with
      | none => exact Does.refl
      | some parent =>
        refine Does.bind (.mapErr _ (attempt_does fun _ => nofun)) fun _ => ?_
        exact Does.bind (.mapErr _ (createBoundSocket_does bound)) fun _ => Does.refl

theorem getServerSocket_does (bound : ∀ address : SockAddr, address.Made → deeds (.bound address))
    (socketPathOrFd : String) :
    Within (Does Call.Spares deeds) (getServerSocket socketPathOrFd) := by
  unfold getServerSocket
  split
  · exact providedSocket_does _
  · refine Does.bind (boundSocket_does bound _) fun (fd, path) => ?_
    refine Does.bind (.mapErr _ (attempt_does fun _ => nofun)) fun _ => ?_
    exact Does.bind (.mapErr _ (attempt_does fun _ => nofun)) fun _ => Does.refl

end calls

section new
open World FileDescriptorRegistry

theorem registry_new_does (species : Species) :
    Within (Does Call.Spares deeds) (FileDescriptorRegistry.new species) := by
  intro w
  let empty : FileDescriptorRegistry := ⟨species, .empty, .empty, .empty, .empty, .empty⟩
  have built : Within (fun s t => s.2.Does Call.Spares deeds t.2) (do
      register 0 .ignore; register 1 .ignore; register 2 .ignore : RegistryM Unit) :=
    Within.bind Does.trans (register_keeps _ _) fun _ =>
      Within.bind Does.trans (register_keeps _ _) fun _ => register_keeps _ _
  have made := built (empty, w)
  unfold FileDescriptorRegistry.new
  revert made
  dsimp only
  split <;> next run => rw [run]; exact id

theorem preload_does (server : Server) :
    Within (Does Call.Spares deeds) server.preload := by
  refine Does.bind (.mapErr _ ?_) fun context => .expect _ ?_
  · refine Does.bind ?_ fun _ => Does.bind ?_ fun _ => .reading fun _ => Does.refl
    · exact .forSome Does.refl fun _ _ => onTask_does fun _ => nofun
    · exact .forSome Does.refl fun _ _ => onTask_does fun _ => nofun
  · rw [EffectiveIdContext.exit_eq]
    refine Does.bind ?_ fun _ => ?_
    · exact .forSome Does.refl fun _ _ => onTask_does fun _ => nofun
    · exact .forSome Does.refl fun _ _ => onTask_does fun _ => nofun

theorem onWorld_keeps {α : Type} {call : Call} {act : World → Except Errno (α × Option RawFd × Tables)}
    (f : Errno → ServerError) (spares : call.Spares) :
    Within (fun s t => s.2.Does Call.Spares deeds t.2) ((onWorld (attempt call act)).mapErr f) :=
  .mapErr f fun s => attempt_does spares s.2

theorem chain_does {ε α β : Type} {p : Prog (FileDescriptorRegistry × World) ε α}
    {f : α → Prog (FileDescriptorRegistry × World) ε β}
    (first : Within (fun s t => s.2.Does Call.Spares deeds t.2) p)
    (rest : ∀ a, Within (fun s t => s.2.Does Call.Spares deeds t.2) (f a)) :
    Within (fun s t => s.2.Does Call.Spares deeds t.2) (p >>= f) :=
  .bind Does.trans first rest

theorem openDescriptors_does (bound : ∀ address : SockAddr, address.Made → deeds (.bound address))
    (exec : Bool) (config : Config.Server) :
    Within (fun s t => s.2.Does Call.Spares deeds t.2) (openDescriptors exec config) := by
  have done : ∀ own : Opened, Within
    (fun s t : FileDescriptorRegistry × World => s.2.Does Call.Spares deeds t.2)
      (Pure.pure own : Prog _ ServerError Opened) := fun _ _ => .refl _
  unfold openDescriptors
  split
  · exact chain_does (onWorld_keeps _ fun _ => nofun) fun _ => done _
  refine chain_does (onWorld_keeps _ fun _ => nofun) fun epollHandle => ?_
  refine chain_does (.mapErr _ (register_keeps _ _)) fun _ => ?_
  refine chain_does (.mapErr _ fun s => getServerSocket_does bound config.socket s.2)
    fun (serverSocket, path) => ?_
  refine chain_does (.mapErr _ (register_keeps _ _)) fun _ => ?_
  refine chain_does (onWorld_keeps _ fun _ => nofun) fun _ => ?_
  refine chain_does (onWorld_keeps _ fun _ => nofun) fun _ => ?_
  refine chain_does (onWorld_keeps _ fun _ => nofun) fun signalFd => ?_
  refine chain_does (.mapErr _ (register_keeps _ _)) fun _ => ?_
  exact chain_does (onWorld_keeps _ fun _ => nofun) fun _ => done _

/-- What construction opens and registers it does as the process that it is. -/
theorem construct_does (bound : ∀ address : SockAddr, address.Made → deeds (.bound address))
    (exec : Bool) (config : Config.Server) :
    Within (fun s t => s.2.Does Call.Spares deeds t.2) (construct exec config) := by
  refine chain_does (openDescriptors_does bound exec config)
    fun (epollHandle, serverSocket, path, signalFd) => ?_
  refine chain_does (.mapErr _ registerNew_keeps) fun _ => ?_
  refine .reading fun (registry, world) => ?_
  refine chain_does (.mapErr _ fun s => audit_does registry s.2) fun _ => ?_
  refine .reading fun (registry, world) => ?_
  refine chain_does (.expect _ (.lift (fun _ => .refl _) _)) fun _ => ?_
  exact fun _ => .refl _

/-- A server that is handed out has not been dropped. -/
theorem new_does (bound : ∀ address : SockAddr, address.Made → deeds (.bound address))
    {exec : Bool} {config : Config.Server} {w w' : World} {server : Server}
    (h : new exec config w = (.ok server, w')) : w.Does Call.Spares deeds w' := by
  obtain ⟨registry, u, made, h⟩ := Prog.bind_eq_ok.mp h
  obtain ⟨server', v, built, h⟩ := Prog.bind_eq_ok.mp h
  obtain ⟨r, x, loaded, h⟩ := Prog.bind_eq_ok.mp h
  have first : w.Does Call.Spares deeds u := by
    have state : u = (FileDescriptorRegistry.new config.species w).2 := (congrArg Prod.snd made).symm
    exact state ▸ registry_new_does config.species w
  have second : u.Does Call.Spares deeds v := by
    have state : v = (construct exec config (registry, u)).2.2 := (congrArg Prod.snd built).symm
    exact state ▸ construct_does bound exec config (registry, u)
  have third : v.Does Call.Spares deeds x := by
    have loads : Within (Does Call.Spares deeds) (do
        setpgid.mapErr ServerError.processGroupFailure; server'.preload) :=
      Does.bind (.mapErr _ (attempt_does fun _ => nofun)) fun _ => preload_does server'
    have state : x = _ := (congrArg Prod.snd loaded).symm
    rw [state]
    exact Within.result loads v
  cases r with
  | ok _ =>
      cases h
      exact (first.trans second).trans third
  | error error =>
      obtain ⟨_, y, -, h⟩ := Prog.bind_eq_ok.mp h
      cases h

end new

section handlers

/-- A call of the process. -/
theorem sys_keeps {ε α : Type} {p : Prog World ε α} (h : Within (World.Does Call.Spares deeds) p) :
    Within (Process.Keeps deeds) (ServerM.sys p) := fun s => ⟨⟨h s.world, rfl, rfl⟩, rfl, rfl⟩

theorem attempt_keeps {α : Type} {call : Call}
    {act : World → Except Errno (α × Option RawFd × Tables)} (h : call.Spares) :
    Within (Process.Keeps deeds) (ServerM.sys (attempt call act)) := sys_keeps (attempt_does h)

theorem registry_keeps {α : Type} {p : RegistryM α} (h : RegistryKeeps deeds p) :
    Within (Process.Keeps deeds) (ServerM.registry p) := fun s =>
  ⟨⟨h (s.server.registry, s.world), rfl, rfl⟩, rfl, rfl⟩

theorem update_keeps {ε : Type} {f : Server → Server} (pid : ∀ server, (f server).pid = server.pid)
    (path : ∀ server, (f server).serverSocketPath = server.serverSocketPath)
    (species : ∀ server, (f server).species = server.species)
    (spawnParams : ∀ server, (f server).spawnParams = server.spawnParams) :
    Within (Process.Keeps deeds) (ServerM.update f : ServerM ε Unit) := fun s =>
  ⟨⟨.refl _, species s.server, spawnParams s.server⟩, pid s.server, path s.server⟩

theorem unwrap_keeps {ε α : Type} (field : Server → Option α) :
    Within (Process.Keeps deeds) (ServerM.unwrap field : ServerM ε α) := by
  intro s
  unfold ServerM.unwrap
  split <;> exact .refl s

theorem verifiedMessage_keeps {ε : Type} (messageBuffer : Bytes) :
    Within (Process.Keeps deeds) (verifiedMessage messageBuffer : ServerM ε Message) :=
  .reading fun _ => .expect _ (.lift Process.Keeps.refl _)

theorem sendMessage_keeps (sent : ∀ connection bytes, deeds (.sent connection bytes)) (fd : RawFd)
    (message : Message) : Within (Process.Keeps deeds) (ServerM.sys (sendMessage fd message)) :=
  sys_keeps fun w => doing_does (attempt_does fun _ => nofun) (fun _ _ => sent _ _) w

theorem speciate_keeps {ε : Type} : Within (Process.Keeps deeds) (speciate : ServerM ε Unit) :=
  fun _ => ⟨⟨⟨rfl, rfl, ⟨[], rfl, List.forall_mem_nil _⟩, ⟨[], rfl, List.forall_mem_nil _⟩⟩, rfl, rfl⟩,
    rfl, rfl⟩

theorem reInitialize_keeps {ε : Type} (params : SpawnParamsCommon) :
    Within (Process.Keeps deeds) (ServerM.sys
      (ChildProcess.reInitialize false params) : ServerM ε Unit) := by
  refine sys_keeps (ChildProcess.reInitialize_within ChildProcess.does_sets (fun call free => ?_)
    (fun _ _ _ => nofun)
    fun _ _ _ => nofun)
  rintro path rfl
  cases free

theorem pushClient_keeps {ε : Type} (fd : RawFd) :
    Within (Process.Keeps deeds) (pushClient fd : ServerM ε Unit) := by
  intro s
  unfold pushClient
  split
  · exact ⟨⟨.refl _, rfl, rfl⟩, rfl, rfl⟩
  · exact .refl s

theorem handleConnection_keeps (fd : RawFd) : Within (Process.Keeps deeds) (handleConnection fd) := by
  refine Process.Keeps.bind (.mapErr _ (attempt_keeps fun _ => nofun)) fun _ => ?_
  refine .reading fun s => ?_
  split
  · exact Process.Keeps.bind (.result (sys_keeps (close_does fun _ => nofun)))
      fun _ => Process.Keeps.refl
  · refine Process.Keeps.bind (pushClient_keeps fd) fun _ => ?_
    refine Process.Keeps.bind (.mapErr _ (registry_keeps (register_keeps fd .close))) fun _ => ?_
    refine Process.Keeps.bind (unwrap_keeps _) fun epollHandle => ?_
    exact Process.Keeps.bind (.mapErr _ (attempt_keeps fun _ => nofun)) fun _ => Process.Keeps.refl

theorem handleServerEvents_keeps (fd : RawFd) :
    Within (Process.Keeps deeds) (handleServerEvents fd) := by
  refine .reading fun s => Process.Keeps.bind ?_ fun _ => Process.Keeps.refl
  refine tryUntilWouldBlock_within Process.Keeps.refl Process.Keeps.trans (fun connection => ?_)
    handleConnection_keeps _
  exact attempt_keeps fun _ => nofun

theorem handleReaped_keeps (reported : ∀ pid uid status, deeds (.reported pid uid status))
    (child : ChildInfo) : Within (Process.Keeps deeds) (handleReaped child) := by
  unfold handleReaped
  split
  · exact sys_keeps fun w => .did (reported _ _ _)
  · exact Process.Keeps.refl

theorem reapChildren_keeps (reported : ∀ pid uid status, deeds (.reported pid uid status))
    (children : List ChildInfo) : Within (Process.Keeps deeds) (reapChildren children) := by
  have failed : ∀ errno, Within (Process.Keeps deeds) (if errno = echild then Pure.pure ()
      else Prog.throw (.processAccounting (.libc errno)) : ServerM SignalHandlerError Unit) := by
    intro errno
    split <;> exact Process.Keeps.refl
  induction children with
  | nil =>
      refine Process.Keeps.bind (.result (attempt_keeps fun _ => nofun)) fun r => ?_
      cases r with
      | ok child => exact Process.Keeps.refl
      | error errno => exact failed errno
  | cons child rest ih =>
      refine Process.Keeps.bind (.result (attempt_keeps fun _ => nofun)) fun r => ?_
      cases r with
      | ok reaped =>
          cases reaped with
          | none => exact Process.Keeps.refl
          | some child => exact Process.Keeps.bind (handleReaped_keeps reported child) fun _ => ih
      | error errno => exact failed errno

theorem handleSiginfo_keeps (reported : ∀ pid uid status, deeds (.reported pid uid status))
    (siginfo : Siginfo) : Within (Process.Keeps deeds) (handleSiginfo siginfo) := by
  unfold handleSiginfo
  split
  · exact .reading fun s => Process.Keeps.bind (reapChildren_keeps reported _)
      fun _ => Process.Keeps.refl
  · split
    · exact Process.Keeps.refl
    · split <;> exact Process.Keeps.refl

theorem handleSignalfdEvents_keeps (reported : ∀ pid uid status, deeds (.reported pid uid status))
    (fd : RawFd) : Within (Process.Keeps deeds) (handleSignalfdEvents fd) := by
  refine .reading fun s => Process.Keeps.bind ?_ fun exit => ?_
  · refine tryUntilWouldBlock_within Process.Keeps.refl Process.Keeps.trans (fun siginfo => ?_)
      (handleSiginfo_keeps reported) _
    exact attempt_keeps fun _ => nofun
  · cases exit <;> exact Process.Keeps.refl

theorem recvmsg_exhausted {fd : RawFd} {bufferSize : Nat} {s t : Process} {read : Nat × Bytes} :
    ServerM.sys (recvmsg bufferSize fd none) s ≠ (.ok read, t) := by
  intro run
  obtain ⟨w, taken, -⟩ := doing_ok_iff.mp (ServerM.sys_eq.mp run).1
  cases (takeAnswer_ok taken).1

theorem removeClientSocket_keeps (fd : RawFd) :
    Within (Process.Keeps deeds) (removeClientSocket fd) := by
  refine Process.Keeps.bind (.mapErr _ (registry_keeps (remove_keeps fd))) fun _ => ?_
  refine Process.Keeps.bind (unwrap_keeps _) fun epollHandle => ?_
  refine Process.Keeps.bind (.mapErr _ (attempt_keeps fun _ => nofun)) fun _ => ?_
  refine .reading fun s => ?_
  split
  · exact Process.Keeps.refl
  · refine Process.Keeps.bind (update_keeps (fun _ => rfl) (fun _ => rfl) (fun _ => rfl) fun _ => rfl)
      fun _ => ?_
    exact .mapErr _ (sys_keeps (close_does fun _ => nofun))

theorem handleHangup_keeps (event : EpollEvent) (data : EpollData) :
    Within (Process.Keeps deeds) (handleHangup event data) := by
  unfold handleHangup
  split
  · split
    · exact .mapErr _ (removeClientSocket_keeps data.fd)
    · exact Process.Keeps.refl
  · exact Process.Keeps.refl

/-- Settling an event may remove a client, and nothing else. -/
theorem settle_keeps (event : EpollEvent) (data : EpollData)
    (result : Option (Except ServerError ServerControl)) :
    Within (Process.Keeps deeds) (settle event data result) := by
  unfold settle
  split
  · exact Process.Keeps.bind (handleHangup_keeps event data) fun _ => Process.Keeps.refl
  · exact Process.Keeps.bind (handleHangup_keeps event data) fun _ => Process.Keeps.refl
  · exact Process.Keeps.bind (.mapErr _ (removeClientSocket_keeps data.fd)) fun _ =>
      Process.Keeps.refl
  · exact Process.Keeps.refl
  · exact Process.Keeps.refl
  · exact Process.Keeps.refl

end handlers

/-- The server changes in place; the process goes on. -/
theorem tailor_stays (bound : ∀ address : SockAddr, address.Made → deeds (.bound address))
    (socketPath : String) : Within (Process.Stays deeds) (tailor socketPath) := by
  have keeps : ∀ {ε α : Type} {p : ServerM ε α}, Within (Process.Keeps deeds) p →
      Within (Process.Stays deeds) p := fun h s => (h s).toStays
  have chain : ∀ {ε α β : Type} {p : ServerM ε α} {f : α → ServerM ε β},
      Within (Process.Stays deeds) p → (∀ a, Within (Process.Stays deeds) (f a)) →
      Within (Process.Stays deeds) (p >>= f) := Within.bind Process.Stays.trans
  have updates : ∀ {ε : Type} {f : Server → Server}, (∀ server, (f server).species = server.species) →
      (∀ server, (f server).spawnParams = server.spawnParams) →
      Within (Process.Stays deeds) (ServerM.update f : ServerM ε Unit) := fun species spawnParams s =>
    ⟨.refl _, species s.server, spawnParams s.server⟩
  refine chain (keeps (.mapErr _ (registry_keeps resetForSubspecies_keeps))) fun _ => ?_
  refine chain (keeps (.mapErr _ (sys_keeps (getServerSocket_does bound socketPath)))) fun (fd, _) => ?_
  refine chain (keeps (.mapErr _ (registry_keeps (register_keeps fd .close)))) fun _ => ?_
  refine chain (updates (fun _ => rfl) fun _ => rfl) fun _ => ?_
  refine chain (keeps (.mapErr _ (attempt_keeps fun _ => nofun))) fun epollHandle => ?_
  refine chain (updates (fun _ => rfl) fun _ => rfl) fun _ => ?_
  refine chain (keeps (.mapErr _ (registry_keeps (register_keeps epollHandle .close)))) fun _ => ?_
  refine chain (keeps (unwrap_keeps _)) fun serverSocket => ?_
  refine chain (keeps (.mapErr _ (attempt_keeps fun _ => nofun))) fun _ => ?_
  refine chain (keeps (unwrap_keeps _)) fun signalFd => ?_
  refine chain (keeps (.mapErr _ (attempt_keeps fun _ => nofun))) fun _ => ?_
  exact .reading fun _ => updates (fun _ => rfl) fun _ => rfl

theorem tailor_does (bound : ∀ address : SockAddr, address.Made → deeds (.bound address))
    (socketPath : String) :
    Within (fun s t => s.world.Does Call.Spares deeds t.world) (tailor socketPath) := fun s =>
  (tailor_stays bound socketPath s).world

section frame

/-- A relation that holds across what the handlers are made of, but for the fork: calls that
keep the process, and the tailoring of a subspecies. -/
structure Frame (deeds : Deed → Prop) (R : Process → Process → Prop) : Prop where
  refl : ∀ s, R s s
  trans : ∀ {s t u}, R s t → R t u → R s u
  keeps : ∀ {s t}, s.Keeps deeds t → R s t
  tailor : ∀ socketPath, Within R (tailor socketPath)

variable {R : Process → Process → Prop}

namespace Frame

theorem bind {ε α β : Type} {p : ServerM ε α} {f : α → ServerM ε β} (frame : Frame deeds R)
    (first : Within R p) (rest : ∀ a, Within R (f a)) : Within R (p >>= f) :=
  Within.bind frame.trans first rest

theorem of_keeps {ε α : Type} {p : ServerM ε α} (frame : Frame deeds R)
    (h : Within (Process.Keeps deeds) p) : Within R p := fun s => frame.keeps (h s)

end Frame

variable (frame : Frame deeds R)
include frame

theorem reInitializeAsSubspecies_within (socketPath : String) :
    Within R (reInitializeAsSubspecies socketPath) := by
  intro s
  have tailored := frame.tailor socketPath s
  have noted : ∀ (t : Process) (ok : Bool),
      R t { t with world := t.world.note (.reinitialized ok) none } := fun t ok =>
    frame.keeps ⟨⟨@World.Does.call _ _ _ _ (.reinitialized ok) none (fun _ => nofun) rfl rfl rfl rfl,
      rfl, rfl⟩, rfl, rfl⟩
  unfold reInitializeAsSubspecies
  revert tailored
  split
  · next value t run => rw [run]; exact fun h => frame.trans h (noted t true)
  · next error t run => rw [run]; exact fun h => frame.trans h (noted t false)
  · next reason t run => rw [run]; exact id

theorem becomeSubspecies_within (socketPath : String) (messageBuffer : Bytes)
    (spawnParams : SpawnParamsCommon) :
    Within R (becomeSubspecies socketPath messageBuffer spawnParams) := by
  refine frame.bind (frame.of_keeps (verifiedMessage_keeps _)) fun message => ?_
  cases message.getSpawnPayload with
  | none => exact frame.refl
  | some payload =>
      refine frame.bind (frame.of_keeps (reInitialize_keeps _)) fun _ => ?_
      refine frame.bind (frame.of_keeps speciate_keeps) fun _ => ?_
      exact frame.bind (.mapErr _ (reInitializeAsSubspecies_within frame socketPath)) fun _ =>
        frame.refl

variable (sends : ∀ connection bytes, deeds (.sent connection bytes))
include sends

theorem sent_within (fd : RawFd) (message : Message) :
    Within R (ServerM.sys (sendMessage fd message)) :=
  frame.of_keeps (sendMessage_keeps sends fd message)

variable (forks : Within R (ServerM.sys fork))
include forks

theorem handleSpawn_within (fd : RawFd) (messageBuffer : Bytes)
    {childContinuation : SpawnParamsCommon → ServerM ClientError ServerControl}
    (child : ∀ spawnParams, Within R (childContinuation spawnParams)) :
    Within R (handleSpawn false (some fd) messageBuffer childContinuation) := by
  unfold handleSpawn
  refine frame.bind (frame.of_keeps (verifiedMessage_keeps _)) fun message =>
    .reading fun process => ?_
  split
  · exact frame.refl
  · refine frame.bind (frame.of_keeps (.expect _ (.lift Process.Keeps.refl _))) fun spawnParams => ?_
    refine frame.bind (.result forks) fun answer => ?_
    split
    · refine frame.bind ?_ fun _ => frame.bind (child _) fun _ => frame.refl
      refine frame.of_keeps (.forSome Process.Keeps.refl fun priority _ => ?_)
      exact Process.Keeps.bind (.result (attempt_keeps fun _ => nofun)) fun _ => Process.Keeps.refl
    · rw [ServerM.unwrap_bind_some]
      exact frame.bind (.mapErr _ (sent_within frame sends _ _)) fun _ => frame.refl
    · rw [ServerM.unwrap_bind_some]
      exact frame.refl

theorem dispatchMessage_within (fd : RawFd) (messageBuffer : Bytes) (species : Species)
    (message : Message) : Within R (dispatchMessage fd messageBuffer species message) := by
  unfold dispatchMessage
  split
  · exact frame.bind (.result (sent_within frame sends _ _)) fun _ => frame.refl
  · exact .reading fun _ => frame.bind (.mapErr _ (sent_within frame sends _ _)) fun _ => frame.refl
  · split
    · exact handleSpawn_within frame sends forks fd messageBuffer fun _ => frame.refl
    · exact frame.refl
  · split
    · exact handleSpawn_within frame sends forks fd messageBuffer (becomeSubspecies_within frame _ _)
    · exact frame.refl
  · refine frame.bind (frame.of_keeps (.mapErr _ (sys_keeps ?_))) fun _ =>
      frame.bind (.mapErr _ (sent_within frame sends _ _)) fun _ => frame.refl
    exact World.Does.bind (.mapErr _ (attempt_does fun _ => nofun)) fun _ => .lift World.Does.refl _
  · exact frame.refl

omit sends
variable (spoken : ∀ deed : Deed, (∀ address, deed ≠ .bound address) →
  (∀ pid uid status, deed ≠ .reported pid uid status) → deeds deed)
include spoken

theorem dispatchMessageHandler_within (fd : RawFd) (messageBuffer : Bytes) :
    Within R (dispatchMessageHandler fd messageBuffer) := by
  refine frame.bind (frame.of_keeps
    (sys_keeps fun w => .did (spoken _ (fun _ => nofun) fun _ _ _ => nofun)))
    fun _ => ?_
  refine .reading fun process => frame.bind (.result (.lift frame.refl _)) fun r => ?_
  split
  · refine dispatchMessage_within frame (fun _ _ => ?_) forks fd messageBuffer _ _
    exact spoken _ (fun _ => nofun) fun _ _ _ => nofun
  · exact frame.refl

theorem handleClientEvents_within (fd : RawFd) : Within R (handleClientEvents fd) := by
  refine .reading fun process => frame.bind ?_ fun exit => ?_
  · refine tryUntilWouldBlock_within frame.refl frame.trans (fun datagram => ?_) (fun datagram => ?_) _
    · exact frame.of_keeps (sys_keeps (doing_does (attempt_does fun _ => nofun)
        fun _ _ => spoken _ (fun _ => nofun) fun _ _ _ => nofun))
    · unfold handleDatagram
      split
      · exact frame.refl
      · refine .reading fun process => frame.bind (.result (.lift frame.refl _)) fun r => ?_
        split
        · exact dispatchMessageHandler_within frame forks spoken fd _
        · exact frame.refl
  · split <;> exact frame.refl

section signals
variable (signals : ∀ fd, Within R (handleSignalfdEvents fd))
include signals

theorem checkEvent_within_signals (event : EpollEvent) : Within R (checkEvent event) := by
  refine frame.bind (.lift frame.refl _) fun data => ?_
  split
  · refine frame.bind (.result ?_) fun result => frame.of_keeps (settle_keeps event data _)
    unfold handleEvent
    split
    · exact .mapErr _ (handleClientEvents_within frame forks spoken data.fd)
    · exact frame.of_keeps (.mapErr _ (handleServerEvents_keeps data.fd))
    · exact .mapErr _ (signals data.fd)
  · exact frame.of_keeps (settle_keeps event data none)

/-- The relation holds across a round, however the round ends, if it holds across the handling of
signals. -/
theorem serveOnce_within_signals : Within R serveOnce := by
  refine frame.bind (frame.of_keeps (unwrap_keeps _)) fun epollHandle => ?_
  refine frame.bind (frame.of_keeps (.mapErr _ (attempt_keeps fun _ => nofun))) fun events => ?_
  refine frame.bind (frame.bind ?_ fun control => ?_) fun control => ?_
  · exact .untilBreak frame.refl frame.trans
      (checkEvent_within_signals frame forks spoken signals) events
  · split <;> exact frame.refl
  · split <;> exact frame.refl

end signals

omit spoken
variable (free : ∀ deed : Deed, (∀ address, deed ≠ .bound address) → deeds deed)
include free

omit forks in
theorem handleSignalfdEvents_within (fd : RawFd) : Within R (handleSignalfdEvents fd) :=
  frame.of_keeps (handleSignalfdEvents_keeps (fun _ _ _ => free _ fun _ => nofun) fd)

theorem checkEvent_within (event : EpollEvent) : Within R (checkEvent event) :=
  checkEvent_within_signals frame forks (fun deed unbound _ => free deed unbound)
    (handleSignalfdEvents_within frame free) event

/-- The relation holds across a round, however the round ends. -/
theorem serveOnce_within : Within R serveOnce :=
  serveOnce_within_signals frame forks (fun deed unbound _ => free deed unbound)
    (handleSignalfdEvents_within frame free)

end frame

theorem ages_frame : Frame (fun _ => True) fun s t => s.world.Ages t.world where
  refl _ := .refl _
  trans := World.Ages.trans
  keeps keeps := keeps.world.ages
  tailor socketPath s := (@tailor_does (fun _ => True) (fun _ _ => trivial) socketPath s).ages

theorem serveOnce_ages (s : Process) : s.world.Ages (serveOnce s).2.world :=
  serveOnce_within ages_frame (fun s => fork_ages s.world) (fun _ _ => trivial) s

end Server
end Zygote
