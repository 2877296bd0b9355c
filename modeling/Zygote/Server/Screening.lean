import Zygote.FileDescriptors.Admission
import Zygote.Server.Confinement
import Zygote.Server.Conversation
import Zygote.Species.AndroidNative

/-!
# What every application holds

The handlers change the registry through three of its operations only. What these keep holds of
the registry of every server, whatever its clients did and whoever its parents were.
-/
namespace Zygote
open Effect Descriptors Prog

/-- A relation between registries that holds across what the handlers do to them. -/
structure Registrar (R : FileDescriptorRegistry → FileDescriptorRegistry → Prop) : Prop where
  refl : ∀ registry, R registry registry
  trans : ∀ {r s t}, R r s → R s t → R r t
  register : ∀ fd, Within (fun s t => R s.1 t.1) (FileDescriptorRegistry.register fd .close)
  remove : ∀ fd, Within (fun s t => R s.1 t.1) (FileDescriptorRegistry.remove fd)
  reset : Within (fun s t => R s.1 t.1) FileDescriptorRegistry.resetForSubspecies

namespace Server
open FileDescriptorRegistry (Screened)

section registers
variable {R : FileDescriptorRegistry → FileDescriptorRegistry → Prop} {ε α : Type}

/-- What the relation says of the registries of a server. -/
def Registering (R : FileDescriptorRegistry → FileDescriptorRegistry → Prop) (s t : Process) : Prop :=
  R s.server.registry t.server.registry

abbrev Registers (R : FileDescriptorRegistry → FileDescriptorRegistry → Prop) (p : ServerM ε α) : Prop :=
  Within (Registering R) p

variable (registrar : Registrar R)
include registrar

theorem still_registers (s : Process) : Registering R s s := registrar.refl _

theorem trans_registers {s t u : Process} (h : Registering R s t) (k : Registering R t u) :
    Registering R s u :=
  registrar.trans h k

theorem sys_registers (p : Prog World ε α) : Registers R (ServerM.sys p) := fun _ => registrar.refl _

omit registrar in
theorem registry_registers {p : RegistryM α} (h : Within (fun s t => R s.1 t.1) p) :
    Registers R (ServerM.registry p) := fun s => h (s.server.registry, s.world)

theorem update_registers {f : Server → Server} (h : ∀ server, (f server).registry = server.registry) :
    Registers R (ServerM.update f : ServerM ε Unit) := fun s =>
  (congrArg (R s.server.registry) (h s.server)).mpr (registrar.refl _)

theorem unwrap_registers (field : Server → Option α) :
    Registers R (ServerM.unwrap field : ServerM ε α) := by
  intro s
  unfold ServerM.unwrap
  split <;> exact registrar.refl _

theorem bind_registers {β : Type} {p : ServerM ε α} {f : α → ServerM ε β} (first : Registers R p)
    (rest : ∀ a, Registers R (f a)) : Registers R (p >>= f) :=
      Within.bind (trans_registers registrar) first rest

theorem handleConnection_registers (fd : RawFd) : Registers R (handleConnection fd) := by
  refine bind_registers registrar (sys_registers registrar _) fun _ => .reading fun s => ?_
  split
  · exact bind_registers registrar (.result (sys_registers registrar _)) fun _ =>
      still_registers registrar
  · refine bind_registers registrar (fun t => ?_) fun _ => ?_
    · unfold pushClient
      split <;> exact registrar.refl _
    refine bind_registers registrar (.mapErr _ (registry_registers (registrar.register fd))) fun _ => ?_
    refine bind_registers registrar (unwrap_registers registrar _) fun epollHandle => ?_
    exact bind_registers registrar (sys_registers registrar _) fun _ => still_registers registrar

theorem handleServerEvents_registers (fd : RawFd) : Registers R (handleServerEvents fd) := by
  refine .reading fun s => bind_registers registrar ?_ fun _ => still_registers registrar
  exact tryUntilWouldBlock_within (still_registers registrar) (trans_registers registrar)
    (fun connection => sys_registers registrar _) (handleConnection_registers registrar) _

theorem reapChildren_registers (children : List ChildInfo) : Registers R (reapChildren children) := by
  have failed : ∀ errno, Registers R (if errno = echild then Pure.pure ()
      else Prog.throw (.processAccounting (.libc errno)) : ServerM SignalHandlerError Unit) := by
    intro errno
    split <;> exact still_registers registrar
  induction children with
  | nil =>
      refine bind_registers registrar (.result (sys_registers registrar _)) fun r => ?_
      cases r with
      | ok child => exact still_registers registrar
      | error errno => exact failed errno
  | cons child rest ih =>
      refine bind_registers registrar (.result (sys_registers registrar _)) fun r => ?_
      cases r with
      | error errno => exact failed errno
      | ok reaped =>
          cases reaped with
          | none => exact still_registers registrar
          | some child =>
              refine bind_registers registrar ?_ fun _ => ih
              unfold handleReaped
              split
              · exact sys_registers registrar _
              · exact still_registers registrar

theorem handleSignalfdEvents_registers (fd : RawFd) : Registers R (handleSignalfdEvents fd) := by
  refine .reading fun s => bind_registers registrar ?_ fun exit => ?_
  · refine tryUntilWouldBlock_within (still_registers registrar) (trans_registers registrar)
      (fun siginfo => sys_registers registrar _) (fun siginfo => ?_) _
    unfold handleSiginfo
    split
    · exact .reading fun t => bind_registers registrar (reapChildren_registers registrar _) fun _ =>
        still_registers registrar
    · split
      · exact still_registers registrar
      · split <;> exact still_registers registrar
  · cases exit <;> exact still_registers registrar

theorem removeClientSocket_registers (fd : RawFd) : Registers R (removeClientSocket fd) := by
  refine bind_registers registrar (.mapErr _ (registry_registers (registrar.remove fd))) fun _ => ?_
  refine bind_registers registrar (unwrap_registers registrar _) fun epollHandle => ?_
  refine bind_registers registrar (sys_registers registrar _) fun _ => .reading fun s => ?_
  split
  · exact still_registers registrar
  · refine bind_registers registrar (update_registers registrar fun _ => rfl) fun _ => ?_
    exact sys_registers registrar _

theorem settle_registers (event : EpollEvent) (data : EpollData)
    (result : Option (Except ServerError ServerControl)) : Registers R (settle event data result) := by
  have hangup : Registers R (handleHangup event data) := by
    unfold handleHangup
    split
    · split
      · exact .mapErr _ (removeClientSocket_registers registrar data.fd)
      · exact still_registers registrar
    · exact still_registers registrar
  have goes : Registers R (do handleHangup event data; Pure.pure LoopControl.continue :
      ServerM ServerError (LoopControl ServerControl)) :=
    bind_registers registrar hangup fun _ => still_registers registrar
  unfold settle
  split
  · exact goes
  · exact goes
  · exact bind_registers registrar (.mapErr _ (removeClientSocket_registers registrar data.fd)) fun _ =>
      still_registers registrar
  · exact still_registers registrar
  · exact still_registers registrar
  · exact still_registers registrar

theorem tailor_registers (socketPath : String) : Registers R (tailor socketPath) := by
  refine bind_registers registrar (.mapErr _ (registry_registers registrar.reset)) fun _ => ?_
  refine bind_registers registrar (sys_registers registrar _) fun (fd, _) => ?_
  refine bind_registers registrar (.mapErr _ (registry_registers (registrar.register fd))) fun _ => ?_
  refine bind_registers registrar (update_registers registrar fun _ => rfl) fun _ => ?_
  refine bind_registers registrar (sys_registers registrar _) fun epollHandle => ?_
  refine bind_registers registrar (update_registers registrar fun _ => rfl) fun _ => ?_
  refine bind_registers registrar (.mapErr _ (registry_registers (registrar.register epollHandle)))
    fun _ => ?_
  refine bind_registers registrar (unwrap_registers registrar _) fun serverSocket => ?_
  refine bind_registers registrar (sys_registers registrar _) fun _ => ?_
  refine bind_registers registrar (unwrap_registers registrar _) fun signalFd => ?_
  refine bind_registers registrar (sys_registers registrar _) fun _ => ?_
  exact .reading fun _ => update_registers registrar fun _ => rfl

theorem becomeSubspecies_registers (socketPath : String) (messageBuffer : Bytes)
    (spawnParams : SpawnParamsCommon) :
    Registers R (becomeSubspecies socketPath messageBuffer spawnParams) := by
  have resets : Registers R (reInitializeAsSubspecies socketPath) := by
    intro s
    have tailored := tailor_registers registrar socketPath s
    unfold reInitializeAsSubspecies
    revert tailored
    split <;> next run => rw [run]; exact id
  refine bind_registers registrar (.reading fun _ => .expect _ (still_registers registrar))
    fun message => ?_
  cases message.getSpawnPayload with
  | none => exact still_registers registrar
  | some payload =>
      refine bind_registers registrar (sys_registers registrar _) fun _ => ?_
      refine bind_registers registrar (sys_registers registrar _) fun _ => ?_
      exact bind_registers registrar (.mapErr _ resets) fun _ => still_registers registrar

theorem handleSpawn_registers (fd : RawFd) (messageBuffer : Bytes)
    {childContinuation : SpawnParamsCommon → ServerM ClientError ServerControl}
    (child : ∀ spawnParams, Registers R (childContinuation spawnParams)) :
    Registers R (handleSpawn false (some fd) messageBuffer childContinuation) := by
  unfold handleSpawn
  refine bind_registers registrar (.reading fun _ => .expect _ (still_registers registrar))
    fun message => .reading fun process => ?_
  split
  · exact still_registers registrar
  · refine bind_registers registrar (.expect _ (still_registers registrar)) fun spawnParams => ?_
    refine bind_registers registrar (.result (sys_registers registrar _)) fun answer => ?_
    split
    · refine bind_registers registrar (.forSome (still_registers registrar) fun priority _ => ?_)
        fun _ => bind_registers registrar (child _) fun _ => still_registers registrar
      exact bind_registers registrar (.result (sys_registers registrar _)) fun _ =>
        still_registers registrar
    · rw [ServerM.unwrap_bind_some]
      exact bind_registers registrar (sys_registers registrar _) fun _ => still_registers registrar
    · rw [ServerM.unwrap_bind_some]
      exact still_registers registrar

theorem dispatchMessage_registers (fd : RawFd) (messageBuffer : Bytes) (species : Species)
    (message : Message) :
    Registers R (dispatchMessage fd messageBuffer species message) := by
  unfold dispatchMessage
  split
  · exact bind_registers registrar (.result (sys_registers registrar _)) fun _ =>
      still_registers registrar
  · exact .reading fun _ => bind_registers registrar (sys_registers registrar _) fun _ =>
      still_registers registrar
  · split
    · exact handleSpawn_registers registrar fd messageBuffer fun _ => still_registers registrar
    · exact still_registers registrar
  · split
    · exact handleSpawn_registers registrar fd messageBuffer (becomeSubspecies_registers registrar _ _)
    · exact still_registers registrar
  · refine bind_registers registrar (sys_registers registrar _) fun _ => ?_
    exact bind_registers registrar (sys_registers registrar _) fun _ => still_registers registrar
  · exact still_registers registrar

theorem handleClientEvents_registers (fd : RawFd) : Registers R (handleClientEvents fd) := by
  refine .reading fun s => bind_registers registrar ?_ fun exit => ?_
  · refine tryUntilWouldBlock_within (still_registers registrar) (trans_registers registrar)
      (fun datagram => sys_registers registrar _) (fun datagram => ?_) _
    unfold handleDatagram
    split
    · exact still_registers registrar
    · refine .reading fun t => bind_registers registrar (.result (still_registers registrar)) fun r => ?_
      split
      · refine bind_registers registrar (sys_registers registrar _) fun _ => .reading fun u => ?_
        refine bind_registers registrar (.result (still_registers registrar)) fun r => ?_
        split
        · exact dispatchMessage_registers registrar fd datagram.2 _ _
        · exact still_registers registrar
      · exact still_registers registrar
  · cases exit <;> exact still_registers registrar

theorem checkEvent_registers (event : EpollEvent) : Registers R (checkEvent event) := by
  refine bind_registers registrar (still_registers registrar) fun data => ?_
  split
  · refine bind_registers registrar (.result ?_) fun result => settle_registers registrar event data _
    unfold handleEvent
    split
    · exact .mapErr _ (handleClientEvents_registers registrar data.fd)
    · exact .mapErr _ (handleServerEvents_registers registrar data.fd)
    · exact .mapErr _ (handleSignalfdEvents_registers registrar data.fd)
  · exact settle_registers registrar event data none

/-- What the operations keep holds across a round, however the round ends. -/
theorem serveOnce_registers : Registers R serveOnce := by
  refine bind_registers registrar (unwrap_registers registrar _) fun epollHandle => ?_
  refine bind_registers registrar (sys_registers registrar _) fun events => ?_
  refine bind_registers registrar (bind_registers registrar ?_ fun control => ?_) fun control => ?_
  · exact .untilBreak (still_registers registrar) (trans_registers registrar)
      (checkEvent_registers registrar) events
  · split <;> exact still_registers registrar
  · split <;> exact still_registers registrar

end registers

section screened
variable {species : Species} {registry : FileDescriptorRegistry} {s t u : Process} {thunk : Thunk}
open FileDescriptorRegistry (Screens Grounded Inherited onWorld)

theorem screened_registrar (species : Species) :
    Registrar fun r s => Screened species r → Screened species s where
  refl _ := id
  trans h k := k ∘ h
  register := FileDescriptorRegistry.register_close_screens
  remove := FileDescriptorRegistry.remove_screens
  reset := FileDescriptorRegistry.resetForSubspecies_screens

theorem screens_leads {ε α : Type} {p : Prog (FileDescriptorRegistry × World) ε α}
    (screens : Screens species p) :
    Leads (fun s => Screened species s.1) p (fun _ s => Screened species s.1) fun _ => True :=
  .conseq (.within screens fun _ _ screened keeps => keeps screened) (fun _ => id) (fun _ _ => id)
    fun _ _ => trivial

/-- What a server opens for itself is closed in every application. -/
theorem openDescriptors_screens (exec : Bool) (config : Config.Server) :
    Leads (fun s => Screened species s.1) (openDescriptors exec config) (fun _ s => Screened species s.1)
      fun _ => True := by
  have own : ∀ fd action, action = .close ∨ action = .closeUnlessSpawnSubspecies →
      Screens species (FileDescriptorRegistry.register fd action) := fun fd action closes =>
    FileDescriptorRegistry.register_screens fun _ => .own closes
  have calls : ∀ {ε α : Type} (p : Prog World ε α), Screens species (onWorld p) :=
    FileDescriptorRegistry.onWorld_screens
  unfold openDescriptors
  split
  · exact .bind _ (screens_leads (.mapErr _ (calls _))) fun _ => .pure fun _ => id
  refine .bind _ (screens_leads (.mapErr _ (calls _))) fun epollHandle => ?_
  refine .bind _ (screens_leads (.mapErr _ (own _ _ (.inl rfl)))) fun _ => ?_
  refine .bind _ (screens_leads (.mapErr _ (calls _))) fun (serverSocket, path) => ?_
  refine .bind _ (screens_leads (.mapErr _ (own _ _ (.inl rfl)))) fun _ => ?_
  refine .bind _ (screens_leads (.mapErr _ (calls _))) fun _ => ?_
  refine .bind _ (screens_leads (.mapErr _ (calls _))) fun _ => ?_
  refine .bind _ (screens_leads (.mapErr _ (calls _))) fun signalFd => ?_
  refine .bind _ (screens_leads (.mapErr _ (own _ _ (.inr rfl)))) fun _ => ?_
  exact .bind _ (screens_leads (.mapErr _ (calls _))) fun _ => .pure fun _ => id

/-- The rest of the registry of a server is admitted. -/
theorem construct_screens (exec : Bool) (config : Config.Server) :
    Leads (fun s => Screened species s.1) (construct exec config)
      (fun server _ => Screened species server.registry ∧ server.species = config.species)
        fun _ => True := by
  refine .bind _ (openDescriptors_screens exec config)
    fun (epollHandle, serverSocket, path, signalFd) => ?_
  refine .bind _ (screens_leads (.mapErr _ FileDescriptorRegistry.registerNew_screens)) fun _ => ?_
  refine .read fun read => ?_
  -- the registry that is read here is the one the server gets
  refine Leads.of_ok fun s server t ⟨screened, same⟩ run => ?_
  obtain ⟨_, _, -, run⟩ := Prog.bind_eq_ok.mp run
  obtain ⟨_, _, -, run⟩ := Prog.bind_eq_ok.mp run
  obtain ⟨_, _, -, run⟩ := Prog.bind_eq_ok.mp run
  cases run
  exact ⟨same ▸ screened, rfl⟩

theorem new_screens {config : Config.Server} {w w' : World} {server : Server}
    {exec : Bool} (h : new exec config w = (.ok server, w')) :
    Screened server.species server.registry ∧ server.species = config.species := by
  obtain ⟨registry, u, made, h⟩ := Prog.bind_eq_ok.mp h
  obtain ⟨built, v, constructed, h⟩ := Prog.bind_eq_ok.mp h
  obtain ⟨r, x, -, h⟩ := Prog.bind_eq_ok.mp h
  have screened := FileDescriptorRegistry.new_screened (Prog.mapErr_eq_ok.mp made)
  have value : (construct exec config (registry, u)).1 = .ok built := congrArg Prod.fst constructed
  obtain ⟨kept, species⟩ := (construct_screens exec config).ok_of screened (Prod.ext value rfl)
  cases r with
  | ok _ =>
      cases h
      exact ⟨species ▸ kept, species⟩
  | error error =>
      obtain ⟨_, y, -, h⟩ := Prog.bind_eq_ok.mp h
      cases h

/-- A round keeps the registry screened, however it ends. -/
theorem serveOnce_screens (s : Process) (screened : Screened s.server.species s.server.registry) :
    Screened (serveOnce s).2.server.species (serveOnce s).2.server.registry := by
  have species : (serveOnce s).2.server.species = s.server.species :=
    serveOnce_within species_frame (fun _ => rfl) (fun _ _ => trivial) s
  rw [species]
  exact serveOnce_registers (screened_registrar s.server.species) s screened

theorem screened_of_served (h : Served s) : Screened s.server.species s.server.registry := by
  induction h with
  | new _ _ _ _ made => exact (new_screens made).1
  | @serve s t _ _ round ih =>
      have kept := serveOnce_screens s ih
      rwa [round] at kept

/-- The descriptors of an application: whatever clients its server had, whatever they sent, and
whichever subspecies it descends from, it starts with the null device, the standard descriptors, and
what an allow list of its species names. -/
theorem inherited_of_served (h : Served s) (fair : s.Fair)
    (spawned : serveOnce s = (.ok (.break (some thunk)), t)) (reinitialized : ¬t.Failed)
    (dropped : drop false t = (.ok (), u)) : ∀ fd, u.world.fds.isOpen fd = true →
      Inherited s.server.species t.server.registry t.world u.world fd := by
  intro fd opened
  have screened := serveOnce_registers (screened_registrar s.server.species) s (screened_of_served h)
  rw [spawned] at screened
  have unfailed : ¬s.Failed := by
    rintro ⟨event, mem, failed⟩
    obtain ⟨newer, later⟩ := (serveOnce_ages s).log
    rw [spawned] at later
    exact reinitialized ⟨event, later ▸ List.mem_append_right _ mem, failed⟩
  have stands : t.Stands := by
    have kept := serveOnce_stands s (.inl ⟨(served_stands h).resolve_right unfailed, fair⟩)
    rw [spawned] at kept
    exact kept.resolve_right reinitialized
  obtain ⟨N, old, epfd, lfd, sfd, serving⟩ := stands
  obtain ⟨_, _, ⟨⟩, h₁⟩ := Prog.bind_eq_ok.mp dropped
  rw [if_neg fun own => serveOnce_hands (served_owned h) spawned own.1] at h₁
  obtain ⟨⟨⟩, v, executed, h₂⟩ := Prog.bind_eq_ok.mp h₁
  obtain ⟨registry, w, run, rfl⟩ := registry_ok (Prog.expect_eq_ok.mp executed)
  obtain ⟨x, masked, rfl⟩ := sys_ok (Prog.expect_eq_ok.mp h₂)
  have calm : w.Calm (· ∈ ([] : List RawFd)) (sigprocmask w).2 := plainCall_calm rfl rfl w
  rw [masked] at calm
  have fds : x.fds = w.fds := congrArg Tables.fds calm.tables
  have live : ∀ fd, t.server.registry.Live fd ↔ t.world.fds.isOpen fd = true := fun fd =>
    (serving.live fd).trans (and_iff_left List.not_mem_nil)
  exact (FileDescriptorRegistry.inherited_of_executed serving.ordered screened live run
    (fds ▸ opened)).congr fds

/-- A file that an allow list of the species names. -/
def listedFile : OpenFile where
  stat := ⟨sIfreg, 8, 40⟩
  link := "/tmp/mock_file_1".toUTF8.data.toList
  seek := .moves

/-- The server that is asked for an application is started with the file. -/
def listedEnv : Env := { spawningEnv with
  ready := fun n => if n = 12 then [⟨epollIn, EpollData.toU64 ⟨5, .server⟩⟩]
    else [⟨epollIn, EpollData.toU64 ⟨7, .client⟩⟩] }

def listedNew : Outcome ServerError Server × World :=
  new false (.turtle none none) (.boot listedEnv (stdio ++ [(3, listedFile)]))

def listedStart : Process := ⟨listedNew.1.get (by decide +kernel), listedNew.2⟩
def listedAsked : Process := (serveOnce listedStart).2
def listedSpawned : Process := (serveOnce listedAsked).2
def listedFreed : Process := (drop false listedSpawned).2

end screened
end Server

namespace AndroidNative
open FileDescriptorRegistry (bare Inherited)
variable {registry : FileDescriptorRegistry} {w w' : World} {fd : RawFd}

/-- What an application of the species has behind a number. -/
inductive Holds (registry : FileDescriptorRegistry) (w w' : World) (fd : RawFd) : Prop
  | null : w'.fds.slot fd = some ⟨w.fds.next, true⟩ → Holds registry w w' fd
  | standard : fd = 0 ∨ fd = 1 ∨ fd = 2 → w'.fds.slot fd = w.fds.slot fd → Holds registry w w' fd
  | logger {entry} : entry ∈ registry.data.toList → entry.fd = fd →
      entry.info = .connectedSocket (.path "/dev/socket/logdw") ∨
        entry.info = .connectedSocket (.path "/dev/socket/statsdw") →
      w'.fds.slot fd = w.fds.slot fd → Holds registry w w' fd
  | file {entry dev inode path fdFlags fsFlagsOpen fsFlagsFcntl offset text} :
      entry ∈ registry.data.toList → entry.fd = fd →
      entry.info = .file dev inode path fdFlags fsFlagsOpen fsFlagsFcntl offset →
      path.asCStr = some text →
      text ∈ devNullPath :: devUrandomPath :: allowedFilePaths.map (·.data) →
      w'.fds.slot fd = w.fds.slot fd ∨
        (text = devNullPath ∨ text = devUrandomPath) ∧
        entry.Reopened FileDescriptorEntry.Positioned w w' →
      Holds registry w w' fd

end AndroidNative
end Zygote
