import Zygote.Server.Screening

/-!
# Spawning by `exec`

`main` with a command file. The process has a message instead of a socket, and a server that neither
listens nor waits: it treats itself as the child of a fork that never was, and drops the server.
-/
namespace Zygote
open Effect Descriptors

inductive ExecError where
  | parseInt
  | read (error : Errno)
  | unexpectedEof
  | server (error : ServerError)
  | client (error : ClientError)
  deriving DecidableEq, Repr

/-- The calls of a process that serves nobody. -/
def Call.Solitary : Call → Prop
  | .open .. | .opendir | .close _ | .dup3 .. | .fcntlSetfd .. | .fcntlSetfl .. | .lseek .. | .setpgid
  | .sigprocmask | .setpriority _ | .setreuid .. | .setregid .. => True
  | _ => False

namespace Server
open FileDescriptorRegistry (registerNew audit onWorld executeActions)

section command

/-- What can be read from a description, or why it cannot be read. -/
abbrev FileContents := Nat → Except Errno Bytes

/-- Fill the beginning of a buffer of null bytes. Nothing is read to fill none of it. -/
def readExact (contents : FileContents) (fd : RawFd) (count : Nat) : Prog World ExecError Bytes := do
  let world ← Prog.read
  let read ← (if count = 0 then pure []
    else match world.fds.fileOf fd with
      | none => Prog.throw (.read ebadf)
      | some file => match contents file with
        | .error errno => Prog.throw (.read errno)
        | .ok bytes => if bytes.length < count then Prog.throw .unexpectedEof else pure
            (bytes.take count))
  pure (read ++ List.replicate (messageBufferSize - count) 0)

/-- The block in which the command file is open. -/
def readCommand (contents : FileContents) (cmdFd : RawFd) (length : List Char) :
    Prog World ExecError Bytes :=
  match Text.parseUnsigned (0x10000000000000000) length with
  | none => Prog.throw .parseInt
  | some cmdFdLen =>
      if messageBufferSize < cmdFdLen then Prog.panic
        "range end index out of range for slice of length 2048"
      else readExact contents cmdFd cmdFdLen

/-- The message of the command file `fd_length`. The file is closed however the block ends, and whether
that works is not looked at. -/
def commandMessage (contents : FileContents) (cmdFdArg : String) : Prog World ExecError Bytes :=
  match Text.splitOnce ['_'] cmdFdArg.toList with
  | none => Prog.panic "cmd_fd_arg separator is missing"
  | some (before, after) =>
    match Text.parseSigned 0x80000000 before with
    | none => Prog.throw .parseInt
    | some cmdFd =>
      if cmdFd = -1 then Prog.panic "fd != -1"
      else do
        let result ← (readCommand contents cmdFd after).result
        let _ ← (close cmdFd).result
        match result with
        | .ok msgBytes => pure msgBytes
        | .error error => Prog.throw error

end command

section exec

/-- The server is consumed: it is dropped before the thunk can be invoked. -/
def handleMessageExecSpawn (messageBuffer : Bytes) : ServerM ClientError Thunk := do
  match ← (handleMessageSpawn true none messageBuffer).result with
  | .ok (.break (.trampoline thunk)) => do
      (drop true).mapErr Empty.elim
      pure thunk
  | .ok (.break _) => Prog.panic "server control result in not Trampoline"
  | .ok .continue => Prog.panic "handle_message_spawn returned Continue"
  | .error error => do
      (drop true).mapErr Empty.elim
      Prog.throw error

/-- `main` up to the thunk. -/
def execSpawn (contents : FileContents) (config : Config.Server) (cmdFdArg : String) :
    Prog World ExecError Thunk := do
  let msgBytes ← commandMessage contents cmdFdArg
  let server ← (new true config).mapErr .server
  Prog.focus (fun world => (⟨server, world⟩ : Process)) (fun s _ => s.world)
    ((handleMessageExecSpawn msgBytes).mapErr .client)

end exec

section solitary
open Prog World

/-- Nothing but calls that concern the process alone. -/
abbrev Alone (w w' : World) : Prop := w.Does Call.Solitary (fun _ => False) w'

theorem alone_handles : Handles Alone where
  refl := Does.refl
  trans := Does.trans
  openFd _ _ := attempt_does trivial
  close _ := close_does trivial
  dup3 _ _ _ := attempt_does trivial
  fcntlSetfd _ _ := attempt_does trivial
  fcntlSetfl _ _ := attempt_does trivial
  lseekSet _ _ := attempt_does trivial
  procFdIterator := by
    intro w
    unfold procFdIterator
    split
    · exact .refl w
    · exact attempt_does trivial w

theorem registry_new_alone (species : Species) : Within Alone (FileDescriptorRegistry.new species) := by
  intro w
  have built : Within (fun s t : FileDescriptorRegistry × World => Alone s.2 t.2) (do
      FileDescriptorRegistry.register 0 .ignore
      FileDescriptorRegistry.register 1 .ignore
      FileDescriptorRegistry.register 2 .ignore : RegistryM Unit) :=
    Within.bind Does.trans (FileDescriptorRegistry.register_within alone_handles 0 .ignore) fun _ =>
      Within.bind Does.trans (FileDescriptorRegistry.register_within alone_handles 1 .ignore) fun _ =>
        FileDescriptorRegistry.register_within alone_handles 2 .ignore
  have made := built (FileDescriptorRegistry.bare species, w)
  unfold FileDescriptorRegistry.new
  revert made
  dsimp only [FileDescriptorRegistry.bare]
  split <;> next run => rw [run]; exact id

theorem preload_alone (server : Server) : Within Alone server.preload := by
  refine Does.bind (.mapErr _ ?_) fun context => .expect _ ?_
  · refine Does.bind ?_ fun _ => Does.bind ?_ fun _ => .reading fun _ => Does.refl
    · exact .forSome Does.refl fun _ _ => onTask_does trivial
    · exact .forSome Does.refl fun _ _ => onTask_does trivial
  · rw [EffectiveIdContext.exit_eq]
    refine Does.bind ?_ fun _ => ?_
    · exact .forSome Does.refl fun _ _ => onTask_does trivial
    · exact .forSome Does.refl fun _ _ => onTask_does trivial

theorem construct_alone (config : Config.Server) :
    Within (fun s t => Alone s.2 t.2) (construct true config) := by
  have chain : ∀ {ε α β : Type} {p : Prog (FileDescriptorRegistry × World) ε α}
      {f : α → Prog (FileDescriptorRegistry × World) ε β}, Within (fun s t => Alone s.2 t.2) p →
      (∀ a, Within (fun s t => Alone s.2 t.2) (f a)) → Within (fun s t => Alone s.2 t.2) (p >>= f) :=
    Within.bind Does.trans
  have opens : Within (fun s t => Alone s.2 t.2) (openDescriptors true config) :=
    chain (.mapErr _ fun s => attempt_does trivial s.2) fun _ _ => .refl _
  refine chain opens fun (epollHandle, serverSocket, path, signalFd) => ?_
  refine chain (.mapErr _ (FileDescriptorRegistry.registerNew_within alone_handles)) fun _ => ?_
  refine .reading fun (registry, world) => ?_
  refine chain (.mapErr _ fun s => FileDescriptorRegistry.audit_within alone_handles registry s.2)
    fun _ => ?_
  refine .reading fun (registry, world) => ?_
  exact chain (.expect _ (.lift (fun _ => .refl _) _)) fun _ _ => .refl _

theorem drop_alone : Within (fun s t => Alone s.world t.world) (drop true) := by
  refine .reading fun process => ?_
  rw [if_neg fun own => nomatch own.2]
  refine Within.bind Does.trans (.expect _ fun s => ?_) fun _ => .expect _ fun s =>
    attempt_does trivial s.world
  exact FileDescriptorRegistry.executeActions_within
    alone_handles .application (s.server.registry, s.world)

theorem new_alone (config : Config.Server) : Within Alone (new true config) := by
  refine Does.bind (.mapErr _ (registry_new_alone _)) fun registry => ?_
  refine Does.bind (fun w => construct_alone config (registry, w)) fun server => ?_
  refine Does.bind (.result (Does.bind (.mapErr _ (attempt_does trivial)) fun _ =>
    preload_alone server)) fun r => ?_
  cases r with
  | ok _ => exact Does.refl
  | error error => exact Does.bind (fun w => Within.mapErr _ drop_alone ⟨server, w⟩) fun _ => Does.refl

theorem commandMessage_alone (contents : FileContents) (cmdFdArg : String) :
    Within Alone (commandMessage contents cmdFdArg) := by
  have reads : ∀ cmdFd length, Within Alone (readCommand contents cmdFd length) := by
    intro cmdFd length
    unfold readCommand
    split
    · exact Does.refl
    · split
      · exact Does.refl
      · refine .reading fun w => Does.bind ?_ fun _ => Does.refl
        split
        · exact Does.refl
        · split
          · exact Does.refl
          · split
            · exact Does.refl
            · split <;> exact Does.refl
  unfold commandMessage
  split
  · exact Does.refl
  · split
    · exact Does.refl
    · split
      · exact Does.refl
      · refine Does.bind (.result (reads _ _)) fun result =>
          Does.bind (.result (close_does trivial)) fun _ => ?_
        cases result <;> exact Does.refl

end solitary

section started
open Prog
open FileDescriptorRegistry (Screened Unexecuted Inherited)
variable {contents : FileContents} {config : Config.Server} {cmdFdArg : String} {w w' : World}
    {server : Server}
  {messageBuffer : Bytes} {thunk : Thunk} {s t : Process}

/-- The message is what the command file begins with, in a buffer of null bytes. -/
structure Commanded (contents : FileContents) (cmdFdArg : String) (w : World) (messageBuffer : Bytes)
    (cmdFd : RawFd)
    (count : Nat) : Prop where
  argument : ∃ before after, Text.splitOnce ['_'] cmdFdArg.toList = some (before, after) ∧
    Text.parseSigned 0x80000000 before = some cmdFd ∧
    Text.parseUnsigned (0x10000000000000000) after = some count
  fits : count ≤ messageBufferSize
  message : ∃ bytes, messageBuffer = bytes.take count ++ List.replicate (messageBufferSize - count) 0 ∧
    count ≤ bytes.length ∧ (0 < count → ∃ file, w.fds.fileOf cmdFd = some file ∧
      contents file = .ok bytes)

theorem readCommand_ok {cmdFd : RawFd} {length : List Char}
    (run : readCommand contents cmdFd length w = (.ok messageBuffer, w')) :
    ∃ count, Text.parseUnsigned (0x10000000000000000) length = some count ∧ count ≤ messageBufferSize ∧
      (∃ bytes, messageBuffer = bytes.take count ++ List.replicate (messageBufferSize - count) 0 ∧
        count ≤ bytes.length ∧ (0 < count → ∃ file, w.fds.fileOf cmdFd = some file ∧
          contents file = .ok bytes)) ∧
      w' = w := by
  unfold readCommand at run
  cases parsed : Text.parseUnsigned (0x10000000000000000) length with
  | none =>
      rw [parsed] at run
      cases run
  | some count =>
  rw [parsed] at run
  dsimp only at run
  by_cases fits : messageBufferSize < count
  · rw [if_pos fits] at run
    cases run
  rw [if_neg fits] at run
  obtain ⟨world, u, read, run⟩ := bind_eq_ok.mp run
  cases read
  obtain ⟨bytes, v, filled, run⟩ := bind_eq_ok.mp run
  cases run
  refine ⟨count, rfl, not_lt.mp fits, ?_⟩
  by_cases empty : count = 0
  · rw [if_pos empty] at filled
    cases filled
    exact ⟨⟨[], by rw [List.take_nil], by rw [empty]; exact Nat.zero_le _,
      fun positive => absurd empty positive.ne'⟩, rfl⟩
  rw [if_neg empty] at filled
  cases behind : w.fds.fileOf cmdFd with
  | none =>
      rw [behind] at filled
      cases filled
  | some file =>
  rw [behind] at filled
  dsimp only at filled
  cases known : contents file with
  | error errno =>
      rw [known] at filled
      cases filled
  | ok bytes =>
  rw [known] at filled
  dsimp only at filled
  by_cases short : bytes.length < count
  · rw [if_pos short] at filled
    cases filled
  · rw [if_neg short] at filled
    cases filled
    exact ⟨⟨bytes, rfl, not_lt.mp short, fun _ => ⟨file, rfl, known⟩⟩, rfl⟩

theorem commandMessage_ok (run : commandMessage contents cmdFdArg w = (.ok messageBuffer, w')) :
    ∃ cmdFd count, Commanded contents cmdFdArg w messageBuffer cmdFd count ∧ w' = (close cmdFd w).2 := by
  unfold commandMessage at run
  cases apart : Text.splitOnce ['_'] cmdFdArg.toList with
  | none =>
      rw [apart] at run
      cases run
  | some parts =>
  obtain ⟨before, after⟩ := parts
  rw [apart] at run
  dsimp only at run
  cases parsed : Text.parseSigned 0x80000000 before with
  | none =>
      rw [parsed] at run
      cases run
  | some cmdFd =>
  rw [parsed] at run
  dsimp only at run
  by_cases none : cmdFd = -1
  · rw [if_pos none] at run
    cases run
  rw [if_neg none] at run
  obtain ⟨result, u, read, run⟩ := bind_eq_ok.mp run
  obtain ⟨closed, v, close, run⟩ := bind_eq_ok.mp run
  cases result with
  | error error => cases run
  | ok msgBytes =>
      cases run
      obtain ⟨_, filled, same⟩ | ⟨_, -, same⟩ := result_eq_ok.mp read
      · cases same
        obtain ⟨count, number, fits, message, rfl⟩ := readCommand_ok filled
        refine ⟨cmdFd, count, ⟨⟨before, after, apart, parsed, number⟩, fits, message⟩, ?_⟩
        obtain ⟨_, called, -⟩ | ⟨_, called, -⟩ := result_eq_ok.mp close <;> rw [called]
      · cases same

/-- A close takes away one number, or nothing. -/
theorem close_slots (fd : RawFd) (w : World) :
    (∀ n, (close fd w).2.fds.slot n = none ∨ (close fd w).2.fds.slot n = w.fds.slot n) ∧
      (close fd w).2.fds.file = w.fds.file := by
  have gone : (∀ n, (w.fds.close fd).slot n = none ∨ (w.fds.close fd).slot n = w.fds.slot n) ∧
      (w.fds.close fd).file = w.fds.file := by
    refine ⟨fun n => ?_, Table.close_file _⟩
    rw [Table.close_slot]
    split
    · exact .inl rfl
    · exact .inr rfl
  have same : (∀ n, w.fds.slot n = none ∨ w.fds.slot n = w.fds.slot n) ∧ w.fds.file = w.fds.file :=
    ⟨fun _ => .inr rfl, rfl⟩
  unfold close
  split
  · split
    · exact gone
    · split
      · exact gone
      · exact same
  · exact same

/-- The server of a process that was spawned by `exec`: it has nothing of its own, and what the process
had open from the start is accounted for. -/
structure Equipped (config : Config.Server) (w : World) (server : Server) (w' : World) : Prop where
  fds : w'.fds = w.fds
  species : server.species = config.species
  spawnParams : config.toSpawnParams = .ok server.spawnParams
  ordered : server.registry.Ordered
  unexecuted : server.registry.Unexecuted
  screened : Screened config.species server.registry
  accounts : ∃ v : World, v.fds = w.fds ∧ server.registry.Matches v

theorem construct_equipped {registry after : FileDescriptorRegistry} (ordered : registry.Ordered)
    (unexecuted : registry.Unexecuted) (screened : Screened config.species registry)
    (run : construct true config (registry, w) = (.ok server, after, w')) :
    Equipped config w server w' := by
  obtain ⟨own, r₁, w₁, opened, accounted⟩ := construct_ok run
  obtain ⟨⟨⟩, ⟨r₂, w₂⟩, run₁, h₁⟩ := bind_eq_ok.mp opened
  obtain ⟨masked, rfl⟩ := onWorld_ok run₁
  cases h₁
  have still : w₁.fds = w.fds := by
    have calm : w.Calm (fun _ => True) (sigprocmask w).2 := plainCall_calm rfl rfl w
    rw [masked] at calm
    exact congrArg Tables.fds calm.tables
  have kept := FileDescriptorRegistry.registerNew_screens (registry, w₁) screened
  rw [accounted.newcomers] at kept
  obtain ⟨newcomers, rfl, agrees, -, -, species, spawnParams⟩ := accounted
  exact ⟨still, species, spawnParams, FileDescriptorRegistry.registerNew_ok_ordered ordered newcomers,
    FileDescriptorRegistry.registerNew_unexecuted unexecuted newcomers, kept,
    (w₁.note .opendir none).note .opendir none, still, agrees⟩

theorem new_equipped (run : new true config w = (.ok server, w')) : Equipped config w server w' := by
  obtain ⟨registry, u, made, h₁⟩ := bind_eq_ok.mp run
  have made := mapErr_eq_ok.mp made
  obtain rfl := new_idle made
  obtain ⟨built, v, constructed, h₂⟩ := bind_eq_ok.mp h₁
  have value : (construct true config (registry, u)).1 = .ok built := congrArg Prod.fst constructed
  have state : (construct true config (registry, u)).2.2 = v := congrArg Prod.snd constructed
  have unexecuted : registry.Unexecuted :=
    FileDescriptorRegistry.new_keeps
      (fun _ mem => nomatch mem) FileDescriptorRegistry.register_unexecuted made
  have equipped := construct_equipped (FileDescriptorRegistry.new_ordered made) unexecuted
    (FileDescriptorRegistry.new_screened made) (Prod.ext value rfl)
  obtain ⟨r, x, loaded, h₃⟩ := bind_eq_ok.mp h₂
  cases r with
  | error error =>
      obtain ⟨_, y, -, h₄⟩ := bind_eq_ok.mp h₃
      cases h₄
  | ok _ =>
      cases h₃
      have loads : Within (World.Calm fun _ => True) (do
          setpgid.mapErr ServerError.processGroupFailure; server.preload) :=
        World.Calm.bind (.mapErr _ (plainCall_calm rfl rfl)) fun _ => preload_calm server
      have calm := (Within.result loads : Within _ (Prog.result _ : Prog World ServerError _)) v
      rw [loaded] at calm
      have still : w'.fds = v.fds := congrArg Tables.fds calm.tables
      exact { equipped with fds := still.trans (state ▸ equipped.fds) }

/-- A process that hands out a thunk has it from the message, and is otherwise the process it was. -/
structure Handing (s : Process) (messageBuffer : Bytes) (thunk : Thunk) (t : Process) : Prop where
  params : ∃ message params, Message.tryFromParcel s.world.env.root messageBuffer = .ok message ∧
    message.getSpawnParams = some params ∧ params.or s.server.spawnParams = .ok thunk.spawnParams
  spawnMessage : thunk.spawnMessage = messageBuffer
  server : t.server = s.server
  env : t.world.env = s.world.env
  fds : t.world.fds = s.world.fds

theorem handing_of_handleMessageSpawn {exec : Bool} {fd : Option RawFd} {control : ServerControl}
    (run : handleMessageSpawn exec fd messageBuffer s = (.ok (.break control), t)) :
    ∃ thunk, control = .trampoline thunk ∧ Handing s messageBuffer thunk t := by
  obtain ⟨message, s₁, verified, h₁⟩ := bind_eq_ok.mp run
  have lifted := expect_eq_ok.mp (show (Prog.expect _ (Prog.lift
    (Message.tryFromParcel s.world.env.root messageBuffer)) : ServerM ClientError Message) s =
      _ from verified)
  have decoded := congrArg Prod.fst lifted
  obtain rfl : s = s₁ := congrArg Prod.snd lifted
  obtain ⟨_, _, ⟨⟩, h₂⟩ := bind_eq_ok.mp h₁
  cases given : message.getSpawnParams with
  | none =>
      rw [given] at h₂
      cases h₂
  | some params =>
  rw [given] at h₂
  obtain ⟨spawnParams, s₂, merging, h₃⟩ := bind_eq_ok.mp h₂
  have merged := expect_eq_ok.mp merging
  obtain rfl : s = s₂ := congrArg Prod.snd merged
  obtain ⟨answer, s₃, answered, h₄⟩ := bind_eq_ok.mp h₃
  -- the fork leaves the server and the tables to the child
  have still : s₃.server = s.server ∧ s₃.world.env = s.world.env ∧ s₃.world.fds = s.world.fds := by
    cases exec with
    | true =>
        cases answered
        exact ⟨rfl, rfl, rfl⟩
    | false =>
        have forks : Within (fun s t : Process => t.server = s.server ∧ t.world.env = s.world.env ∧
            t.world.fds = s.world.fds) (ServerM.sys fork) := by
          intro s
          unfold ServerM.sys Prog.focus
          obtain ⟨_, forked⟩ | ⟨_, forked⟩ | ⟨_, -, -, forked⟩ := fork_cases s.world <;> rw [forked] <;>
            exact ⟨rfl, rfl, rfl⟩
        have kept :=
          (Within.result forks : Within _
            (Prog.result _ : ServerM ClientError (Except Errno (Option Nat)))) s
        rwa [show (ServerM.sys fork).result s = _ from answered] at kept
  cases answer with
  | error errno =>
      obtain ⟨_, _, -, h₅⟩ := bind_eq_ok.mp h₄
      cases h₅
  | ok forked =>
  cases forked with
  | some newPid =>
      obtain ⟨_, _, -, h₅⟩ := bind_eq_ok.mp h₄
      obtain ⟨_, _, -, h₆⟩ := bind_eq_ok.mp h₅
      cases h₆
  | none =>
  obtain ⟨⟨⟩, s₄, prioritized, h₅⟩ := bind_eq_ok.mp h₄
  obtain ⟨child, s₅, continued, h₆⟩ := bind_eq_ok.mp h₅
  cases continued
  cases h₆
  have departs : Within (Process.Departs fun _ => True)
    (Prog.forSome spawnParams.priorityInitial fun priority => do
      let _ ← (ServerM.sys (plainCall (.setpriority priority) ())).result
      Pure.pure () : ServerM ClientError Unit) := by
    refine .forSome Process.Departs.refl fun priority _ => Process.Departs.bind (.result ?_) fun _ =>
      Process.Departs.refl
    exact sys_departs (plainCall_calm rfl rfl)
  have kept := departs s₃
  rw [prioritized] at kept
  exact ⟨_, rfl, ⟨message, params, decoded, given, congrArg Prod.fst merged⟩, rfl,
    kept.server.trans still.1,
    kept.calm.ages.env.trans still.2.1, (congrArg Tables.fds kept.calm.tables).trans still.2.2⟩

/-- The handler gives a thunk for the message, and the server away. -/
theorem handleMessageExecSpawn_ok (run : handleMessageExecSpawn messageBuffer s = (.ok thunk, t)) :
    ∃ u, Handing s messageBuffer thunk u ∧ drop true u = (.ok (), t) := by
  obtain ⟨result, u, returned, h₁⟩ := bind_eq_ok.mp run
  obtain ⟨control, spawned, same⟩ | ⟨error, -, same⟩ := result_eq_ok.mp returned
  · subst same
    cases control with
    | «continue» => cases h₁
    | «break» control =>
        obtain ⟨handed, rfl, handing⟩ := handing_of_handleMessageSpawn spawned
        obtain ⟨⟨⟩, v, dropped, h₂⟩ := bind_eq_ok.mp h₁
        cases h₂
        exact ⟨u, handing, mapErr_eq_ok.mp dropped⟩
  · subst same
    obtain ⟨_, _, -, h₂⟩ := bind_eq_ok.mp h₁
    cases h₂

/-- A process that was spawned by `exec` and comes to a thunk: it has read its message from the command
file, its parameters are those of the message and the configuration, and the descriptors it was started
with are closed unless an allow list names what they are. -/
structure Started (contents : FileContents) (config : Config.Server) (cmdFdArg : String) (w : World)
    (thunk : Thunk)
    (w' : World) : Prop where
  command : ∃ cmdFd count, Commanded contents cmdFdArg w thunk.spawnMessage cmdFd count
  params : ∃ message own defaults, Message.tryFromParcel w.env.root thunk.spawnMessage = .ok message ∧
    message.getSpawnParams = some own ∧ config.toSpawnParams = .ok defaults ∧
    own.or defaults = .ok thunk.spawnParams
  descriptors : ∃ (registry : FileDescriptorRegistry) (audited before : World),
    registry.Matches audited ∧
    audited.fds = before.fds ∧ (∀ n, before.fds.slot n = none ∨ before.fds.slot n = w.fds.slot n) ∧
    before.fds.file = w.fds.file ∧
    ∀ fd, w'.fds.isOpen fd = true → Inherited config.species registry before w' fd

theorem started_of_execSpawn (run : execSpawn contents config cmdFdArg w = (.ok thunk, w')) :
    Started contents config cmdFdArg w thunk w' := by
  have alone : ∀ {u v : World} {α : Type} {ε : Type} {p : Prog World ε α} {a : α}, Within Alone p →
      p u = (.ok a, v) → v.env = u.env := by
    intro u v α ε p a within run
    have kept := (within u).env
    rwa [run] at kept
  obtain ⟨messageBuffer, u, commanded, h₁⟩ := bind_eq_ok.mp run
  have env₁ := alone (commandMessage_alone contents cmdFdArg) commanded
  obtain ⟨cmdFd, count, command, closed⟩ := commandMessage_ok commanded
  obtain ⟨server, v, made, h₂⟩ := bind_eq_ok.mp h₁
  have made := mapErr_eq_ok.mp made
  have env₂ := alone (new_alone config) made
  have equipped := new_equipped made
  have value : ((handleMessageExecSpawn messageBuffer).mapErr ExecError.client
    ⟨server, v⟩).1 = .ok thunk :=
    congrArg Prod.fst h₂
  have state : ((handleMessageExecSpawn messageBuffer).mapErr ExecError.client ⟨server, v⟩).2.world =
    w' :=
    congrArg Prod.snd h₂
  obtain ⟨⟨holder, before⟩, handing, dropped⟩ :=
    handleMessageExecSpawn_ok (mapErr_eq_ok.mp (Prod.ext value rfl))
  obtain ⟨message, params, decoded, given, merged⟩ := handing.params
  obtain rfl : messageBuffer = thunk.spawnMessage := handing.spawnMessage.symm
  obtain rfl : server = holder := handing.server.symm
  have still : before.fds = v.fds := handing.fds
  obtain ⟨_, _, ⟨⟩, branch⟩ := bind_eq_ok.mp dropped
  rw [if_neg fun own => nomatch own.2] at branch
  obtain ⟨⟨⟩, x, executed, unmasked⟩ := bind_eq_ok.mp branch
  obtain ⟨after, y, run, rfl⟩ := registry_ok (expect_eq_ok.mp executed)
  obtain ⟨z, masked, last⟩ := sys_ok (expect_eq_ok.mp unmasked)
  have calm : y.Calm (fun _ => True) (sigprocmask y).2 := plainCall_calm rfl rfl y
  rw [masked] at calm
  have fds : w'.fds = y.fds := by
    rw [← state]
    exact (congrArg (fun s => s.world.fds) last).trans (congrArg Tables.fds calm.tables)
  obtain ⟨audited, same, agrees⟩ := equipped.accounts
  have table : before.fds = u.fds := still.trans equipped.fds
  obtain ⟨slots, files⟩ := close_slots cmdFd w
  rw [← closed, ← table] at slots files
  have live : ∀ fd, server.registry.Live fd ↔ before.fds.isOpen fd = true := by
    intro fd
    rw [table, ← same]
    exact agrees.live_iff
  rw [env₂, env₁] at decoded
  refine ⟨⟨cmdFd, count, command⟩,
    ⟨message, params, server.spawnParams, decoded, given, equipped.spawnParams,
    merged⟩, server.registry, audited, before, agrees, same.trans table.symm, slots, files,
      fun fd opened => ?_⟩
  exact (FileDescriptorRegistry.inherited_of_executed equipped.ordered equipped.screened live run
    (fds ▸ opened)).congr fds

end started
end Server
end Zygote
