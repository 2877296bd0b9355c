import Zygote.Messages.Payload
import Zygote.Server.Frames

/-!
# The command line client

A command is made into a message, packed, and sent as one datagram of whatever length it
has. The server reads a datagram into a buffer of fixed size, and what does not fit is lost.
-/
namespace Zygote
open Effect Descriptors

section parser

/-- A priority in the range the command line admits. -/
structure Priority where
  value : Int32
  range : -20 ≤ value ∧ value < 20

/-- Command line parser for building `SpawnCommon`. -/
structure SpawnCommonParser where
  selinuxFlags : Option UInt64
  uid : Option Int32
  gid : Option Int32
  processName : Option String
  priorityInitial : Option Priority
  priorityFinal : Option Priority
  secondaryGroups : List UInt32
  seInfo : Option String

/-- Command line parser for building the payload of a spawn message. -/
inductive SpawnPayloadParser where
  | androidNative (package : String) (startSeq : Int64) (targetSdkVersion : Int32)
      (runtimeFlags : UInt32) (topApp : Bool)
  | androidNativeSubspecies (targetSdkVersion : Int32) (runtimeFlags : UInt32)
      (libraryPath libraryDirs permittedLibraryPaths : String) (shared : Bool)
      (zipPath nativeSharedLibPath : String) (preloadFunc : Option String)
      (uidGidMin uidGidMax : UInt32)
  | libApp (path : String) (args : List String)
  | mock (name : String)

/-- Command line parser for building parcels. -/
inductive MessageParser where
  | exit
  | identityQuery
  | spawn (common : SpawnCommonParser) (payload : SpawnPayloadParser)
  | spawnSubspecies (common : SpawnCommonParser) (socketPath : String) (payload : SpawnPayloadParser)
  | stat

def SpawnCommonParser.toSpawnCommon (self : SpawnCommonParser) :
    Outcome MessageError SpawnParamsCommon := do
  let secondaryGroups ← collectArrayVec self.secondaryGroups
  .ok {
    selinuxFlags := self.selinuxFlags
    noNewPrivs := none
    uid := self.uid
    gid := self.gid
    processName := self.processName
    priorityInitial := self.priorityInitial.map Priority.value
    priorityFinal := self.priorityFinal.map Priority.value
    capEffective := none
    capPermitted := none
    capInheritable := none
    capBound := none
    seInfo := self.seInfo
    secondaryGroups
    rlimits := .empty }

def SpawnPayloadParser.toSpawnPayload : SpawnPayloadParser → Outcome MessageError SpawnPayload
  | androidNative package startSeq targetSdkVersion runtimeFlags topApp =>
      .ok (.androidNative none package startSeq targetSdkVersion runtimeFlags topApp)
  | androidNativeSubspecies targetSdkVersion runtimeFlags libraryPath libraryDirs
      permittedLibraryPaths shared zipPath nativeSharedLibPath preloadFunc uidGidMin uidGidMax =>
      .ok (.androidNativeSubspecies targetSdkVersion runtimeFlags libraryPath libraryDirs
        permittedLibraryPaths shared zipPath nativeSharedLibPath preloadFunc uidGidMin uidGidMax)
  | libApp path args => do
      let args ← collectArrayVec args
      .ok (.libApp path args)
  | mock name => .ok (.mock name)

/-- More groups or arguments than there is room for panic; nothing looks at the texts. -/
def MessageParser.toMessage : MessageParser → Outcome MessageError Message
  | exit => .ok .exit
  | identityQuery => .ok .identityQuery
  | spawn common payload => do
      let common ← common.toSpawnCommon
      let payload ← payload.toSpawnPayload
      .ok (.spawn common payload)
  | spawnSubspecies common socketPath payload => do
      let common ← common.toSpawnCommon
      let payload ← payload.toSpawnPayload
      .ok (.spawnSubspecies common socketPath payload)
  | stat => .ok .stat

def MessageParser.tryToParcel (finishedData : Inner.Parcel → Bytes) (self : MessageParser) :
    Outcome MessageError Bytes := do
  let message ← self.toMessage
  .ok (finishedData message.toParcel)

end parser

section texts

/-- The bytes of the texts a message carries. -/
def SpawnParamsCommon.textBytes (p : SpawnParamsCommon) : Nat :=
  (p.processName.getD "").utf8ByteSize + (p.seInfo.getD "").utf8ByteSize

def SpawnPayload.textBytes : SpawnPayload → Nat
  | androidNative preloadingCmd package _ _ _ _ =>
      (preloadingCmd.getD []).length + package.utf8ByteSize
  | androidNativeSubspecies _ _ libraryPath libraryDirs permittedLibraryPaths _ zipPath
      nativeSharedLibPath preloadFunc _ _ =>
      libraryPath.utf8ByteSize + libraryDirs.utf8ByteSize + permittedLibraryPaths.utf8ByteSize +
        zipPath.utf8ByteSize + nativeSharedLibPath.utf8ByteSize + (preloadFunc.getD "").utf8ByteSize
  | libApp path args => args.toList.foldl (fun n arg => n + arg.utf8ByteSize) path.utf8ByteSize
  | mock name => name.utf8ByteSize

def Message.textBytes : Message → Nat
  | identityQueryResponse name species arch =>
      name.utf8ByteSize + species.utf8ByteSize + arch.utf8ByteSize
  | spawn common payload => common.textBytes + payload.textBytes
  | spawnSubspecies common socketPath payload =>
      common.textBytes + socketPath.utf8ByteSize + payload.textBytes
  | _ => 0

end texts

section transaction

inductive CommandError where
  | sys (errno : Errno)
  | message (error : MessageError)
  deriving DecidableEq

/-- Send a command and wait for the response, which is only reported. -/
def handleCommandTransaction (finishedData : Bytes) (clientSocket : RawFd) (response : Option Bytes) :
    Prog World CommandError Unit := do
  (sendmsg clientSocket finishedData).mapErr .sys
  let read ← (recvmsg messageBufferSize clientSocket response).mapErr .sys
  let w ← Prog.read
  let _response ← (Prog.lift (Message.tryFromParcel w.env.root read.2)).mapErr .message
  pure ()

/-- The transaction got past `sendmsg`: before anything else, the datagram went out. -/
def HasSent (finishedData : Bytes) (clientSocket : RawFd) (response : Option Bytes) (w : World)
    (datagram : Bytes) : Prop :=
  ∃ later, (handleCommandTransaction finishedData clientSocket response w).2.trace =
    later ++ (w.pid, .sent (w.fds.fileOf clientSocket) datagram) :: w.trace

theorem handleCommandTransaction_of_sent {finishedData : Bytes} {clientSocket : RawFd} {w v : World}
    (run : sendmsg clientSocket finishedData w = (.ok (), v)) (response : Option Bytes) :
    ∃ later, (handleCommandTransaction finishedData clientSocket response w).2.trace =
      later ++ v.trace := by
  rw [handleCommandTransaction, Prog.bind_of_ok (Prog.mapErr_eq_ok.mpr run)]
  have rest : Prog.Within (World.Does (fun _ => True) fun _ => True) (do
      let read ← (recvmsg messageBufferSize clientSocket response).mapErr CommandError.sys
      let w ← Prog.read
      let _response ← (Prog.lift (Message.tryFromParcel w.env.root read.2)).mapErr .message
      pure ()) := by
    refine .bind .trans (.mapErr _ (doing_does (attempt_does trivial) fun _ _ => trivial)) fun read => ?_
    refine .reading fun w => ?_
    exact .bind .trans (.mapErr _ (.lift .refl _)) fun _ => .pure .refl ()
  obtain ⟨later, trace, -⟩ := (rest v).trace
  exact ⟨later, trace⟩

theorem sendmsg_trace (fd : RawFd) (bytes : Bytes) (w : World) :
    (∃ v, sendmsg fd bytes w = (.ok (), v) ∧
      v.trace = (w.pid, .sent (w.fds.fileOf fd) bytes) :: w.trace) ∨
    ∃ o v, sendmsg fd bytes w = (o, v) ∧ o ≠ .ok () ∧ v.trace = w.trace := by
  have called : ∃ o v, onOpen (.sendmsg fd bytes) fd (fun _ fds => .ok fds) w = (o, v) := ⟨_, _, rfl⟩
  obtain ⟨o, v, run⟩ := called
  obtain ⟨-, pid, trace⟩ := attempt_frame run
  cases o with
  | ok value =>
      refine Or.inl ⟨_, doing_ok_iff.mpr ⟨v, run, rfl⟩, ?_⟩
      change (v.pid, _) :: v.trace = _
      rw [pid, trace]
  | err errno =>
      refine Or.inr ⟨.err errno, v, ?_, by simp, trace⟩
      simp only [sendmsg, doing, run]
  | panic m =>
      refine Or.inr ⟨.panic m, v, ?_, by simp, trace⟩
      simp only [sendmsg, doing, run]

/-- What went out is what was finished. -/
theorem HasSent.datagram_eq {finishedData datagram : Bytes} {clientSocket : RawFd}
    {response : Option Bytes} {w : World} (h : HasSent finishedData clientSocket response w datagram) :
    datagram = finishedData := by
  obtain ⟨later, trace⟩ := h
  rcases sendmsg_trace clientSocket finishedData w with ⟨v, run, sent⟩ | ⟨o, v, run, failed, still⟩
  · obtain ⟨rest, grown⟩ := handleCommandTransaction_of_sent run response
    rw [sent, trace] at grown
    have last := (List.append_inj' grown (by simp)).2
    cases last
    rfl
  · -- a transaction that stops at `sendmsg` has left nothing on the trace
    have stops : (handleCommandTransaction finishedData clientSocket response w).2 = v := by
      rw [handleCommandTransaction, Prog.bind_apply, Prog.mapErr, run]
      cases o with
      | ok value => exact absurd rfl failed
      | err errno => rfl
      | panic m => rfl
    rw [stops, still] at trace
    have longer := congrArg List.length trace
    simp only [List.length_append, List.length_cons] at longer
    omega

end transaction

/-- What is known of a finished buffer: it is read as its parcel, what comes after its end
is not looked at, and the verifier misses something when its last words are cut off. -/
structure FinishedBuffer (root : Bytes → Option Inner.Parcel) (buffer : Bytes)
    (parcel : Inner.Parcel) : Prop where
  reads : root buffer = some parcel
  trailing : ∀ rest, root (buffer ++ rest) = root buffer
  truncated : ∀ n, n < buffer.length → 4 ∣ n → root (buffer.take n) = none

/-- Both sides decode the same message. -/
def Arrives (root : Bytes → Option Inner.Parcel) (sent read : Bytes) : Prop :=
  ∃ message, Message.tryFromParcel root sent = .ok message ∧
    Message.tryFromParcel root read = .ok message

/-- Every message there is can be decoded again. -/
theorem Message.fromParcel_toParcel_ok (message : Message) :
    ∃ decoded, fromParcel message.toParcel = .ok decoded := by
  cases message with
  | spawn common payload =>
      obtain ⟨decoded, unpacked, -⟩ := @fromParcel_payload (.spawn common payload) payload rfl
      exact ⟨decoded, unpacked⟩
  | spawnSubspecies common socketPath payload =>
      obtain ⟨decoded, unpacked, -⟩ :=
        @fromParcel_payload (.spawnSubspecies common socketPath payload) payload rfl
      exact ⟨decoded, unpacked⟩
  | ackResponse | exit | identityQuery | identityQueryResponse | spawnResponse | stat
    | statResponse => exact ⟨_, rfl⟩

section reading
variable {root : Bytes → Option Inner.Parcel} {buffer : Bytes} {message : Message}

theorem received_of_fits {bufferSize : Nat} (fits : buffer.length ≤ bufferSize) :
    (received bufferSize buffer).2 = buffer ++ List.replicate (bufferSize - buffer.length) 0 := by
  rw [received, List.take_of_length_le fits]

theorem received_of_exceeds {bufferSize : Nat} (exceeds : bufferSize < buffer.length) :
    (received bufferSize buffer).2 = buffer.take bufferSize := by
  rw [received, Nat.sub_eq_zero_of_le exceeds.le, List.replicate_zero, List.append_nil]

/-- A datagram that is too long for the buffer is no message any more. -/
theorem FinishedBuffer.tryFromParcel_exceeds {parcel : Inner.Parcel}
    (finished : FinishedBuffer root buffer parcel) (exceeds : messageBufferSize < buffer.length) :
    Message.tryFromParcel root (received messageBufferSize buffer).2 = .err .invalidFlatBuffer := by
  rw [received_of_exceeds exceeds, Message.tryFromParcel,
    finished.truncated messageBufferSize exceeds (by decide)]

theorem FinishedBuffer.arrives_iff (finished : FinishedBuffer root buffer message.toParcel) :
    Arrives root buffer (received messageBufferSize buffer).2 ↔ buffer.length ≤ messageBufferSize := by
  constructor
  · rintro ⟨decoded, -, read⟩
    by_contra exceeds
    rw [finished.tryFromParcel_exceeds (Nat.lt_of_not_le exceeds)] at read
    cases read
  · intro fits
    obtain ⟨decoded, unpacked⟩ := message.fromParcel_toParcel_ok
    have sent : Message.tryFromParcel root buffer = .ok decoded := by
      rw [Message.tryFromParcel, finished.reads]
      exact unpacked
    refine ⟨decoded, sent, ?_⟩
    rw [received_of_fits fits, Message.tryFromParcel, finished.trailing]
    exact sent

/-- The server drops such a request: no handler is called and no answer is given. -/
theorem FinishedBuffer.handleDatagram_exceeds {parcel : Inner.Parcel} {s : Process} (fd : RawFd)
    (finished : FinishedBuffer s.world.env.root buffer parcel)
    (exceeds : messageBufferSize < buffer.length) :
    Server.handleDatagram fd (received messageBufferSize buffer) s =
      (.ok (.break .pollContinue), s) := by
  have filled : (received messageBufferSize buffer).1 ≠ 0 := by
    have room : 0 < messageBufferSize := by decide
    simp only [received, List.length_take]
    omega
  have decoded : Prog.lift (Message.tryFromParcel s.world.env.root
      (received messageBufferSize buffer).2) s = (.err .invalidFlatBuffer, s) := by
    rw [finished.tryFromParcel_exceeds exceeds]
    rfl
  rw [Server.handleDatagram, if_neg filled, Prog.bind_of_ok (show Prog.read s = (.ok s, s) from rfl),
    Prog.bind_result_err decoded]
  rfl

end reading

theorem recvmsg_ok {bufferSize : Nat} {fd : RawFd} {datagram : Bytes} {read : Nat × Bytes}
    {u u' : World} (h : recvmsg bufferSize fd (some datagram) u = (.ok read, u')) :
    read = received bufferSize datagram := by
  obtain ⟨v, taken, -⟩ := doing_ok_iff.mp h
  exact (Option.some.inj (takeAnswer_ok taken).1).symm

/-- A request that was sent without an error arrives exactly when it fits the buffer. -/
theorem MessageParser.request_arrives_iff {command : MessageParser} {request datagram : Bytes}
    {clientSocket clientFd : RawFd} {response : Option Bytes} {read : Nat × Bytes} {w u u' : World}
    (packed : command.tryToParcel w.env.finishedData = .ok request)
    (finished : ∀ message, command.toMessage = .ok message →
      FinishedBuffer w.env.root (w.env.finishedData message.toParcel) message.toParcel)
    (sent : HasSent request clientSocket response w datagram)
    (received : recvmsg messageBufferSize clientFd (some datagram) u = (.ok read, u')) :
    Arrives w.env.root request read.2 ↔ request.length ≤ messageBufferSize := by
  obtain ⟨message, built, pack⟩ := Outcome.bind_eq_ok.mp packed
  cases pack
  rw [recvmsg_ok received, sent.datagram_eq]
  exact (finished message built).arrives_iff

/-- Texts that do not fit the buffer by themselves are lost with the request they are in. -/
theorem FinishedBuffer.not_arrives {root : Bytes → Option Inner.Parcel} {buffer : Bytes}
    {message : Message} (finished : FinishedBuffer root buffer message.toParcel)
    (holds : message.textBytes ≤ buffer.length) (long : messageBufferSize < message.textBytes) :
    ¬Arrives root buffer (received messageBufferSize buffer).2 := fun arrives =>
  absurd (finished.arrives_iff.mp arrives) (by omega)

/-- A verifier that knows one buffer, whatever comes after it. -/
def rootOf (buffer : Bytes) (parcel : Inner.Parcel) (bytes : Bytes) : Option Inner.Parcel :=
  if buffer <+: bytes then some parcel else none

theorem rootOf_finished (buffer : Bytes) (parcel : Inner.Parcel) :
    FinishedBuffer (rootOf buffer parcel) buffer parcel := by
  refine ⟨if_pos (List.prefix_refl buffer), fun rest => ?_, fun n short _ => if_neg fun whole => ?_⟩
  · rw [rootOf, rootOf, if_pos (List.prefix_append buffer rest), if_pos (List.prefix_refl buffer)]
  · have := whole.length_le
    rw [List.length_take] at this
    omega

/-- A world with a library that knows one request, and a connection on the descriptor 3. -/
def requestWorld (request : Bytes) (message : Message) : World :=
  .boot { Env.calm with
    root := rootOf request message.toParcel
    finishedData := fun _ => request } (stdio ++ [(3, .socket 7 sockSeqpacket)])

theorem requestWorld_sends (request : Bytes) (message : Message) :
    HasSent request 3 none (requestWorld request message) request := ⟨[], rfl⟩

theorem requestWorld_receives (request : Bytes) (message : Message) :
    ∃ u', recvmsg messageBufferSize 3 (some request) (requestWorld request message) =
      (.ok (received messageBufferSize request), u') := ⟨_, recvmsg_some rfl rfl⟩

/-- A command with no option, for a mock process of the given name. -/
def spawnNamed (name : String) : MessageParser :=
  .spawn ⟨none, none, none, none, none, none, [], none⟩ (.mock name)

/-- Most of the options. -/
def appOptions : SpawnCommonParser :=
  ⟨none, some 10000, some 10000, some "org.app", some ⟨-2, by decide⟩, some ⟨5, by decide⟩,
    [3003, 9997], some "default"⟩

def appCommand : MessageParser := .spawn appOptions (.mock "app")

theorem MessageParser.request_arrives_app :
    Arrives (rootOf appSpawnData appSpawn.toParcel) appSpawnData
        (received messageBufferSize appSpawnData).2 ↔
      appSpawnData.length ≤ messageBufferSize := by
  obtain ⟨u', received⟩ := requestWorld_receives appSpawnData appSpawn
  refine @request_arrives_iff appCommand appSpawnData appSpawnData 3 3 none _
    (requestWorld appSpawnData appSpawn) _ u' rfl (fun message built => ?_)
    (requestWorld_sends appSpawnData appSpawn) received
  obtain rfl : appSpawn = message := Outcome.ok.inj built
  exact rootOf_finished appSpawnData appSpawn.toParcel

theorem textBytes_named (name : String) :
    (Message.spawn .unset (.mock name)).textBytes = name.utf8ByteSize := Nat.zero_add _

def longName : String := .ofList (List.replicate 2048 'a')

/-- The finished data of a `Spawn` message with no parameter set and that name. -/
def longSpawnData : List UInt8 :=
  [12, 0, 0, 0, 8, 0, 14, 0, 7, 0, 8, 0, 8, 0, 0, 0, 0, 0, 0, 5, 16, 0, 0, 0, 0, 0, 10, 0, 18, 0,
   8, 0, 7, 0, 12, 0, 10, 0, 0, 0, 0, 0, 0, 4, 64, 8, 0, 0, 12, 0, 0, 0, 0, 0, 6, 0, 8, 0, 4, 0,
   6, 0, 0, 0, 4, 0, 0, 0, 0, 8, 0, 0] ++ List.replicate 2048 97 ++
  [0, 0, 0, 0, 32, 0, 72, 0, 0, 0, 0, 0, 4, 0, 8, 0, 12, 0, 16, 0, 20, 0, 36, 0, 44, 0, 52, 0,
   60, 0, 24, 0, 28, 0, 32, 0, 32, 0, 0, 0, 255, 255, 255, 255, 255, 255, 255, 255, 80, 0, 0, 0,
   255, 255, 255, 127, 255, 255, 255, 127, 60, 0, 0, 0, 52, 0, 0, 0, 40, 0, 0, 0,
   255, 255, 255, 255, 255, 255, 255, 255, 255, 255, 255, 255, 255, 255, 255, 255,
   255, 255, 255, 255, 255, 255, 255, 255, 255, 255, 255, 255, 255, 255, 255, 255,
   0, 0, 0, 0, 0, 0, 0, 0, 0, 0, 0, 0, 0, 0, 0, 0, 0, 0, 0, 0, 0, 0, 0, 0, 0, 0, 0, 0, 0, 0, 0, 0]

theorem longSpawnData_length : longSpawnData.length = 2256 := by
  simp only [longSpawnData, List.length_append, List.length_replicate, List.length_cons,
    List.length_nil]

theorem longName_bytes : longName.utf8ByteSize = 2048 := by
  have letters : ∀ n, (String.ofList (List.replicate n 'a')).utf8ByteSize = n := by
    intro n
    induction n with
    | zero => rfl
    | succ n ih =>
        rw [List.replicate_succ, ← List.singleton_append, String.ofList_append,
          String.utf8ByteSize_append, ih]
        exact Nat.add_comm 1 n
  exact letters 2048

theorem MessageParser.request_not_arrives : ¬∀ (command : MessageParser) (request datagram : Bytes)
    (clientSocket clientFd : RawFd) (response : Option Bytes) (read : Nat × Bytes) (w u u' : World),
    command.tryToParcel w.env.finishedData = .ok request →
    (∀ message, command.toMessage = .ok message →
      FinishedBuffer w.env.root (w.env.finishedData message.toParcel) message.toParcel ∧
        message.textBytes ≤ (w.env.finishedData message.toParcel).length) →
    HasSent request clientSocket response w datagram →
    recvmsg messageBufferSize clientFd (some datagram) u = (.ok read, u') →
    Arrives w.env.root request read.2 := by
  intro claim
  have finished := rootOf_finished longSpawnData (Message.spawn .unset (.mock longName)).toParcel
  obtain ⟨u', received⟩ := requestWorld_receives longSpawnData (.spawn .unset (.mock longName))
  have arrives := claim (spawnNamed longName) longSpawnData longSpawnData 3 3 none _
    (requestWorld longSpawnData (.spawn .unset (.mock longName))) _ u' rfl (fun message built => ?_)
    (requestWorld_sends longSpawnData _) received
  · have fits := finished.arrives_iff.mp arrives
    rw [longSpawnData_length] at fits
    exact absurd fits (by decide)
  · cases built
    refine ⟨finished, ?_⟩
    change (Message.spawn .unset (.mock longName)).textBytes ≤ longSpawnData.length
    rw [textBytes_named, longName_bytes]
    exact longSpawnData_length.ge.trans' (by omega)

end Zygote
