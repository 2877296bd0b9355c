import Zygote.ChildProcess
import Zygote.Server.Data

/-!
# The server

`Server::new`, the handlers of the three kinds of event, the loop body of `serve`, and
the destructor, for a release build. Whether the process was spawned by `exec` is a
parameter where the code asks for it; one that was does not serve. Logging, the names of
the process and the callbacks that only inform the species are left out.
-/
namespace Zygote
open Effect Descriptors

namespace Server
open FileDescriptorRegistry (register registerNew audit onWorld overrideAndClose executeActions
  resetForSubspecies)

section socket

/-- A descriptor handed in by its number must be an open seqpacket socket. -/
def providedSocket (fd : RawFd) : Prog World ServerSocketError (RawFd × Option String) := do
  let world ← Prog.read
  if world.fds.isOpen fd then
    let stat ← (Prog.lift (world.fstat fd)).mapErr .fstat
    if getFileType stat = sIfsock then
      let socketType ← (Prog.lift (world.getSocketType fd)).mapErr .metadata
      if socketType = sockSeqpacket then
        (fcntlSetfl fd oNonblock).mapErr .metadata
        (listen fd).mapErr .listen
        pure (fd, none)
      else Prog.throw (.providedFdNotSeqPacket fd)
    else Prog.throw (.providedFdNotSocket fd)
  else Prog.throw (.providedFdNotOpenFile fd)

def boundSocket (socketPath : String) : Prog World ServerSocketError (RawFd × Option String) :=
  match socketPath.toList with
  | '@' :: name => do
      let fd ← (createAbstractSocket (String.ofList name) sockSeqpacket).mapErr .creation
      pure (fd, none)
  | path => do
      let world ← Prog.read
      if world.env.pathExists world.clock socketPath.toUTF8.data.toList then
        Prog.throw (.pathExists socketPath)
      else match Text.parent path with
        | none => Prog.throw (.pathHasNoParent socketPath)
        | some parent => do
            (createDirAll (String.ofList parent).toUTF8.data.toList).mapErr .directoryCreation
            let fd ← (createBoundSocket socketPath sockSeqpacket).mapErr .creation
            pure (fd, some socketPath)

def getServerSocket (socketPathOrFd : String) :
    Prog World ServerSocketError (RawFd × Option String) :=
  match Text.parseSigned 0x80000000 socketPathOrFd.toList with
  | some fd => providedSocket fd
  | none => do
      let (socketFd, serverSocketPath) ← boundSocket socketPathOrFd
      (fcntlSetfl socketFd oNonblock).mapErr .metadata
      (listen socketFd).mapErr .listen
      pure (socketFd, serverSocketPath)

end socket

section new

/-- The destructor. In the process the server was made for it closes what is registered
and removes the socket file; in a child, as which a process spawned by `exec` counts, it
executes the actions, and every error is fatal. It has no error to give back. -/
def drop (exec : Bool) : ServerM Empty Unit := do
  let process ← Prog.read
  if process.server.pid = process.world.pid ∧ exec = false then
    let _ ← (ServerM.registry overrideAndClose).result
    match process.server.serverSocketPath with
    | some path => do
        let _ ← (ServerM.sys (removeFile path.toUTF8.data.toList)).result
        pure ()
    | none => pure ()
  else
    (ServerM.registry (executeActions .application)).expect
      "Failed to execute file descriptor registry actions"
    (ServerM.sys sigprocmask).expect "Failed to unset signal mask"

/-- The epoll instance, the listening socket and its path, and the signalfd. -/
abbrev Opened := Option RawFd × Option RawFd × Option String × Option RawFd

/-- Open and register the server's own descriptors. A process that was spawned by `exec` has none. -/
def openDescriptors (exec : Bool) (config : Config.Server) :
    Prog (FileDescriptorRegistry × World) ServerError Opened :=
  if exec = true then do
    (onWorld sigprocmask).mapErr fun error => .signalHandlerFailure (.setMask error)
    pure (none, none, none, none)
  else do
    let epollHandle ← (onWorld epollCreate).mapErr .poll
    (register epollHandle .close).mapErr .fdRegistryFailure
    let (serverSocket, serverSocketPath) ←
      (onWorld (getServerSocket config.socket)).mapErr .serverSocketFailure
    (register serverSocket .close).mapErr .fdRegistryFailure
    (onWorld (epollAdd epollHandle serverSocket epollIn
      (EpollData.toU64 ⟨serverSocket, .server⟩))).mapErr .poll
    (onWorld sigprocmask).mapErr fun error => .signalHandlerFailure (.setMask error)
    let signalFd ← (onWorld signalfd).mapErr fun error => .signalHandlerFailure (.signalFd error)
    (register signalFd .closeUnlessSpawnSubspecies).mapErr .fdRegistryFailure
    (onWorld (epollAdd epollHandle signalFd epollIn (EpollData.toU64 ⟨signalFd, .signal⟩))).mapErr .poll
    pure (some epollHandle, some serverSocket, serverSocketPath, some signalFd)

def construct (exec : Bool) (config : Config.Server) :
    Prog (FileDescriptorRegistry × World) ServerError Server := do
  let (epollHandle, serverSocket, serverSocketPath, signalFd) ← openDescriptors exec config
  registerNew.mapErr .fdRegistryFailure
  let (registry, _) ← Prog.read
  (onWorld registry.audit).mapErr fun error => .fdRegistryFailure (.auditFailure error)
  let (_, world) ← Prog.read
  let spawnParams ← (Prog.lift config.toSpawnParams).expect "unreachable"
  pure {
    name := config.name
    species := config.species
    pid := world.pid
    registry
    epollHandle
    signalFd
    serverSocket
    clientSockets := .empty
    serverSocketPath
    preloadUid := config.preloadUid
    preloadGid := config.preloadGid
    spawnParams }

/-- Loading the libraries opens no descriptor. -/
def preload (server : Server) : Prog World ServerError Unit := do
  let context ← (EffectiveIdContext.enter server.preloadUid server.preloadGid).mapErr
    (.effectivePermissionsFailure server.preloadUid server.preloadGid)
  context.drop

def new (exec : Bool) (config : Config.Server) : Prog World ServerError Server := do
  let registry ← (FileDescriptorRegistry.new config.species).mapErr .fdRegistryFailure
  let server ← Prog.focus (fun world => (registry, world)) (fun s _ => s.2) (construct exec config)
  match ← (do setpgid.mapErr ServerError.processGroupFailure; server.preload).result with
  | .ok _ => pure server
  | .error error => do
      Prog.focus (fun world => (⟨server, world⟩ : Process)) (fun s _ => s.world)
        ((drop exec).mapErr Empty.elim)
      Prog.throw error

end new

section subspecies

/-- The pid is the last field to be brought up to date. -/
def tailor (childSocketPath : String) : ServerM ServerError Unit := do
  (ServerM.registry resetForSubspecies).mapErr .fdRegistryFailure
  let (childSocketFd, childSocketPath) ←
    (ServerM.sys (getServerSocket childSocketPath)).mapErr .serverSocketFailure
  (ServerM.registry (register childSocketFd .close)).mapErr .fdRegistryFailure
  ServerM.update fun server => { server with
    clientSockets := .empty
    serverSocket := some childSocketFd
    serverSocketPath := childSocketPath }
  let epollHandle ← (ServerM.sys epollCreate).mapErr .poll
  ServerM.update fun server => { server with epollHandle := some epollHandle }
  (ServerM.registry (register epollHandle .close)).mapErr .fdRegistryFailure
  let serverSocket ← ServerM.unwrap Server.serverSocket
  (ServerM.sys (epollAdd epollHandle serverSocket epollIn
    (EpollData.toU64 ⟨serverSocket, .server⟩))).mapErr .poll
  let signalFd ← ServerM.unwrap Server.signalFd
  (ServerM.sys (epollAdd epollHandle signalFd epollIn
    (EpollData.toU64 ⟨signalFd, .signal⟩))).mapErr .poll
  let process ← Prog.read
  ServerM.update fun server => { server with pid := process.world.pid }

/-- Tailor the server for the subspecies. The span of the function is on the record. -/
def reInitializeAsSubspecies (childSocketPath : String) : ServerM ServerError Unit := fun s =>
  match tailor childSocketPath s with
  | (.ok value, t) => (.ok value, { t with world := t.world.note (.reinitialized true) none })
  | (.err error, t) => (.err error, { t with world := t.world.note (.reinitialized false) none })
  | (.panic reason, t) => (.panic reason, t)

/-- `speciate` runs code of the species, which may leave files open. -/
def speciate {ε : Type} : ServerM ε Unit :=
  ServerM.sys fun w =>
    (.ok (), { w with
      clock := w.clock + 1
      fds := (w.env.speciated w.clock).foldl (fun fds f =>
        match fds.alloc f false with
        | some (_, fds) => fds
        | none => fds) w.fds })

end subspecies

section messages

def sendMessage (fd : RawFd) (message : Message) : Prog World Errno Unit := fun w =>
  sendmsg fd (w.env.finishedData message.toParcel) w

/-- What was decoded before is decoded again. -/
def verifiedMessage {ε : Type} (messageBuffer : Bytes) : ServerM ε Message := do
  let process ← Prog.read
  (Prog.lift (Message.tryFromParcel process.world.env.root messageBuffer)).expect
    "Verified message is now invalid"

/-- Shut down even if the acknowledgement cannot be sent. A handler that breaks off with an
error fails. -/
def handleMessageExit (fd : RawFd) : ServerM ClientError (LoopControl ServerControl) := do
  let _ ← (ServerM.sys (sendMessage fd .ackResponse)).result
  pure (.break .shutdown)

def handleMessageIdentityQuery (fd : RawFd) : ServerM ClientError (LoopControl ServerControl) := do
  let process ← Prog.read
  (ServerM.sys (sendMessage fd (.identityQueryResponse process.server.name
    process.server.species.name process.world.env.arch))).mapErr (.identityQueryResponse fd)
  pure .continue

/-- Fork; the child goes on with the continuation, the parent reports the pid to the client. A
process that was spawned by `exec` is its own child, and has no client. Merging the parameters
has no error of its own, it panics when they do not fit. -/
def handleSpawn (exec : Bool) (fd : Option RawFd) (messageBuffer : Bytes)
    (childContinuation : SpawnParamsCommon → ServerM ClientError ServerControl) :
    ServerM ClientError (LoopControl ServerControl) := do
  let message ← verifiedMessage messageBuffer
  let process ← Prog.read
  match message.getSpawnParams with
  | none => Prog.throw .missingSpawnParams
  | some params =>
    let spawnParams ← (Prog.lift (params.or process.server.spawnParams)).expect "unreachable"
    match ← (if exec = true then pure none else ServerM.sys fork).result with
    | .ok none => do
        Prog.forSome spawnParams.priorityInitial fun priority => do
          let _ ← (ServerM.sys (plainCall (.setpriority priority) ())).result
          pure ()
        let control ← childContinuation spawnParams
        pure (.break control)
    | .ok (some newPid) => do
        let client ← ServerM.unwrap fun _ => fd
        (ServerM.sys (sendMessage client (.spawnResponse (Int32.ofNat newPid)))).mapErr
          (.spawnResponse client)
        pure .continue
    | .error errno => do
        let client ← ServerM.unwrap fun _ => fd
        Prog.throw (.processCreationFailure client errno)

def handleMessageSpawn (exec : Bool) (fd : Option RawFd) (messageBuffer : Bytes) :
    ServerM ClientError (LoopControl ServerControl) :=
  handleSpawn exec fd messageBuffer fun spawnParams => pure (.trampoline ⟨spawnParams, messageBuffer⟩)

def becomeSubspecies (socketPath : String) (messageBuffer : Bytes)
    (spawnParams : SpawnParamsCommon) : ServerM ClientError ServerControl := do
  let message ← verifiedMessage messageBuffer
  match message.getSpawnPayload with
  | none => Prog.throw .missingSpawnPayload
  | some _ => do
      ServerM.sys (ChildProcess.reInitialize false spawnParams)
      speciate
      (reInitializeAsSubspecies socketPath).mapErr fun _ => .reinitialization
      pure .pollBreak

def handleMessageSpawnSubspecies (fd : RawFd) (socketPath : String) (messageBuffer : Bytes) :
    ServerM ClientError (LoopControl ServerControl) :=
  handleSpawn false (some fd) messageBuffer (becomeSubspecies socketPath messageBuffer)

def handleMessageStat (fd : RawFd) : ServerM ClientError (LoopControl ServerControl) := do
  let proc ← (ServerM.sys ProcStat.get).mapErr (.statRead fd)
  (ServerM.sys (sendMessage fd (.statResponse proc.pid proc.pgrp proc.minflt proc.cminflt
    proc.majflt proc.cmajflt proc.utime proc.stime proc.numThreads proc.vsize proc.rss))).mapErr
    (.statResponse fd)
  pure .continue

/-- A payload of another species and a message that is no request are ignored. -/
def dispatchMessage (fd : RawFd) (messageBuffer : Bytes) (species : Species) :
    Message → ServerM ClientError (LoopControl ServerControl)
  | .exit => handleMessageExit fd
  | .identityQuery => handleMessageIdentityQuery fd
  | .spawn _ payload =>
      if species.isSpawnPayloadType payload then handleMessageSpawn false (some fd) messageBuffer
      else pure .continue
  | .spawnSubspecies _ socketPath payload =>
      if species.isSpawnPayloadType payload then
        handleMessageSpawnSubspecies fd socketPath messageBuffer
      else pure .continue
  | .stat => handleMessageStat fd
  | _ => pure .continue

def dispatchMessageHandler (fd : RawFd) (messageBuffer : Bytes) :
    ServerM ClientError (LoopControl ServerControl) := do
  ServerM.sys fun w => (.ok (), w.did (.dispatched (w.fds.fileOf fd) messageBuffer))
  let process ← Prog.read
  match ← (Prog.lift (Message.tryFromParcel process.world.env.root messageBuffer)).result with
  | .ok message => dispatchMessage fd messageBuffer process.server.species message
  | .error _ => pure .continue

end messages

section events

def handleDatagram (clientFd : RawFd) (datagram : Nat × Bytes) :
    ServerM ClientError (LoopControl ServerControl) := do
  if datagram.1 = 0 then pure (.break .pollContinue)
  else
    let process ← Prog.read
    match ← (Prog.lift (Message.tryFromParcel process.world.env.root datagram.2)).result with
    | .ok _ => dispatchMessageHandler clientFd datagram.2
    | .error _ => pure (.break .pollContinue)

def handleClientEvents (clientFd : RawFd) : ServerM ClientError ServerControl := do
  let process ← Prog.read
  let clientEventStatus ← tryUntilWouldBlock ClientError.taskFailure
    (fun datagram => ServerM.sys (recvmsg messageBufferSize clientFd datagram))
    (handleDatagram clientFd) (process.world.env.inbox process.world.clock)
  match clientEventStatus with
  | .wouldBlock => pure .pollContinue
  | .early control => pure control

def pushClient {ε : Type} (fd : RawFd) : ServerM ε Unit := fun s =>
  match s.server.clientSockets.push fd with
  | some clientSockets => (.ok (), { s with server := { s.server with clientSockets } })
  | none => (.panic "push: capacity exceeded", s)

def handleConnection (newClientFd : RawFd) : ServerM ServerSocketError (LoopControl Unit) := do
  (ServerM.sys (fcntlSetfl newClientFd oNonblock)).mapErr .metadata
  let process ← Prog.read
  if process.server.clientSockets.length = bufferSizeClientSockets then do
    let _ ← (ServerM.sys (close newClientFd)).result
    Prog.throw .tooManyClients
  else do
    pushClient newClientFd
    (ServerM.registry (register newClientFd .close)).mapErr .clientRegistration
    let epollHandle ← ServerM.unwrap Server.epollHandle
    (ServerM.sys (epollAdd epollHandle newClientFd epollIn
      (EpollData.toU64 ⟨newClientFd, .client⟩))).mapErr .poll
    pure .continue

def handleServerEvents (serverFd : RawFd) : ServerM ServerSocketError ServerControl := do
  let process ← Prog.read
  let _ ← tryUntilWouldBlock ServerSocketError.taskFailure
    (fun connection => ServerM.sys (accept serverFd connection)) handleConnection
    (process.world.env.backlog process.world.clock)
  pure .pollContinue

def handleReaped (child : ChildInfo) : ServerM SignalHandlerError Unit :=
  match rawStatusFromSiginfo child with
  | .ok status => ServerM.sys fun w => (.ok (), w.did (.reported child.pid child.uid status))
  | .error error => Prog.throw (.processAccounting error)

def reapChildren : List ChildInfo → ServerM SignalHandlerError Unit
  | [] => do
      match ← (ServerM.sys (waitid none)).result with
      | .ok _ => pure ()
      | .error errno =>
          if errno = echild then pure () else Prog.throw (.processAccounting (.libc errno))
  | child :: rest => do
      match ← (ServerM.sys (waitid (some child))).result with
      | .ok none => pure ()
      | .ok (some child) => do
          handleReaped child
          reapChildren rest
      | .error errno =>
          if errno = echild then pure () else Prog.throw (.processAccounting (.libc errno))

/-- One signal. Another one than the three in the mask is never read. -/
def handleSiginfo (siginfo : Siginfo) : ServerM SignalHandlerError (LoopControl Nat) := do
  if siginfo.signo = sigchld then
    let process ← Prog.read
    reapChildren (process.world.env.zombies process.world.clock)
    pure .continue
  else if siginfo.signo = sigint then pure (.break sigint)
  else if siginfo.signo = sigterm then pure (.break sigterm)
  else Prog.panic "internal error: entered unreachable code: Unhandled signal received"

def handleSignalfdEvents (signalfd : RawFd) : ServerM SignalHandlerError ServerControl := do
  let process ← Prog.read
  let eventResult ← tryUntilWouldBlock SignalHandlerError.taskFailure
    (fun siginfo => ServerM.sys (readSignal signalfd siginfo)) handleSiginfo
    (process.world.env.signals process.world.clock)
  match eventResult with
  | .early _ => pure .shutdown
  | .wouldBlock => pure .pollContinue

/-- The steps are made in this order; the first that fails leaves the rest undone. -/
def removeClientSocket (fd : RawFd) : ServerM ClientError Unit := do
  (ServerM.registry (FileDescriptorRegistry.remove fd)).mapErr .registryUpdate
  let epollHandle ← ServerM.unwrap Server.epollHandle
  (ServerM.sys (epollDel epollHandle fd)).mapErr .poll
  let process ← Prog.read
  match process.server.clientSockets.toList.findIdx? (· == fd) with
  | none => Prog.throw (.invalidClientSocketFd fd)
  | some position => do
      ServerM.update fun server =>
        { server with clientSockets := server.clientSockets.removeAt position }
      (ServerM.sys (close fd)).mapErr (.close fd)

end events

section serve

def epollErrorMask : BitVec 32 := epollErr ||| epollPri

def eventData (event : EpollEvent) : Outcome ServerError EpollData :=
  if event.events &&& epollErrorMask ≠ 0 then do
    let data ← EpollData.tryFrom event.data
    .err (.epoll data (event.events &&& epollErrorMask))
  else EpollData.tryFrom event.data

def handleEvent (data : EpollData) : ServerM ServerError ServerControl :=
  match data.tag with
  | .client => (handleClientEvents data.fd).mapErr .clientFailure
  | .server => (handleServerEvents data.fd).mapErr .serverSocketFailure
  | .signal => (handleSignalfdEvents data.fd).mapErr .signalHandlerFailure

/-- A client that hung up is removed; nothing else can hang up. -/
def handleHangup (event : EpollEvent) (data : EpollData) : ServerM ServerError Unit :=
  if event.events &&& epollHup = epollHup then
    match data.tag with
    | .client => (removeClientSocket data.fd).mapErr .clientFailure
    | _ => Prog.panic "internal error: entered unreachable code: Listen sockets and signalfds can't hangup."
  else pure ()

def settle (event : EpollEvent) (data : EpollData) :
    Option (Except ServerError ServerControl) → ServerM ServerError (LoopControl ServerControl)
  | none | some (.ok .pollContinue) => do
      handleHangup event data
      pure .continue
  | some (.error (.clientFailure _)) => do
      (removeClientSocket data.fd).mapErr .clientFailure
      pure .continue
  | some (.error (.serverSocketFailure .tooManyClients)) => pure .continue
  | some (.error error) => Prog.throw error
  | some (.ok control) => pure (.break control)

def checkEvent (event : EpollEvent) : ServerM ServerError (LoopControl ServerControl) := do
  let data ← Prog.lift (eventData event)
  if event.events &&& epollIn = epollIn then
    let result ← (handleEvent data).result
    settle event data (some result)
  else settle event data none

def checkEpollEvents (events : List EpollEvent) : ServerM ServerError ServerControl := do
  match ← Prog.untilBreak checkEvent events with
  | some control => pure control
  | none => pure .pollBreak

def serveOnce : ServerM ServerError (LoopControl (Option Thunk)) := do
  let epollHandle ← ServerM.unwrap Server.epollHandle
  let events ← (ServerM.sys (epollWait epollHandle bufferSizeEpollEvents)).mapErr .poll
  match ← checkEpollEvents events with
  | .pollContinue | .pollBreak => pure .continue
  | .shutdown => pure (.break none)
  | .trampoline thunk => pure (.break (some thunk))

/-- The states of a process between the rounds of `serve`, from one that has just started. -/
inductive Rounds : Process → Prop
  | new {config : Config.Server} {w w' : World} {server : Server} (log : w.log = [])
      (trace : w.trace = []) (h : Server.new false config w = (.ok server, w')) : Rounds ⟨server, w'⟩
  | serve {s t : Process} (h : Rounds s) (round : serveOnce s = (.ok .continue, t)) : Rounds t

end serve
end Server
end Zygote
