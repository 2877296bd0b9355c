import Zygote.FileDescriptors.Registry
import Zygote.Procfs

/-!
# The data of the server

The words stored in the epoll interest set, the errors of the server, and the process
that runs it: the server structure and the kernel around it.
-/
namespace Zygote
open Effect Descriptors

def bufferSizeClientSockets : Nat := 16
def bufferSizeEpollEvents : Nat := 32

inductive EpollTag where
  | client
  | server
  | signal
  deriving DecidableEq, Repr

def EpollTag.code : EpollTag → Nat
  | .client => 0
  | .server => 1
  | .signal => 2

structure EpollData where
  fd : RawFd
  tag : EpollTag
  deriving DecidableEq, Repr

inductive SignalHandlerError where
  | poll (error : Errno)
  | processAccounting (error : WaitError)
  | read (error : Errno)
  | setMask (error : Errno)
  | sigSet (error : Errno)
  | signalFd (error : Errno)
  deriving DecidableEq, Repr

def SignalHandlerError.taskFailure : Errno → SignalHandlerError := .read

/-- Dropped connections are reported without the credentials of the peer. -/
inductive ServerSocketError where
  | accept (error : Errno)
  | clientRegistration (error : FdRegistryError)
  | creation (error : Errno)
  | directoryCreation (error : Errno)
  | fstat (error : Errno)
  | listen (error : Errno)
  | metadata (error : Errno)
  | pathExists (path : String)
  | pathHasNoParent (path : String)
  | poll (error : Errno)
  | providedFdNotOpenFile (fd : RawFd)
  | providedFdNotSeqPacket (fd : RawFd)
  | providedFdNotSocket (fd : RawFd)
  | tooManyClients
  deriving DecidableEq, Repr

def ServerSocketError.taskFailure : Errno → ServerSocketError := .accept

inductive ClientError where
  | close (fd : RawFd) (error : Errno)
  | identityQueryResponse (fd : RawFd) (error : Errno)
  | invalidClientSocketFd (fd : RawFd)
  | missingSpawnParams
  | missingSpawnPayload
  | poll (error : Errno)
  | processCreationFailure (fd : RawFd) (error : Errno)
  | read (error : Errno)
  | registryUpdate (error : FdRegistryError)
  | reinitialization
  | spawnResponse (fd : RawFd) (error : Errno)
  | statRead (fd : RawFd) (error : ProcFsError)
  | statResponse (fd : RawFd) (error : Errno)
  deriving DecidableEq, Repr

def ClientError.taskFailure : Errno → ClientError := .read

inductive ServerError where
  | clientFailure (error : ClientError)
  | effectivePermissionsFailure (uid gid : Option UInt32) (error : Errno)
  | epoll (data : EpollData) (flags : BitVec 32)
  | fdRegistryFailure (error : FdRegistryError)
  | invalidEpollData (value : BitVec 64)
  | poll (error : Errno)
  | processGroupFailure (error : Errno)
  | serverSocketFailure (error : ServerSocketError)
  | signalHandlerFailure (error : SignalHandlerError)
  deriving DecidableEq, Repr

namespace EpollData

/-- The descriptor in the low half, zero-extended, and the tag above it. -/
def toU64 (data : EpollData) : BitVec 64 :=
  (BitVec.ofInt 32 data.fd).setWidth 64 ||| BitVec.ofNat 64 data.tag.code <<< 32

/-- The tag is read from the low byte of the high half. -/
def tryFrom (value : BitVec 64) : Outcome ServerError EpollData :=
  let fd := (value.setWidth 32).toInt
  match ((value >>> 32).setWidth 8).toInt with
  | 0 => .ok ⟨fd, .client⟩
  | 1 => .ok ⟨fd, .server⟩
  | 2 => .ok ⟨fd, .signal⟩
  | _ => .err (.invalidEpollData value)

end EpollData

/-- What an application child runs once the server is dropped. -/
structure Thunk where
  spawnParams : SpawnParamsCommon
  spawnMessage : Bytes
  deriving DecidableEq

inductive ServerControl where
  | pollBreak
  | pollContinue
  | shutdown
  | trampoline (thunk : Thunk)
  deriving DecidableEq

structure Server where
  name : String
  species : Species
  pid : Nat
  registry : FileDescriptorRegistry
  epollHandle : Option RawFd
  signalFd : Option RawFd
  serverSocket : Option RawFd
  clientSockets : ArrayVec RawFd bufferSizeClientSockets
  serverSocketPath : Option String
  preloadUid : Option UInt32
  preloadGid : Option UInt32
  spawnParams : SpawnParamsCommon

/-- A process that runs a server. -/
structure Process where
  server : Server
  world : World

abbrev ServerM := Prog Process

namespace ServerM
variable {ε α : Type}

/-- A call of the process. -/
def sys (p : Prog World ε α) : ServerM ε α :=
  Prog.focus Process.world (fun world s => { s with world }) p

/-- An operation on the registry of the server. -/
def registry (p : RegistryM α) : ServerM FdRegistryError α :=
  Prog.focus (fun s => (s.server.registry, s.world))
    (fun r s => { s with server := { s.server with registry := r.1 }, world := r.2 }) p

def update (f : Server → Server) : ServerM ε Unit :=
  Prog.modify fun s => { s with server := f s.server }

/-- `unwrap` of a field that is `None` only when exec spawning is used. -/
def unwrap (field : Server → Option α) : ServerM ε α := fun s =>
  match field s.server with
  | some a => (.ok a, s)
  | none => (.panic "called `Option::unwrap()` on a `None` value", s)

/-- Of what is there nothing has to be asked. -/
@[simp] theorem unwrap_bind_some {β : Type} (a : α) (f : α → ServerM ε β) :
    (unwrap fun _ => some a) >>= f = f a :=
  rfl

/-- A call changes the world of the process only. -/
theorem sys_eq {p : Prog World ε α} {s t : Process} {o : Outcome ε α} :
    sys p s = (o, t) ↔ p s.world = (o, t.world) ∧ t.server = s.server := by
  constructor
  · intro h
    cases h
    exact ⟨rfl, rfl⟩
  · rintro ⟨run, server⟩
    obtain ⟨server', world'⟩ := t
    cases server
    simp only [sys, Prog.focus, run]

end ServerM
end Zygote
