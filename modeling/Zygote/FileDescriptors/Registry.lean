import Zygote.Ascending
import Zygote.ArrayVec
import Zygote.Species

/-!
# The file descriptor registry

The registry is a bounded table of entries, searched by bisection. A registry
operation reads and writes the registry and the world, and a call that fails keeps
what it changed before it failed. Debug assertions are left out.
-/
namespace Zygote
open Effect Descriptors Ascending

def dynamicAllowListSize : Nat := 64
def registrySize : Nat := 128

def devNullPath : Bytes := "/dev/null".toUTF8.data.toList
def devUrandomPath : Bytes := "/dev/urandom".toUTF8.data.toList

/-- File paths used by the Zygote that are allowed to be registered. -/
def allowedFilePaths : List Bytes := [devNullPath, devUrandomPath]
def allowedSocketPaths : List String := []
def allowedPeerSocketPaths : List String := []

inductive AuditError where
  | fileDescriptorAbsent (fd : RawFd) (info : FileDescriptorInfo)
  | fileDescriptorInfoFailure (error : FileDescriptorInfoError)
  | fileDescriptorUnexpected (fd : RawFd) (info : FileDescriptorInfo)
  | procFs (error : ProcFsError)
  | registryOrderMismatch (expected actual : RawFd)
  | registryStateMismatch (fd : RawFd) (expected actual : FileDescriptorInfo)
  deriving DecidableEq, Repr

inductive FdRegistryError where
  | auditFailure (error : AuditError)
  | devNullFailure (error : Errno)
  | entryActionFailure (error : FileDescriptorEntryError)
  | fdInfoFailure (error : FileDescriptorInfoError)
  | invalidActionForFileType (fd : RawFd) (typeStr : String) (action : Action)
  | invalidCString
  | procFs (error : ProcFsError)
  | reregisteredFd (fd : RawFd)
  | unregisteredBoundSocket (fd : RawFd) (address : String)
  | unregisteredConnectedSocket (fd : RawFd) (address : String)
  | unregisteredFifoFd (fd : RawFd)
  | unregisteredFile (fd : RawFd) (path : Bytes)
  | unregisteredSignalFd (fd : RawFd)
  | unregisteredFd (fd : RawFd)
  | utf8
  deriving DecidableEq, Repr

abbrev Entries := ArrayVec FileDescriptorEntry registrySize
abbrev AllowList := ArrayVec String dynamicAllowListSize

structure FileDescriptorRegistry where
  species : Species
  data : Entries
  allowedFilePaths : AllowList
  allowedSocketNames : AllowList
  allowedSocketPaths : AllowList
  allowedPeerSocketPaths : AllowList

/-- An operation on the registry of a process. -/
abbrev RegistryM := Prog (FileDescriptorRegistry × World) FdRegistryError

namespace FileDescriptorRegistry

def withData (registry : FileDescriptorRegistry) (data : Entries) : FileDescriptorRegistry :=
  { registry with data }

/-- The numbers of the table, in its order. -/
def fds (data : Entries) : List RawFd := data.toList.map FileDescriptorEntry.fd

section allowLists
variable (registry : FileDescriptorRegistry)

def boundAbstractSocketIsAllowed (name : String) : Bool :=
  registry.allowedSocketNames.toList.contains name ||
    registry.species.boundAbstractSocketIsAllowed name

def boundSocketPathIsAllowed (path : String) : Bool :=
  Zygote.allowedSocketPaths.contains path || registry.allowedSocketPaths.toList.contains path ||
    registry.species.boundSocketPathIsAllowed path

def peerSocketPathIsAllowed (path : String) : Bool :=
  Zygote.allowedPeerSocketPaths.contains path ||
    registry.allowedPeerSocketPaths.toList.contains path ||
    registry.species.peerSocketPathIsAllowed path

def fileIsAllowed (path : Bytes) : Outcome FdRegistryError Bool :=
  match String.fromUTF8? path.toByteArray with
  | none => .err .utf8
  | some pathStr =>
      .ok (Zygote.allowedFilePaths.contains path ||
        registry.allowedFilePaths.toList.contains pathStr || registry.species.fileIsAllowed path)

/-- The action under which `register_new` admits an unregistered descriptor, or why it
refuses it. -/
def defaultAction (fd : RawFd) : FileDescriptorInfo → Outcome FdRegistryError Action
  | .boundSocket (.abstract name) =>
      if registry.boundAbstractSocketIsAllowed name then .ok .dupeNull
      else .err (.unregisteredBoundSocket fd (SocketAddress.abstract name).toString)
  | .boundSocket (.path path) =>
      if registry.boundSocketPathIsAllowed path then .ok .dupeNull
      else .err (.unregisteredBoundSocket fd (SocketAddress.path path).toString)
  | .connectedSocket (.path path) =>
      if registry.peerSocketPathIsAllowed path then
        .ok ((registry.species.getPeerSocketAction path).getD .dupeNull)
      else .err (.unregisteredConnectedSocket fd (SocketAddress.path path).toString)
  | .connectedSocket address => .err (.unregisteredConnectedSocket fd address.toString)
  | .epollFd => .err (.unregisteredFd fd)
  | .fifo => .err (.unregisteredFifoFd fd)
  | .file _ _ path _ _ _ _ =>
      match path.asCStr with
      | none => .err .invalidCString
      | some pathCStr => do
          if ← registry.fileIsAllowed pathCStr then
            .ok ((registry.species.getFileAction pathCStr).getD .reopen)
          else .err (.unregisteredFile fd pathCStr)
  | .signalFd => .err (.unregisteredSignalFd fd)

end allowLists

section register

/-- The info of a descriptor, with the registry's errors. -/
def infoOf (world : World) (fd : RawFd) : Outcome FdRegistryError FileDescriptorInfo :=
  (FileDescriptorInfo.tryFrom world fd).mapErr .fdInfoFailure

/-- The table after `register`. A closed entry is replaced in place; only a new one is
checked against the `Reopen` action. -/
def registerData (world : World) (data : Entries) (fd : RawFd) (action : Action) :
    Outcome FdRegistryError Entries :=
  match binarySearch FileDescriptorEntry.fd fd data.toList with
  | .ok entryIndex =>
      match data.toList[entryIndex]? with
      | none => .panic "index out of bounds"
      | some entry =>
          if entry.closed then do
            let info ← infoOf world fd
            .ok (data.set entryIndex (.new fd info action))
          else .err (.reregisteredFd fd)
  | .error insertIndex => do
      let info ← infoOf world fd
      if action = .reopen ∧ info.isFile = false then
        .err (.invalidActionForFileType fd info.typeStr action)
      else
        match data.insert insertIndex (.new fd info action) with
        | some data => .ok data
        | none => .panic "insert: capacity exceeded"

def register (fd : RawFd) (action : Action) : RegistryM Unit := fun (registry, world) =>
  match registerData world registry.data fd action with
  | .ok data => (.ok (), registry.withData data, world)
  | .err error => (.err error, registry, world)
  | .panic reason => (.panic reason, registry, world)

/-- The table without the entry the search finds, live or closed. -/
def removeData (data : Entries) (fd : RawFd) : Outcome FdRegistryError Entries :=
  match binarySearch FileDescriptorEntry.fd fd data.toList with
  | .ok index => .ok (data.removeAt index)
  | .error _ => .err (.unregisteredFd fd)

def remove (fd : RawFd) : RegistryM Unit := fun (registry, world) =>
  match removeData registry.data fd with
  | .ok data => (.ok (), registry.withData data, world)
  | .err error => (.err error, registry, world)
  | .panic reason => (.panic reason, registry, world)

/-- Construct a registry that holds the standard descriptors. -/
def new (species : Species) : Prog World FdRegistryError FileDescriptorRegistry := fun world =>
  let empty : FileDescriptorRegistry := ⟨species, .empty, .empty, .empty, .empty, .empty⟩
  let build : RegistryM Unit := do
    register 0 .ignore
    register 1 .ignore
    register 2 .ignore
  match build (empty, world) with
  | (.ok _, registry, world) => (.ok registry, world)
  | (.err error, _, world) => (.err error, world)
  | (.panic reason, _, world) => (.panic reason, world)

end register

section registerNew

/-- Advance through the entries from `index_state` on: is the number among them? An
entry counts whether or not it is closed. -/
def isRegistered (fd : RawFd) : List FileDescriptorEntry → Bool × List FileDescriptorEntry
  | [] => (false, [])
  | entry :: rest =>
      if entry.fd < fd then isRegistered fd rest
      else if entry.fd = fd then (true, rest)
      else (false, entry :: rest)

/-- The entry for an unregistered descriptor. -/
def entryFor (registry : FileDescriptorRegistry) (world : World) (fd : RawFd) :
    Outcome FdRegistryError FileDescriptorEntry := do
  let info ← infoOf world fd
  let action ← registry.defaultAction fd info
  .ok (.new fd info action)

/-- The loop of `register_new` over the listed descriptors: new entries are pushed
behind the others. The allow lists are those of `registry`. -/
def registerEach (registry : FileDescriptorRegistry) (world : World) : List RawFd →
    List FileDescriptorEntry → Entries → Outcome FdRegistryError Unit × Entries
  | [], _, data => (.ok (), data)
  | fd :: rest, preexisting, data =>
      match isRegistered fd preexisting with
      | (true, preexisting) => registerEach registry world rest preexisting data
      | (false, preexisting) =>
        match entryFor registry world fd with
        | .ok entry =>
          match data.push entry with
          | some data => registerEach registry world rest preexisting data
          | none => (.panic "push: capacity exceeded", data)
        | .err error => (.err error, data)
        | .panic reason => (.panic reason, data)

/-- `sort_by_key(|entry| entry.fd)`, which is stable. -/
def sortData (data : Entries) : Entries :=
  ⟨data.toList.insertionSort fun a b => a.fd ≤ b.fd, by
    rw [List.length_insertionSort]; exact data.fits⟩

/-- Register the open descriptors that have no entry. The order is restored only when
the loop ends without an error. -/
def registerNew : RegistryM Unit := fun (registry, world) =>
  if Sorted FileDescriptorEntry.fd registry.data.toList then
    match procFdIterator world with
    | (.ok listing, world) =>
      match registerEach registry world listing registry.data.toList registry.data with
      | (.ok _, data) =>
          (.ok (),
            registry.withData
              (if data.length ≠ registry.data.length then sortData data else data),
            world)
      | (.err error, data) => (.err error, registry.withData data, world)
      | (.panic reason, data) => (.panic reason, registry.withData data, world)
    | (.err error, world) => (.err (.procFs (.inaccessibleFdDir error)), registry, world)
    | (.panic reason, world) => (.panic reason, registry, world)
  else
    (.panic "assertion failed: self.data.is_sorted_by_key(|entry| entry.fd)", registry, world)

end registerNew

section audit

/-- The live entries and the listing are walked together to the end of the longer. -/
def auditEach (world : World) : List FileDescriptorEntry → List RawFd → Outcome AuditError Unit
  | [], [] => .ok ()
  | entry :: entries, openFd :: rest =>
      if entry.fd = openFd then do
        let current ← (FileDescriptorInfo.tryFrom world openFd).mapErr .fileDescriptorInfoFailure
        if entry.info = current then auditEach world entries rest
        else .err (.registryStateMismatch entry.fd entry.info current)
      else .err (.registryOrderMismatch entry.fd openFd)
  | entry :: _, [] => .err (.fileDescriptorAbsent entry.fd entry.info)
  | [], openFd :: _ => do
      let info ← (FileDescriptorInfo.tryFrom world openFd).mapErr .fileDescriptorInfoFailure
      .err (.fileDescriptorUnexpected openFd info)

/-- Compare the entries that are not closed with the open descriptors. -/
def audit (registry : FileDescriptorRegistry) : Prog World AuditError Unit := do
  let listing ← procFdIterator.mapErr fun error => .procFs (.inaccessibleFdDir error)
  let world ← Prog.read
  Prog.lift (auditEach world (registry.data.toList.filter fun entry => !entry.closed) listing)

end audit

section actions

/-- Run a program on every entry in place. The table keeps its length. -/
def eachEntry (body : Prog (FileDescriptorEntry × World) FileDescriptorEntryError Unit) :
    RegistryM Unit := fun (registry, world) =>
  let after := Prog.eachMut body registry.data.toList world
  (after.1.mapErr .entryActionFailure,
    registry.withData ⟨after.2.1, by
      rw [Prog.eachMut_length]; exact registry.data.fits⟩,
    after.2.2)

/-- Raise a program of the world alone. -/
def onWorld {ε α : Type} (p : Prog World ε α) : Prog (FileDescriptorRegistry × World) ε α :=
  Prog.focus Prod.snd (fun world s => (s.1, world)) p

/-- Close those of the numbers that are open. -/
def closeOpen : List RawFd → World → World
  | [], world => world
  | fd :: rest, world => closeOpen rest (if world.fds.isOpen fd then (close fd world).2 else world)

/-- `sync_fd_state` is code of the species, which may close what a library of its has open. -/
def syncFdState : RegistryM Unit :=
  onWorld fun world => (.ok (), closeOpen (world.env.synced world.clock) world)

/-- Perform the actions after a fork. -/
def executeActions (forkType : ForkType) : RegistryM Unit := do
  let devNullFd ← onWorld ((openFd devNullPath (oRdwr ||| oCloexec)).mapErr .devNullFailure)
  eachEntry do
    let _ ← FileDescriptorEntry.execute devNullFd forkType
    pure ()
  syncFdState

/-- Close every descriptor that is not ignored; the first failure ends it. -/
def overrideAndClose : RegistryM Unit := do
  eachEntry fun (entry, world) =>
    ((entry.overrideAndClose world).1, entry, (entry.overrideAndClose world).2)
  syncFdState

/-- Reset the registry after spawning a subspecies process. The log line of the source, which may
open the log again, is left out. -/
def resetForSubspecies : RegistryM Unit := do
  executeActions .subspecies
  registerNew
  let (registry, _) ← Prog.read
  onWorld (registry.audit.mapErr .auditFailure)

end actions
end FileDescriptorRegistry
end Zygote
