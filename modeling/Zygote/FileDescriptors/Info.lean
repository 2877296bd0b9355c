import Zygote.Sys

/-!
# What is recorded about a descriptor

`FileDescriptorInfo::try_from` looks at an open descriptor through `fstat`, procfs,
`fcntl`, `lseek` and the socket name calls. It changes nothing.
-/
namespace Zygote
open Effect Descriptors

def bufferSizeStrings : Nat := 512

/-- The text in a zero-filled buffer; the filling is left out. -/
abbrev CStringBuffer := Bytes

/-- The text up to the first NUL. A buffer that is full has none. -/
def CStringBuffer.asCStr (buffer : CStringBuffer) : Option Bytes :=
  if (buffer.takeWhile (· != 0)).length < bufferSizeStrings then some (buffer.takeWhile (· != 0))
  else none

inductive ProcFsError where
  | inaccessibleFdDir (error : Errno)
  | inaccessibleProcStat (error : Errno)
  | invalidProcEntry
  | invalidProcSymlink (error : Errno)
  | unexpectedProcStatFormat (text : String)
  | utf8
  deriving DecidableEq, Repr

/-- Read file descriptor information from procfs into a buffer. -/
def getProcFdLinkInfo (w : World) (fd : RawFd) : Outcome ProcFsError CStringBuffer := do
  let link ← (w.readlink fd).mapErr .invalidProcSymlink
  .ok (link.take bufferSizeStrings)

inductive SocketAddress where
  | path (text : String)
  | abstract (text : String)
  deriving DecidableEq, Repr

def SocketAddress.toString : SocketAddress → String
  | .path text => text
  | .abstract text => "@" ++ text

inductive FileDescriptorInfoError where
  | descriptorFlagsFailure (error : Errno)
  | invalidCString
  | invalidSocketType (fd : RawFd)
  | nameBufferTooSmall (bufferSize nameSize : Nat)
  | peerNameFailure (fd : RawFd) (error : Errno)
  | procFs (error : ProcFsError)
  | statFailure (fd : RawFd) (error : Errno)
  | statusFlagsFailure (error : Errno)
  | unsupportedFileType (fd : RawFd) (fileType : Nat)
  | utf8
  deriving DecidableEq, Repr

/-- Information necessary to identify and perform actions for supported file types. -/
inductive FileDescriptorInfo where
  | boundSocket (address : SocketAddress)
  | connectedSocket (address : SocketAddress)
  | epollFd
  | fifo
  | file (dev inode : Nat) (path : CStringBuffer) (fdFlags fsFlagsOpen fsFlagsFcntl : Flags)
      (offset : Int)
  | signalFd
  deriving DecidableEq, Repr

/-- A regular file or a character device. -/
def OpenFile.IsFile (f : OpenFile) : Prop :=
  getFileType f.stat = sIfchr ∨ getFileType f.stat = sIfreg

namespace FileDescriptorInfo

def isFile : FileDescriptorInfo → Bool
  | .file .. => true
  | _ => false

def typeStr : FileDescriptorInfo → String
  | .boundSocket _ => "Bound Socket"
  | .connectedSocket _ => "Connected Socket"
  | .epollFd => "EPollFD"
  | .fifo => "FIFO"
  | .file .. => "File"
  | .signalFd => "SignalFD"

/-- The flags only `open` can set; the rest is restored with `fcntl`. -/
def fsFlagsOpenBitmask : Flags := oRdonly ||| oWronly ||| oRdwr ||| oDsync ||| oSync

def getFileInfo (w : World) (fd : RawFd) (stat : Stat) :
    Outcome FileDescriptorInfoError FileDescriptorInfo := do
  let linkPath ← (getProcFdLinkInfo w fd).mapErr .procFs
  let fdFlags ← (w.fcntlGetfd fd).mapErr .descriptorFlagsFailure
  let fsFlags ← (w.fcntlGetfl fd).mapErr .statusFlagsFailure
  -- a file without a position is recorded at offset 0
  let offset := match w.lseekCur fd with
    | .ok offset => offset
    | _ => 0
  .ok (.file stat.dev stat.ino linkPath fdFlags (fsFlags &&& fsFlagsOpenBitmask)
    (fsFlags &&& ~~~fsFlagsOpenBitmask) offset)

/-- An `ArrayString` of the buffer size, from bytes that must be UTF-8. -/
def arrayString (bytes : Bytes) (nameSize : Nat) : Outcome FileDescriptorInfoError String :=
  match String.fromUTF8? bytes.toByteArray with
  | none => .err .utf8
  | some text =>
      if bytes.length ≤ bufferSizeStrings then .ok text
      else .err (.nameBufferTooSmall bufferSizeStrings nameSize)

/-- The bytes before the only NUL, which must be the last byte. -/
def fromBytesWithNul (bytes : Bytes) : Outcome FileDescriptorInfoError Bytes :=
  if bytes.takeWhile (· != 0) ++ [0] = bytes then .ok (bytes.takeWhile (· != 0))
  else .err .invalidCString

def getSocketAddress : Bytes → Outcome FileDescriptorInfoError SocketAddress
  | 0 :: text => .abstract <$> arrayString text text.length
  | text => do
      let bytes ← fromBytesWithNul text
      .path <$> arrayString bytes text.length

def sunPathSize : Nat := 108

/-- `&addr.sun_path.as_bytes()[..path_len]`: the kernel may report more than fits. -/
def sunBytes (path : Bytes) : Outcome FileDescriptorInfoError Bytes :=
  if path.length ≤ sunPathSize then .ok path
  else .panic "range end index out of range for slice of length 108"

def getSocketInfo (w : World) (fd : RawFd) :
    Outcome FileDescriptorInfoError FileDescriptorInfo := do
  match ← (w.getsockname fd).mapErr (.peerNameFailure fd) with
  | some path => .boundSocket <$> (sunBytes path >>= getSocketAddress)
  | none =>
      let peer ← (w.getpeername fd).mapErr (.peerNameFailure fd)
      let path ← Outcome.ofOption (.invalidSocketType fd) peer
      .connectedSocket <$> (sunBytes path >>= getSocketAddress)

def tryFrom (w : World) (fd : RawFd) : Outcome FileDescriptorInfoError FileDescriptorInfo := do
  let stat ← (w.fstat fd).mapErr (.statFailure fd)
  if getFileType stat = sIfifo then .ok .fifo
  else if getFileType stat = sIfchr ∨ getFileType stat = sIfreg then getFileInfo w fd stat
  else if getFileType stat = sIfsock then getSocketInfo w fd
  else
    let procMetadataBuffer ← (getProcFdLinkInfo w fd).mapErr .procFs
    let procMetadata ← Outcome.ofOption .invalidCString procMetadataBuffer.asCStr
    if procMetadata = procMetadataSignalfd then .ok .signalFd
    else if procMetadata = procMetadataEpollfd then .ok .epollFd
    else .err (.unsupportedFileType fd (getFileType stat))

/-- With no query refused, the info is a function of the slot and the file it refers to. -/
theorem tryFrom_congr {v w : World} (fd : RawFd) (quietV : ∀ q, v.env.queryFault v.clock q = none)
    (quietW : ∀ q, w.env.queryFault w.clock q = none) (slot : v.fds.slot fd = w.fds.slot fd)
    (file : ∀ s, w.fds.slot fd = some s → v.fds.file s.file = w.fds.file s.file) :
    tryFrom v fd = tryFrom w fd := by
  have contents : v.fds.contents fd = w.fds.contents fd := by
    unfold Table.contents
    rw [slot]
    cases hs : w.fds.slot fd with
    | none => rfl
    | some s => simp [file s hs]
  have query : ∀ {α : Type} (q : Query) (r : OpenFile → Outcome Errno α),
      v.query q fd r = w.query q fd r := by
    intro α q r
    simp only [World.query, contents, quietV, quietW]
  simp only [tryFrom, getFileInfo, getSocketInfo, getProcFdLinkInfo, World.fstat, World.readlink,
    World.fcntlGetfd, World.fcntlGetfl, World.lseekCur, World.getsockname, World.getpeername,
    query, slot]

/-- What is recorded about an open file or character device. -/
def ofFile (f : OpenFile) (cloexec : Bool) : FileDescriptorInfo :=
  .file f.stat.dev f.stat.ino (f.link.take bufferSizeStrings) (if cloexec then fdCloexec else 0)
    (f.status &&& fsFlagsOpenBitmask) (f.status &&& ~~~fsFlagsOpenBitmask)
    (if f.seek = .refuses then 0 else f.offset)

theorem tryFrom_file {w : World} {fd : RawFd} {s : Slot} {f : OpenFile} (quiet : w.env.Quiet)
    (slot : w.fds.slot fd = some s) (contents : w.fds.file s.file = f) (file : f.IsFile) :
    tryFrom w fd = .ok (ofFile f s.cloexec) := by
  have hf : w.fds.contents fd = some f := by simp [Table.contents, slot, contents]
  have query : ∀ {α : Type} (q : Query) (r : OpenFile → Outcome Errno α), w.query q fd r = r f := by
    intro α q r
    simp only [World.query, hf, quiet.queryFault]
  have notFifo : getFileType f.stat ≠ sIfifo := by
    rcases file with h | h <;> rw [h] <;> decide
  simp only [tryFrom, World.fstat, query, Outcome.mapErr, Outcome.bind_ok, if_neg notFifo,
    if_pos (show getFileType f.stat = sIfchr ∨ getFileType f.stat = sIfreg from file),
    getFileInfo, getProcFdLinkInfo, World.readlink, World.fcntlGetfd, World.fcntlGetfl,
    World.lseekCur, slot, Option.any_some, ofFile]
  by_cases seek : f.seek = .refuses <;> simp [seek]

end FileDescriptorInfo
end Zygote
