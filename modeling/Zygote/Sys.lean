import Mathlib.Tactic.Common
import Zygote.Credentials
import Zygote.Effect
import Zygote.Descriptors
import Zygote.Messages.Inner
import Zygote.Wait

/-!
# The kernel as one process sees it

A `World` is the process that is being followed: its descriptor table, the epoll
interest sets, its pid and credentials, a record of the calls it made and a trace of what
came of them. What the kernel decides freely (which calls fail, what a path names, what
arrives on a socket) is read from an `Env` by the clock, which every effectful call
advances. After a fork the world goes on as the parent or as the child, as the environment
says.
-/
namespace Zygote
open Effect Descriptors

abbrev RawFd := Int
abbrev Errno := Nat
abbrev Bytes := List UInt8
/-- A `c_int` used as a flag word. -/
abbrev Flags := BitVec 32

section constants
def eperm : Errno := 1
def enoent : Errno := 2
def ebadf : Errno := 9
def echild : Errno := 10
def eagain : Errno := 11
def eexist : Errno := 17
def einval : Errno := 22
def emfile : Errno := 24
def espipe : Errno := 29
def enotsock : Errno := 88
def eopnotsupp : Errno := 95
def enotconn : Errno := 107

def sIfmt : Nat := 0xF000
def sIfifo : Nat := 0x1000
def sIfchr : Nat := 0x2000
def sIfreg : Nat := 0x8000
def sIfsock : Nat := 0xC000

def oRdonly : Flags := 0
def oWronly : Flags := 1
def oRdwr : Flags := 2
def oNonblock : Flags := 0x800
def oDsync : Flags := 0x1000
def oLargefile : Flags := 0x8000
def oCloexec : Flags := 0x80000
def oSync : Flags := 0x101000
/-- `O_CREAT`, `O_EXCL`, `O_NOCTTY` and `O_TRUNC`: consumed by `open`, never reported. -/
def creationFlags : Flags := 0x3C0
/-- The status flags `F_SETFL` can change. -/
def setflMask : Flags := 0x46C00
def fdCloexec : Flags := 1

def afUnix : Nat := 1
def sockStream : Nat := 1
def sockSeqpacket : Nat := 5

def epollIn : BitVec 32 := 0x001
def epollPri : BitVec 32 := 0x002
def epollErr : BitVec 32 := 0x008
def epollHup : BitVec 32 := 0x010

def sigint : Nat := 2
def sigterm : Nat := 15
end constants

structure Stat where
  mode : Nat
  dev : Nat
  ino : Nat
  deriving DecidableEq, Repr

/-- Select the file-type bits from the mode. -/
def getFileType (stat : Stat) : Nat := stat.mode &&& sIfmt

/-- A reported socket address: the family and the bytes that follow it. -/
structure SockAddr where
  family : Nat
  path : Bytes
  deriving DecidableEq, Repr

def SockAddr.unnamed : SockAddr := ⟨afUnix, []⟩

/-- An address whose length covers the family alone, or of another family, is none. -/
def SockAddr.named (address : SockAddr) : Option Bytes :=
  if address.path = [] ∨ address.family ≠ afUnix then none else some address.path

/-- How a file answers `lseek`: it moves, it stays where it is, or it has no position. -/
inductive Seek where
  | moves
  | stays
  | refuses
  deriving DecidableEq, Repr

/-- An open file description. -/
structure OpenFile where
  stat : Stat
  link : Bytes
  name : SockAddr := .unnamed
  peer : Option SockAddr := none
  sockType : Nat := 0
  status : Flags := 0
  seek : Seek := .refuses
  offset : Int := 0
  deriving DecidableEq, Repr

/-- The link texts procfs shows for kernel objects without a path. -/
def procMetadataEpollfd : Bytes := "anon_inode:[eventpoll]".toUTF8.data.toList
def procMetadataSignalfd : Bytes := "anon_inode:[signalfd]".toUTF8.data.toList

/-- Anonymous inodes have no file-type bits. -/
def OpenFile.epoll : OpenFile where
  stat := ⟨0x180, 0, 0⟩
  link := procMetadataEpollfd

def OpenFile.signal : OpenFile where
  stat := ⟨0x180, 0, 0⟩
  link := procMetadataSignalfd
  status := oNonblock

/-- A character device opened by its path. -/
def OpenFile.device (path : String) (ino : Nat) (accessMode : Flags) : OpenFile where
  stat := ⟨sIfchr, 5, ino⟩
  link := path.toUTF8.data.toList
  status := accessMode ||| oLargefile
  seek := .stays

def OpenFile.null : OpenFile := .device "/dev/null" 3 oRdwr
def OpenFile.urandom : OpenFile := .device "/dev/urandom" 9 oRdonly

def OpenFile.pipe : OpenFile where
  stat := ⟨sIfifo, 14, 7⟩
  link := "pipe:[7]".toUTF8.data.toList

def OpenFile.isEpoll (f : OpenFile) : Bool := f.link == procMetadataEpollfd

structure EpollEvent where
  events : BitVec 32
  data : BitVec 64
  deriving DecidableEq, Repr

/-- The effectful calls. -/
inductive Call where
  | open (path : Bytes) (flags : Flags)
  | opendir
  | close (fd : RawFd)
  | dup3 (oldFd newFd : RawFd) (flags : Flags)
  | fcntlSetfd (fd : RawFd) (flags : Flags)
  | fcntlSetfl (fd : RawFd) (flags : Flags)
  | lseek (fd : RawFd) (offset : Int)
  | socket
  | bind (fd : RawFd) (address : SockAddr)
  | listen (fd : RawFd)
  | accept (fd : RawFd)
  | epollCreate
  | epollAdd (epfd fd : RawFd)
  | epollDel (epfd fd : RawFd)
  | epollWait (epfd : RawFd)
  | signalfd
  | readSignal (fd : RawFd)
  | waitid
  | recvmsg (fd : RawFd)
  | sendmsg (fd : RawFd) (bytes : Bytes)
  | fork
  | setpgid
  | sigprocmask
  | createDirAll (path : Bytes)
  | removeFile (path : Bytes)
  | procStat
  | setpriority (priority : Int32)
  | setreuid (real effective : Credentials.Id)
  | setregid (real effective : Credentials.Id)
  | setresuid (real effective saved : Credentials.Id)
  | setresgid (real effective saved : Credentials.Id)
  | setgroups (groups : List Credentials.Id)
  | setrlimit (limit : Inner.RLimitData)
  | prctlSetSecurebits
  | capset (effective permitted inheritable : Credentials.CapSet)
  | capWithinBound (cap : Nat)
  | capDropBound (cap : Nat)
  /-- Not a call: a callback of the species. -/
  | reInitializePrologue
  | setSeccompFilters
  | reInitializeEpilogue
  /-- Not a call: the span of `re_initialize_as_subspecies` and whether it ended well. -/
  | reinitialized (ok : Bool)
  deriving DecidableEq, Repr

/-- The descriptor a call acts on: for `epoll_ctl` the epoll instance. -/
def Call.target : Call → Option RawFd
  | .close fd | .fcntlSetfd fd _ | .fcntlSetfl fd _ | .lseek fd _ | .bind fd _ | .listen fd
  | .accept fd | .epollWait fd | .readSignal fd | .recvmsg fd | .sendmsg fd _ => some fd
  | .dup3 oldFd _ _ => some oldFd
  | .epollAdd epfd _ | .epollDel epfd _ => some epfd
  | _ => none

/-- The calls that only look: what they report is computed from the table. -/
inductive Query where
  | procSelfFd
  | fstat (fd : RawFd)
  | readlink (fd : RawFd)
  | fcntlGetfd (fd : RawFd)
  | fcntlGetfl (fd : RawFd)
  | lseekCur (fd : RawFd)
  | getsockname (fd : RawFd)
  | getpeername (fd : RawFd)
  | socketType (fd : RawFd)
  deriving DecidableEq, Repr

inductive ForkAnswer where
  | failed (errno : Errno)
  | parent (newPid : Nat)
  | child (newPid : Nat)
  deriving DecidableEq, Repr

structure Siginfo where
  signo : Nat
  pid : Nat
  deriving DecidableEq, Repr

/-- The kernel's free choices, by the clock. The three supplies (`backlog`, `inbox`,
`signals`) are what one loop reads before the first answer that would block. `fault`
is the error a call ends with after the retries for `EINTR`. -/
structure Env where
  fault : Nat → Call → Option Errno
  queryFault : Nat → Query → Option Errno
  /-- A `close` that reports an error has released the descriptor all the same. -/
  closeReleases : Bool
  resolve : Nat → Bytes → Except Errno OpenFile
  pathExists : Nat → Bytes → Bool
  ready : Nat → List EpollEvent
  backlog : Nat → List OpenFile
  inbox : Nat → List Bytes
  signals : Nat → List Siginfo
  zombies : Nat → List ChildInfo
  fork : Nat → ForkAnswer
  /-- The files species code leaves open when it turns the process into a subspecies. -/
  speciated : Nat → List OpenFile
  /-- The numbers species code closes to bring its libraries in line with the table. -/
  synced : Nat → List RawFd
  /-- Why a callback of the species panics. -/
  hookPanics : Nat → Call → Option String
  procStat : Nat → Bytes
  arch : String
  /-- The FlatBuffers verifier and builder. -/
  root : Bytes → Option Inner.Parcel
  finishedData : Inner.Parcel → Bytes

/-- Nothing fails, nothing arrives, and only the two devices have a path. -/
def Env.calm : Env where
  fault _ _ := none
  queryFault _ _ := none
  closeReleases := true
  resolve _ path :=
    if path = OpenFile.null.link then .ok .null
    else if path = OpenFile.urandom.link then .ok .urandom
    else .error enoent
  pathExists _ _ := false
  ready _ := []
  backlog _ := []
  inbox _ := []
  signals _ := []
  zombies _ := []
  fork _ := .failed eagain
  speciated _ := []
  synced _ := []
  hookPanics _ _ := none
  procStat _ := []
  arch := "x86_64"
  root _ := none
  finishedData _ := []

/-- One member of an epoll interest set. -/
structure Watch where
  fd : RawFd
  file : Nat
  events : BitVec 32
  data : BitVec 64
  deriving DecidableEq, Repr

/-- One call in the record: who made it, the description it acted on, how many
descriptions there were before it, and the descriptor it returned. -/
structure Event where
  pid : Nat
  call : Call
  on : Option Nat
  known : Nat
  made : Option RawFd := none
  deriving DecidableEq, Repr

/-- What a process has brought about. A connection is named by its description. -/
inductive Deed where
  | bound (address : SockAddr)
  | received (connection : Option Nat) (bytes : Bytes)
  | dispatched (connection : Option Nat) (bytes : Bytes)
  | sent (connection : Option Nat) (bytes : Bytes)
  | forked (child : Nat)
  | reported (pid : Nat) (uid : UInt32) (status : BitVec 32)
  deriving DecidableEq, Repr

/-- The part of the kernel state the calls on descriptors change. -/
structure Tables where
  fds : Table OpenFile
  /-- The interest set of each epoll instance. -/
  watches : Nat → List Watch

structure World extends Tables where
  pid : Nat
  task : Credentials.Task
  clock : Nat
  log : List Event
  trace : List (Nat × Deed)
  env : Env

/-- A process that has just started with the given descriptors open. -/
def World.boot (env : Env) (opened : List (RawFd × OpenFile)) : World where
  fds := opened.foldl (fun t p => t.put p.1 p.2 false) (.empty 64 .epoll)
  watches _ := []
  pid := 100
  task := .root
  clock := 0
  log := []
  trace := []
  env

/-- The standard descriptors, all on the null device. -/
def stdio : List (RawFd × OpenFile) := [(0, .null), (1, .null), (2, .null)]

namespace World
variable {α : Type}

/-- Put a call on the record and let the clock tick. -/
def note (w : World) (call : Call) (made : Option RawFd) : World :=
  { w with
    clock := w.clock + 1
    log := ⟨w.pid, call, call.target.bind w.fds.fileOf, w.fds.next, made⟩ :: w.log }

/-- Put a deed on the trace. -/
def did (w : World) (deed : Deed) : World := { w with trace := (w.pid, deed) :: w.trace }

@[simp] theorem note_toTables (w : World) (c : Call) (m : Option RawFd) :
    (w.note c m).toTables = w.toTables := rfl
@[simp] theorem note_pid (w : World) (c : Call) (m : Option RawFd) : (w.note c m).pid = w.pid := rfl
@[simp] theorem note_task (w : World) (c : Call) (m : Option RawFd) :
    (w.note c m).task = w.task := rfl
@[simp] theorem note_env (w : World) (c : Call) (m : Option RawFd) : (w.note c m).env = w.env := rfl
@[simp] theorem note_clock (w : World) (c : Call) (m : Option RawFd) :
    (w.note c m).clock = w.clock + 1 := rfl

def query (w : World) (q : Query) (fd : RawFd) (report : OpenFile → Outcome Errno α) :
    Outcome Errno α :=
  match w.fds.contents fd with
  | none => .err ebadf
  | some f =>
    match w.env.queryFault w.clock q with
    | some errno => .err errno
    | none => report f

def fstat (w : World) (fd : RawFd) : Outcome Errno Stat :=
  w.query (.fstat fd) fd fun f => .ok f.stat

/-- `readlink` on `/proc/self/fd/N`. -/
def readlink (w : World) (fd : RawFd) : Outcome Errno Bytes :=
  w.query (.readlink fd) fd fun f => .ok f.link

def fcntlGetfd (w : World) (fd : RawFd) : Outcome Errno Flags :=
  w.query (.fcntlGetfd fd) fd fun _ =>
    .ok (if (w.fds.slot fd).any Slot.cloexec then fdCloexec else 0)

def fcntlGetfl (w : World) (fd : RawFd) : Outcome Errno Flags :=
  w.query (.fcntlGetfl fd) fd fun f => .ok f.status

/-- `lseek64(fd, 0, SEEK_CUR)` -/
def lseekCur (w : World) (fd : RawFd) : Outcome Errno Int :=
  w.query (.lseekCur fd) fd fun f => if f.seek = .refuses then .err espipe else .ok f.offset

def getsockname (w : World) (fd : RawFd) : Outcome Errno (Option Bytes) :=
  w.query (.getsockname fd) fd fun f => .ok (SockAddr.named f.name)

def getpeername (w : World) (fd : RawFd) : Outcome Errno (Option Bytes) :=
  w.query (.getpeername fd) fd fun f =>
    match f.peer with
    | none => .err enotconn
    | some peer => .ok (SockAddr.named peer)

def getSocketType (w : World) (fd : RawFd) : Outcome Errno Nat :=
  w.query (.socketType fd) fd fun f => .ok f.sockType

end World

/-- All that was put on the record between two worlds are calls of a kind. -/
def World.Calls (kind : Call → Prop) (w w' : World) : Prop :=
  ∃ newer, w'.log = newer ++ w.log ∧ ∀ event ∈ newer, kind event.call

namespace World.Calls
variable {kind : Call → Prop} {u v w : World}

theorem refl (w : World) : w.Calls kind w := ⟨[], rfl, List.forall_mem_nil _⟩

theorem trans (h : u.Calls kind v) (k : v.Calls kind w) : u.Calls kind w := by
  obtain ⟨early, h, before⟩ := h
  obtain ⟨late, k, after⟩ := k
  exact ⟨late ++ early, by rw [k, h, List.append_assoc],
    List.forall_mem_append.mpr ⟨after, before⟩⟩

/-- Both parts of a composite make calls of the kind. -/
theorem bind {ε α β : Type} {p : Prog World ε α} {f : α → Prog World ε β}
    (first : Prog.Within (World.Calls kind) p) (rest : ∀ a, Prog.Within (World.Calls kind) (f a)) :
    Prog.Within (World.Calls kind) (p >>= f) := Prog.Within.bind trans first rest

theorem note {call : Call} {made : Option RawFd} (h : kind call) : w.Calls kind (w.note call made) :=
  ⟨[_], rfl, List.forall_mem_singleton.mpr h⟩

/-- What follows a program takes nothing off its record. -/
theorem after {ε α β : Type} {p : Prog World ε α} {f : α → Prog World ε β}
    (rest : ∀ a, Prog.Within (World.Calls kind) (f a)) {event : Event}
    (h : event ∈ (p w).2.log) : event ∈ ((p >>= f) w).2.log := by
  rw [Prog.bind_apply]
  split
  · next a v run =>
    obtain ⟨newer, split, -⟩ := rest a v
    rw [run] at h
    rw [split]
    exact List.mem_append_right _ h
  · next e v run => rwa [run] at h
  · next m v run => rwa [run] at h

end World.Calls

/-- What one process does between two worlds: it puts calls and deeds of a kind on its record
and stays the process it is. -/
structure World.Does (calls : Call → Prop) (deeds : Deed → Prop) (w w' : World) : Prop where
  env : w'.env = w.env
  pid : w'.pid = w.pid
  log : ∃ newer, w'.log = newer ++ w.log ∧ ∀ event ∈ newer, event.pid = w.pid ∧ calls event.call
  trace : ∃ newer, w'.trace = newer ++ w.trace ∧ ∀ done ∈ newer, done.1 = w.pid ∧ deeds done.2

namespace World.Does
variable {calls : Call → Prop} {deeds : Deed → Prop} {u v w : World}

theorem refl (w : World) : w.Does calls deeds w :=
  ⟨rfl, rfl, ⟨[], rfl, List.forall_mem_nil _⟩, ⟨[], rfl, List.forall_mem_nil _⟩⟩

theorem trans (h : u.Does calls deeds v) (k : v.Does calls deeds w) : u.Does calls deeds w := by
  obtain ⟨early, h₁, before⟩ := h.log
  obtain ⟨late, k₁, after⟩ := k.log
  obtain ⟨earlyDeeds, h₂, beforeDeeds⟩ := h.trace
  obtain ⟨lateDeeds, k₂, afterDeeds⟩ := k.trace
  rw [h.pid] at after afterDeeds
  refine ⟨k.env.trans h.env, k.pid.trans h.pid, ⟨late ++ early, ?_, ?_⟩,
    ⟨lateDeeds ++ earlyDeeds, ?_, ?_⟩⟩
  · rw [k₁, h₁, List.append_assoc]
  · exact List.forall_mem_append.mpr ⟨after, before⟩
  · rw [k₂, h₂, List.append_assoc]
  · exact List.forall_mem_append.mpr ⟨afterDeeds, beforeDeeds⟩

/-- Both parts of a composite keep to the kinds. -/
theorem bind {ε α β : Type} {p : Prog World ε α} {f : α → Prog World ε β}
    (first : Prog.Within (World.Does calls deeds) p)
    (rest : ∀ a, Prog.Within (World.Does calls deeds) (f a)) :
    Prog.Within (World.Does calls deeds) (p >>= f) := Prog.Within.bind trans first rest

theorem mono {more : Call → Prop} {others : Deed → Prop} (h : w.Does calls deeds v)
    (less : ∀ call, calls call → more call) (fewer : ∀ deed, deeds deed → others deed) :
    w.Does more others v := by
  obtain ⟨newer, split, all⟩ := h.log
  obtain ⟨done, splitDeeds, allDeeds⟩ := h.trace
  exact ⟨h.env, h.pid, ⟨newer, split, fun event mem => ⟨(all event mem).1, less _ (all event mem).2⟩⟩,
    ⟨done, splitDeeds, fun d mem => ⟨(allDeeds d mem).1, fewer _ (allDeeds d mem).2⟩⟩⟩

/-- A world that differs by one call on the record, and by what the call changed. -/
theorem call {call : Call} {made : Option RawFd} (h : calls call)
    (log : w.log = (v.note call made).log) (env : w.env = v.env) (pid : w.pid = v.pid)
    (trace : w.trace = v.trace) : v.Does calls deeds w :=
  ⟨env, pid, ⟨[_], log, List.forall_mem_singleton.mpr ⟨rfl, h⟩⟩, ⟨[], trace, List.forall_mem_nil _⟩⟩

theorem did {deed : Deed} (h : deeds deed) : w.Does calls deeds (w.did deed) :=
  ⟨rfl, rfl, ⟨[], rfl, List.forall_mem_nil _⟩, ⟨[_], rfl, List.forall_mem_singleton.mpr ⟨rfl, h⟩⟩⟩

theorem toCalls (h : v.Does calls deeds w) : v.Calls calls w := by
  obtain ⟨newer, split, all⟩ := h.log
  exact ⟨newer, split, fun event mem => (all event mem).2⟩

/-- What was on the trace stays there. -/
theorem mem_trace (h : v.Does calls deeds w) {done : Nat × Deed} (mem : done ∈ v.trace) :
    done ∈ w.trace := by
  obtain ⟨newer, split, -⟩ := h.trace
  exact split ▸ List.mem_append_right _ mem

theorem mem_log (h : v.Does calls deeds w) {event : Event} (mem : event ∈ v.log) :
    event ∈ w.log := by
  obtain ⟨newer, split, -⟩ := h.log
  exact split ▸ List.mem_append_right _ mem

end World.Does

namespace World
variable {u v w : World}

/-- A process that goes on as itself or as a child, whose pid was on no record. -/
structure Ages (w v : World) : Prop where
  env : v.env = w.env
  log : ∃ newer, v.log = newer ++ w.log
  pid : v.pid = w.pid ∨ v.pid ≠ w.pid ∧ (∀ event ∈ w.log, event.pid ≠ v.pid) ∧
    ∃ event ∈ v.log, event.pid = w.pid

theorem Does.ages {calls : Call → Prop} {deeds : Deed → Prop} (does : w.Does calls deeds v) :
    w.Ages v := by
  obtain ⟨newer, split, -⟩ := does.log
  exact ⟨does.env, ⟨newer, split⟩, Or.inl does.pid⟩

namespace Ages

theorem refl (w : World) : w.Ages w := ⟨rfl, ⟨[], rfl⟩, Or.inl rfl⟩

theorem mem_log (h : w.Ages v) {event : Event} (mem : event ∈ w.log) : event ∈ v.log := by
  obtain ⟨newer, split⟩ := h.log
  exact split ▸ List.mem_append_right _ mem

theorem trans (h : u.Ages v) (k : v.Ages w) : u.Ages w := by
  obtain ⟨early, first⟩ := h.log
  obtain ⟨late, second⟩ := k.log
  refine ⟨k.env.trans h.env, ⟨late ++ early, by rw [second, first, List.append_assoc]⟩, ?_⟩
  rcases h.pid with same | ⟨apart, fresh, event, mem, left⟩
  · rcases k.pid with same' | ⟨apart', fresh', event', mem', left'⟩
    · exact Or.inl (same'.trans same)
    · refine Or.inr ⟨same ▸ apart', fun event mem => fresh' event (h.mem_log mem), event', mem', ?_⟩
      exact left'.trans same
  · refine Or.inr ?_
    rcases k.pid with same' | ⟨apart', fresh', -⟩
    · rw [same']
      exact ⟨apart, fresh, event, k.mem_log mem, left⟩
    · refine ⟨fun back => fresh' event mem (left.trans back.symm), fun e m => fresh' e (h.mem_log m), ?_⟩
      exact ⟨event, k.mem_log mem, left⟩

theorem did (w : World) (deed : Deed) : w.Ages (w.did deed) := ⟨rfl, ⟨[], rfl⟩, .inl rfl⟩

/-- A pid on the record is not that of a later process. -/
theorem fresh (h : w.Ages v) {pid : Nat} (apart : pid ≠ w.pid)
    (known : ∃ event ∈ w.log, event.pid = pid) : pid ≠ v.pid := by
  obtain ⟨event, mem, rfl⟩ := known
  rcases h.pid with same | ⟨-, fresh, -⟩
  · rwa [same]
  · exact fresh event mem

end Ages

end World

/-- No call fails of its own accord. -/
structure Env.Quiet (env : Env) : Prop where
  fault : ∀ n call, env.fault n call = none
  queryFault : ∀ n query, env.queryFault n query = none

theorem Env.calm_quiet : Env.calm.Quiet := ⟨fun _ _ => rfl, fun _ _ => rfl⟩

/-- The parts of the world no call on the descriptor table changes. -/
structure World.Beside (w w' : World) : Prop where
  limit : w'.fds.limit = w.fds.limit
  watches : w'.watches = w.watches
  pid : w'.pid = w.pid
  env : w'.env = w.env

theorem World.Beside.trans {u v w : World} (h : u.Beside v) (k : v.Beside w) : u.Beside w :=
  ⟨k.limit.trans h.limit, k.watches.trans h.watches, k.pid.trans h.pid, k.env.trans h.env⟩

/-- What a call leaves alone: the tables but for the touched numbers, the interest sets,
the process and its environment. -/
structure World.Frame (w w' : World) (touched : RawFd → Prop) : Prop where
  fds : w.fds.Frame w'.fds touched
  watches : w'.watches = w.watches
  pid : w'.pid = w.pid
  env : w'.env = w.env

namespace World.Frame
variable {u v w : World} {touched more : RawFd → Prop}

theorem refl (w : World) (touched : RawFd → Prop) : w.Frame w touched :=
  ⟨.refl _ _, rfl, rfl, rfl⟩

theorem trans (h : u.Frame v touched) (k : v.Frame w touched) : u.Frame w touched :=
  ⟨h.fds.trans k.fds, k.watches.trans h.watches, k.pid.trans h.pid, k.env.trans h.env⟩

theorem beside (h : u.Frame v touched) : u.Beside v := ⟨h.fds.limit, h.watches, h.pid, h.env⟩

theorem mono (h : u.Frame v touched) (sub : ∀ n, touched n → more n) : u.Frame v more :=
  ⟨h.fds.mono sub, h.watches, h.pid, h.env⟩

end World.Frame

section calls
variable {α : Type}

/-- Make a call that fails when the environment says so and else acts on the tables. -/
def attempt (call : Call) (act : World → Except Errno (α × Option RawFd × Tables)) :
    Prog World Errno α := fun w =>
  match w.env.fault w.clock call with
  | some errno => (.err errno, w.note call none)
  | none =>
    match act w with
    | .error errno => (.err errno, w.note call none)
    | .ok (value, made, tables) => (.ok value, { w.note call made with toTables := tables })

theorem attempt_ok_iff {call : Call} {act : World → Except Errno (α × Option RawFd × Tables)}
    {w w' : World} {a : α} : attempt call act w = (.ok a, w') ↔
      w.env.fault w.clock call = none ∧ ∃ made tables, act w = .ok (a, made, tables) ∧
        w' = { w.note call made with toTables := tables } := by
  unfold attempt
  constructor
  · intro h
    split at h
    · cases h
    · next fault =>
      split at h
      · cases h
      · next b made tables hact => cases h; exact ⟨fault, made, tables, hact, rfl⟩
  · rintro ⟨fault, made, tables, hact, rfl⟩
    simp only [fault, hact]

/-- A call that fails changes nothing but the record. -/
theorem attempt_err {call : Call} {act : World → Except Errno (α × Option RawFd × Tables)}
    {w w' : World} {e : Errno} (h : attempt call act w = (.err e, w')) :
    w' = w.note call none ∧
      (w.env.fault w.clock call = some e ∨ w.env.fault w.clock call = none ∧ act w = .error e) := by
  unfold attempt at h
  split at h
  · next fault => cases h; exact ⟨rfl, Or.inl fault⟩
  · next fault =>
    split at h
    · next hact => cases h; exact ⟨rfl, Or.inr ⟨fault, hact⟩⟩
    · cases h

/-- Every call takes one tick. -/
theorem attempt_clock {call : Call} {act : World → Except Errno (α × Option RawFd × Tables)}
    {w w' : World} {o : Outcome Errno α} (h : attempt call act w = (o, w')) :
    w'.clock = w.clock + 1 := by
  unfold attempt at h
  split at h
  · cases h; rfl
  · split at h
    · cases h; rfl
    · cases h; rfl

theorem attempt_not_panic {call : Call} {act : World → Except Errno (α × Option RawFd × Tables)}
    {w : World} : (attempt call act w).1.isPanic = false := by
  unfold attempt
  split
  · rfl
  · split <;> rfl

/-- A call by itself changes neither the process nor its trace. -/
theorem attempt_frame {call : Call} {act : World → Except Errno (α × Option RawFd × Tables)}
    {w w' : World} {o : Outcome Errno α} (h : attempt call act w = (o, w')) :
    w'.env = w.env ∧ w'.pid = w.pid ∧ w'.trace = w.trace := by
  unfold attempt at h
  split at h
  · cases h; exact ⟨rfl, rfl, rfl⟩
  · split at h
    · cases h; exact ⟨rfl, rfl, rfl⟩
    · cases h; exact ⟨rfl, rfl, rfl⟩

theorem attempt_does {calls : Call → Prop} {deeds : Deed → Prop} {call : Call}
    {act : World → Except Errno (α × Option RawFd × Tables)} (h : calls call) :
    Prog.Within (World.Does calls deeds) (attempt call act) := by
  intro w
  unfold attempt
  split
  · exact .call h rfl rfl rfl rfl
  · split
    · exact .call h rfl rfl rfl rfl
    · exact .call h rfl rfl rfl rfl

/-- A call on an open descriptor that changes only the descriptor table. -/
def onOpen (call : Call) (fd : RawFd) (act : OpenFile → Table OpenFile → Except Errno (Table OpenFile)) :
    Prog World Errno Unit :=
  attempt call fun w =>
    match w.fds.contents fd with
    | none => .error ebadf
    | some f =>
      match act f w.fds with
      | .error errno => .error errno
      | .ok fds => .ok ((), none, { w.toTables with fds })

/-- A call that makes a new file and takes the lowest free number for it. -/
def makeFd (call : Call) (cloexec : Bool) (file : World → Except Errno OpenFile) :
    Prog World Errno RawFd :=
  attempt call fun w =>
    match file w with
    | .error errno => .error errno
    | .ok f =>
      match w.fds.alloc f cloexec with
      | none => .error emfile
      | some (fd, fds) => .ok (fd, some fd, { w.toTables with fds })

theorem onOpen_ok_iff {call : Call} {fd : RawFd}
    {act : OpenFile → Table OpenFile → Except Errno (Table OpenFile)} {w w' : World} :
    onOpen call fd act w = (.ok (), w') ↔
      w.env.fault w.clock call = none ∧ ∃ f t, w.fds.contents fd = some f ∧ act f w.fds = .ok t ∧
        w' = { w.note call none with fds := t } := by
  unfold onOpen
  rw [attempt_ok_iff]
  refine and_congr_right fun _ => ?_
  constructor
  · rintro ⟨made, tables, hact, rfl⟩
    split at hact
    · cases hact
    · next f hf =>
      split at hact
      · cases hact
      · next t ht => cases hact; exact ⟨f, t, hf, ht, rfl⟩
  · rintro ⟨f, t, hf, ht, rfl⟩
    exact ⟨none, { w.toTables with fds := t }, by simp only [hf, ht], rfl⟩

theorem makeFd_ok_iff {call : Call} {cloexec : Bool} {file : World → Except Errno OpenFile}
    {w w' : World} {fd : RawFd} : makeFd call cloexec file w = (.ok fd, w') ↔
      w.env.fault w.clock call = none ∧ ∃ f t, file w = .ok f ∧
        w.fds.alloc f cloexec = some (fd, t) ∧ w' = { w.note call (some fd) with fds := t } := by
  unfold makeFd
  rw [attempt_ok_iff]
  refine and_congr_right fun _ => ?_
  constructor
  · rintro ⟨made, tables, hact, rfl⟩
    split at hact
    · cases hact
    · next f hf =>
      split at hact
      · cases hact
      · next n t ht => cases hact; exact ⟨f, t, hf, ht, rfl⟩
  · rintro ⟨f, t, hf, ht, rfl⟩
    exact ⟨some fd, { w.toTables with fds := t }, by simp only [hf, ht], rfl⟩

/-- The status flags of a description opened with `flags`. -/
def openStatus (flags : Flags) : Flags :=
  (flags &&& ~~~(creationFlags ||| oCloexec)) ||| oLargefile

/-- `open`, without a mode: no caller creates a file. -/
def openFd (path : Bytes) (flags : Flags) : Prog World Errno RawFd :=
  makeFd (.open path flags) (flags &&& oCloexec != 0) fun w =>
    match w.env.resolve w.clock path with
    | .error errno => .error errno
    | .ok f => .ok { f with status := openStatus flags, offset := 0 }

/-- A number that is not open cannot be closed; one that is open is released even by a
close that reports an error, where the kernel does that. -/
def close (fd : RawFd) : Prog World Errno Unit := fun w =>
  if w.fds.isOpen fd then
    match w.env.fault w.clock (.close fd) with
    | none => (.ok (), { w.note (.close fd) none with fds := w.fds.close fd })
    | some errno =>
        (.err errno,
          if w.env.closeReleases then { w.note (.close fd) none with fds := w.fds.close fd }
          else w.note (.close fd) none)
  else (.err ebadf, w.note (.close fd) none)

theorem close_ok_iff {fd : RawFd} {w w' : World} : close fd w = (.ok (), w') ↔
    w.fds.isOpen fd = true ∧ w.env.fault w.clock (.close fd) = none ∧
      w' = { w.note (.close fd) none with fds := w.fds.close fd } := by
  unfold close
  constructor
  · intro h
    split at h
    · next opened =>
      split at h
      · next faultless => cases h; exact ⟨opened, faultless, rfl⟩
      · cases h
    · cases h
  · rintro ⟨opened, faultless, rfl⟩
    simp only [opened, faultless, if_true]

theorem close_not_panic {fd : RawFd} {w : World} : (close fd w).1.isPanic = false := by
  unfold close
  split
  · split <;> rfl
  · rfl

/-- Whatever comes of it, a close is one call on the record. -/
theorem close_log (fd : RawFd) (w : World) :
    (close fd w).2.log = (w.note (.close fd) none).log := by
  unfold close
  split
  · split
    · rfl
    · split <;> rfl
  · rfl

theorem close_does {calls : Call → Prop} {deeds : Deed → Prop} {fd : RawFd}
    (h : calls (.close fd)) : Prog.Within (World.Does calls deeds) (close fd) := by
  intro w
  refine @World.Does.call calls deeds w _ (.close fd) none h (close_log fd w) ?_ ?_ ?_
  all_goals
    unfold close
    split
    · split
      · rfl
      · split <;> rfl
    · rfl

def dup3 (oldFd newFd : RawFd) (flags : Flags) : Prog World Errno Unit :=
  onOpen (.dup3 oldFd newFd flags) oldFd fun _ fds =>
    if oldFd = newFd then .error einval
    else match fds.dup oldFd newFd (flags &&& oCloexec != 0) with
      | none => .error ebadf
      | some fds => .ok fds

def fcntlSetfd (fd : RawFd) (flags : Flags) : Prog World Errno Unit :=
  onOpen (.fcntlSetfd fd flags) fd fun _ fds => .ok (fds.setCloexec fd (flags &&& fdCloexec != 0))

/-- The status flags after `F_SETFL`: only those of the mask change. -/
def setflStatus (flags old : Flags) : Flags := (flags &&& setflMask) ||| (old &&& ~~~setflMask)

def fcntlSetfl (fd : RawFd) (flags : Flags) : Prog World Errno Unit :=
  onOpen (.fcntlSetfl fd flags) fd fun _ fds =>
    .ok (fds.update fd fun f => { f with status := setflStatus flags f.status })

/-- `lseek64(fd, offset, SEEK_SET)` -/
def lseekSet (fd : RawFd) (offset : Int) : Prog World Errno Unit :=
  onOpen (.lseek fd offset) fd fun f fds =>
    match f.seek with
    | .refuses => .error espipe
    | .stays => .ok fds
    | .moves =>
        if offset < 0 then .error einval else .ok (fds.update fd fun f => { f with offset })

/-- Iterate over `/proc/self/fd`. The directory's own descriptor takes the lowest free
number, is skipped, and is closed with the iterator; the names are numbers, so every
item parses. -/
def procFdIterator : Prog World Errno (List RawFd) := fun w =>
  if (w.env.queryFault w.clock .procSelfFd).isSome then
    (.panic "assertion failed: Path::new(PROC_SELF_FD_DIR_STR).exists()", w)
  else
    attempt .opendir (fun w =>
      if w.fds.lowestFree.isSome then .ok (w.fds.numbers, none, w.toTables) else .error emfile) w

theorem openFd_ok_iff {path : Bytes} {flags : Flags} {w w' : World} {fd : RawFd} :
    openFd path flags w = (.ok fd, w') ↔ w.env.fault w.clock (.open path flags) = none ∧
      ∃ f t, w.env.resolve w.clock path = .ok f ∧
        w.fds.alloc { f with status := openStatus flags, offset := 0 } (flags &&& oCloexec != 0) =
          some (fd, t) ∧
        w' = { w.note (.open path flags) (some fd) with fds := t } := by
  unfold openFd
  rw [makeFd_ok_iff]
  refine and_congr_right fun _ => ?_
  cases w.env.resolve w.clock path with
  | error errno => simp
  | ok f => simp

theorem openFd_effect {path : Bytes} {flags : Flags} {w w' : World} {fd : RawFd}
    (h : openFd path flags w = (.ok fd, w')) :
    w.Beside w' ∧ ∃ f, w.env.resolve w.clock path = .ok f ∧ w.fds.lowestFree = some fd ∧
      w.fds.slot fd = none ∧ w'.fds.next = w.fds.next + 1 ∧
      (∀ n, w'.fds.slot n =
        if n = fd then some ⟨w.fds.next, flags &&& oCloexec != 0⟩ else w.fds.slot n) ∧
      ∀ i, w'.fds.file i = if i = w.fds.next then { f with status := openStatus flags, offset := 0 }
        else w.fds.file i := by
  obtain ⟨-, f, t, hf, halloc, rfl⟩ := openFd_ok_iff.mp h
  obtain ⟨lowest, free, next, limit, slot, file⟩ := Table.alloc_eq_some halloc
  exact ⟨⟨limit, rfl, rfl, rfl⟩, f, hf, lowest, free, next, slot, file⟩

theorem close_effect {fd : RawFd} {w w' : World} (h : close fd w = (.ok (), w')) :
    w.Beside w' ∧ w'.fds = w.fds.close fd := by
  obtain ⟨-, -, rfl⟩ := close_ok_iff.mp h
  exact ⟨⟨rfl, rfl, rfl, rfl⟩, rfl⟩

theorem dup3_effect {oldFd newFd : RawFd} {flags : Flags} {w w' : World}
    (h : dup3 oldFd newFd flags w = (.ok (), w')) :
    w.Beside w' ∧ oldFd ≠ newFd ∧ w'.fds.next = w.fds.next ∧ w'.fds.file = w.fds.file ∧
      ∃ s, w.fds.slot oldFd = some s ∧ ∀ n, w'.fds.slot n =
        if n = newFd then some ⟨s.file, flags &&& oCloexec != 0⟩ else w.fds.slot n := by
  obtain ⟨-, f, t, -, hact, rfl⟩ := onOpen_ok_iff.mp h
  split at hact
  · cases hact
  · next apart =>
    split at hact
    · cases hact
    · next u hu =>
      cases hact
      obtain ⟨s, hs, -, next, limit, file, slot⟩ := Table.dup_eq_some hu
      exact ⟨⟨limit, rfl, rfl, rfl⟩, apart, next, file, s, hs, slot⟩

theorem fcntlSetfd_effect {fd : RawFd} {flags : Flags} {w w' : World}
    (h : fcntlSetfd fd flags w = (.ok (), w')) :
    w.Beside w' ∧ w'.fds = w.fds.setCloexec fd (flags &&& fdCloexec != 0) := by
  obtain ⟨-, f, t, -, hact, rfl⟩ := onOpen_ok_iff.mp h
  cases hact
  exact ⟨⟨rfl, rfl, rfl, rfl⟩, rfl⟩

theorem fcntlSetfl_effect {fd : RawFd} {flags : Flags} {w w' : World}
    (h : fcntlSetfl fd flags w = (.ok (), w')) :
    w.Beside w' ∧
      w'.fds = w.fds.update fd fun f => { f with status := setflStatus flags f.status } := by
  obtain ⟨-, f, t, -, hact, rfl⟩ := onOpen_ok_iff.mp h
  cases hact
  exact ⟨⟨rfl, rfl, rfl, rfl⟩, rfl⟩

theorem lseekSet_effect {fd : RawFd} {offset : Int} {w w' : World}
    (h : lseekSet fd offset w = (.ok (), w')) :
    w.Beside w' ∧ ∃ f, w.fds.contents fd = some f ∧ f.seek ≠ .refuses ∧
      (f.seek = .moves → 0 ≤ offset ∧ w'.fds = w.fds.update fd fun f => { f with offset }) ∧
      (f.seek ≠ .moves → w'.fds = w.fds) := by
  obtain ⟨-, f, t, hf, hact, rfl⟩ := onOpen_ok_iff.mp h
  split at hact
  · cases hact
  · next stays => cases hact; exact ⟨⟨rfl, rfl, rfl, rfl⟩, f, hf, by simp [stays], by simp [stays],
      fun _ => rfl⟩
  · next moves =>
    split at hact
    · cases hact
    · next nonneg =>
      cases hact
      exact ⟨⟨rfl, rfl, rfl, rfl⟩, f, hf, by simp [moves], fun _ => ⟨not_lt.mp nonneg, rfl⟩,
        fun h => absurd moves h⟩

section quiet
variable {w : World} {fd : RawFd}

theorem openFd_quiet {path : Bytes} (flags : Flags) {f : OpenFile} (quiet : w.env.Quiet)
    (resolves : w.env.resolve w.clock path = .ok f) (room : w.fds.lowestFree.isSome = true) :
    ∃ n w', openFd path flags w = (.ok n, w') := by
  rw [← Table.alloc_isSome (f := { f with status := openStatus flags, offset := 0 })
    (c := flags &&& oCloexec != 0)] at room
  obtain ⟨⟨n, t⟩, made⟩ := Option.isSome_iff_exists.mp room
  exact ⟨n, _, openFd_ok_iff.mpr ⟨quiet.fault _ _, f, t, resolves, made, rfl⟩⟩

theorem close_quiet (quiet : w.env.Quiet) (opened : w.fds.isOpen fd = true) :
    ∃ w', close fd w = (.ok (), w') :=
  ⟨_, close_ok_iff.mpr ⟨opened, quiet.fault _ _, rfl⟩⟩

theorem contents_of_isOpen (opened : w.fds.isOpen fd = true) : ∃ f, w.fds.contents fd = some f := by
  obtain ⟨s, hs⟩ := Option.isSome_iff_exists.mp opened
  exact ⟨w.fds.file s.file, by simp [Table.contents, hs]⟩

theorem dup3_quiet {newFd : RawFd} (flags : Flags) (quiet : w.env.Quiet)
    (opened : w.fds.isOpen fd = true) (apart : fd ≠ newFd)
    (inside : 0 ≤ newFd ∧ newFd < w.fds.limit) : ∃ w', dup3 fd newFd flags w = (.ok (), w') := by
  obtain ⟨f, hf⟩ := contents_of_isOpen opened
  obtain ⟨t, ht⟩ := Table.exists_dup (c := flags &&& oCloexec != 0) opened inside
  refine ⟨_, onOpen_ok_iff.mpr ⟨quiet.fault _ _, f, t, hf, ?_, rfl⟩⟩
  simp only [if_neg apart, ht]

theorem fcntlSetfd_quiet (flags : Flags) (quiet : w.env.Quiet) (opened : w.fds.isOpen fd = true) :
    ∃ w', fcntlSetfd fd flags w = (.ok (), w') := by
  obtain ⟨f, hf⟩ := contents_of_isOpen opened
  exact ⟨_, onOpen_ok_iff.mpr ⟨quiet.fault _ _, f, _, hf, rfl, rfl⟩⟩

theorem fcntlSetfl_quiet (flags : Flags) (quiet : w.env.Quiet) (opened : w.fds.isOpen fd = true) :
    ∃ w', fcntlSetfl fd flags w = (.ok (), w') := by
  obtain ⟨f, hf⟩ := contents_of_isOpen opened
  exact ⟨_, onOpen_ok_iff.mpr ⟨quiet.fault _ _, f, _, hf, rfl, rfl⟩⟩

theorem lseekSet_quiet (offset : Int) {f : OpenFile} (quiet : w.env.Quiet)
    (hf : w.fds.contents fd = some f) (seekable : f.seek ≠ .refuses)
    (nonneg : f.seek = .moves → 0 ≤ offset) : ∃ w', lseekSet fd offset w = (.ok (), w') := by
  cases seek : f.seek with
  | refuses => exact absurd seek seekable
  | stays =>
      refine ⟨_, onOpen_ok_iff.mpr ⟨quiet.fault _ _, f, w.fds, hf, ?_, rfl⟩⟩
      simp only [seek]
  | moves =>
      refine ⟨_, onOpen_ok_iff.mpr ⟨quiet.fault _ _, f,
        w.fds.update fd fun f => { f with offset }, hf, ?_, rfl⟩⟩
      simp only [seek, if_neg (not_lt.mpr (nonneg seek))]

theorem procFdIterator_quiet (quiet : w.env.Quiet) (room : w.fds.lowestFree.isSome = true) :
    procFdIterator w = (.ok w.fds.numbers, w.note .opendir none) := by
  simp only [procFdIterator, quiet.queryFault, Option.isSome_none, Bool.false_eq_true, if_false]
  exact attempt_ok_iff.mpr ⟨quiet.fault _ _, none, w.toTables, by simp [room], rfl⟩

end quiet

theorem procFdIterator_ok {w w' : World} {listing : List RawFd}
    (h : procFdIterator w = (.ok listing, w')) :
    listing = w.fds.numbers ∧ w' = w.note .opendir none := by
  unfold procFdIterator at h
  split at h
  · cases h
  · obtain ⟨-, made, tables, hact, rfl⟩ := attempt_ok_iff.mp h
    split at hact
    · cases hact; exact ⟨rfl, rfl⟩
    · cases hact

end calls
end Zygote
