import Zygote.Sys
import Zygote.Text

/-!
# The calls of the event loop

Sockets, the epoll instance, the signalfd, and the process itself. A call that takes
what is waiting for it is given the next answer of a supply; without one it would block.
-/
namespace Zygote
open Effect Descriptors

/-- A call with a deed that is done when it succeeds. -/
def doing {α : Type} (deed : World → α → Deed) (p : Prog World Errno α) : Prog World Errno α :=
  fun w =>
    match p w with
    | (.ok a, t) => (.ok a, t.did (deed w a))
    | (.err e, t) => (.err e, t)
    | (.panic m, t) => (.panic m, t)

theorem doing_ok_iff {α : Type} {deed : World → α → Deed} {p : Prog World Errno α} {w w' : World}
    {a : α} : doing deed p w = (.ok a, w') ↔ ∃ v, p w = (.ok a, v) ∧ w' = v.did (deed w a) := by
  unfold doing
  constructor
  · intro h
    split at h
    · next b v run => cases h; exact ⟨v, run, rfl⟩
    · cases h
    · cases h
  · rintro ⟨v, run, rfl⟩
    rw [run]

section addresses

def sunPathLen : Nat := 108

/-- A `sockaddr_un` with the length that is passed beside it. -/
structure SocketAddr where
  family : Nat
  sunPath : Bytes
  socklen : Nat
  deriving DecidableEq, Repr

/-- `offsetof(sockaddr_un, sun_path)` -/
def sunPathOffset : Nat := 2

def zeroPadded (bytes : Bytes) : Bytes := bytes ++ List.replicate (sunPathLen - bytes.length) 0

/-- The name starts behind a null byte; the length counts all of it, copied or not. -/
def abstractSocketAddress (name : String) (family : Nat) : SocketAddr :=
  let bytes := name.toUTF8.data.toList
  ⟨family, zeroPadded (0 :: bytes.take (sunPathLen - 1)), sunPathOffset + bytes.length + 1⟩

def boundSocketAddress (path : String) (family : Nat) : SocketAddr :=
  let bytes := path.toUTF8.data.toList
  ⟨family, zeroPadded (bytes.take (sunPathLen - 1)), sunPathOffset + bytes.length⟩

/-- The part of the address the length covers. -/
def SocketAddr.covered (address : SocketAddr) : SockAddr :=
  ⟨address.family, address.sunPath.take (address.socklen - sunPathOffset)⟩

/-- The name the kernel binds: an abstract one as it stands, a path up to its end and with
a terminator. An address without a name has one chosen for it. -/
def kernelName : Bytes → Bytes
  | [] => [0, 48, 48, 48, 48, 48]
  | 0 :: name => 0 :: name
  | path => path.takeWhile (· ≠ 0) ++ [0]

end addresses

section sockets

def OpenFile.socket (ino sockType : Nat) : OpenFile where
  stat := ⟨sIfsock, 8, ino⟩
  link := s!"socket:[{ino}]".toUTF8.data.toList
  sockType := sockType
  status := oRdwr

def OpenFile.isSocket (f : OpenFile) : Bool := getFileType f.stat == sIfsock

def socket (sockType : Nat) : Prog World Errno RawFd :=
  makeFd .socket false fun w => .ok (.socket w.fds.next sockType)

def bind (fd : RawFd) (address : SocketAddr) : Prog World Errno Unit :=
  doing (fun _ _ => .bound address.covered) <| onOpen (.bind fd address.covered) fd fun f fds =>
    if f.isSocket = false then .error enotsock
    else if address.socklen < sunPathOffset ∨ sunPathOffset + sunPathLen < address.socklen ∨
        address.family ≠ afUnix ∨ f.name ≠ .unnamed then .error einval
    else .ok (fds.update fd fun f =>
      { f with name := ⟨afUnix, kernelName address.covered.path⟩ })

/-- Only a bound socket that takes connections can listen. -/
def listen (fd : RawFd) : Prog World Errno Unit :=
  onOpen (.listen fd) fd fun f fds =>
    if f.isSocket = false then .error enotsock
    else if f.sockType ≠ sockStream ∧ f.sockType ≠ sockSeqpacket then .error eopnotsupp
    else if f.name = .unnamed then .error einval
    else .ok fds

/-- The next connection, without flags of its own. -/
def accept (fd : RawFd) (connection : Option OpenFile) : Prog World Errno RawFd :=
  makeFd (.accept fd) false fun w =>
    match w.fds.contents fd, connection with
    | none, _ => .error ebadf
    | some f, connection =>
      if f.isSocket = false then .error enotsock
      else match connection with
        | none => .error eagain
        | some connection => .ok connection

/-- A call on an open descriptor that changes no table and hands over the answer it is
given. -/
def takeAnswer {α : Type} (call : Call) (fd : RawFd) (answer : Option α) : Prog World Errno α :=
  attempt call fun w =>
    match w.fds.contents fd, answer with
    | none, _ => .error ebadf
    | some _, none => .error eagain
    | some _, some a => .ok (a, none, w.toTables)

theorem takeAnswer_ok {α : Type} {call : Call} {fd : RawFd} {answer : Option α} {a : α} {w v : World}
    (h : takeAnswer call fd answer w = (.ok a, v)) : answer = some a ∧ v = w.note call none := by
  obtain ⟨-, made, tables, act, rfl⟩ := attempt_ok_iff.mp h
  split at act
  · cases act
  · cases act
  · cases act
    exact ⟨rfl, rfl⟩

/-- A datagram in a zeroed buffer that may be too small for it, and how much was read. -/
def received (bufferSize : Nat) (datagram : Bytes) : Nat × Bytes :=
  ((datagram.take bufferSize).length,
    datagram.take bufferSize ++ List.replicate (bufferSize - datagram.length) 0)

/-- The next datagram. A peer that has hung up is read as an empty one. -/
def recvmsg (bufferSize : Nat) (fd : RawFd) (datagram : Option Bytes) :
    Prog World Errno (Nat × Bytes) :=
  doing (fun w read => .received (w.fds.fileOf fd) (read.2.take read.1))
    (takeAnswer (.recvmsg fd) fd (datagram.map (received bufferSize)))

/-- The call on an open descriptor that hands over an answer. -/
theorem takeAnswer_some {α : Type} {call : Call} {fd : RawFd} {answer : α} {w : World}
    (opened : w.fds.isOpen fd = true) (faultless : w.env.fault w.clock call = none) :
    takeAnswer call fd (some answer) w = (.ok answer, w.note call none) := by
  obtain ⟨f, hf⟩ := contents_of_isOpen opened
  exact attempt_ok_iff.mpr ⟨faultless, none, w.toTables, by simp only [hf], rfl⟩

theorem recvmsg_some {bufferSize : Nat} {fd : RawFd} {datagram : Bytes} {w : World}
    (opened : w.fds.isOpen fd = true) (faultless : w.env.fault w.clock (.recvmsg fd) = none) :
    recvmsg bufferSize fd (some datagram) w = (.ok (received bufferSize datagram),
      (w.note (.recvmsg fd) none).did (.received (w.fds.fileOf fd) (datagram.take bufferSize))) := by
  have taken := @takeAnswer_some _ (.recvmsg fd) fd (received bufferSize datagram) w opened faultless
  simp only [recvmsg, doing, Option.map_some, taken]
  simp [received]

def sendmsg (fd : RawFd) (bytes : Bytes) : Prog World Errno Unit :=
  doing (fun w _ => .sent (w.fds.fileOf fd) bytes)
    (onOpen (.sendmsg fd bytes) fd fun _ fds => .ok fds)

def createAbstractSocket (name : String) (sockType : Nat) : Prog World Errno RawFd := do
  let socketFd ← socket sockType
  bind socketFd (abstractSocketAddress name afUnix)
  pure socketFd

def createBoundSocket (path : String) (sockType : Nat) : Prog World Errno RawFd := do
  let socketFd ← socket sockType
  bind socketFd (boundSocketAddress path afUnix)
  pure socketFd

end sockets

section polling

def epollCreate : Prog World Errno RawFd :=
  attempt .epollCreate fun w =>
    match w.fds.alloc .epoll false with
    | none => .error emfile
    | some (fd, fds) =>
        .ok (fd, some fd, ⟨fds, fun i => if i = w.fds.next then [] else w.watches i⟩)

/-- `epoll_ctl` on an instance: both descriptors must be open, and differ. -/
def epollCtl (call : Call) (epfd fd : RawFd)
    (act : (file : Nat) → List Watch → Except Errno (List Watch)) : Prog World Errno Unit :=
  attempt call fun w =>
    match w.fds.slot epfd, w.fds.slot fd with
    | some ep, some target =>
        if (w.fds.file ep.file).isEpoll = false ∨ ep.file = target.file then .error einval
        else match act target.file (w.watches ep.file) with
          | .error errno => .error errno
          | .ok watches =>
              .ok ((), none, ⟨w.fds, fun i => if i = ep.file then watches else w.watches i⟩)
    | _, _ => .error ebadf

def epollAdd (epfd fd : RawFd) (events : BitVec 32) (data : BitVec 64) : Prog World Errno Unit :=
  epollCtl (.epollAdd epfd fd) epfd fd fun file watches =>
    if watches.any fun w => w.fd == fd && w.file == file then .error eexist
    else .ok (watches ++ [⟨fd, file, events, data⟩])

def epollDel (epfd fd : RawFd) : Prog World Errno Unit :=
  epollCtl (.epollDel epfd fd) epfd fd fun file watches =>
    if watches.any fun w => w.fd == fd && w.file == file then
      .ok (watches.filter fun w => !(w.fd == fd && w.file == file))
    else .error enoent

theorem epollCtl_fds {call : Call} {epfd fd : RawFd}
    {act : (file : Nat) → List Watch → Except Errno (List Watch)} :
    Prog.Within (fun w v : World => v.fds = w.fds) (epollCtl call epfd fd act) := by
  intro w
  unfold epollCtl attempt
  split
  · rfl
  · split
    · rfl
    · next a made tables acted =>
      dsimp only at acted
      split at acted
      · split at acted
        · cases acted
        · split at acted <;> cases acted
          rfl
      · cases acted

/-- Wait without a timeout; what is ready is up to the environment. -/
def epollWait (epfd : RawFd) (capacity : Nat) : Prog World Errno (List EpollEvent) :=
  attempt (.epollWait epfd) fun w =>
    match w.fds.contents epfd with
    | none => .error ebadf
    | some f =>
        if f.isEpoll then .ok ((w.env.ready w.clock).take capacity, none, w.toTables)
        else .error einval

end polling

section process

def signalfd : Prog World Errno RawFd := makeFd .signalfd false fun _ => .ok .signal

/-- `read_exact` of one `signalfd_siginfo`. -/
def readSignal (fd : RawFd) (siginfo : Option Siginfo) : Prog World Errno Siginfo :=
  takeAnswer (.readSignal fd) fd siginfo

theorem readSignal_answered {fd : RawFd} {siginfo : Option Siginfo} {a : Siginfo} {w v : World}
    (h : readSignal fd siginfo w = (.ok a, v)) : w.env.fault w.clock (.readSignal fd) = none := by
  unfold readSignal takeAnswer at h
  exact (attempt_ok_iff.mp h).1

/-- A signal that is there is read unless the call itself does not go through. -/
theorem readSignal_blocks {fd : RawFd} {siginfo : Siginfo} {w v : World}
    (h : readSignal fd (some siginfo) w = (.err eagain, v)) : w.env.fault w.clock (.readSignal fd) =
      some eagain := by
  unfold readSignal takeAnswer at h
  obtain ⟨-, fault | ⟨-, act⟩⟩ := attempt_err h
  · exact fault
  · split at act
    · cases act
    · next none => cases none
    · cases act

/-- A call that changes no table. -/
def plainCall {α : Type} (call : Call) (value : α) : Prog World Errno α :=
  attempt call fun w => .ok (value, none, w.toTables)

/-- `waitid` for any child that exited, without blocking. -/
def waitid (child : Option ChildInfo) : Prog World Errno (Option ChildInfo) :=
  plainCall .waitid child

def setpgid : Prog World Errno Unit := plainCall .setpgid ()
def sigprocmask : Prog World Errno Unit := plainCall .sigprocmask ()
def createDirAll (path : Bytes) : Prog World Errno Unit := plainCall (.createDirAll path) ()

/-- A path with a null byte in it is refused before any call. -/
def removeFile (path : Bytes) : Prog World Errno Unit :=
  if path.elem 0 then Prog.throw einval else plainCall (.removeFile path) ()

/-- A call on the credentials of the process fails without the privilege it needs. -/
def onTask (call : Call) (act : Credentials.Task → Option Credentials.Task) :
    Prog World Errno Unit := fun w =>
  match w.env.fault w.clock call with
  | some errno => (.err errno, w.note call none)
  | none =>
    match act w.task with
    | none => (.err eperm, w.note call none)
    | some task => (.ok (), { w.note call none with task })

/-- `fork`: the pid of the new process, or nothing in that process. The kernel gives a pid
that no process on the record has. -/
def fork : Prog World Errno (Option Nat) := fun w =>
  match w.env.fork w.clock with
  | .failed errno => (.err errno, w.note .fork none)
  | .parent newPid => (.ok (some newPid), (w.note .fork none).did (.forked newPid))
  | .child newPid =>
      if newPid = w.pid ∨ ∃ event ∈ w.log, event.pid = newPid then
        (.err eagain, w.note .fork none)
      else (.ok none, { w.note .fork none with pid := newPid })

/-- A fork fails, or the process is one of the two there are afterwards. -/
theorem fork_cases (w : World) : (∃ errno, fork w = (.err errno, w.note .fork none)) ∨
    (∃ newPid, fork w = (.ok (some newPid), (w.note .fork none).did (.forked newPid))) ∨
      ∃ newPid, newPid ≠ w.pid ∧ (∀ event ∈ w.log, event.pid ≠ newPid) ∧
        fork w = (.ok none, { w.note .fork none with pid := newPid }) := by
  unfold fork
  split
  · next errno _ => exact Or.inl ⟨errno, rfl⟩
  · next newPid _ => exact Or.inr (Or.inl ⟨newPid, rfl⟩)
  · split
    · exact Or.inl ⟨_, rfl⟩
    · next newPid _ known =>
      obtain ⟨apart, fresh⟩ := not_or.mp known
      exact Or.inr (Or.inr ⟨newPid, apart, fun event mem same => fresh ⟨event, mem, same⟩, rfl⟩)

theorem fork_ages (w : World) : w.Ages (fork w).2 := by
  have noted : w.Ages (w.note .fork none) := ⟨rfl, ⟨[_], rfl⟩, Or.inl rfl⟩
  rcases fork_cases w with ⟨errno, run⟩ | ⟨newPid, run⟩ | ⟨newPid, apart, fresh, run⟩
  · exact run ▸ noted
  · exact run ▸ noted.trans ⟨rfl, ⟨[], rfl⟩, Or.inl rfl⟩
  · rw [run]
    exact ⟨rfl, ⟨[_], rfl⟩, Or.inr ⟨apart, fresh, _, List.mem_cons_self, rfl⟩⟩

theorem onTask_log (call : Call) (act : Credentials.Task → Option Credentials.Task) (w : World) :
    (onTask call act w).2.log = (w.note call none).log := by
  unfold onTask
  split
  · rfl
  · split <;> rfl

theorem onTask_does {calls : Call → Prop} {deeds : Deed → Prop} {call : Call}
    {act : Credentials.Task → Option Credentials.Task} (h : calls call) :
    Prog.Within (World.Does calls deeds) (onTask call act) := by
  intro w
  refine @World.Does.call calls deeds w _ call none h (onTask_log call act w) ?_ ?_ ?_
  all_goals
    unfold onTask
    split
    · rfl
    · split <;> rfl

/-- The text of `/proc/self/stat`. It is read through a descriptor that is closed again. -/
def readProcStat (capacity : Nat) : Prog World Errno Bytes :=
  attempt .procStat fun w =>
    if w.fds.lowestFree.isSome then .ok ((w.env.procStat w.clock).take capacity, none, w.toTables)
    else .error emfile

end process

section loops
variable {σ ε α β τ : Type}

/-- Call the task until it would block, an error stops it or the handler breaks off. The
supply is what was waiting when the loop began; the task gets its members in turn. -/
def tryUntilWouldBlock (taskFailure : Errno → ε) (task : Option τ → Prog σ Errno α)
    (handler : α → Prog σ ε (LoopControl β)) : List τ → Prog σ ε (LoopExit β)
  | [] => do
      match ← (task none).result with
      | .ok _ => pure .wouldBlock
      | .error errno => if errno = eagain then pure .wouldBlock else Prog.throw (taskFailure errno)
  | answer :: rest => do
      match ← (task (some answer)).result with
      | .ok value =>
        match ← handler value with
        | .continue => tryUntilWouldBlock taskFailure task handler rest
        | .break value => pure (.early value)
      | .error errno => if errno = eagain then pure .wouldBlock else Prog.throw (taskFailure errno)

/-- The rule for the loop. A task without an answer does not succeed; an answer it is given is one
of the supply. -/
theorem tryUntilWouldBlock_exits_of_mem {taskFailure : Errno → ε}
    {task : Option τ → Prog σ Errno α} {handler : α → Prog σ ε (LoopControl β)} {inv panic : σ → Prop}
    {early : β → σ → Prop} {err : ε → σ → Prop} (got : α → σ → Prop)
    (exhausted : ∀ s a t, task none s ≠ (.ok a, t)) {supply : List τ}
    (take : ∀ answer, (∀ a, answer = some a → a ∈ supply) → Prog.Exits inv (task answer) got
      (fun errno s => if errno = eagain then inv s else err (taskFailure errno) s) panic)
    (step : ∀ a, Prog.Exits (got a) (handler a)
      (fun | .continue => inv | .break b => early b) err panic) :
    Prog.Exits inv (tryUntilWouldBlock taskFailure task handler supply)
      (fun | .early b => early b | .wouldBlock => inv) err panic := by
  have failed : ∀ errno, Prog.Exits
      (fun s => if errno = eagain then inv s else err (taskFailure errno) s)
      (if errno = eagain then pure LoopExit.wouldBlock else Prog.throw (taskFailure errno))
      (fun | .early b => early b | .wouldBlock => inv) err panic := by
    intro errno
    by_cases blocks : errno = eagain
    · simp only [if_pos blocks]
      exact fun s hs => hs
    · simp only [if_neg blocks]
      exact fun s hs => hs
  induction supply with
  | nil =>
      refine .bind (fun r s => match r with
        | .ok _ => False
        | .error errno => if errno = eagain then inv s else err (taskFailure errno) s)
        (.result ?_) fun r => ?_
      · intro s hs
        have head := take none (fun a same => by cases same) s hs
        revert head
        split
        · next a t run => exact absurd run (exhausted s a t)
        · exact id
        · exact id
      · cases r with
        | ok a => exact fun s hs => hs.elim
        | error errno => exact failed errno
  | cons answer rest ih =>
      refine .bind (fun r s => match r with
        | .ok a => got a s
        | .error errno => if errno = eagain then inv s else err (taskFailure errno) s)
        (.result (take (some answer) fun a same => ?_)) fun r => ?_
      · cases same
        exact List.mem_cons_self
      cases r with
      | ok a =>
          refine .bind _ (step a) fun control => ?_
          cases control with
          | «continue» =>
              exact ih fun answer known => take answer fun a same =>
                List.mem_cons_of_mem _ (known a same)
          | «break» b => exact fun s hs => hs
      | error errno => exact failed errno

/-- The rule where it does not matter which answers are given. -/
theorem tryUntilWouldBlock_exits {taskFailure : Errno → ε}
    {task : Option τ → Prog σ Errno α} {handler : α → Prog σ ε (LoopControl β)} {inv panic : σ → Prop}
    {early : β → σ → Prop} {err : ε → σ → Prop} (got : α → σ → Prop)
    (exhausted : ∀ s a t, task none s ≠ (.ok a, t))
    (take : ∀ answer, Prog.Exits inv (task answer) got (fun errno s =>
      if errno = eagain then inv s else err (taskFailure errno) s) panic)
    (step : ∀ a, Prog.Exits (got a) (handler a)
      (fun | .continue => inv | .break b => early b) err panic) (supply : List τ) :
    Prog.Exits inv (tryUntilWouldBlock taskFailure task handler supply)
      (fun | .early b => early b | .wouldBlock => inv) err panic :=
  tryUntilWouldBlock_exits_of_mem got exhausted (fun answer _ => take answer) step

theorem tryUntilWouldBlock_within {R : σ → σ → Prop} {taskFailure : Errno → ε}
    {task : Option τ → Prog σ Errno α} {handler : α → Prog σ ε (LoopControl β)}
    (refl : ∀ s, R s s) (trans : ∀ {s t u}, R s t → R t u → R s u)
    (take : ∀ answer, Prog.Within R (task answer)) (step : ∀ a, Prog.Within R (handler a))
    (supply : List τ) : Prog.Within R (tryUntilWouldBlock taskFailure task handler supply) := by
  have failed : ∀ errno, Prog.Within R
      (if errno = eagain then pure (LoopExit.wouldBlock : LoopExit β)
        else Prog.throw (taskFailure errno)) := by
    intro errno
    split
    · exact refl
    · exact refl
  induction supply with
  | nil =>
      refine .bind trans (.result (take none)) fun r => ?_
      cases r with
      | ok a => exact refl
      | error errno => exact failed errno
  | cons answer rest ih =>
      refine .bind trans (.result (take (some answer))) fun r => ?_
      cases r with
      | ok a =>
          refine .bind trans (step a) fun control => ?_
          cases control with
          | «continue» => exact ih
          | «break» b => exact refl
      | error errno => exact failed errno

/-- The rule for a loop that may be stopped in any state that can occur in it. -/
theorem tryUntilWouldBlock_leads {taskFailure : Errno → ε}
    {task : Option τ → Prog σ Errno α} {handler : α → Prog σ ε (LoopControl β)}
    {inv stop : σ → Prop} {early : β → σ → Prop} (got : α → σ → Prop)
    (stopped : ∀ s, inv s → stop s) (exhausted : ∀ s a t, task none s ≠ (.ok a, t))
    (take : ∀ answer, Prog.Leads inv (task answer) got inv)
    (step : ∀ a, Prog.Leads (got a) (handler a)
      (fun | .continue => inv | .break b => early b) stop) (supply : List τ) :
    Prog.Leads inv (tryUntilWouldBlock taskFailure task handler supply)
      (fun | .early b => early b | .wouldBlock => inv) stop := by
  refine tryUntilWouldBlock_exits got exhausted (fun answer => ?_) step supply
  refine Prog.Exits.conseq (take answer) (fun _ => id) (fun _ _ => id) (fun errno s holds => ?_) stopped
  split
  · exact holds
  · exact stopped s holds

/-- How the loop comes to the answer that would block. -/
theorem tryUntilWouldBlock_blocks {taskFailure : Errno → ε} {task : Option τ → Prog σ Errno α}
    {handler : α → Prog σ ε (LoopControl β)} {answer : τ} {rest : List τ} {s t : σ}
    (h : tryUntilWouldBlock taskFailure task handler (answer :: rest) s = (.ok .wouldBlock, t)) :
    task (some answer) s = (.err eagain, t) ∨
      ∃ a u v, task (some answer) s = (.ok a, u) ∧ handler a u = (.ok .continue, v) ∧
        tryUntilWouldBlock taskFailure task handler rest v = (.ok .wouldBlock, t) := by
  obtain ⟨r, u, called, h⟩ := Prog.bind_eq_ok.mp h
  rcases Prog.result_eq_ok.mp called with ⟨a, task, rfl⟩ | ⟨errno, task, rfl⟩
  · obtain ⟨control, v, handled, h⟩ := Prog.bind_eq_ok.mp h
    cases control with
    | «continue» => exact Or.inr ⟨a, u, v, task, handled, h⟩
    | «break» b => cases h
  · by_cases blocks : errno = eagain
    · simp only [if_pos blocks] at h
      cases h
      exact Or.inl (blocks ▸ task)
    · simp only [if_neg blocks] at h
      cases h

end loops
end Zygote
