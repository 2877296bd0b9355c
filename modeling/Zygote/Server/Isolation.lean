import Zygote.Messages.RoundTrip
import Zygote.Server.Agreement
import Zygote.Server.Panics
import Zygote.Server.Queue

/-!
# What one client can do to the others

A client whose socket fails is removed and the batch goes on. The server gives up only when a
call on a descriptor of its own fails, as long as no event carries an error flag: those are
looked at before the server knows whom the event is about. What makes it panic is excluded.
-/
namespace Zygote
open Effect Descriptors Prog

/-- The error of a call on the epoll instance, the listening socket or the signal descriptor, or
of closing a client. -/
def ServerError.OwnCall : ServerError → Prop
  | .serverSocketFailure (.accept _) | .serverSocketFailure (.poll _) => True
  | .signalHandlerFailure (.read _) => True
  | .clientFailure (.poll _) | .clientFailure (.close _ _) => True
  | _ => False

/-- The description once `fcntl_setfl` has made it non-blocking. -/
def OpenFile.nonblocking (f : OpenFile) : OpenFile :=
  { f with status := setflStatus oNonblock f.status }

/-- No event of the batch carries an error flag and only those of clients say that the other end
hung up, the connections can be taken in, and the children that have ended can be waited for. -/
structure Undisturbed (events : List EpollEvent) (env : Env) : Prop extends Bearable env where
  unflagged : ∀ event ∈ events, event.events &&& Server.epollErrorMask = 0
  hangups : ∀ event ∈ events, event.events &&& epollHup = epollHup →
    ∀ data, EpollData.tryFrom event.data = .ok data → data.tag = .client
  faultless : ∀ n fd, env.fault n (.fcntlSetfl fd oNonblock) = none
  legible : ∀ n, ∀ connection ∈ env.backlog n, ∀ (w : World) (fd : RawFd), w.env = env →
    w.fds.contents fd = some connection.nonblocking →
      (FileDescriptorRegistry.infoOf w fd).isOk = true
  waits : ∀ n errno, env.fault n .waitid = some errno → errno = echild
  statuses : ∀ n, ∀ child ∈ env.zombies n, ∃ status, rawStatusFromSiginfo child = .ok status

namespace Process

/-- Why a server leaves a batch: a client asks it to, a signal does, or the process is a child. -/
inductive Quits (s : Process) : ServerControl → Process → Prop
  | exit {t : Process} {newer : List (Nat × Deed)} {pid : Nat} {connection : Option Nat} {bytes : Bytes}
      (dispatches : t.world.dispatches = newer ++ s.world.dispatches)
      (mem : (pid, .dispatched connection bytes) ∈ newer)
      (asked : Message.tryFromParcel s.world.env.root bytes = .ok .exit) : Quits s .shutdown t
  | signal {t : Process} {n : Nat} {siginfo : Siginfo} (mem : siginfo ∈ s.world.env.signals n)
      (asked : siginfo.signo = sigint ∨ siginfo.signo = sigterm) : Quits s .shutdown t
  | child {control : ServerControl} {t : Process} (apart : t.world.pid ≠ s.world.pid) : Quits s control t

/-- The record of the process goes on. -/
structure Grows (s t : Process) : Prop where
  ages : s.world.Ages t.world
  dispatches : ∃ newer, t.world.dispatches = newer ++ s.world.dispatches
  spawnParams : t.server.spawnParams = s.server.spawnParams

namespace Grows
variable {s t u : Process}

theorem refl (s : Process) : s.Grows s := ⟨.refl _, ⟨[], rfl⟩, rfl⟩

theorem trans (h : s.Grows t) (k : t.Grows u) : s.Grows u := by
  obtain ⟨early, first⟩ := h.dispatches
  obtain ⟨late, second⟩ := k.dispatches
  exact ⟨h.ages.trans k.ages, ⟨late ++ early, by rw [second, first, List.append_assoc]⟩,
    k.spawnParams.trans h.spawnParams⟩

/-- A child of a process that is as old is none of the processes before. -/
theorem apart (h : s.Grows t) (ages : t.world.Ages u.world) (other : u.world.pid ≠ t.world.pid) :
    u.world.pid ≠ s.world.pid := by
  obtain ⟨-, fresh, -⟩ := ages.pid.resolve_left other
  rcases h.ages.pid with same | ⟨-, -, event, mem, before⟩
  · rwa [← same]
  · exact fun same => fresh event mem (before.trans same.symm)

theorem quits {control : ServerControl} (h : s.Grows t) (ages : t.world.Ages u.world)
    (k : t.Quits control u) : s.Quits control u := by
  obtain ⟨early, first⟩ := h.dispatches
  cases k with
  | exit dispatches mem asked =>
      rw [first, ← List.append_assoc] at dispatches
      exact .exit dispatches (List.mem_append_left _ mem) (h.ages.env ▸ asked)
  | signal mem asked => exact .signal (h.ages.env ▸ mem) asked
  | child apart => exact .child (h.apart ages apart)

/-- A server that was ready for what clients ask of it still is when there is room. -/
theorem prepared (h : s.Grows t) (before : s.Prepared) (room : t.Roomy) : t.Prepared := by
  refine ⟨fun buffer message sent decoded params given => ?_, room⟩
  rw [h.spawnParams]
  exact before.merges buffer message (h.ages.env ▸ sent) (h.ages.env ▸ decoded) params given

end Grows
end Process

namespace Server
open Process

/-- What comes of one event: the clients it is not about stay, the batch is left for a reason, and
an error is that of a call of the server's own. Only a child panics. Of a child that has failed to
become a subspecies nothing is said. -/
def Contained (event : EpollEvent) (s : Process) :
    Outcome ServerError (LoopControl ServerControl) → Process → Prop
  | .ok .continue, t => t.Failed ∨ ∀ fd ∈ s.server.clients,
      EpollData.tryFrom event.data ≠ .ok ⟨fd, .client⟩ → fd ∈ t.server.clients
  | .ok (.break control), t => t.Failed ∨ s.Quits control t
  | .err error, t => t.Failed ∨ error.OwnCall
  | .panic _, t => t.Failed ∨ t.world.pid ≠ s.world.pid

/-- No client disturbs the others: each event of the batch is contained, and all of them are
handled unless the server leaves the batch for a reason. -/
structure Isolates (events : List EpollEvent) (s : Process) : Prop where
  contained : ∀ before event after t, events = before ++ event :: after →
    Prog.untilBreak checkEvent before s = (.ok none, t) →
      Contained event t (checkEvent event t).1 (checkEvent event t).2
  returns : ∀ error t, checkEpollEvents events s = (.err error, t) → t.Failed ∨ error.OwnCall
  panics : ∀ reason t, checkEpollEvents events s = (.panic reason, t) →
    t.Failed ∨ t.world.pid ≠ s.world.pid
  handles : ∀ control t, checkEpollEvents events s = (.ok control, t) → t.Failed ∨
    control = .pollBreak ∧ Prog.untilBreak checkEvent events s = (.ok none, t) ∨ s.Quits control t

theorem grows_frame : Frame (fun _ => True) Grows where
  refl := .refl
  trans := .trans
  keeps keeps := by
    refine ⟨keeps.world.ages, ?_, keeps.spawnParams⟩
    obtain ⟨newer, split, -⟩ := keeps.world.trace
    exact ⟨newer.filter _, by rw [World.dispatches, split, List.filter_append]; rfl⟩
  tailor socketPath s := by
    have stays := @tailor_stays (fun _ => True) (fun _ _ => trivial) socketPath s
    refine ⟨stays.world.ages, ?_, stays.spawnParams⟩
    obtain ⟨newer, split, -⟩ := stays.world.trace
    exact ⟨newer.filter _, by rw [World.dispatches, split, List.filter_append]; rfl⟩

theorem fork_grows : Within Grows (ServerM.sys fork) :=
  fun s => ⟨fork_ages s.world, ⟨[], fork_dispatches s⟩, rfl⟩

section client
variable {fd : RawFd} {s : Process}

theorem dispatchMessageHandler_quits {message : Message} {messageBuffer : Bytes}
    (valid : Message.tryFromParcel s.world.env.root messageBuffer = .ok message)
    (merges : s.Merges message)
    (bearable : Bearable s.world.env) :
    Exits (· = s) (dispatchMessageHandler fd messageBuffer)
      (fun | .continue => s.Grows | .break control => s.Quits control) (fun _ _ => True)
      fun t => t.world.pid ≠ s.world.pid := by
  rintro s rfl
  have panics := @dispatchMessageHandler_panics fd s message messageBuffer valid merges bearable s rfl
  obtain ⟨child, response, reply⟩ := @dispatchMessageHandler_reply fd messageBuffer s message valid
  have grows := dispatchMessageHandler_within grows_frame fork_grows
    (fun _ _ _ => trivial) fd messageBuffer s
  have passed := (@dispatchMessageHandler_passes fd s message messageBuffer valid).1
  revert panics reply grows passed
  cases dispatchMessageHandler fd messageBuffer s with
  | mk o t =>
      intro panics reply grows passed
      cases o with
      | err error => exact trivial
      | panic reason => exact panics
      | ok control =>
          cases control with
          | «continue» => exact grows
          | «break» control =>
              by_cases same : t.world.pid = s.world.pid
              · obtain ⟨rfl, rfl⟩ := (reply.breaks control rfl).2 same
                exact .exit passed (List.mem_singleton.mpr rfl) valid
              · exact .child same

theorem handleDatagram_quits {datagram : Nat × Bytes}
    (sent : datagram.1 ≠ 0 → s.world.env.Sends datagram.2) (bearable : Bearable s.world.env)
    (prepared : s.Prepared) :
    Exits s.Grows (handleDatagram fd datagram)
      (fun | .continue => s.Grows | .break control => fun t => control = .pollContinue ∨
        s.Quits control t)
      (fun _ _ => True) fun t => t.world.pid ≠ s.world.pid := by
  unfold handleDatagram
  split
  · exact .pure fun _ _ => .inl rfl
  · next some =>
    have decodes := Message.tryFromParcel_returns (bearable.decodes _ (sent some))
    refine .read fun t grows => ?_
    refine .bind (fun r u => u = t ∧ ∀ message, r = .ok message →
        Message.tryFromParcel t.world.env.root datagram.2 = .ok message) (.result ?_) fun r => ?_
    · rintro u rfl
      rw [← grows.ages.env] at decodes
      unfold Prog.lift
      revert decodes
      cases Message.tryFromParcel u.world.env.root datagram.2 with
      | ok message => exact fun _ => ⟨rfl, fun _ same => congrArg _ (Except.ok.inj same)⟩
      | err error => exact fun _ => ⟨rfl, fun _ same => nomatch same⟩
      | panic reason => exact fun decodes => nomatch decodes
    · split
      · next message =>
        intro u h
        obtain ⟨rfl, valid⟩ := h
        have ages := dispatchMessageHandler_ages fd datagram.2 u
        have fits : u.Merges message := fun params given =>
          grows.spawnParams ▸ prepared.merges _ message (sent some)
            (grows.ages.env ▸ valid message rfl) params
            given
        have handled := @dispatchMessageHandler_quits fd u message datagram.2 (valid message rfl) fits
          (grows.ages.env ▸ bearable) u rfl
        revert handled ages
        cases dispatchMessageHandler fd datagram.2 u with
        | mk o v =>
            intro ages handled
            cases o with
            | err error => exact trivial
            | panic reason => exact grows.apart ages handled
            | ok control =>
                cases control with
                | «continue» => exact grows.trans handled
                | «break» control => exact .inr (grows.quits ages handled)
      · exact .pure fun _ _ => .inl rfl

/-- What is received was sent, and fills the buffer. -/
theorem recvmsg_sent {t u : Process} {datagram : Option Bytes} {read : Nat × Bytes}
    (h : ServerM.sys (recvmsg messageBufferSize fd datagram) t = (.ok read, u))
    (waits : ∀ bytes, datagram = some bytes → bytes ∈ s.world.env.inbox s.world.clock)
    (filled : read.1 ≠ 0) :
    s.world.env.Sends read.2 := by
  obtain ⟨w, taken, -⟩ := doing_ok_iff.mp (ServerM.sys_eq.mp h).1
  obtain ⟨bytes, same, rfl⟩ := Option.map_eq_some_iff.mp (takeAnswer_ok taken).1
  refine ⟨_, bytes, waits bytes same, fun empty => filled ?_, rfl⟩
  rw [empty]
  rfl

/-- A client makes the server leave a batch by asking it to, or in a child. -/
theorem handleClientEvents_quits (bearable : Bearable s.world.env) (prepared : s.Prepared) :
    Exits (· = s) (handleClientEvents fd) (fun control t => control = .pollContinue ∨ s.Quits control t)
      (fun _ _ => True) fun t => t.world.pid ≠ s.world.pid := by
  have takes : ∀ datagram, (∀ bytes, datagram = some bytes → bytes ∈ s.world.env.inbox s.world.clock) →
      Exits s.Grows (ServerM.sys (recvmsg messageBufferSize fd datagram))
        (fun read t => (read.1 ≠ 0 → s.world.env.Sends read.2) ∧ s.Grows t)
        (fun errno t => if errno = eagain then s.Grows t else True)
          fun t => t.world.pid ≠ s.world.pid := by
    intro datagram waits t grows
    have reads : Within Grows (ServerM.sys (recvmsg messageBufferSize fd datagram)) :=
      grows_frame.of_keeps (sys_keeps (doing_does (attempt_does fun _ => nofun) fun _ _ => trivial))
    have later := grows.trans (reads t)
    have returns : (ServerM.sys (recvmsg messageBufferSize fd datagram) t).1.isPanic = false :=
      doing_isPanic.trans attempt_not_panic
    revert later returns
    cases run : ServerM.sys (recvmsg messageBufferSize fd datagram) t with
    | mk o u =>
        intro later returns
        cases o with
        | ok read => exact ⟨recvmsg_sent run waits, later⟩
        | err errno =>
            show if errno = eagain then s.Grows u else True
            split
            · exact later
            · exact trivial
        | panic reason => cases returns
  have loop := @tryUntilWouldBlock_exits_of_mem _ _ _ _ _ ClientError.taskFailure
    (fun datagram => ServerM.sys (recvmsg messageBufferSize fd datagram)) (handleDatagram fd) s.Grows
    (fun t => t.world.pid ≠ s.world.pid) (fun control t => control = .pollContinue ∨ s.Quits control t)
    (fun _ _ => True) (fun read t => (read.1 ≠ 0 → s.world.env.Sends read.2) ∧ s.Grows t)
    (fun _ _ _ => recvmsg_exhausted) (s.world.env.inbox s.world.clock) takes
      fun datagram t ⟨sent, grows⟩ =>
      (handleDatagram_quits sent bearable prepared).conseq (fun _ => id)
        (fun control _ h => by cases control <;> exact h) (fun _ _ => id) (fun _ => id) t grows
  refine .read fun t same => ?_
  obtain rfl := same.symm
  refine .bind _ (loop.conseq (fun t same => same ▸ .refl _) (fun _ _ => id) (fun _ _ => id) fun _ => id)
    fun exit => ?_
  cases exit with
  | early control => exact .pure fun _ => id
  | wouldBlock => exact .pure fun _ _ => .inl rfl

end client

section signals
variable {env : Env}

theorem waitid_waits (waits : ∀ n errno, env.fault n .waitid = some errno → errno = echild)
    (child : Option ChildInfo) :
    Exits (fun s : Process => s.world.env = env) (ServerM.sys (waitid child))
      (fun a s => a = child ∧ s.world.env = env) (fun errno s => errno = echild ∧ s.world.env = env)
      fun _ => False := by
  rintro s rfl
  unfold ServerM.sys Prog.focus waitid plainCall attempt
  cases fault : s.world.env.fault s.world.clock .waitid with
  | none => exact ⟨rfl, rfl⟩
  | some errno => exact ⟨waits _ errno fault, rfl⟩

/-- Whoever has ended is reaped, and then there is no child left to wait for. -/
theorem reapChildren_waits (waits : ∀ n errno, env.fault n .waitid = some errno → errno = echild)
    (children : List ChildInfo)
    (statuses : ∀ child ∈ children, ∃ status, rawStatusFromSiginfo child = .ok status) :
    Exits (fun s : Process => s.world.env = env) (reapChildren children) (fun _ s => s.world.env = env)
      (fun _ _ => False) fun _ => False := by
  have failed : ∀ errno, Exits (fun s : Process => errno = echild ∧ s.world.env = env)
      (if errno = echild then Pure.pure () else Prog.throw (.processAccounting (.libc errno)))
      (fun _ s => s.world.env = env) (fun (_ : SignalHandlerError) _ => False) fun _ => False := by
    intro errno s h
    rw [if_pos h.1]
    exact h.2
  induction children with
  | nil =>
      refine .bind (fun r s => (∀ errno, r = .error errno → errno = echild) ∧ s.world.env = env)
        (.result ((waitid_waits waits none).conseq (fun _ => id) ?_ ?_ fun _ => id)) fun r => ?_
      · exact fun a s h => ⟨fun _ same => (nomatch same), h.2⟩
      · exact fun errno s h => ⟨fun _ same => Except.error.inj same ▸ h.1, h.2⟩
      · cases r with
        | ok child => exact .pure fun _ => And.right
        | error errno =>
            exact (failed errno).conseq (fun _ h => ⟨h.1 errno rfl, h.2⟩) (fun _ _ => id) (fun _ _ => id)
              fun _ => id
  | cons child rest ih =>
      obtain ⟨here, others⟩ := List.forall_mem_cons.mp statuses
      refine .bind (fun r s => ((∀ a, r = .ok a → a = some child) ∧
          ∀ errno, r = .error errno → errno = echild) ∧ s.world.env = env)
        (.result ((waitid_waits waits (some child)).conseq (fun _ => id) ?_ ?_ fun _ => id)) fun r => ?_
      · intro a s h
        exact ⟨⟨fun _ same => Except.ok.inj same ▸ h.1, fun _ same => nomatch same⟩, h.2⟩
      · intro errno s h
        exact ⟨⟨fun _ same => (nomatch same), fun _ same => Except.error.inj same ▸ h.1⟩, h.2⟩
      · cases r with
        | error errno =>
            exact (failed errno).conseq (fun _ h => ⟨h.1.2 errno rfl, h.2⟩) (fun _ _ => id)
              (fun _ _ => id)
              fun _ => id
        | ok reaped =>
            cases reaped with
            | none => exact .pure fun _ => And.right
            | some other =>
                refine .bind (fun _ s => s.world.env = env) ?_ fun _ => ih others
                rintro s ⟨⟨same, -⟩, known⟩
                obtain rfl := Option.some.inj (same _ rfl)
                obtain ⟨status, read⟩ := here
                unfold handleReaped
                rw [read]
                exact known

/-- One of the signals that wait is to end the server. -/
def Ending (s : Process) : Prop :=
  ∃ siginfo ∈ s.world.env.signals s.world.clock, siginfo.signo = sigint ∨ siginfo.signo = sigterm

/-- A signal makes the server leave a batch only when it is one to end it. -/
theorem handleSignalfdEvents_quits {events : List EpollEvent} {s : Process}
    (undisturbed : Undisturbed events s.world.env) (fd : RawFd) :
    Exits (· = s) (handleSignalfdEvents fd)
      (fun control t => control = .pollContinue ∨ s.Quits control t)
      (fun error _ => ∃ errno, error = .read errno) fun _ => False := by
  have takes : ∀ answer, (∀ a, answer = some a → a ∈ s.world.env.signals s.world.clock) →
      Exits (fun t => t.world.env = s.world.env) (ServerM.sys (readSignal fd answer))
        (fun siginfo t => siginfo ∈ s.world.env.signals s.world.clock ∧ t.world.env = s.world.env)
        (fun errno t => if errno = eagain then t.world.env = s.world.env
          else ∃ cause, SignalHandlerError.taskFailure errno = .read cause) fun _ => False := by
    intro answer known
    refine attempt_exits ?_ ?_
    · rintro t siginfo w same run
      exact ⟨known _ (takeAnswer_ok run).1, (attempt_frame run).1.trans same⟩
    · rintro t errno same
      split
      · exact same
      · exact ⟨errno, rfl⟩
  have handles : ∀ siginfo,
      Exits (fun t => siginfo ∈ s.world.env.signals s.world.clock ∧ t.world.env = s.world.env)
        (handleSiginfo siginfo)
      (fun | .continue => fun t => t.world.env = s.world.env | .break _ => fun _ => Ending s)
      (fun error _ => ∃ errno, error = .read errno) fun _ => False := by
    intro siginfo
    unfold handleSiginfo
    split
    · refine .read fun t h => .bind (fun _ u => u.world.env = s.world.env) ?_ fun _ => .pure fun _ => id
      have waits := reapChildren_waits undisturbed.waits (t.world.env.zombies t.world.clock)
        fun child mem => undisturbed.statuses _ child (h.2 ▸ mem)
      refine waits.conseq ?_ (fun _ _ => id) (fun _ _ => False.elim) fun _ => id
      rintro u rfl
      exact h.2
    · next others =>
      split
      · next interrupted => exact .pure fun t h => ⟨siginfo, h.1, .inl interrupted⟩
      · next goesOn =>
        split
        · next terminated => exact .pure fun t h => ⟨siginfo, h.1, .inr terminated⟩
        · next unexpected =>
          intro t h
          rcases undisturbed.signals _ siginfo h.1 with child | interrupt | terminate
          · exact others child
          · exact goesOn interrupt
          · exact unexpected terminate
  have exhausted : ∀ (t : Process) siginfo u, ServerM.sys (readSignal fd none) t ≠ (.ok siginfo, u) :=
    fun t siginfo u run => nomatch (takeAnswer_ok (ServerM.sys_eq.mp run).1).1
  have loop := @tryUntilWouldBlock_exits_of_mem _ _ _ _ _ SignalHandlerError.taskFailure
    (fun siginfo => ServerM.sys (readSignal fd siginfo)) handleSiginfo
      (fun t => t.world.env = s.world.env)
    (fun _ => False) (fun _ _ => Ending s) (fun error _ => ∃ errno, error = .read errno)
    (fun siginfo t => siginfo ∈ s.world.env.signals s.world.clock ∧ t.world.env = s.world.env) exhausted
    (s.world.env.signals s.world.clock) takes fun siginfo => (handles siginfo).conseq (fun _ => id)
      (fun control _ h => by cases control <;> exact h) (fun _ _ => id) fun _ => id
  refine .read fun t same => ?_
  obtain rfl := same.symm
  refine .bind _ (loop.conseq (fun t same => same ▸ rfl) (fun _ _ => id) (fun _ _ => id) fun _ => id)
    fun exit => ?_
  cases exit with
  | early signo => exact .pure fun t ⟨siginfo, mem, asked⟩ => .inr (.signal mem asked)
  | wouldBlock => exact .pure fun _ _ => .inl rfl

end signals

section accepting
variable {events : List EpollEvent} {env : Env} {N : Nat} {old : List Event} {epfd lfd sfd n : RawFd}
  {clients : List RawFd} {connection : OpenFile}

/-- A server that can take in a client. -/
structure Open (n : RawFd) (s : Process) : Prop where
  free : ¬s.server.registry.Live n
  handle : ∃ epfd, s.server.epollHandle = some epfd
  room : s.Roomy

/-- The connection has been accepted under a number that is not registered. -/
structure Taken (env : Env) (connection : OpenFile) (n : RawFd) (s : Process) :
    Prop extends Open n s where
  env : s.world.env = env
  contents : s.world.fds.contents n = some connection

/-- What has been accepted can be registered. -/
structure Legible (n : RawFd) (s : Process) : Prop extends Open n s where
  info : (FileDescriptorRegistry.infoOf s.world n).isOk = true

theorem nonblocking_legible (undisturbed : Undisturbed events env) {clock : Nat}
    (waiting : connection ∈ env.backlog clock) {failed : Errno → Process → Prop} :
    Exits (Taken env connection n) (ServerM.sys (fcntlSetfl n oNonblock)) (fun _ => Legible n) failed
      fun _ => False := by
  rintro s ⟨opens, rfl, behind⟩
  have run : fcntlSetfl n oNonblock s.world = (.ok (), _) :=
    onOpen_ok_iff.mpr ⟨undisturbed.faultless _ _, connection, _, behind, rfl, rfl⟩
  have contents := (s.world.fds.update_contents n OpenFile.nonblocking).trans (congrArg _ behind)
  have legible := undisturbed.legible _ connection waiting _ n (fcntlSetfl_steady run).env contents
  unfold ServerM.sys Prog.focus
  rw [run]
  exact ⟨⟨opens.free, opens.handle, opens.room⟩, legible⟩

/-- A connection that can be read is put on the list and in the registry as long as there are not too
many. -/
theorem admits {s : Process} (legible : Legible n s)
    (few : s.server.clientSockets.length ≠ bufferSizeClientSockets) :
    ∃ pushed t, (pushClient n : ServerM ServerSocketError Unit) s = (.ok (), pushed) ∧
      ServerM.registry (FileDescriptorRegistry.register n .close) pushed = (.ok (), t) ∧ t.Roomy ∧
      t.server.epollHandle = s.server.epollHandle := by
  have less : s.server.clientSockets.length < bufferSizeClientSockets :=
    lt_of_le_of_ne s.server.clientSockets.fits few
  have room := legible.room
  unfold Roomy Server.clients at room
  obtain ⟨clientSockets, pushed, longer⟩ := ArrayVec.exists_push n less
  obtain ⟨registry, registered, length⟩ :=
    @FileDescriptorRegistry.register_taken s.server.registry s.world n
    legible.free legible.info (by unfold ArrayVec.length at *; omega)
  refine ⟨⟨{ s.server with clientSockets }, s.world⟩,
    ⟨{ s.server with registry, clientSockets }, s.world⟩,
    ?_, registry_run registered, ?_, rfl⟩
  · unfold pushClient
    rw [pushed]
  · show registry.data.length + bufferSizeClientSockets ≤ registrySize + clientSockets.toList.length
    unfold ArrayVec.length at *
    omega

/-- A connection that can be made non-blocking and read is refused only when there are too many
clients, or the epoll instance does not take it. -/
theorem handleConnection_refuses (undisturbed : Undisturbed events env) {clock : Nat}
    (waiting : connection ∈ env.backlog clock) :
    Exits (Taken env connection n) (handleConnection n) (fun _ => Roomy)
      (fun error t => error = .tooManyClients ∧ t.Roomy ∨ ∃ errno, error = .poll errno)
        fun _ => False := by
  unfold handleConnection
  refine .bind _ (.mapErr (nonblocking_legible undisturbed waiting)) fun _ => .read fun s legible => ?_
  split
  · refine .bind (fun _ => Roomy) (.result ?_) fun _ => .throw fun _ room => .inl ⟨rfl, room⟩
    rintro t rfl
    have returns := @close_not_panic n t.world
    unfold ServerM.sys Prog.focus
    revert returns
    cases (close n t.world).1 with
    | panic reason => exact fun returns => nomatch returns
    | _ => exact fun _ => legible.room
  · next few =>
    obtain ⟨pushed, t, pushes, registers, room, handle⟩ := admits legible few
    refine .bind (fun _ => (· = pushed)) ?_ fun _ => .bind (fun _ => (· = t)) (.mapErr ?_) fun _ => ?_
    · rintro u rfl
      rw [pushes]
    · rintro u rfl
      rw [registers]
    · obtain ⟨epfd, stored⟩ := legible.handle
      refine .bind _ (unwrap_exits fun u same => same ▸ handle.trans stored) fun epollHandle => ?_
      refine .bind (fun _ => Roomy) (.mapErr (attempt_exits ?_ ?_)) fun _ => .pure fun _ => id
      · rintro u _ w ⟨-, rfl⟩ -
        exact room
      · exact fun _ errno _ => .inr ⟨errno, rfl⟩

/-- An accepted connection is the one that waited. -/
theorem accept_contents {w w' : World} {answer : Option OpenFile}
    (h : accept lfd answer w = (.ok n, w')) :
    ∃ connection, answer = some connection ∧ w'.fds.contents n = some connection ∧ w'.env = w.env := by
  obtain ⟨-, f, fds, given, allocated, rfl⟩ := makeFd_ok_iff.mp h
  split at given
  · cases given
  · split at given
    · cases given
    · split at given
      · cases given
      · cases given
        obtain ⟨-, -, -, -, slot, file⟩ := Table.alloc_eq_some allocated
        refine ⟨f, rfl, ?_, rfl⟩
        simp [Table.contents, slot, file]

/-- The listening socket fails on its own, or a connection is one too many. -/
theorem handleServerEvents_refuses (undisturbed : Undisturbed events env) :
    Exits (fun s => (Accepting N old epfd lfd sfd [] clients s ∧ s.Roomy) ∧ s.world.env = env)
      (handleServerEvents lfd)
      (fun control s => control = .pollContinue ∧ Accepting N old epfd lfd sfd [] clients s ∧ s.Roomy)
      (fun error s => error = .tooManyClients ∧ (Accepting N old epfd lfd sfd [] clients s ∧ s.Roomy) ∨
        ∃ errno, error = .accept errno ∨ error = .poll errno) fun _ => False := by
  unfold handleServerEvents
  refine .read fun s accepting => .bind (fun _ t => Accepting N old epfd lfd sfd [] clients t ∧
    t.Roomy) ?_
    fun _ => .pure fun _ h => ⟨rfl, h⟩
  have loop := @tryUntilWouldBlock_exits_of_mem _ _ _ Unit _ ServerSocketError.taskFailure
    (fun connection => ServerM.sys (accept lfd connection)) handleConnection
    (fun t => (Accepting N old epfd lfd sfd [] clients t ∧ t.Roomy) ∧ t.world.env = env) (fun _ => False)
    (fun _ _ => False)
    (fun error s => error = .tooManyClients ∧ (Accepting N old epfd lfd sfd [] clients s ∧ s.Roomy) ∨
      ∃ errno, error = .accept errno ∨ error = .poll errno)
    (fun n t => (Accepting N old epfd lfd sfd [n] clients t ∧ t.world.fds.isOpen n = true) ∧
      ∃ connection ∈ env.backlog s.world.clock, Taken env connection n t)
    (fun _ _ _ => accept_exhausted) (s.world.env.backlog s.world.clock)
      (fun answer known => attempt_exits ?_ ?_)
    (fun n => ?_)
  · refine loop.conseq (fun t same => same ▸ accepting) (fun exit t h => ?_) (fun _ _ => id) fun _ => id
    cases exit with
    | early b => exact h.elim
    | wouldBlock => exact h.1
  · rintro t n w ⟨⟨⟨serves, stays⟩, room⟩, same⟩ run
    have opens := makeFd_opens run
    obtain ⟨connection, given, contents, env⟩ := accept_contents run
    have accepted := serves.accepted opens
    have free : ¬t.server.registry.Live n := fun live =>
      ((accepted.live n).mp live).2 (List.mem_singleton.mpr rfl)
    exact ⟨⟨⟨accepted, stays⟩, opens.isOpen_iff.mpr (.inl rfl)⟩, connection,
      accepting.2 ▸ known connection given, ⟨free, ⟨_, serves.epollHandle⟩, room⟩,
        env.trans same, contents⟩
  · rintro t errno ⟨⟨⟨serves, stays⟩, room⟩, same⟩
    have noted := serves.noted (.accept lfd) rfl fun _ => ⟨lfd, rfl, by simp⟩
    split
    · exact ⟨⟨⟨noted, stays⟩, room⟩, same⟩
    · exact .inr ⟨errno, .inl rfl⟩
  · rintro t ⟨opened, connection, waiting, taken⟩
    have joined := handleConnection_exits n t opened
    have refused := handleConnection_refuses undisturbed waiting t taken
    have kept := (@handleConnection_keeps (fun _ => True) n t).world.env
    revert joined refused kept
    cases handleConnection n t with
    | mk o u =>
        intro joined refused kept
        cases o with
        | ok control =>
            obtain ⟨rfl, accepting⟩ := joined
            exact ⟨⟨accepting, refused⟩, kept.trans taken.env⟩
        | err error =>
            rcases refused with ⟨full, room⟩ | ⟨errno, polled⟩
            · exact .inl ⟨full, joined.1 full, room⟩
            · exact .inr ⟨errno, .inr polled⟩
        | panic reason => exact refused

end accepting

section events
variable {N : Nat} {old : List Event} {epfd lfd sfd fd : RawFd} {s t : Process} {event : EpollEvent}
  {rest : List EpollEvent} {data : EpollData}

/-- A client cannot be removed only where the epoll instance or its socket does not let go. -/
theorem removeClientSocket_refuses :
    Exits (fun s => Serving N old epfd lfd sfd [] s ∧ fd ∈ s.server.clients ∧ s.Roomy)
      (removeClientSocket fd)
      (fun _ => Roomy) (fun error _ => (∃ errno, error = .poll errno) ∨ ∃ errno, error = .close fd errno)
      fun _ => False := by
  unfold removeClientSocket
  refine .bind (fun _ t => t.server.epollHandle = some epfd ∧ fd ∈ t.server.clients ∧
    t.server.registry.data.length + 1 + bufferSizeClientSockets ≤ registrySize + t.server.clients.length)
    (.mapErr ?_) fun _ => ?_
  · rintro s ⟨serving, mem, room⟩
    obtain ⟨entry, known, same, -⟩ := serving.closes fd (by simp [mem])
    obtain ⟨registry, removed⟩ :=
      @FileDescriptorRegistry.remove_some s.server.registry s.world fd serving.ordered
        ⟨entry, known, same⟩
    rw [registry_run removed]
    exact ⟨serving.epollHandle, mem, (FileDescriptorRegistry.remove_length removed).symm ▸ room⟩
  refine .bind _ (unwrap_exits fun _ h => h.1) fun epollHandle => ?_
  refine .bind (fun _ t => fd ∈ t.server.clients ∧
    t.server.registry.data.length + 1 + bufferSizeClientSockets ≤ registrySize + t.server.clients.length)
    (.mapErr (attempt_exits (fun _ _ _ h _ => h.2.2) fun _ errno _ => .inl ⟨errno, rfl⟩))
    fun _ => .read fun t ⟨mem, room⟩ => ?_
  split
  · next absent =>
    rw [List.findIdx?_eq_none_iff] at absent
    have differs := absent fd mem
    rw [beq_self_eq_true] at differs
    cases differs
  · next position found =>
    obtain ⟨inside, -⟩ := List.findIdx?_eq_some_iff_getElem.mp found
    refine .bind (fun _ => Roomy) ?_ fun _ => .mapErr fun u smaller => ?_
    · rintro u rfl
      have erased : (u.server.clients.eraseIdx position).length + 1 = u.server.clients.length :=
        List.length_eraseIdx_add_one inside
      show u.server.registry.data.length + bufferSizeClientSockets ≤
        registrySize + (u.server.clients.eraseIdx position).length
      omega
    · have returns := @close_not_panic fd u.world
      unfold ServerM.sys Prog.focus
      revert returns
      cases (close fd u.world).1 with
      | ok _ => exact fun _ => smaller
      | err errno => exact fun _ => .inr ⟨errno, rfl⟩
      | panic reason => exact fun returns => nomatch returns

/-- The server serves, with all the clients it had and room for more. -/
structure Unharmed (N : Nat) (old : List Event) (epfd lfd sfd : RawFd) (s t : Process) : Prop where
  serving : Serving N old epfd lfd sfd [] t
  stays : ∀ fd ∈ s.server.clients, fd ∈ t.server.clients
  room : t.Roomy

theorem Unharmed.departs (serving : Serving N old epfd lfd sfd [] s) (room : s.Roomy)
    (departs : s.Departs (· ∈ epfd :: lfd :: s.server.clients) t) : Unharmed N old epfd lfd sfd s t :=
  ⟨serving.departs departs, fun _ mem => departs.server ▸ mem, by rw [Roomy, departs.server]; exact room⟩

/-- What the handler of an event leaves to be settled. -/
def Attended (N : Nat) (old : List Event) (epfd lfd sfd : RawFd) (data : EpollData) (s : Process) :
    Except ServerError ServerControl → Process → Prop
  | .ok .pollContinue => Unharmed N old epfd lfd sfd s
  | .ok control => s.Quits control
  | .error (.clientFailure _) => fun t =>
      t.Failed ∨ Unharmed N old epfd lfd sfd s t ∧ data.tag = .client
  | .error (.serverSocketFailure .tooManyClients) => Unharmed N old epfd lfd sfd s
  | .error error => fun _ => error.OwnCall

theorem handleEvent_attends {events : List EpollEvent} {failed : ServerError → Process → Prop}
    (undisturbed : Undisturbed events s.world.env) (prepared : s.Prepared)
    (serving : Serving N old epfd lfd sfd [] s) (mem : data ∈ interests lfd sfd s.server.clients) :
    Exits (· = s) ((handleEvent data).result : ServerM ServerError (Except ServerError ServerControl))
      (Attended N old epfd lfd sfd data s) failed fun t => t.world.pid ≠ s.world.pid := by
  obtain ⟨fd, tag⟩ := data
  refine .result ?_
  cases tag with
  | client =>
      have client : fd ∈ s.server.clients := mem_clients mem rfl
      have handled := (handleClientEvents_exits serving client).both
        (@handleClientEvents_quits fd s undisturbed.toBearable prepared)
      refine .mapErr (handled.conseq (fun _ same => ⟨same, same⟩) ?_ ?_ fun _ => And.right)
      · rintro control t ⟨answered, quits⟩
        cases control with
        | pollContinue =>
            rcases answered with departs | ⟨breaks, -⟩
            · exact .departs serving prepared.room departs
            · cases breaks
        | _ => exact quits.resolve_left (fun same => nomatch same)
      · rintro error t ⟨departs | failed, -⟩
        · exact .inr ⟨.departs serving prepared.room departs, rfl⟩
        · exact .inl failed
  | server =>
      obtain rfl : fd = lfd := by
        rcases Serving.mem_interests.mp mem with same | same | ⟨tag, -⟩
        · cases same
          rfl
        · cases same
        · cases tag
      refine .mapErr ((@handleServerEvents_refuses events s.world.env N old epfd fd sfd s.server.clients
        undisturbed).conseq ?_ ?_ ?_ fun _ => False.elim)
      · rintro t rfl
        exact ⟨⟨⟨serving, fun _ => id⟩, prepared.room⟩, rfl⟩
      · rintro control t ⟨rfl, accepting, room⟩
        exact ⟨accepting.serves, accepting.stays, room⟩
      · rintro error t (⟨rfl, accepting, room⟩ | ⟨errno, rfl | rfl⟩)
        · exact ⟨accepting.serves, accepting.stays, room⟩
        · exact trivial
        · exact trivial
  | signal =>
      have departs := @departs_leads s (· ∈ epfd :: lfd :: s.server.clients) _ _ _
        (handleSignalfdEvents_departs fd)
      have handled := (Exits.of_leads departs).both (handleSignalfdEvents_quits undisturbed fd)
      refine .mapErr (handled.conseq ?_ ?_ ?_ fun _ h => h.2.elim)
      · rintro t rfl
        exact ⟨Departs.refl t, rfl⟩
      · rintro control t ⟨departs, quits⟩
        cases control with
        | pollContinue => exact .departs serving prepared.room departs
        | _ => exact quits.resolve_left (fun same => nomatch same)
      · rintro error t ⟨-, errno, rfl⟩
        exact trivial

end events

section settling
variable {N : Nat} {old : List Event} {epfd lfd sfd : RawFd} {s t : Process} {event : EpollEvent}
  {rest : List EpollEvent} {data : EpollData} {control : LoopControl ServerControl}

/-- The event is contained, and there is room for as many clients as before it. -/
def Proceeds (event : EpollEvent) (s : Process) : LoopControl ServerControl → Process → Prop
  | .continue, t => t.Failed ∨ (∀ fd ∈ s.server.clients,
      EpollData.tryFrom event.data ≠ .ok ⟨fd, .client⟩ → fd ∈ t.server.clients) ∧ t.Roomy
  | .break control, t => t.Failed ∨ s.Quits control t

theorem Proceeds.contained (h : Proceeds event s control t) : Contained event s (.ok control) t := by
  cases control with
  | «continue» => exact h.imp id And.left
  | «break» control => exact h

/-- The removal of a client leaves the others, or a call of the server's own has failed. -/
theorem removeClientSocket_contains (word : EpollData.tryFrom event.data = .ok data)
    (client : data.tag = .client) (mem : data.fd ∈ s.server.clients) :
    Exits (Unharmed N old epfd lfd sfd s) ((removeClientSocket data.fd).mapErr ServerError.clientFailure)
      (fun _ => Proceeds event s .continue) (fun error => Contained event s (.err error))
        fun _ => False := by
  refine .mapErr ?_
  rintro t ⟨serving, stays, room⟩
  have refused := removeClientSocket_refuses t ⟨serving, stays _ mem, room⟩
  cases run : removeClientSocket data.fd t with
  | mk o u =>
      rw [run] at refused
      cases o with
      | ok _ =>
          have clients := ((serving.removeClientSocket_removes (stays _ mem) run).serves rfl).2
          refine .inr ⟨fun fd member apart => ?_, refused⟩
          rw [clients]
          refine (List.mem_erase_of_ne fun same => apart ?_).mpr (stays fd member)
          rw [word, same, ← client]
      | err error =>
          rcases refused with ⟨errno, rfl⟩ | ⟨errno, rfl⟩
          · exact .inr trivial
          · exact .inr trivial
      | panic reason => exact refused

theorem settle_contains (word : EpollData.tryFrom event.data = .ok data)
    (mem : data.tag = .client → data.fd ∈ s.server.clients)
    (hangs : event.events &&& epollHup = epollHup → data.tag = .client)
    (r : Except ServerError ServerControl) :
    Exits (Attended N old epfd lfd sfd data s r) (settle event data (some r)) (Proceeds event s)
      (fun error => Contained event s (.err error)) Process.Failed := by
  have goesOn : Exits (Proceeds event s .continue)
      (Pure.pure (LoopControl.continue : LoopControl ServerControl)) (Proceeds event s)
      (fun error => Contained event s (.err error)) Process.Failed := .pure fun _ => id
  cases r with
  | ok control =>
      cases control with
      | pollContinue =>
          refine .bind (fun _ => Proceeds event s .continue) ?_ fun _ => goesOn
          unfold handleHangup
          split
          · next hungUp =>
            have client := hangs hungUp
            simp only [client]
            exact (removeClientSocket_contains word client (mem client)).conseq (fun _ => id)
              (fun _ _ => id)
              (fun _ _ => id) fun _ => False.elim
          · exact .pure fun t h => .inr ⟨fun fd member _ => h.stays fd member, h.room⟩
      | _ => exact .pure fun _ => .inr
  | error error =>
      cases error with
      | clientFailure error =>
          refine .bind (fun _ => Proceeds event s .continue) (.either ?_ ?_) fun _ => goesOn
          · have kept : Within (fun t u => t.Failed → u.Failed)
                ((removeClientSocket data.fd).mapErr ServerError.clientFailure) :=
              failed_frame.of_keeps (.mapErr _ (removeClientSocket_keeps data.fd))
            exact Exits.conseq (.of_leads (.within kept fun _ _ failed still => still failed))
              (fun _ => id)
              (fun _ _ => .inl) (fun _ _ => .inl) fun _ => id
          · rintro t ⟨unharmed, client⟩
            exact (removeClientSocket_contains word client (mem client)).conseq (fun _ => id)
              (fun _ _ => id)
              (fun _ _ => id) (fun _ => False.elim) t unharmed
      | serverSocketFailure error =>
          cases error with
          | tooManyClients =>
              exact .pure fun t h => .inr ⟨fun fd member _ => h.stays fd member, h.room⟩
          | _ => exact .throw fun _ => .inr
      | _ => exact .throw fun _ => .inr

/-- An event that carries no error flag is contained. -/
theorem checkEvent_proceeds {events : List EpollEvent} (undisturbed : Undisturbed events s.world.env)
    (prepared : s.Prepared) (member : event ∈ events)
    (facing : Facing N old epfd lfd sfd (event :: rest) s) :
    Exits (· = s) (checkEvent event) (Proceeds event s) (fun error => Contained event s (.err error))
      fun t => t.Failed ∨ t.world.pid ≠ s.world.pid := by
  obtain ⟨data, mem, -, decoded⟩ := facing.tryFrom
  have known : eventData event = .ok data := by
    rw [eventData, if_neg (not_not.mpr (undisturbed.unflagged event member)), decoded]
  have settles := fun r => @settle_contains N old epfd lfd sfd s event data decoded (mem_clients mem)
    (fun hungUp => undisturbed.hangups event member hungUp data decoded) r
  refine .bind (fun read t => read = data ∧ t = s) ?_ fun read => ?_
  · rintro t rfl
    rw [known]
    exact ⟨rfl, rfl⟩
  · by_cases same : read = data
    case neg => exact fun t h => absurd h.1 same
    subst same
    split
    · refine .bind (Attended N old epfd lfd sfd read s) ?_ fun r =>
        (settles r).conseq (fun _ => id) (fun _ _ => id) (fun _ _ => id) fun _ => .inl
      rintro t ⟨-, rfl⟩
      exact (handleEvent_attends undisturbed prepared facing.1 mem).conseq (fun _ => id) (fun _ _ => id)
        (fun _ _ => id) (fun _ => .inr) t rfl
    · refine (settles (.ok .pollContinue)).conseq ?_ (fun _ _ => id) (fun _ _ => id) fun _ => .inl
      rintro t ⟨-, rfl⟩
      exact ⟨facing.1, fun _ => id, prepared.room⟩

theorem checkEvent_contains {events : List EpollEvent} (undisturbed : Undisturbed events s.world.env)
    (prepared : s.Prepared) (member : event ∈ events)
    (facing : Facing N old epfd lfd sfd (event :: rest) s) :
    Contained event s (checkEvent event s).1 (checkEvent event s).2 := by
  have ends := checkEvent_proceeds undisturbed prepared member facing s rfl
  revert ends
  cases checkEvent event s with
  | mk o t =>
      cases o with
      | ok control => exact Proceeds.contained
      | err error => exact id
      | panic reason => exact id

theorem failed_contains (failed : s.Failed) (event : EpollEvent) :
    Contained event s (checkEvent event s).1 (checkEvent event s).2 := by
  have still := checkEvent_within failed_frame fork_failed (fun _ _ => trivial) event s failed
  revert still
  cases checkEvent event s with
  | mk o t =>
      intro still
      cases o with
      | ok control =>
          cases control with
          | «continue» => exact .inl still
          | «break» control => exact .inl still
      | err error => exact .inl still
      | panic reason => exact .inl still

/-- The server has got this far with a batch, or it is a child that failed. -/
def Abreast (N : Nat) (old : List Event) (epfd lfd sfd : RawFd) (s : Process) (events : List EpollEvent)
    (t : Process) : Prop :=
  Facing N old epfd lfd sfd events t ∧ s.Grows t ∧ t.Prepared ∨ t.Failed

theorem checkEvent_abreast {events : List EpollEvent} (undisturbed : Undisturbed events s.world.env)
    (member : event ∈ events) :
    Exits (Abreast N old epfd lfd sfd s (event :: rest)) (checkEvent event)
      (fun | .continue => Abreast N old epfd lfd sfd s rest | .break _ => fun _ => True)
        (fun _ _ => True)
      fun _ => True := by
  intro t abreast
  have faced := checkEvent_faces event rest t (abreast.imp And.left id)
  revert faced
  cases run : checkEvent event t with
  | mk o u =>
      intro faced
      cases o with
      | err error => exact trivial
      | panic reason => exact trivial
      | ok control =>
          cases control with
          | «break» control => exact trivial
          | «continue» =>
              rcases faced with faces | failed
              case inr => exact .inr failed
              rcases abreast with ⟨facing, grows, prepared⟩ | failed
              · have proceeds := Exits.of_run
                  (checkEvent_proceeds (grows.ages.env ▸ undisturbed) prepared
                  member facing) rfl run
                have later := checkEvent_within grows_frame fork_grows (fun _ _ => trivial) event t
                rw [run] at later
                exact proceeds.symm.imp (fun ⟨_, room⟩ =>
                  ⟨faces, grows.trans later, later.prepared prepared room⟩) id
              · have still := checkEvent_within failed_frame fork_failed
                  (fun _ _ => trivial) event t failed
                rw [run] at still
                exact .inr still

/-- A batch is handled to its end, or one of its events ends it. -/
theorem checkEpollEvents_ends {events : List EpollEvent} {o : Outcome ServerError ServerControl}
    (run : checkEpollEvents events s = (o, t)) :
    (o = .ok .pollBreak ∧ Prog.untilBreak checkEvent events s = (.ok none, t)) ∨
      ∃ before event after u, events = before ++ event :: after ∧
        Prog.untilBreak checkEvent before s = (.ok none, u) ∧
        ((∃ control, o = .ok control ∧ checkEvent event u = (.ok (.break control), t)) ∨
          (∃ error, o = .err error ∧ checkEvent event u = (.err error, t)) ∨
          ∃ reason, o = .panic reason ∧ checkEvent event u = (.panic reason, t)) := by
  unfold checkEpollEvents at run
  obtain ⟨r, u, looped, run⟩ | ⟨error, looped, rfl⟩ | ⟨reason, looped, rfl⟩ := bind_cases run
  · cases r with
    | none =>
        cases run
        exact .inl ⟨rfl, looped⟩
    | some control =>
        cases run
        obtain stopped | ⟨before, event, after, v, split, reaches, ends⟩ := untilBreak_ends looped
        · cases stopped
        · refine .inr ⟨before, event, after, v, split, reaches, ?_⟩
          simpa using ends
  · obtain stopped | ⟨before, event, after, v, split, reaches, ends⟩ := untilBreak_ends looped
    · cases stopped
    · refine .inr ⟨before, event, after, v, split, reaches, ?_⟩
      simpa using ends
  · obtain stopped | ⟨before, event, after, v, split, reaches, ends⟩ := untilBreak_ends looped
    · cases stopped
    · refine .inr ⟨before, event, after, v, split, reaches, ?_⟩
      simpa using ends

/-- A server that faces a batch which is not disturbed keeps its clients apart. -/
theorem Facing.isolates {events : List EpollEvent} (facing : Facing N old epfd lfd sfd events s)
    (undisturbed : Undisturbed events s.world.env) (prepared : s.Prepared) : Isolates events s := by
  have grows : ∀ {before t}, Prog.untilBreak checkEvent before s = (.ok none, t) → s.Grows t := by
    intro before t run
    have within := Within.untilBreak grows_frame.refl grows_frame.trans
      (checkEvent_within grows_frame fork_grows fun _ _ => trivial) before s
    rwa [run] at within
  have handled : ∀ {event u o t}, checkEvent event u = (o, t) → u.Grows t := by
    intro event u o t run
    have within := checkEvent_within grows_frame fork_grows (fun _ _ => trivial) event u
    rwa [run] at within
  have contained : ∀ before event after t, events = before ++ event :: after →
      Prog.untilBreak checkEvent before s = (.ok none, t) →
        Contained event t (checkEvent event t).1 (checkEvent event t).2 := by
    rintro before event after t rfl run
    have loop := @Exits.untilBreak _ _ _ (fun _ => True) (fun _ _ => True) _ checkEvent
      (fun rest t => rest ++ event :: after ⊆ before ++ event :: after ∧
        Abreast N old epfd lfd sfd s (rest ++ event :: after) t) (fun _ _ => True)
      (fun other rest t ⟨known, abreast⟩ =>
        (checkEvent_abreast undisturbed (known List.mem_cons_self)).conseq (fun _ => id)
          (fun control u next => by
            cases control with
            | «continue» => exact ⟨fun e mem => known (List.mem_cons_of_mem _ mem), next⟩
            | «break» control => exact trivial)
          (fun _ _ => id) (fun _ => id) t abreast) before
    obtain ⟨-, ⟨faces, grows, ready⟩ | failed⟩ := Exits.of_run loop
      ⟨List.Subset.refl _, .inl ⟨facing, .refl s, prepared⟩⟩ run
    · exact checkEvent_contains (grows.ages.env ▸ undisturbed) ready (by simp) faces
    · exact failed_contains failed event
  refine ⟨contained, fun error t run => ?_, fun reason t run => ?_, fun control t run => ?_⟩
  · obtain ⟨same, -⟩ | ⟨before, event, after, u, split, reaches, ends⟩ := checkEpollEvents_ends run
    · cases same
    rcases ends with ⟨control, same, -⟩ | ⟨error, same, stops⟩ | ⟨reason, same, -⟩
    · cases same
    · cases same
      have holds := contained before event after u split reaches
      rwa [stops] at holds
    · cases same
  · obtain ⟨same, -⟩ | ⟨before, event, after, u, split, reaches, ends⟩ := checkEpollEvents_ends run
    · cases same
    rcases ends with ⟨control, same, -⟩ | ⟨error, same, -⟩ | ⟨reason, same, stops⟩
    · cases same
    · cases same
    · have holds := contained before event after u split reaches
      rw [stops] at holds
      exact holds.imp id fun apart => (grows reaches).apart (handled stops).ages apart
  · obtain ⟨same, looped⟩ | ⟨before, event, after, u, split, reaches, ends⟩ := checkEpollEvents_ends run
    · cases same
      exact .inr (.inl ⟨rfl, looped⟩)
    rcases ends with ⟨control, same, stops⟩ | ⟨error, same, -⟩ | ⟨reason, same, -⟩
    · cases same
      have holds := contained before event after u split reaches
      rw [stops] at holds
      exact holds.imp id fun quits => .inr ((grows reaches).quits (handled stops).ages quits)
    · cases same
    · cases same

end settling

/-- In every round of a server or of a subspecies, a batch in which no event carries an error flag
is handled to its end, whatever comes of the sockets of the clients. -/
theorem isolates_of_served {s t : Process} {epfd : RawFd} {events : List EpollEvent} (h : Served s)
    (reinitialized : ¬s.Failed) (fair : s.Fair) (handle : s.server.epollHandle = some epfd)
    (wait : ServerM.sys (epollWait epfd bufferSizeEpollEvents) s = (.ok events, t))
    (undisturbed : Undisturbed events t.world.env) (prepared : t.Prepared) : Isolates events t := by
  obtain ⟨N, old, own, lfd, sfd, serving⟩ := (served_stands h).resolve_right reinitialized
  obtain rfl := Option.some.inj (serving.epollHandle.symm.trans handle)
  obtain ⟨w, waited, rfl⟩ := sys_ok wait
  obtain ⟨rfl, rfl⟩ := epollWait_ok waited
  exact (fair_facing fair serving).isolates undisturbed prepared

/-- A connection to the socket of the server is read for what it is. -/
theorem connection_legible {w : World} {fd : RawFd} (env : w.env.queryFault = endedEnv.queryFault)
    (behind : w.fds.contents fd = some connection.nonblocking) :
    (FileDescriptorRegistry.infoOf w fd).isOk = true := by
  have answered : ∀ {α : Type} (q : Query) (report : OpenFile → Outcome Errno α),
      w.query q fd report = report connection.nonblocking := by
    intro α q report
    simp only [World.query, behind, env]
    rfl
  have notFifo : getFileType connection.nonblocking.stat ≠ sIfifo := by decide
  have notFile : ¬(getFileType connection.nonblocking.stat = sIfchr ∨
      getFileType connection.nonblocking.stat = sIfreg) := by decide
  have isSocket : getFileType connection.nonblocking.stat = sIfsock := by decide
  have named : SockAddr.named connection.nonblocking.name =
    some (0 :: "zygote".toUTF8.data.toList) := by decide
  simp only [FileDescriptorRegistry.infoOf, FileDescriptorInfo.tryFrom, World.fstat, answered,
    Outcome.mapErr, Outcome.bind_ok, if_neg notFifo, if_neg notFile, if_pos isSocket,
    FileDescriptorInfo.getSocketInfo, World.getsockname, named]
  decide

theorem complete_nil : ProcStat.Complete
    (Text.fromUtf8Lossy (([] : Bytes).take ProcStat.procStatBufferSize)) :=
  fun _ _ _ _ split => nomatch (show (none : Option (List Char × List Char)) = _ from split)

/-- One client connects in the first round. In the second it has asked for a process and has gone. -/
def goneEnv : Env := { endedEnv with
  fault := fun _ call => match call with
    | .sendmsg _ _ => some 32
    | _ => none
  ready := fun n => if n = 12 then [⟨epollIn, EpollData.toU64 ⟨4, .server⟩⟩]
    else [⟨epollIn ||| epollHup, EpollData.toU64 ⟨6, .client⟩⟩]
  inbox := fun _ => [unsetSpawnData]
  root := fun buffer => rootUnset (buffer.take unsetSpawnData.length)
  fork := fun _ => .parent 5000 }

def goneEvent : EpollEvent := ⟨epollIn ||| epollHup, EpollData.toU64 ⟨6, .client⟩⟩

def goneLaunched : Process := ⟨(started goneEnv).1.get (by decide), (started goneEnv).2⟩
def goneConnected : Process := (serveOnce goneLaunched).2
def goneWoken : Process :=
  (ServerM.sys (epollWait 3 bufferSizeEpollEvents) goneConnected : Outcome Errno _ × _).2

theorem goneConnected_served : Served goneConnected := by
  have start : Served goneLaunched :=
    @Served.new (.turtle none none) (.boot goneEnv stdio) goneLaunched.world goneLaunched.server rfl rfl
      (by decide) rfl (Prod.ext (Outcome.eq_ok_get _ (by decide)) rfl)
  exact start.serve (@fair_of goneLaunched 3 3 (by decide) (by decide) (by decide) (by decide))
    (Prod.ext (by decide) rfl)

theorem undisturbed_gone : Undisturbed [goneEvent] goneEnv where
  decodes buffer sent parcel read := by
    unfold goneEnv rootUnset at read
    dsimp only at read
    split at read
    · cases read
      refine ⟨⟨_, rfl, fun groups given => ?_, by decide⟩, trivial⟩
      cases given
      decide
    · cases read
  statistics _ := complete_nil
  signals _ _ mem := nomatch mem
  unflagged := by decide
  hangups event mem _ data word := by
    cases List.mem_singleton.mp mem
    have read : EpollData.tryFrom goneEvent.data = .ok ⟨6, .client⟩ := by decide
    cases read.symm.trans word
    rfl
  faultless _ _ := rfl
  legible _ connection mem w fd env behind := by
    cases List.mem_singleton.mp mem
    exact connection_legible (by rw [env]; rfl) behind
  waits _ _ fault := nomatch fault
  statuses _ _ mem := nomatch mem

theorem gone_decodes {buffer : Bytes} {message : Message}
    (decoded : Message.tryFromParcel goneEnv.root buffer = .ok message) :
    message = unsetSpawn.filled := by
  have known := decoded_unset
  unfold Message.tryFromParcel at decoded known
  rw [rootUnset_finished] at known
  unfold goneEnv rootUnset at decoded
  dsimp only at decoded
  split at decoded
  · cases decoded
  · next read =>
    split at read
    · cases read
      exact Outcome.ok.inj (decoded.symm.trans known)
    · cases read

theorem goneWoken_prepared : goneWoken.Prepared where
  merges buffer message _ decoded params given := by
    cases gone_decodes decoded
    cases given
    exact ⟨by decide, by decide⟩
  room := by
    show goneWoken.server.registry.data.length + 16 ≤ 128 + goneWoken.server.clients.length
    decide

theorem isolates_of_served_gone : Isolates [goneEvent] goneWoken := by
  have clean : ∀ event ∈ goneConnected.world.log, event.call ≠ .reinitialized false := by decide
  exact @isolates_of_served goneConnected goneWoken 3 [goneEvent] goneConnected_served
    (fun ⟨event, mem, failed⟩ => clean event mem failed)
    (@fair_of goneConnected 3 3 (by decide) (by decide) (by decide) (by decide)) (by decide)
    (Prod.ext (by decide) rfl) undisturbed_gone goneWoken_prepared

/-- The peer of the client has closed its socket without reading what was sent to it. -/
def resetEvent : EpollEvent := ⟨epollIn ||| epollHup ||| epollErr, EpollData.toU64 ⟨6, .client⟩⟩

def resetEnv : Env := { endedEnv with
  ready := fun n => if n = 12 then [⟨epollIn, EpollData.toU64 ⟨4, .server⟩⟩] else [resetEvent] }

def resetLaunched : Process := ⟨(started resetEnv).1.get (by decide), (started resetEnv).2⟩
def resetConnected : Process := (serveOnce resetLaunched).2
def resetWoken : Process :=
  (ServerM.sys (epollWait 3 bufferSizeEpollEvents) resetConnected : Outcome Errno _ × _).2

theorem resetConnected_served : Served resetConnected := by
  have start : Served resetLaunched :=
    @Served.new (.turtle none none)
      (.boot resetEnv stdio) resetLaunched.world resetLaunched.server rfl rfl
      (by decide) rfl (Prod.ext (Outcome.eq_ok_get _ (by decide)) rfl)
  exact start.serve (@fair_of resetLaunched 3 3 (by decide) (by decide) (by decide) (by decide))
    (Prod.ext (by decide) rfl)

theorem undisturbed_reset : Undisturbed [] resetEnv where
  decodes _ sent _ _ := by
    obtain ⟨n, datagram, mem, some, -⟩ := sent
    exact absurd (List.mem_singleton.mp mem) some
  statistics _ := complete_nil
  signals _ _ mem := nomatch mem
  unflagged _ mem := nomatch mem
  hangups _ mem := nomatch mem
  faultless _ _ := rfl
  legible _ connection mem w fd env behind := by
    cases List.mem_singleton.mp mem
    exact connection_legible (by rw [env]; rfl) behind
  waits _ _ fault := nomatch fault
  statuses _ _ mem := nomatch mem

theorem resetWoken_prepared : resetWoken.Prepared where
  merges _ _ sent _ := by
    obtain ⟨n, datagram, mem, some, -⟩ := sent
    exact absurd (List.mem_singleton.mp mem) some
  room := by
    show resetWoken.server.registry.data.length + 16 ≤ 128 + resetWoken.server.clients.length
    decide

/-- No call fails, and still the server ends: one client has closed its socket. -/
theorem not_isolates :
    ¬∀ (s t : Process) (epfd : RawFd) (events : List EpollEvent), Served s → ¬s.Failed → s.Fair →
      s.server.epollHandle = some epfd →
      ServerM.sys (epollWait epfd bufferSizeEpollEvents) s = (.ok events, t) →
      (∀ event ∈ events, ∃ data, EpollData.tryFrom event.data = .ok data ∧ data.tag = .client) →
      Undisturbed [] t.world.env → t.Prepared → Isolates events t := by
  intro claim
  have clean : ∀ event ∈ resetWoken.world.log, event.call ≠ .reinitialized false := by decide
  have before : ∀ event ∈ resetConnected.world.log, event.call ≠ .reinitialized false := by decide
  have isolates := claim resetConnected resetWoken 3 [resetEvent] resetConnected_served
    (fun ⟨event, mem, failed⟩ => before event mem failed)
    (@fair_of resetConnected 3 3 (by decide) (by decide) (by decide) (by decide))
    (by decide) (Prod.ext (by decide) rfl)
    (fun event mem => ⟨⟨6, .client⟩, by cases List.mem_singleton.mp mem; decide, rfl⟩)
    undisturbed_reset resetWoken_prepared
  have ends : checkEpollEvents [resetEvent] resetWoken =
      (.err (.epoll ⟨6, .client⟩ epollErr), resetWoken) := Prod.ext (by decide) rfl
  obtain ⟨event, mem, failed⟩ | own := isolates.returns _ _ ends
  · exact clean event mem failed
  · exact own

end Server
end Zygote
