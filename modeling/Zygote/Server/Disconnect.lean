import Zygote.Server.Handlers

/-!
# How a client leaves

A client is removed when its event says that it hung up or when a handler fails for it.
The end of what it sends is not one of the reasons.
-/
namespace Zygote
open Effect Descriptors

namespace Server

/-- The epoll instance of the server watches the number. -/
def Watched (s : Process) (fd : RawFd) : Prop :=
  ∃ epfd ep, s.server.epollHandle = some epfd ∧ s.world.fds.fileOf epfd = some ep ∧
    ∃ watch ∈ s.world.watches ep, watch.fd = fd

/-- The server has the number neither in its interest set nor among its clients. -/
def Gone (s : Process) (fd : RawFd) : Prop :=
  fd ∉ s.server.clientSockets.toList ∧ ¬Watched s fd

/-- The client has shut down its sending side, and all it sent was read: the event says
that there is something to read, not that the client hung up, and an empty datagram is
what will be read. -/
structure HalfClosed (s : Process) (event : EpollEvent) (fd : RawFd) : Prop where
  data : EpollData.tryFrom event.data = .ok ⟨fd, .client⟩
  readable : event.events &&& epollIn = epollIn
  connected : event.events &&& epollHup ≠ epollHup
  member : fd ∈ s.server.clientSockets.toList
  watched : Watched s fd
  opened : s.world.fds.isOpen fd = true
  faultless : s.world.env.fault s.world.clock (.recvmsg fd) = none
  ended : (s.world.env.inbox s.world.clock).head? = some []

section ended
variable {s t : Process} {fd : RawFd}

/-- An empty datagram ends the reading and asks for nothing else. -/
theorem handleClientEvents_ended (opened : s.world.fds.isOpen fd = true)
    (faultless : s.world.env.fault s.world.clock (.recvmsg fd) = none)
    (ended : (s.world.env.inbox s.world.clock).head? = some []) :
    handleClientEvents fd s = (.ok .pollContinue, { s with
      world := (s.world.note (.recvmsg fd) none).did (.received (s.world.fds.fileOf fd) []) }) := by
  obtain ⟨rest, supply⟩ : ∃ rest, s.world.env.inbox s.world.clock = [] :: rest := by
    cases supply : s.world.env.inbox s.world.clock with
    | nil => rw [supply] at ended; cases ended
    | cons datagram rest =>
        rw [supply] at ended
        exact ⟨rest, by rw [Option.some.inj ended]⟩
  let t : Process := { s with
    world := (s.world.note (.recvmsg fd) none).did (.received (s.world.fds.fileOf fd) []) }
  have read : ServerM.sys (recvmsg messageBufferSize fd (some [])) s =
      (.ok (received messageBufferSize []), t) :=
    ServerM.sys_eq.mpr ⟨recvmsg_some opened faultless, rfl⟩
  have looped : tryUntilWouldBlock ClientError.taskFailure
      (fun datagram => ServerM.sys (recvmsg messageBufferSize fd datagram)) (handleDatagram fd)
      ([] :: rest) s = (.ok (.early .pollContinue), t) := by
    unfold tryUntilWouldBlock
    rw [Prog.bind_result_ok read]
    rfl
  unfold handleClientEvents
  rw [Prog.bind_of_ok (show Prog.read s = (.ok s, s) from rfl), supply, Prog.bind_of_ok looped]
  rfl

/-- Whatever the error flags of the event say, the server, its interest set and its
descriptors stay as they are. -/
theorem checkEvent_halfClosed {event : EpollEvent} {o : Outcome ServerError (LoopControl ServerControl)}
    (half : HalfClosed s event fd) (h : checkEvent event s = (o, t)) :
    t.server = s.server ∧ t.world.toTables = s.world.toTables := by
  unfold checkEvent at h
  by_cases flagged : event.events &&& epollErrorMask = 0
  · have data : eventData event = .ok ⟨fd, .client⟩ := by
      rw [eventData, if_neg (not_not.mpr flagged), half.data]
    have handled : handleEvent ⟨fd, .client⟩ s = (.ok .pollContinue, _) :=
      Prog.mapErr_eq_ok.mpr (handleClientEvents_ended half.opened half.faultless half.ended)
    rw [Prog.bind_of_ok (show Prog.lift (eventData event) s = (.ok ⟨fd, .client⟩, s) by
      rw [data]; rfl)] at h
    simp only [if_pos half.readable] at h
    rw [Prog.bind_result_ok handled] at h
    have quiet : ∀ u, handleHangup event ⟨fd, .client⟩ u = (.ok (), u) := by
      intro u
      rw [handleHangup, if_neg half.connected]
      rfl
    simp only [settle] at h
    rw [Prog.bind_of_ok (quiet _)] at h
    cases h
    exact ⟨rfl, rfl⟩
  · have failed : eventData event = .err (.epoll ⟨fd, .client⟩ (event.events &&& epollErrorMask)) := by
      rw [eventData, if_pos flagged, half.data]
      rfl
    rw [failed] at h
    cases h
    exact ⟨rfl, rfl⟩

/-- In every batch that comes to the event, the client is still there when the event has been
handled, and still watched. -/
theorem halfClosed_stays {u : Process} {before : List EpollEvent} {event : EpollEvent}
    {o : Outcome ServerError (Option ServerControl)}
    (reaches : Prog.untilBreak checkEvent before s = (.ok none, u)) (half : HalfClosed u event fd)
    (h : Prog.untilBreak checkEvent (before ++ [event]) s = (o, t)) :
    ¬Gone t fd ∧ Watched t fd := by
  rw [Prog.untilBreak_append, Prog.bind_of_ok reaches] at h
  have state : t = (checkEvent event u).2 := by
    have last : Prog.untilBreak checkEvent [event] u = (o, t) := h
    unfold Prog.untilBreak Prog.bind at last
    cases run : checkEvent event u with
    | mk r v =>
        rw [run] at last
        cases r with
        | ok control => cases control <;> exact (congrArg Prod.snd last).symm
        | err e => exact (congrArg Prod.snd last).symm
        | panic m => exact (congrArg Prod.snd last).symm
  obtain ⟨server, tables⟩ := checkEvent_halfClosed (t := (checkEvent event u).2) half (Prod.ext rfl rfl)
  rw [← state] at server tables
  refine ⟨fun gone => ?_, ?_⟩
  · have absent := gone.1
    rw [server] at absent
    exact absent half.member
  · obtain ⟨epfd, ep, handle, behind, watched⟩ := half.watched
    refine ⟨epfd, ep, ?_, ?_, ?_⟩
    · rw [server, handle]
    · rw [tables, behind]
    · rw [tables]
      exact watched

end ended

/-- A connection to the socket `@zygote`, as the kernel hands it out. -/
def connection : OpenFile := { OpenFile.socket 77 sockSeqpacket with
  name := ⟨afUnix, 0 :: "zygote".toUTF8.data.toList⟩
  peer := some .unnamed }

/-- One client connects in the first round; from then on its socket is readable and at its end. -/
def endedEnv : Env := { Env.calm with
  ready := fun n => if n = 12 then [⟨epollIn, EpollData.toU64 ⟨4, .server⟩⟩]
    else [⟨epollIn, EpollData.toU64 ⟨6, .client⟩⟩]
  backlog := fun _ => [connection]
  inbox := fun _ => [[]] }

def endEvent : EpollEvent := ⟨epollIn, EpollData.toU64 ⟨6, .client⟩⟩

def started (env : Env) : Outcome ServerError Server × World :=
  Server.new false (.turtle none none) (.boot env stdio)

def launched : Process :=
  ⟨(started endedEnv).1.get (by decide), (started endedEnv).2⟩

/-- The server with its client, and as it finds the socket readable. -/
def connected : Process := (serveOnce launched).2
def woken : Process := (ServerM.sys
      (epollWait 3 bufferSizeEpollEvents) connected : Outcome Errno _ × _).2

theorem connected_rounds : Rounds connected := by
  have start : Rounds launched :=
    @Rounds.new (.turtle none none) (.boot endedEnv stdio) launched.world launched.server rfl rfl
      (Prod.ext (Outcome.eq_ok_get _ (by decide)) rfl)
  exact start.serve (Prod.ext (by decide) rfl)

theorem woken_halfClosed : HalfClosed woken endEvent 6 := by
  refine ⟨by decide, by decide, by decide, by decide, ⟨3, 3, by decide, by decide, ?_⟩, by decide,
    by decide, by decide⟩
  decide

def handled : Outcome ServerError (Option ServerControl) × Process :=
  Prog.untilBreak checkEvent [endEvent] woken

theorem halfClosed_stays_woken : ¬Gone handled.2 6 ∧ Watched handled.2 6 :=
  @halfClosed_stays woken handled.2 6 woken [] endEvent handled.1 rfl woken_halfClosed
    (Prod.ext rfl rfl)

/-- The client of the first round stays, whatever the later rounds bring. -/
theorem halfClosed_not_gone :
    ¬∀ (s u v t : Process) (epfd : RawFd) (before later : List EpollEvent) (event : EpollEvent)
        (fd : RawFd) (o : Outcome ServerError (Option ServerControl)), Rounds s →
      s.server.epollHandle = some epfd →
      ServerM.sys (epollWait epfd bufferSizeEpollEvents) s = (.ok (before ++ event :: later), u) →
      Prog.untilBreak checkEvent before u = (.ok none, v) → HalfClosed v event fd →
      Prog.untilBreak checkEvent (before ++ [event]) u = (o, t) → Gone t fd := by
  intro claim
  have gone := claim connected woken woken handled.2 3 [] [] endEvent 6 handled.1 connected_rounds
    (by decide) (Prod.ext (by decide) rfl) rfl woken_halfClosed (Prod.ext rfl rfl)
  exact gone.1 (by decide)

end Server
end Zygote
