import Zygote.Server.Renewal

/-!
# What a round keeps

A handler that talks to a client leaves the server as it is, and the child of a
`SpawnSubspecies` message is a server of its own. From event to event and from round to round
the clients, the registry, the interest set and the table agree.
-/
namespace Zygote
open Effect Descriptors Prog

namespace Process

/-- The process is a server with some descriptors of its own. -/
def Stands (s : Process) : Prop := ∃ N old epfd lfd sfd, Serving N old epfd lfd sfd [] s

/-- The batch that is ready when the process waits names members of the interest set, each at
most once. -/
def Fair (s : Process) : Prop :=
  ∀ epfd ep, s.server.epollHandle = some epfd → s.world.fds.fileOf epfd = some ep →
    (((s.world.env.ready s.world.clock).take bufferSizeEpollEvents).map EpollEvent.data).Nodup ∧
      ∀ event ∈ (s.world.env.ready s.world.clock).take bufferSizeEpollEvents,
        ∃ watch ∈ s.world.watches ep, watch.data = event.data

/-- A re-initialization has failed. -/
def Failed (s : Process) : Prop := ∃ event ∈ s.world.log, event.call = .reinitialized false

/-- The process is as it was, or the server of a subspecies that takes up its loop. -/
def Answered (about : RawFd → Prop) (s : Process) (control : ServerControl) (t : Process) : Prop :=
  s.Departs about t ∨ control = .pollBreak ∧ t.Stands

/-- The process is as it was, or it has failed to become a subspecies. -/
def Broken (about : RawFd → Prop) (s t : Process) : Prop := s.Departs about t ∨ t.Failed

theorem Failed.later {s t : Process} {calls : Call → Prop} {deeds : Deed → Prop} (h : s.Failed)
    (does : s.world.Does calls deeds t.world) : t.Failed := by
  obtain ⟨event, mem, failed⟩ := h
  exact ⟨event, does.mem_log mem, failed⟩

end Process

namespace Server
open Process

section subspecies
variable {N : Nat} {old : List Event} {epfd lfd sfd : RawFd} {s : Process}

theorem reInitializeAsSubspecies_exits (socketPath : String) :
    Exits (Inherits sfd) (reInitializeAsSubspecies socketPath) (fun _ => Stands) (fun _ => Failed)
      fun _ => True := by
  intro s inherits
  unfold reInitializeAsSubspecies
  cases run : tailor socketPath s with
  | mk o t =>
      cases o with
      | ok value =>
          obtain ⟨epfd, lfd, serving⟩ := tailor_serves inherits run
          exact ⟨_, _, epfd, lfd, sfd, serving.noted (.reinitialized true) rfl fun acts => nomatch acts⟩
      | err error => exact ⟨_, List.mem_cons_self, rfl⟩
      | panic reason => exact trivial

/-- A program that leaves the server as it is goes on from wherever the process is. -/
theorem departs_leads {about : RawFd → Prop} {ε α : Type} {p : ServerM ε α}
    (h : Within (Departs about) p) :
    Leads (s.Departs about) p (fun _ => s.Departs about) (s.Departs about) :=
  .within h fun _ _ before after => before.trans after

theorem departs_exits {about : RawFd → Prop} {ε α : Type} {p : ServerM ε α}
    (h : Within (Departs about) p) :
    Exits (s.Departs about) p (fun _ => s.Departs about) (fun _ => s.Broken about) fun _ => True :=
  Exits.conseq (.of_leads (departs_leads h)) (fun _ => id) (fun _ _ => id) (fun _ _ => .inl)
    fun _ _ => trivial

theorem verifiedMessage_departs {about : RawFd → Prop} {ε : Type} (messageBuffer : Bytes) :
    Within (Departs about) (verifiedMessage messageBuffer : ServerM ε Message) :=
  .reading fun _ => .expect _ (.lift Departs.refl _)

theorem verifiedMessage_exits {ε : Type} {messageBuffer : Bytes} {message : Message}
    {pre panic : Process → Prop}
    {err : ε → Process → Prop}
    (valid : ∀ t, pre t → Message.tryFromParcel t.world.env.root messageBuffer = .ok message) :
    Exits pre (verifiedMessage messageBuffer : ServerM ε Message) (fun m t => m = message ∧ pre t) err
      panic := by
  intro t ht
  have run : (verifiedMessage messageBuffer : ServerM ε Message) t = (.ok message, t) := by
    unfold verifiedMessage
    rw [bind_of_ok (show Prog.read t = (.ok t, t) from rfl)]
    exact Prog.expect_eq_ok.mpr (by rw [Prog.lift, valid t ht])
  rw [run]
  exact ⟨rfl, ht⟩

theorem reInitialize_departs {about : RawFd → Prop} {ε : Type} (params : SpawnParamsCommon) :
    Within (Departs about) (ServerM.sys (ChildProcess.reInitialize false params) : ServerM ε Unit) := by
  refine sys_departs (ChildProcess.reInitialize_within calm_sets (fun call free => ?_)
    (fun _ _ => ⟨rfl, rfl⟩) fun _ _ => ⟨rfl, rfl⟩)
  cases call <;> first | exact ⟨rfl, rfl⟩ | cases free

/-- The child that becomes a subspecies breaks the batch off. -/
theorem becomeSubspecies_exits (serving : Serving N old epfd lfd sfd [] s) (socketPath : String)
    (messageBuffer : Bytes) (spawnParams : SpawnParamsCommon) :
    Exits (s.Departs (· ∈ epfd :: lfd :: s.server.clients))
      (becomeSubspecies socketPath messageBuffer spawnParams)
      (s.Answered (· ∈ epfd :: lfd :: s.server.clients))
      (fun _ => s.Broken (· ∈ epfd :: lfd :: s.server.clients)) fun _ => True := by
  refine .bind _ (departs_exits (verifiedMessage_departs messageBuffer)) fun message => ?_
  cases message.getSpawnPayload with
  | none => exact .throw fun _ => .inl
  | some payload =>
      refine .bind _ (departs_exits (reInitialize_departs spawnParams)) fun _ => ?_
      refine .bind (fun _ => Inherits sfd) ?_ fun _ => ?_
      · intro t departs
        obtain ⟨u, run, inherits⟩ := @speciate_inherits ClientError sfd t
          (serving.departs departs).inherits
        rw [run]
        exact inherits
      refine .bind (fun _ => Stands) (.mapErr ?_) fun _ => .pure fun _ stands => .inr ⟨rfl, stands⟩
      exact (reInitializeAsSubspecies_exits socketPath).conseq (fun _ => id) (fun _ _ => id)
        (fun _ _ => .inr) fun _ => id

end subspecies

section messages
variable {about : RawFd → Prop} {s : Process} {fd : RawFd}

/-- What a handler of messages comes to: to go on as before, or to break the loop off. -/
abbrev Handling (about : RawFd → Prop) (s : Process)
    (p : ServerM ClientError (LoopControl ServerControl)) : Prop :=
  Exits (s.Departs about) p
    (fun | .continue => s.Departs about | .break control => s.Answered about control)
    (fun _ => s.Broken about) fun _ => True

theorem Handling.departs {p : ServerM ClientError (LoopControl ServerControl)}
    (h : Within (Departs about) p) : Handling about s p := by
  refine (departs_exits h).conseq (fun _ => id) (fun control t departs => ?_) (fun _ _ => id) fun _ => id
  cases control with
  | «continue» => exact departs
  | «break» control => exact .inl departs

variable (mem : about fd)
include mem

theorem sent_departs (message : Message) :
    Within (Departs about) (ServerM.sys (sendMessage fd message)) :=
  sys_departs (sendMessage_calm mem)

/-- The two processes after the fork: the child goes its own way. -/
theorem handleSpawn_handles (messageBuffer : Bytes)
    {childContinuation : SpawnParamsCommon → ServerM ClientError ServerControl}
    (child : ∀ spawnParams, Exits (s.Departs about) (childContinuation spawnParams) (s.Answered about)
      (fun _ => s.Broken about) fun _ => True) :
    Handling about s (handleSpawn false (some fd) messageBuffer childContinuation) := by
  unfold handleSpawn
  refine .bind _ (departs_exits (verifiedMessage_departs messageBuffer))
    fun message => .read fun t before => ?_
  have here : ∀ {α : Type} {p : ServerM ClientError α} {ok : α → Process → Prop},
      Exits (s.Departs about) p ok (fun _ => s.Broken about) (fun _ => True) →
      Exits (· = t) p ok (fun _ => s.Broken about) fun _ => True :=
    fun h => h.conseq (fun _ same => same ▸ before) (fun _ _ => id) (fun _ _ => id) fun _ => id
  split
  · exact here (.throw fun _ => .inl)
  · refine .bind _ (here (departs_exits (.expect _ (.lift Departs.refl _)))) fun spawnParams => ?_
    refine .bind _ (departs_exits (.result (sys_departs fork_calm))) fun answer => ?_
    split
    · refine .bind _ (departs_exits (.forSome Departs.refl fun priority _ => ?_)) fun _ => ?_
      · exact Departs.bind (.result (sys_departs (plainCall_calm rfl rfl))) fun _ => Departs.refl
      · exact .bind _ (child _) fun control => .pure fun _ => id
    · rw [ServerM.unwrap_bind_some]
      exact .bind _ (departs_exits (.mapErr _ (sent_departs mem _))) fun _ => .pure fun _ => id
    · rw [ServerM.unwrap_bind_some]
      exact .throw fun _ => .inl

omit mem

end messages

section client
variable {N : Nat} {old : List Event} {epfd lfd sfd fd : RawFd} {s : Process}

theorem procStat_departs {about : RawFd → Prop} : Within (Departs about) (ServerM.sys ProcStat.get) := by
  refine sys_departs (World.Calm.bind (.mapErr _ (attempt_calm (fun w a made tables acted => ?_) rfl
    fun acts => nomatch acts)) fun _ => .lift World.Calm.refl _)
  split at acted
  · cases acted
    exact ⟨rfl, rfl⟩
  · cases acted

theorem dispatchMessage_handles (serving : Serving N old epfd lfd sfd [] s) (mem : fd ∈ s.server.clients)
    (messageBuffer : Bytes) (species : Species) (message : Message) :
    Handling (· ∈ epfd :: lfd :: s.server.clients) s
      (dispatchMessage fd messageBuffer species message) := by
  have about : fd ∈ epfd :: lfd :: s.server.clients :=
    List.mem_cons_of_mem _ (List.mem_cons_of_mem _ mem)
  unfold dispatchMessage
  split
  · exact .departs (Departs.bind (.result (sent_departs about _)) fun _ => Departs.refl)
  · exact .departs (.reading fun _ => Departs.bind (.mapErr _ (sent_departs about _)) fun _ =>
      Departs.refl)
  · split
    · exact handleSpawn_handles about messageBuffer fun _ => .pure fun _ => .inl
    · exact .departs Departs.refl
  · split
    · exact handleSpawn_handles about messageBuffer (becomeSubspecies_exits serving _ messageBuffer)
    · exact .departs Departs.refl
  · exact .departs (Departs.bind (.mapErr _ procStat_departs) fun _ =>
      Departs.bind (.mapErr _ (sent_departs about _)) fun _ => Departs.refl)
  · exact .departs Departs.refl

theorem dispatchMessageHandler_handles (serving : Serving N old epfd lfd sfd [] s)
    (mem : fd ∈ s.server.clients) (messageBuffer : Bytes) :
    Handling (· ∈ epfd :: lfd :: s.server.clients) s (dispatchMessageHandler fd messageBuffer) := by
  refine .bind _ (departs_exits (sys_departs (did_calm _))) fun _ => .read fun t before => ?_
  refine .bind _ ((departs_exits (.result (.lift Departs.refl _))).conseq (fun _ same => same ▸ before)
    (fun _ _ => id) (fun _ _ => id) fun _ => id) fun r => ?_
  split
  · exact dispatchMessage_handles serving mem messageBuffer _ _
  · exact .pure fun _ => id

theorem handleDatagram_handles (serving : Serving N old epfd lfd sfd [] s) (mem : fd ∈ s.server.clients)
    (datagram : Nat × Bytes) :
    Handling (· ∈ epfd :: lfd :: s.server.clients) s (handleDatagram fd datagram) := by
  unfold handleDatagram
  split
  · exact .departs Departs.refl
  · refine .read fun t before => .bind _ ((departs_exits (.result (.lift Departs.refl _))).conseq
      (fun _ same => same ▸ before) (fun _ _ => id) (fun _ _ => id) fun _ => id) fun r => ?_
    split
    · exact dispatchMessageHandler_handles serving mem _
    · exact .pure fun _ => .inl

/-- Whatever a client sends, the server is as it was, or it has become one of a subspecies. -/
theorem handleClientEvents_exits (serving : Serving N old epfd lfd sfd [] s)
    (mem : fd ∈ s.server.clients) :
    Exits (· = s) (handleClientEvents fd) (s.Answered (· ∈ epfd :: lfd :: s.server.clients))
      (fun _ => s.Broken (· ∈ epfd :: lfd :: s.server.clients)) fun _ => True := by
  have about : fd ∈ epfd :: lfd :: s.server.clients :=
    List.mem_cons_of_mem _ (List.mem_cons_of_mem _ mem)
  have loop := @tryUntilWouldBlock_exits _ _ _ _ _ ClientError.taskFailure
    (fun datagram => ServerM.sys (recvmsg messageBufferSize fd datagram)) (handleDatagram fd)
    (s.Departs (· ∈ epfd :: lfd :: s.server.clients)) (fun _ => True)
    (s.Answered (· ∈ epfd :: lfd :: s.server.clients))
    (fun _ => s.Broken (· ∈ epfd :: lfd :: s.server.clients))
    (fun _ => s.Departs (· ∈ epfd :: lfd :: s.server.clients)) (fun _ _ _ => recvmsg_exhausted)
    (fun datagram => ?_) (fun datagram => ?_)
    (s.world.env.inbox s.world.clock)
  · refine .read fun t same => ?_
    subst same
    refine .bind _ (loop.conseq (fun t same => same ▸ Departs.refl _) (fun _ _ => id) (fun _ _ => id)
      fun _ => id) fun exit => ?_
    cases exit with
    | early control => exact .pure fun _ => id
    | wouldBlock => exact .pure fun _ => .inl
  · refine Exits.conseq (.of_leads (departs_leads (sys_departs (recvmsg_calm about)))) (fun _ => id)
      (fun _ _ => id) (fun errno t departs => ?_) fun _ _ => trivial
    split
    · exact departs
    · exact .inl departs
  · exact (handleDatagram_handles serving mem datagram).conseq (fun _ => id)
      (fun control _ h => by cases control <;> exact h) (fun _ _ => id) fun _ => id

end client

section signals
variable {about : RawFd → Prop}

theorem reapChildren_departs (children : List ChildInfo) :
    Within (Departs about) (reapChildren children) := by
  have failed : ∀ errno, Within (Departs about) (if errno = echild then Pure.pure ()
      else Prog.throw (.processAccounting (.libc errno)) : ServerM SignalHandlerError Unit) := by
    intro errno
    split <;> exact Departs.refl
  have waits : ∀ child, Within (Departs about) (ServerM.sys (waitid child)) := fun child =>
    sys_departs (plainCall_calm rfl rfl)
  induction children with
  | nil =>
      refine Departs.bind (.result (waits none)) fun r => ?_
      cases r with
      | ok child => exact Departs.refl
      | error errno => exact failed errno
  | cons child rest ih =>
      refine Departs.bind (.result (waits (some child))) fun r => ?_
      cases r with
      | error errno => exact failed errno
      | ok reaped =>
          cases reaped with
          | none => exact Departs.refl
          | some child =>
              refine Departs.bind ?_ fun _ => ih
              unfold handleReaped
              split
              · exact sys_departs (did_calm _)
              · exact Departs.refl

theorem handleSignalfdEvents_departs (fd : RawFd) :
    Within (Departs about) (handleSignalfdEvents fd) := by
  refine .reading fun s => Departs.bind ?_ fun exit => ?_
  · refine tryUntilWouldBlock_within Departs.refl Departs.trans (fun siginfo => ?_) (fun siginfo => ?_) _
    · exact sys_departs (takeAnswer_calm rfl fun acts => nomatch acts)
    · unfold handleSiginfo
      split
      · exact .reading fun s => Departs.bind (reapChildren_departs _) fun _ => Departs.refl
      · split
        · exact Departs.refl
        · split <;> exact Departs.refl
  · cases exit <;> exact Departs.refl

end signals

/-- The events of a batch that are still to be handled: each is of a member of the interest
set, and no two are of the same. -/
structure Due (lfd sfd : RawFd) (events : List EpollEvent) (s : Process) : Prop where
  listed : ∀ event ∈ events, ∃ data ∈ interests lfd sfd s.server.clients, event.data = data.toU64
  nodup : (events.map EpollEvent.data).Nodup

/-- The server is about to handle these events. -/
def Facing (N : Nat) (old : List Event) (epfd lfd sfd : RawFd) (events : List EpollEvent) (s : Process) :
    Prop := Serving N old epfd lfd sfd [] s ∧ Due lfd sfd events s

section events
variable {N : Nat} {old : List Event} {epfd lfd sfd fd : RawFd} {s t : Process} {event : EpollEvent}
  {rest : List EpollEvent} {data : EpollData}

theorem Facing.stands (h : Facing N old epfd lfd sfd rest s) : s.Stands := ⟨_, _, _, _, _, h.1⟩

theorem Facing.departs (h : Facing N old epfd lfd sfd rest s)
    (departs : s.Departs (· ∈ epfd :: lfd :: s.server.clients) t) : Facing N old epfd lfd sfd rest t :=
  ⟨h.1.departs departs, departs.server ▸ h.2.listed, h.2.nodup⟩

/-- What the server stored with a descriptor is read back from the word. -/
theorem decodes (serving : Serving N old epfd lfd sfd [] s)
    (mem : data ∈ interests lfd sfd s.server.clients) : EpollData.tryFrom data.toU64 = .ok data := by
  obtain ⟨fd, tag⟩ := data
  have opened : s.world.fds.isOpen fd = true := by
    refine serving.isOpen ?_
    rcases Serving.mem_interests.mp mem with same | same | ⟨-, mem⟩
    · cases same
      simp
    · cases same
      simp
    · simp [show fd ∈ s.server.clients from mem]
  obtain ⟨nonneg, small⟩ := Table.inside_of_isOpen opened
  have limit := serving.ledger.limit
  exact EpollData.tryFrom_toU64 tag nonneg (by omega)

theorem Facing.tryFrom (h : Facing N old epfd lfd sfd (event :: rest) s) :
    ∃ data ∈ interests lfd sfd s.server.clients, event.data = data.toU64 ∧
      EpollData.tryFrom event.data = .ok data := by
  obtain ⟨data, mem, word⟩ := h.2.listed event List.mem_cons_self
  exact ⟨data, mem, word, word ▸ decodes h.1 mem⟩

/-- The event has been handled; the clients of the others are still there. -/
theorem Facing.next (h : Facing N old epfd lfd sfd (event :: rest) s) (word : event.data = data.toU64)
    (serving : Serving N old epfd lfd sfd [] t)
    (stays : ∀ fd ∈ s.server.clients, (data.tag = .client → fd ≠ data.fd) → fd ∈ t.server.clients) :
    Facing N old epfd lfd sfd rest t := by
  refine ⟨serving, fun other mem => ?_, (List.nodup_cons.mp h.2.nodup).2⟩
  obtain ⟨data', member, word'⟩ := h.2.listed other (List.mem_cons_of_mem _ mem)
  refine ⟨data', Serving.mem_interests.mpr ?_, word'⟩
  refine (Serving.mem_interests.mp member).imp id (Or.imp id fun client => ⟨client.1, ?_⟩)
  refine stays _ client.2 fun tag same => (List.nodup_cons.mp h.2.nodup).1 ?_
  have equal : data' = data := by
    cases data
    cases data'
    cases same
    cases client.1.trans tag.symm
    rfl
  exact word.trans (equal ▸ word').symm ▸ List.mem_map_of_mem mem

/-- A client that hung up or failed is removed. -/
theorem removeClientSocket_faces (word : event.data = data.toU64) (client : data.tag = .client) :
    Exits (fun s => Facing N old epfd lfd sfd (event :: rest) s ∧ data.fd ∈ s.server.clients)
      ((removeClientSocket data.fd).mapErr ServerError.clientFailure)
      (fun _ => Facing N old epfd lfd sfd rest) (fun _ _ => True) fun _ => True := by
  refine .mapErr ?_
  rintro s ⟨facing, mem⟩
  cases run : removeClientSocket data.fd s with
  | mk o t =>
      have removal := facing.1.removeClientSocket_removes mem run
      cases o with
      | ok _ =>
          obtain ⟨serving, clients⟩ := removal.serves rfl
          refine facing.next word serving fun fd member apart => ?_
          rw [clients]
          exact (List.mem_erase_of_ne (apart client)).mpr member
      | err error => exact trivial
      | panic reason => exact trivial

/-- What a handled event leaves to be settled. -/
def Settling (N : Nat) (old : List Event) (epfd lfd sfd : RawFd) (events : List EpollEvent)
    (data : EpollData) : Except ServerError ServerControl → Process → Prop
  | .ok .pollContinue => fun t => Facing N old epfd lfd sfd events t ∧
      (data.tag = .client → data.fd ∈ t.server.clients)
  | .ok _ => fun t => t.Stands
  | .error (.clientFailure _) => fun t => t.Failed ∨ Facing N old epfd lfd sfd events t ∧
      data.tag = .client ∧ data.fd ∈ t.server.clients
  | .error (.serverSocketFailure .tooManyClients) => fun t => Facing N old epfd lfd sfd events t ∧
      data.tag ≠ .client
  | .error _ => fun _ => True

theorem Facing.more {events : List EpollEvent} (h : Facing N old epfd lfd sfd events s)
    (serving : Serving N old epfd lfd sfd [] t)
    (stays : ∀ fd ∈ s.server.clients, fd ∈ t.server.clients) :
    Facing N old epfd lfd sfd events t := by
  refine ⟨serving, fun event mem => ?_, h.2.nodup⟩
  obtain ⟨data, member, word⟩ := h.2.listed event mem
  refine ⟨data, Serving.mem_interests.mpr ?_, word⟩
  exact (Serving.mem_interests.mp member).imp id (Or.imp id (And.imp id (stays _)))

theorem mem_clients {clients : List RawFd} (mem : data ∈ interests lfd sfd clients)
    (client : data.tag = .client) : data.fd ∈ clients := by
  rcases Serving.mem_interests.mp mem with rfl | rfl | ⟨-, member⟩
  · cases client
  · cases client
  · exact member

theorem handleEvent_settles {events : List EpollEvent} (facing : Facing N old epfd lfd sfd events s)
    (mem : data ∈ interests lfd sfd s.server.clients) :
    Exits (· = s) ((handleEvent data).result : ServerM ServerError (Except ServerError ServerControl))
      (Settling N old epfd lfd sfd events data) (fun _ _ => True) fun _ => True := by
  obtain ⟨fd, tag⟩ := data
  refine .result ?_
  cases tag with
  | client =>
      have client : fd ∈ s.server.clients := mem_clients mem rfl
      refine .mapErr ((handleClientEvents_exits facing.1 client).conseq (fun _ => id) ?_ ?_ fun _ => id)
      · rintro control t (departs | ⟨rfl, stands⟩)
        · have facing := facing.departs departs
          cases control with
          | pollContinue => exact ⟨facing, fun _ => departs.server ▸ client⟩
          | _ => exact facing.stands
        · exact stands
      · rintro error t (departs | failed)
        · exact .inr ⟨facing.departs departs, rfl, departs.server ▸ client⟩
        · exact .inl failed
  | server =>
      obtain rfl : fd = lfd := by
        rcases Serving.mem_interests.mp mem with same | same | ⟨tag, -⟩
        · cases same
          rfl
        · cases same
        · cases tag
      refine .mapErr ((@handleServerEvents_exits N old epfd fd sfd s.server.clients).conseq ?_ ?_ ?_
        fun _ _ => trivial)
      · rintro t rfl
        exact ⟨facing.1, fun _ => id⟩
      · rintro control t ⟨rfl, accepting⟩
        exact ⟨facing.more accepting.serves accepting.stays, fun tag => nomatch tag⟩
      · rintro error t ⟨refused, -⟩
        cases error with
        | tooManyClients =>
            have accepting := refused rfl
            exact ⟨facing.more accepting.serves accepting.stays, fun tag => nomatch tag⟩
        | _ => exact trivial
  | signal =>
      have handled := @departs_leads s (· ∈ epfd :: lfd :: s.server.clients) _ _ _
        (handleSignalfdEvents_departs fd)
      refine .mapErr (Exits.conseq (.of_leads handled) ?_ (fun control t departs => ?_)
        (fun _ _ _ => trivial) fun _ _ => trivial)
      · rintro t rfl
        exact Departs.refl t
      · have facing := facing.departs departs
        cases control with
        | pollContinue => exact ⟨facing, fun tag => nomatch tag⟩
        | _ => exact facing.stands

/-- The event is settled, and the server faces the others or leaves the batch as a server. -/
def Faced (N : Nat) (old : List Event) (epfd lfd sfd : RawFd) (rest : List EpollEvent) :
    LoopControl ServerControl → Process → Prop
  | .continue => fun t => Facing N old epfd lfd sfd rest t ∨ t.Failed
  | .break _ => fun t => t.Stands ∨ t.Failed

theorem handleHangup_faces (word : event.data = data.toU64) :
    Exits (fun t => Facing N old epfd lfd sfd (event :: rest) t ∧
        (data.tag = .client → data.fd ∈ t.server.clients))
      (handleHangup event data) (fun _ => Facing N old epfd lfd sfd rest) (fun _ _ => True)
      fun _ => True := by
  unfold handleHangup
  split
  · split
    · next client =>
      refine (removeClientSocket_faces word client).conseq (fun t h => ⟨h.1, h.2 client⟩) (fun _ _ => id)
        (fun _ _ => id) fun _ => id
    · exact fun _ _ => trivial
  · exact .pure fun t h => h.1.next word h.1.1 fun _ mem _ => mem

/-- A failure is on the record for good. -/
theorem failed_frame : Frame (fun _ => True) fun s t => s.Failed → t.Failed where
  refl _ := id
  trans h k := k ∘ h
  keeps keeps failed := failed.later keeps.world
  tailor socketPath s failed := failed.later
    (@tailor_does (fun _ => True) (fun _ _ => trivial) socketPath s)

theorem failed_exits {ε α : Type} {p : ServerM ε α} (h : Within (fun s t => s.Failed → t.Failed) p) :
    Exits Failed p (fun _ => Failed) (fun _ _ => True) fun _ => True := by
  have leads : Leads Failed p (fun _ => Failed) Failed := .within h fun _ _ failed still => still failed
  exact Exits.conseq (.of_leads leads) (fun _ => id) (fun _ _ => id) (fun _ _ _ => trivial)
    fun _ _ => trivial

theorem settle_faces (word : event.data = data.toU64) (r : Except ServerError ServerControl) :
    Exits (Settling N old epfd lfd sfd (event :: rest) data r) (settle event data (some r))
      (Faced N old epfd lfd sfd rest) (fun _ _ => True) fun _ => True := by
  cases r with
  | ok control =>
      cases control with
      | pollContinue => exact .bind _ (handleHangup_faces word) fun _ => .pure fun _ => .inl
      | _ => exact .pure fun _ => .inl
  | error error =>
      cases error with
      | clientFailure error =>
          refine .bind (fun _ t => Facing N old epfd lfd sfd rest t ∨ t.Failed) ?_
            fun _ => .pure fun _ => id
          refine .either ?_ fun t ⟨facing, client, mem⟩ => ?_
          · exact (failed_exits (failed_frame.of_keeps
              (.mapErr _ (removeClientSocket_keeps data.fd)))).conseq
              (fun _ => id) (fun _ _ => .inr) (fun _ _ => id) fun _ => id
          · exact (removeClientSocket_faces word client).conseq (fun _ => id) (fun _ _ => .inl)
              (fun _ _ => id) (fun _ => id) t ⟨facing, mem⟩
      | serverSocketFailure error =>
          cases error with
          | tooManyClients =>
              exact .pure fun t h => .inl (h.1.next word h.1.1 fun _ mem _ => mem)
          | _ => exact .throw fun _ _ => trivial
      | _ => exact .throw fun _ _ => trivial

theorem fork_failed : Within (fun s t => s.Failed → t.Failed) (ServerM.sys fork) := by
  intro s failed
  obtain ⟨event, mem, call⟩ := failed
  obtain ⟨newer, split, -⟩ := (@fork_calm (fun _ => True) s.world).log
  exact ⟨event, split ▸ List.mem_append_right _ mem, call⟩

theorem eventData_ok (h : eventData event = .ok data) : EpollData.tryFrom event.data = .ok data := by
  unfold eventData at h
  split at h
  · obtain ⟨_, -, failed⟩ := Outcome.bind_eq_ok.mp h
    cases failed
  · exact h

/-- One event of a batch, whatever comes of it. -/
theorem checkEvent_faces (event : EpollEvent) (rest : List EpollEvent) :
    Exits (fun s => Facing N old epfd lfd sfd (event :: rest) s ∨ s.Failed) (checkEvent event)
      (Faced N old epfd lfd sfd rest) (fun _ _ => True) fun _ => True := by
  refine .either (fun s facing => ?_) ?_
  · obtain ⟨data, mem, word, decoded⟩ := facing.tryFrom
    have handles : Exits (· = s) (checkEvent event) (Faced N old epfd lfd sfd rest) (fun _ _ => True)
        fun _ => True := by
      refine .bind (fun read t => read = data ∧ t = s) ?_ fun read => ?_
      · refine Triple.lift (fun read t known same => ⟨?_, same⟩) (fun _ _ _ _ => trivial)
          fun _ _ _ _ => trivial
        exact Outcome.ok.inj ((eventData_ok known).symm.trans decoded)
      · by_cases same : read = data
        case neg => exact fun t h => absurd h.1 same
        subst same
        split
        · refine .bind (Settling N old epfd lfd sfd (event :: rest) read) ?_ fun r => settle_faces word r
          rintro t ⟨-, rfl⟩
          exact handleEvent_settles facing mem t rfl
        · refine .bind (fun _ => Facing N old epfd lfd sfd rest) ?_ fun _ => .pure fun _ => .inl
          refine (handleHangup_faces word).conseq ?_ (fun _ _ => id) (fun _ _ => id) fun _ => id
          rintro t ⟨-, rfl⟩
          exact ⟨facing, mem_clients mem⟩
    exact handles s rfl
  · have still := failed_exits (checkEvent_within failed_frame fork_failed (fun _ _ => trivial) event)
    refine still.conseq (fun _ => id) (fun control t failed => ?_) (fun _ _ => id) fun _ => id
    cases control with
    | «continue» => exact .inr failed
    | «break» control => exact .inr failed

/-- A batch leaves a server that has not failed as one. -/
theorem checkEpollEvents_stands (events : List EpollEvent) :
    Exits (fun s => Facing N old epfd lfd sfd events s ∨ s.Failed) (checkEpollEvents events)
      (fun _ t => t.Stands ∨ t.Failed) (fun _ _ => True) fun _ => True := by
  have loop := @Triple.untilBreak _ _ _ True (fun _ _ => True) _ checkEvent
    (fun rest s => Facing N old epfd lfd sfd rest s ∨ s.Failed) (fun _ t => t.Stands ∨ t.Failed)
    (fun event rest => (checkEvent_faces event rest).conseq (fun _ => id)
      (fun control t faced => by cases control <;> exact faced) (fun _ _ => id) fun _ => id) events
  refine Exits.bind _ loop fun r => ?_
  cases r with
  | some control => exact .pure fun _ => id
  | none => exact .pure fun t h => h.imp Facing.stands id

end events

section serve
variable {s t : Process}

theorem epollWait_ok {epfd : RawFd} {capacity : Nat} {events : List EpollEvent} {w w' : World}
    (h : epollWait epfd capacity w = (.ok events, w')) :
    events = (w.env.ready w.clock).take capacity ∧ w' = w.note (.epollWait epfd) none := by
  obtain ⟨-, made, tables, acted, rfl⟩ := attempt_ok_iff.mp h
  split at acted
  · cases acted
  · split at acted
    · cases acted
      exact ⟨rfl, rfl⟩
    · cases acted

/-- A fair batch is one the server can handle. -/
theorem fair_facing {N : Nat} {old : List Event} {epfd lfd sfd : RawFd} (fair : s.Fair)
    (serving : Serving N old epfd lfd sfd [] s) :
    Facing N old epfd lfd sfd ((s.world.env.ready s.world.clock).take bufferSizeEpollEvents)
      ⟨s.server, s.world.note (.epollWait epfd) none⟩ := by
  obtain ⟨ep, behind, isEpoll, watched, listed⟩ := serving.polls
  obtain ⟨nodup, named⟩ := fair epfd ep serving.epollHandle behind
  refine ⟨serving.noted (.epollWait epfd) rfl (fun acts => nomatch acts), fun event mem => ?_, nodup⟩
  obtain ⟨watch, member, word⟩ := named event mem
  obtain ⟨-, data, known, -, stored, -⟩ := watched watch member
  exact ⟨data, known, word.symm.trans stored⟩

theorem serveOnce_stands : Exits (fun s => s.Stands ∧ s.Fair ∨ s.Failed) serveOnce
    (fun _ t => t.Stands ∨ t.Failed) (fun _ _ => True) fun _ => True := by
  refine .either ?_ ?_
  · rintro s ⟨⟨N, old, epfd, lfd, sfd, serving⟩, fair⟩
    have round : Exits (· = s) serveOnce (fun _ t => t.Stands ∨ t.Failed) (fun _ _ => True)
        fun _ => True := by
      refine .bind _ (@unwrap_exits _ ServerError (· = s) _ _ Server.epollHandle epfd ?_) fun a => ?_
      · rintro t rfl
        exact serving.epollHandle
      refine .bind (fun events t => Facing N old epfd lfd sfd events t) (.mapErr ?_) fun events => ?_
      · refine (attempt_exits (fun t events w same run => ?_) fun _ _ _ => trivial).conseq (fun _ => id)
          (fun _ _ => id) (fun _ _ => id) fun _ => id
        obtain ⟨rfl, rfl⟩ := same
        obtain ⟨rfl, rfl⟩ := epollWait_ok run
        exact fair_facing fair serving
      · refine .bind (fun _ t => t.Stands ∨ t.Failed)
          ((checkEpollEvents_stands events).conseq (fun _ => .inl)
          (fun _ _ => id) (fun _ _ => id) fun _ => id) fun control => ?_
        cases control <;> exact .pure fun _ => id
    exact round s rfl
  · exact (failed_exits (serveOnce_within failed_frame fork_failed fun _ _ => trivial)).conseq
      (fun _ => id) (fun _ _ => .inr) (fun _ _ => id) fun _ => id

end serve
end Server
end Zygote
