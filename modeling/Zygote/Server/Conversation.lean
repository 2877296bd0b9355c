import Zygote.Server.Queue

/-!
# Conversations with the clients

What was said on the connections of a server is a sequence of exchanges: a datagram was
read, a child may have been forked for it, and it may have been answered, before anything
else was read.
-/
namespace Zygote
open Effect Descriptors Prog

namespace Server

structure Exchange where
  pid : Nat
  connection : Option Nat
  datagram : Bytes
  child : Option Nat
  response : Option Bytes

namespace Exchange

/-- What the exchange leaves on the trace, the latest first. -/
def deeds (x : Exchange) : List (Nat × Deed) :=
  (x.response.map fun response => (x.pid, Deed.sent x.connection response)).toList ++
    ((x.child.map fun newPid => (x.pid, Deed.forked newPid)).toList ++
      [(x.pid, .received x.connection x.datagram)])

/-- The datagram carries the message. An empty one says that the client has closed its side. -/
def Asks (x : Exchange) (env : Env) (message : Message) : Prop :=
  x.datagram ≠ [] ∧
    Message.tryFromParcel env.root (received messageBufferSize x.datagram).2 = .ok message

/-- What was sent answers a request the species accepts. -/
def Honest (env : Env) (species : Species) (x : Exchange) : Prop :=
  ∀ response, x.response = some response → ∃ message answer, x.Asks env message ∧
    message.Accepted species ∧ message.IsAnswer x.child answer ∧
      response = env.finishedData answer.toParcel

/-- The process that read the datagram closed the connection it came by. -/
def Closed (w : World) (x : Exchange) : Prop :=
  ∃ event ∈ w.log, event.pid = x.pid ∧ event.on = x.connection ∧ ∃ fd, event.call = .close fd

/-- The process that read the datagram has answered it, unless there was nothing to answer or
the connection is closed. -/
def Settled (env : Env) (species : Species) (w : World) (x : Exchange) : Prop :=
  x.response = none → x.pid = w.pid →
    (∀ message, x.Asks env message → ¬message.Accepted species) ∨ x.Closed w

variable {env : Env} {species : Species} {x : Exchange} {v w : World}

theorem Settled.later (h : x.Settled env species w) (known : ∃ event ∈ w.log, event.pid = x.pid)
    (ages : w.Ages v) : x.Settled env species v := by
  intro unanswered same
  have still : x.pid = w.pid := not_not.mp fun apart => ages.fresh apart known same
  rcases h unanswered still with unwanted | ⟨event, mem, closed⟩
  · exact Or.inl unwanted
  · exact Or.inr ⟨event, ages.mem_log mem, closed⟩

end Exchange

/-- The trace of the process is made of exchanges; those that are not settled are pending. -/
structure Conversation (env : Env) (species : Species) (pending : World → Exchange → Prop)
    (s : Process) : Prop where
  kernel : s.world.env = env
  serves : s.server.species = species
  talk : ∃ exchanges : List Exchange, s.world.talk = exchanges.flatMap Exchange.deeds ∧
    ∀ x ∈ exchanges, x.Honest env species ∧ (∃ event ∈ s.world.log, event.pid = x.pid) ∧
      (x.Settled env species s.world ∨ pending s.world x)

/-- All is settled. -/
abbrev Quiet (env : Env) (species : Species) : Process → Prop :=
  Conversation env species fun _ _ => False

/-- What is pending has come by the descriptor. -/
abbrev PendingOn (env : Env) (species : Species) (fd : RawFd) : Process → Prop :=
  Conversation env species fun w x => x.connection = w.fds.fileOf fd

/-- Nothing is said about what is pending. -/
abbrev Heard (env : Env) (species : Species) : Process → Prop :=
  Conversation env species fun _ _ => True

section steps
variable {env : Env} {species : Species} {pending pending' : World → Exchange → Prop}
  {fd : RawFd} {s t : Process}

/-- Silent steps leave the exchanges as they are. -/
theorem Conversation.later (h : Conversation env species pending s) (ages : s.world.Ages t.world)
    (talk : t.world.talk = s.world.talk) (same : t.server.species = s.server.species)
    (carry : ∀ x, pending s.world x → x.Settled env species t.world ∨ pending' t.world x) :
    Conversation env species pending' t := by
  obtain ⟨exchanges, said, all⟩ := h.talk
  refine ⟨ages.env.trans h.kernel, same.trans h.serves, exchanges, talk.trans said, fun x mem => ?_⟩
  obtain ⟨honest, ⟨event, logged, pid⟩, state⟩ := all x mem
  refine ⟨honest, ⟨event, ages.mem_log logged, pid⟩, ?_⟩
  rcases state with settled | waits
  · exact Or.inl (settled.later ⟨event, logged, pid⟩ ages)
  · exact carry x waits

theorem Conversation.weaken (h : Conversation env species pending s)
    (carry : ∀ x, pending s.world x → pending' s.world x) : Conversation env species pending' s :=
  h.later (.refl _) rfl rfl fun x waits => Or.inr (carry x waits)

theorem Quiet.pends (h : Quiet env species s) : PendingOn env species fd s :=
  h.weaken fun _ => False.elim

theorem PendingOn.heard (h : PendingOn env species fd s) : Heard env species s :=
  h.weaken fun _ _ => trivial

theorem Quiet.heard (h : Quiet env species s) : Heard env species s := h.weaken fun _ => False.elim

theorem quiet_keeps {ε α : Type} {p : ServerM ε α} (h : Within (Process.Keeps Deed.Silent) p) :
    Leads (Quiet env species) p (fun _ => Quiet env species) (Quiet env species) :=
  .within h fun _ _ quiet keeps =>
    Conversation.later quiet keeps.world.ages keeps.world.talk keeps.species fun _ => False.elim

/-- A datagram has been read on the descriptor and nothing has come of it yet. -/
structure Receiving (env : Env) (species : Species) (fd : RawFd) (datagram : Nat × Bytes)
    (s : Process) : Prop where
  kernel : s.world.env = env
  serves : s.server.species = species
  buffer : (received messageBufferSize (datagram.2.take datagram.1)).2 = datagram.2
  empty : datagram.2.take datagram.1 = [] ↔ datagram.1 = 0
  known : ∃ event ∈ s.world.log, event.pid = s.world.pid
  talk : ∃ exchanges : List Exchange,
    s.world.talk = (s.world.pid, .received (s.world.fds.fileOf fd) (datagram.2.take datagram.1)) ::
      exchanges.flatMap Exchange.deeds ∧
    ∀ x ∈ exchanges, x.Honest env species ∧ (∃ event ∈ s.world.log, event.pid = x.pid) ∧
      x.Settled env species s.world

theorem received_again (bufferSize : Nat) (datagram : Bytes) :
    received bufferSize (datagram.take bufferSize) = received bufferSize datagram := by
  simp only [received, List.take_take, min_self, List.length_take, Prod.mk.injEq, true_and]
  congr 2
  omega

theorem received_take (bufferSize : Nat) (datagram : Bytes) :
    (received bufferSize datagram).2.take (received bufferSize datagram).1 =
      datagram.take bufferSize := by
  simp [received]

theorem recvmsg_receiving (answer : Option Bytes) :
    Leads (Quiet env species) (ServerM.sys (recvmsg messageBufferSize fd answer))
      (Receiving env species fd) (Quiet env species) := by
  intro s quiet
  have taken : Within (Process.Keeps Deed.Silent) (ServerM.sys (takeAnswer (.recvmsg fd) fd
      (answer.map (received messageBufferSize)))) := attempt_keeps fun _ => nofun
  have keeps := taken s
  unfold ServerM.sys Prog.focus at keeps ⊢
  unfold recvmsg doing
  cases run : takeAnswer (.recvmsg fd) fd (answer.map (received messageBufferSize)) s.world with
  | mk o v =>
      rw [run] at keeps
      have later : Quiet env species ⟨s.server, v⟩ :=
        quiet.later keeps.world.ages keeps.world.talk rfl fun _ => False.elim
      cases o with
      | err e => exact later
      | panic m => exact later
      | ok read =>
          obtain ⟨given, rfl⟩ := takeAnswer_ok run
          obtain ⟨datagram, -, rfl⟩ := Option.map_eq_some_iff.mp given
          obtain ⟨exchanges, said, all⟩ := later.talk
          have filled := received_take messageBufferSize datagram
          refine ⟨later.kernel, later.serves, ?_, ?_, ⟨_, List.mem_cons_self, rfl⟩, exchanges,
            congrArg (_ :: ·) said, fun x mem => ?_⟩
          · rw [filled, received_again]
          · rw [filled]
            exact List.length_eq_zero_iff.symm
          · obtain ⟨honest, known, settled | none⟩ := all x mem
            · exact ⟨honest, known, settled⟩
            · exact none.elim

/-- What comes of the datagram that has been read. -/
def exchange (fd : RawFd) (datagram : Nat × Bytes) (s : Process) (child : Option Nat)
    (response : Option Bytes) : Exchange :=
  ⟨s.world.pid, s.world.fds.fileOf fd, datagram.2.take datagram.1, child, response⟩

section receiving
variable {datagram : Nat × Bytes} (receiving : Receiving env species fd datagram s)
include receiving

theorem Receiving.concludes {child : Option Nat} {response : Option Bytes} (ages : s.world.Ages t.world)
    (same : t.server.species = s.server.species)
    (talk : t.world.talk =
      (response.map fun r => (s.world.pid, Deed.sent (s.world.fds.fileOf fd) r)).toList ++
        ((child.map fun newPid => (s.world.pid, Deed.forked newPid)).toList ++ s.world.talk))
    (honest : (exchange fd datagram s child response).Honest env species)
    (state : (exchange fd datagram s child response).Settled env species t.world ∨
      pending t.world (exchange fd datagram s child response)) :
    Conversation env species pending t := by
  obtain ⟨exchanges, said, all⟩ := receiving.talk
  refine ⟨ages.env.trans receiving.kernel, same.trans receiving.serves,
    exchange fd datagram s child response :: exchanges, ?_, ?_⟩
  · rw [talk, said, List.flatMap_cons]
    simp [Exchange.deeds, exchange]
  · refine List.forall_mem_cons.mpr ⟨⟨honest, ?_, state⟩, fun x mem => ?_⟩
    · obtain ⟨event, logged, pid⟩ := receiving.known
      exact ⟨event, ages.mem_log logged, pid⟩
    · obtain ⟨honest, ⟨event, logged, pid⟩, settled⟩ := all x mem
      exact ⟨honest, ⟨event, ages.mem_log logged, pid⟩,
        Or.inl (settled.later ⟨event, logged, pid⟩ ages)⟩

/-- A datagram that is no message has no answer to wait for. -/
theorem Receiving.ignores (invalid : datagram.1 = 0 ∨
    ∀ message, Message.tryFromParcel env.root datagram.2 ≠ .ok message) : Quiet env species s := by
  refine @Receiving.concludes env species _ fd s s datagram receiving none none (.refl _) rfl rfl
    (fun _ absent => nomatch absent) (Or.inl fun _ _ => Or.inl fun message asks => ?_)
  rcases invalid with empty | none
  · exact absurd (receiving.empty.mpr empty) asks.1
  · exact absurd (receiving.buffer ▸ asks.2) (none message)

end receiving

theorem species_frame : Frame (fun _ => True) fun s t => t.server.species = s.server.species where
  refl _ := rfl
  trans h k := k.trans h
  keeps keeps := keeps.species
  tailor socketPath s := (@tailor_stays (fun _ => True) (fun _ _ => trivial) socketPath s).species

theorem dispatchMessageHandler_species (fd : RawFd) (messageBuffer : Bytes) (s : Process) :
    (dispatchMessageHandler fd messageBuffer s).2.server.species = s.server.species :=
  dispatchMessageHandler_within species_frame (fun _ => rfl) (fun _ _ _ => trivial) fd messageBuffer s

/-- What can be said when a handler has ended with a control. -/
def Handled (env : Env) (species : Species) (fd : RawFd) (control : ServerControl) (s : Process) :
    Prop :=
  (control = .pollContinue ∨ control = .pollBreak → Quiet env species s) ∧
    PendingOn env species fd s

theorem Quiet.handled {control : ServerControl} (h : Quiet env species s) :
    Handled env species fd control s := ⟨fun _ => h, h.pends⟩

theorem handleDatagram_converses (datagram : Nat × Bytes) :
    Leads (Receiving env species fd datagram) (handleDatagram fd datagram)
      (fun | .continue => Quiet env species | .break control => Handled env species fd control)
      (PendingOn env species fd) := by
  refine Ends.leads fun s receiving => ?_
  by_cases valid : datagram.1 ≠ 0 ∧
      ∃ message, Message.tryFromParcel s.world.env.root datagram.2 = .ok message
  · obtain ⟨filled, message, decoded⟩ := valid
    have ages := dispatchMessageHandler_ages fd datagram.2 s
    have same := dispatchMessageHandler_species fd datagram.2 s
    unfold Ends
    rw [handleDatagram_of_ok filled decoded]
    obtain ⟨child, response, reply⟩ := @dispatchMessageHandler_reply fd datagram.2 s message decoded
    revert ages same reply
    cases dispatchMessageHandler fd datagram.2 s with
    | mk o t =>
        intro ages same reply
        dsimp only at ages same reply ⊢
        have asks : (exchange fd datagram s child response).Asks env message := by
          refine ⟨fun empty => filled (receiving.empty.mp empty), ?_⟩
          rw [← receiving.kernel]
          exact (congrArg _ receiving.buffer).trans decoded
        have concludes : ∀ {pending : World → Exchange → Prop},
            (exchange fd datagram s child response).Settled env species t.world ∨
              pending t.world (exchange fd datagram s child response) →
            Conversation env species pending t := by
          refine receiving.concludes ages same reply.talk fun r said => ?_
          obtain ⟨accepted, answer, answers, bytes⟩ := reply.honest r said
          rw [receiving.serves] at accepted
          rw [receiving.kernel] at bytes
          exact ⟨message, answer, asks, accepted, answers, bytes⟩
        have pends : PendingOn env species fd t := by
          by_cases own : t.world.pid = s.world.pid
          · refine concludes (Or.inr ?_)
            rw [(reply.parent own).2]
            rfl
          · exact concludes (Or.inl fun _ same => absurd same.symm own)
        refine ⟨fun control run => ?_, fun _ => pends⟩
        cases control with
        | «continue» =>
            refine concludes (Or.inl fun unanswered _ => Or.inl fun other asked => ?_)
            cases Outcome.ok.inj (asks.2.symm.trans asked.2)
            rw [← receiving.serves]
            exact reply.complete run unanswered
        | «break» control =>
            obtain ⟨other, shuts⟩ := reply.breaks control run
            refine ⟨fun stops => concludes (Or.inl fun _ same => ?_), pends⟩
            rcases stops with rfl | rfl
            · exact absurd rfl other
            · cases (shuts same.symm).1
  · have invalid : datagram.1 = 0 ∨
        ∀ message, Message.tryFromParcel s.world.env.root datagram.2 ≠ .ok message := by
      rw [not_and_or, not_not, not_exists] at valid
      exact valid
    have quiet : Quiet env species s := receiving.ignores (receiving.kernel ▸ invalid)
    refine Ends.conseq (handleDatagram_invalid invalid) ?_
    · rintro o t ⟨breaks, rfl⟩
      refine ⟨fun a run => ?_, fun _ => quiet.pends⟩
      cases breaks a run
      exact quiet.handled

theorem handleClientEvents_converses (fd : RawFd) :
    Leads (Quiet env species) (handleClientEvents fd) (Handled env species fd)
      (PendingOn env species fd) := by
  have loop : ∀ supply, Leads (Quiet env species) (tryUntilWouldBlock ClientError.taskFailure
      (fun datagram => ServerM.sys (recvmsg messageBufferSize fd datagram)) (handleDatagram fd) supply)
      (fun | .early control => Handled env species fd control | .wouldBlock => Quiet env species)
      (PendingOn env species fd) := by
    intro supply
    have rule := @tryUntilWouldBlock_leads _ _ _ _ _ ClientError.taskFailure _ (handleDatagram fd)
      (Quiet env species) (PendingOn env species fd) (Handled env species fd) (Receiving env species fd)
      (fun _ => Quiet.pends) (fun s a t => recvmsg_exhausted) recvmsg_receiving
      (fun datagram => (handleDatagram_converses datagram).conseq (fun _ => id)
        (fun control s holds => by cases control <;> exact holds) fun _ => id) supply
    exact rule.conseq (fun _ => id) (fun exit s holds => by cases exit <;> exact holds) fun _ => id
  refine .read fun s => .conseq (.bind _ (loop _) fun exit => ?_) (fun _ => And.left) (fun _ _ => id)
    fun _ => id
  cases exit with
  | early control => exact .pure fun _ => id
  | wouldBlock => exact .pure fun s quiet => Quiet.handled quiet

/-- What was pending on a client that is removed is settled: the connection is closed. -/
theorem removeClientSocket_settles (fd : RawFd) :
    Leads (PendingOn env species fd) (removeClientSocket fd) (fun _ => Quiet env species)
      (Heard env species) := by
  have step : ∀ {ε α : Type} {p : ServerM ε α}, Within (Process.Keeps Deed.Silent) p →
      Within (fun s t => t.world.fds = s.world.fds) p →
      Leads (PendingOn env species fd) p (fun _ => PendingOn env species fd) (Heard env species) := by
    intro ε α p keeps fds s pending
    have later : PendingOn env species fd (p s).2 := pending.later (keeps s).world.ages
      (keeps s).world.talk (keeps s).species fun x waits => Or.inr (by rw [fds s, waits])
    revert later
    cases p s with
    | mk o t =>
        cases o with
        | ok a => exact id
        | err e => exact PendingOn.heard
        | panic m => exact PendingOn.heard
  have deletes : ∀ {epfd : RawFd}, (Call.epollDel epfd fd).Spares := by
    intro epfd path same
    cases same
  have closes : (Call.close fd).Spares := by
    intro path same
    cases same
  refine .bind (fun _ => PendingOn env species fd)
    (.mapErr _ (step (registry_keeps (remove_keeps fd)) ?_)) fun _ => ?_
  · intro s
    show (FileDescriptorRegistry.remove fd (s.server.registry, s.world)).2.2.fds = s.world.fds
    simp only [FileDescriptorRegistry.remove]
    split <;> rfl
  refine .bind (fun _ => PendingOn env species fd) (step (unwrap_keeps _) ?_) fun epollHandle => ?_
  · intro s
    unfold ServerM.unwrap
    split <;> rfl
  refine .bind (fun _ => PendingOn env species fd)
    (.mapErr _ (step (attempt_keeps deletes) fun s => epollCtl_fds s.world)) fun _ => ?_
  refine .read fun s => ?_
  split
  · exact .throw fun s pending => PendingOn.heard pending.1
  · refine .bind (fun _ => PendingOn env species fd) (.conseq (step (update_keeps (fun _ => rfl)
      (fun _ => rfl) (fun _ => rfl) fun _ => rfl) fun _ => rfl) (fun _ => And.left) (fun _ _ => id)
        fun _ => id)
      fun _ => .mapErr _ ?_
    intro s pending
    have does := @close_does Call.Spares Deed.Silent fd closes s.world
    have logged := close_log fd s.world
    unfold ServerM.sys Prog.focus
    revert does logged
    cases close fd s.world with
    | mk o v =>
        intro does logged
        dsimp only at does logged ⊢
        have settled : Quiet env species ⟨s.server, v⟩ := by
          refine pending.later does.ages does.talk rfl fun x waits => Or.inl fun _ same => Or.inr ?_
          refine ⟨⟨s.world.pid, .close fd, s.world.fds.fileOf fd, s.world.fds.next, none⟩, ?_,
            (same.trans does.pid).symm, waits.symm, fd, rfl⟩
          rw [logged]
          exact List.mem_cons_self
        cases o with
        | ok a => exact settled
        | err e => exact Quiet.heard settled
        | panic m => exact Quiet.heard settled

theorem settle_quiet (event : EpollEvent) (data : EpollData)
    (result : Option (Except ServerError ServerControl)) :
    Leads (Quiet env species) (settle event data result) (fun _ => Quiet env species)
      (Heard env species) :=
  (quiet_keeps (settle_keeps event data result)).conseq (fun _ => id) (fun _ _ => id)
    fun _ => Quiet.heard

/-- What can be said when an event has been handled: all is settled unless the server ends. -/
def Checked (env : Env) (species : Species) : LoopControl ServerControl → Process → Prop
  | .break .shutdown, s | .break (.trampoline _), s => Heard env species s
  | _, s => Quiet env species s

theorem Quiet.checked {control : LoopControl ServerControl} (h : Quiet env species s) :
    Checked env species control s := by
  unfold Checked
  split
  · exact h.heard
  · exact h.heard
  · exact h

/-- A client whose handler failed is removed, so that nothing is pending on it. -/
theorem checkEvent_converses (event : EpollEvent) :
    Leads (Quiet env species) (checkEvent event) (Checked env species) (Heard env species) := by
  have settles : ∀ data result, Leads (Quiet env species) (settle event data result)
      (Checked env species) (Heard env species) := fun data result =>
    (settle_quiet event data result).conseq (fun _ => id) (fun _ _ => Quiet.checked) fun _ => id
  have stays : ∀ {α : Type} {p : ServerM ServerError α}, Within (Process.Keeps Deed.Silent) p →
      Leads (Quiet env species) p (fun _ => Quiet env species) (Heard env species) := fun h =>
    (quiet_keeps h).conseq (fun _ => id) (fun _ _ => id) fun _ => Quiet.heard
  refine .bind (fun _ => Quiet env species) (stays (.lift Process.Keeps.refl _)) fun data => ?_
  split
  · have kept : data.tag ≠ .client → Within (Process.Keeps Deed.Silent) (handleEvent data) := by
      intro other
      unfold handleEvent
      cases tag : data.tag with
      | client => exact absurd tag other
      | server => exact .mapErr _ (handleServerEvents_keeps data.fd)
      | signal => exact .mapErr _ (handleSignalfdEvents_keeps (fun _ _ _ => ⟨rfl, rfl⟩) data.fd)
    by_cases tag : data.tag = .client
    · have events : handleEvent data = (handleClientEvents data.fd).mapErr .clientFailure := by
        rw [handleEvent, tag]
      rw [events]
      refine .bind (fun r s => (∀ control, r = .ok control → Handled env species data.fd control s) ∧
        ∀ e, r = .error e → (∃ failure, e = .clientFailure failure) ∧ PendingOn env species data.fd s)
        ?_ fun result => ?_
      · intro s quiet
        have handles := handleClientEvents_converses data.fd s quiet
        unfold Prog.result Prog.mapErr
        revert handles
        cases handleClientEvents data.fd s with
        | mk o t =>
            cases o with
            | ok control =>
                refine fun handled => ⟨fun other same => ?_, fun _ same => (nomatch same)⟩
                cases same
                exact handled
            | err failure =>
                refine fun pending => ⟨fun _ same => (nomatch same), fun e same => ?_⟩
                cases same
                exact ⟨⟨failure, rfl⟩, pending⟩
            | panic m => exact PendingOn.heard
      · cases result with
        | ok control =>
            have step : Leads (Handled env species data.fd control)
                (settle event data (some (.ok control))) (Checked env species) (Heard env species) := by
              cases control with
              | pollContinue =>
                  exact (settles data _).conseq (fun _ handled => handled.1 (Or.inl rfl)) (fun _ _ => id)
                    fun _ => id
              | pollBreak => exact .pure fun _ handled => handled.1 (Or.inr rfl)
              | shutdown => exact .pure fun _ handled => PendingOn.heard handled.2
              | trampoline thunk => exact .pure fun _ handled => PendingOn.heard handled.2
            exact step.conseq (fun _ h => h.1 control rfl) (fun _ _ => id) fun _ => id
        | error e =>
            intro s h
            obtain ⟨⟨failure, rfl⟩, pending⟩ := h.2 e rfl
            have step : Leads (PendingOn env species data.fd)
                (settle event data (some (.error (.clientFailure failure)))) (Checked env species)
                (Heard env species) :=
              .bind _ (.mapErr _ (removeClientSocket_settles data.fd)) fun _ => .pure fun _ => id
            exact step s pending
    · exact .bind (fun _ => Quiet env species) (stays (.result (kept tag))) fun result =>
        settles data (some result)
  · exact settles data none

theorem serveOnce_converses : Leads (Quiet env species) serveOnce
    (fun | .continue => Quiet env species | .break _ => Heard env species) (Heard env species) := by
  have stays : ∀ {ε α : Type} {p : ServerM ε α}, Within (Process.Keeps Deed.Silent) p →
      Leads (Quiet env species) p (fun _ => Quiet env species) (Heard env species) := fun h =>
    (quiet_keeps h).conseq (fun _ => id) (fun _ _ => id) fun _ => Quiet.heard
  refine .bind _ (stays (unwrap_keeps _)) fun epollHandle => ?_
  refine .bind _ (stays (.mapErr _ (attempt_keeps fun _ => nofun))) fun events => ?_
  refine .bind (fun control => Checked env species (.break control)) (.bind _ (@Leads.untilBreak _ _ _
    _ _ _ _ (fun control => Checked env species (.break control)) (fun event => ?_) events)
    fun exit => ?_) fun control => ?_
  · refine (checkEvent_converses event).conseq (fun _ => id) (fun control s checked => ?_) fun _ => id
    cases control <;> exact checked
  · cases exit with
    | none => exact .pure fun _ => id
    | some control => exact .pure fun _ => id
  · cases control <;> exact .pure fun _ => id

end steps

/-- Between the rounds of a server every exchange is settled. -/
theorem rounds_quiet {s : Process} (h : Rounds s) : Quiet s.world.env s.server.species s := by
  induction h with
  | @new config w w' server log trace made =>
      have does := @new_does Deed.Silent (fun _ _ => ⟨rfl, rfl⟩) false config w w' server made
      refine ⟨rfl, rfl, [], does.talk.trans ?_, List.forall_mem_nil _⟩
      rw [World.talk, trace]
      rfl
  | @serve s t h round ih =>
      have quiet := serveOnce_converses.ok_of ih round
      exact quiet.kernel ▸ quiet.serves ▸ quiet

/-- What was sent on the connection. -/
def sentOn (connection : Option Nat) : Nat × Deed → Option Bytes
  | (_, .sent on bytes) => if on = connection then some bytes else none
  | _ => none

/-- What was received on the connection. -/
def receivedOn (connection : Option Nat) : Nat × Deed → Option Bytes
  | (_, .received on bytes) => if on = connection then some bytes else none
  | _ => none

theorem filterMap_talk {α : Type} {select : Nat × Deed → Option α}
    (talks : ∀ done, done.2.isTalk = false → select done = none) (w : World) :
    w.trace.filterMap select = w.talk.filterMap select := by
  rw [World.talk, List.filterMap_filter]
  congr 1
  funext done
  cases talk : done.2.isTalk with
  | false => exact talks done talk
  | true => rfl

theorem sentOn_exchanges (connection : Option Nat) (exchanges : List Exchange) :
    (exchanges.flatMap Exchange.deeds).filterMap (sentOn connection) =
      (exchanges.filter (·.connection = connection)).filterMap Exchange.response := by
  induction exchanges with
  | nil => rfl
  | cons x rest ih =>
      rw [List.flatMap_cons, List.filterMap_append, ih]
      obtain ⟨pid, on, datagram, child, response⟩ := x
      by_cases same : on = connection
      · cases child <;> cases response <;> simp [Exchange.deeds, sentOn, same]
      · cases child <;> cases response <;> simp [Exchange.deeds, sentOn, same]

theorem receivedOn_exchanges (connection : Option Nat) (exchanges : List Exchange) :
    (exchanges.flatMap Exchange.deeds).filterMap (receivedOn connection) =
      (exchanges.filter (·.connection = connection)).map Exchange.datagram := by
  induction exchanges with
  | nil => rfl
  | cons x rest ih =>
      rw [List.flatMap_cons, List.filterMap_append, ih]
      obtain ⟨pid, on, datagram, child, response⟩ := x
      by_cases same : on = connection
      · cases child <;> cases response <;> simp [Exchange.deeds, receivedOn, List.filterMap_cons, same]
      · cases child <;> cases response <;> simp [Exchange.deeds, receivedOn, List.filterMap_cons, same]

/-- In every run, and however it ends, the trace is made of exchanges, so that what was sent on
a connection answers, in order and at most once each, what was received on it; and as long as
the server goes on, a request it has not answered is one that is no request, or one of a
connection that it has closed. -/
theorem responses_match {s t : Process} {o : Outcome ServerError (LoopControl (Option Thunk))}
    (h : Rounds s) (round : serveOnce s = (o, t)) : ∃ exchanges : List Exchange,
      t.world.talk = exchanges.flatMap Exchange.deeds ∧
      (∀ connection, t.world.trace.filterMap (sentOn connection) =
        (exchanges.filter (·.connection = connection)).filterMap Exchange.response) ∧
      (∀ connection, t.world.trace.filterMap (receivedOn connection) =
        (exchanges.filter (·.connection = connection)).map Exchange.datagram) ∧
      ∀ x ∈ exchanges, x.Honest t.world.env t.server.species ∧
        (o = .ok .continue → x.Settled t.world.env t.server.species t.world) := by
  have quiet := rounds_quiet h
  have ends := serveOnce_converses s quiet
  rw [round] at ends
  have conversation :
      Conversation s.world.env s.server.species (fun _ _ => o ≠ .ok .continue) t := by
    revert ends
    cases o with
    | ok control =>
        cases control with
        | «continue» => exact fun quiet => quiet.weaken fun _ => False.elim
        | «break» thunk => exact fun heard => heard.weaken fun _ _ => nofun
    | err e => exact fun heard => heard.weaken fun _ _ => nofun
    | panic m => exact fun heard => heard.weaken fun _ _ => nofun
  rw [conversation.kernel, conversation.serves]
  obtain ⟨exchanges, said, all⟩ := conversation.talk
  refine ⟨exchanges, said, fun connection => ?_, fun connection => ?_, fun x mem => ?_⟩
  · have talks : ∀ done : Nat × Deed, done.2.isTalk = false → sentOn connection done = none := by
      rintro ⟨pid, deed⟩ silent
      cases deed <;> first | rfl | cases silent
    rw [filterMap_talk talks, said, sentOn_exchanges]
  · have talks : ∀ done : Nat × Deed, done.2.isTalk = false → receivedOn connection done = none := by
      rintro ⟨pid, deed⟩ silent
      cases deed <;> first | rfl | cases silent
    rw [filterMap_talk talks, said, receivedOn_exchanges]
  · obtain ⟨honest, -, settled | ended⟩ := all x mem
    · exact ⟨honest, fun _ => settled⟩
    · exact ⟨honest, fun run => absurd run ended⟩

/-- What the server `zygote` says of itself. -/
def identityAnswer : Bytes :=
  [12, 0, 0, 0, 8, 0, 14, 0, 7, 0, 8, 0, 8, 0, 0, 0, 0, 0, 0, 4, 16, 0, 0, 0, 0, 0, 10, 0, 16, 0,
   4, 0, 8, 0, 12, 0, 10, 0, 0, 0, 36, 0, 0, 0, 20, 0, 0, 0, 4, 0, 0, 0, 6, 0, 0, 0, 120, 56, 54,
   95, 54, 52, 0, 0, 4, 0, 0, 0, 109, 111, 99, 107, 0, 0, 0, 0, 6, 0, 0, 0, 122, 121, 103, 111, 116,
   101, 0, 0]

/-- One client connects in the first round. When the second begins it has asked for the identity of
the server, and sent a byte that is no message. -/
def askingEnv : Env := { endedEnv with
  inbox := fun _ => [identityQuery, [255]]
  root := fun buffer => if buffer.take 32 = identityQuery then some ⟨.identityQuery⟩ else none
  finishedData := fun _ => identityAnswer }

def askingStart : Process := ⟨(started askingEnv).1.get (by decide), (started askingEnv).2⟩
def askingRound : Process := (serveOnce askingStart).2

theorem askingRound_rounds : Rounds askingRound := by
  have start : Rounds askingStart :=
    @Rounds.new (.turtle none none) (.boot askingEnv stdio) askingStart.world askingStart.server rfl rfl
      (Prod.ext (Outcome.eq_ok_get _ (by decide)) rfl)
  exact start.serve (Prod.ext (by decide) rfl)

/-- The first datagram is answered, the second is not. -/
theorem responses_match_asking :
    (serveOnce askingRound).2.world.trace.filterMap (sentOn (some 6)) = [identityAnswer] ∧
    (serveOnce askingRound).2.world.trace.filterMap (receivedOn (some 6)) = [[255], identityQuery] ∧
    ∃ exchanges : List Exchange,
      (serveOnce askingRound).2.world.talk = exchanges.flatMap Exchange.deeds ∧
      (∀ connection, (serveOnce askingRound).2.world.trace.filterMap (sentOn connection) =
        (exchanges.filter (·.connection = connection)).filterMap Exchange.response) ∧
      (∀ connection, (serveOnce askingRound).2.world.trace.filterMap (receivedOn connection) =
        (exchanges.filter (·.connection = connection)).map Exchange.datagram) ∧
      ∀ x ∈ exchanges,
        x.Honest (serveOnce askingRound).2.world.env (serveOnce askingRound).2.server.species ∧
        ((serveOnce askingRound).1 = .ok .continue →
          x.Settled (serveOnce askingRound).2.world.env (serveOnce askingRound).2.server.species
            (serveOnce askingRound).2.world) :=
  ⟨by decide +kernel, by decide +kernel, responses_match askingRound_rounds (Prod.ext rfl rfl)⟩

end Server
end Zygote
