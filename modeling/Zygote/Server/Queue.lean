import Mathlib.Data.List.TakeWhile
import Zygote.Server.Disconnect
import Zygote.Server.Replies

/-!
# The queue of a client that hung up

What a client sent before it closed its socket is still there to be read when the event
says that it hung up, and is gone once the client is removed.
-/
namespace Zygote
open Effect Descriptors Prog

namespace Server

/-- The buffer the datagram is read into decodes to a message. -/
def Decodes (env : Env) (datagram : Bytes) : Bool :=
  (Message.tryFromParcel env.root (received messageBufferSize datagram).2).isOk

/-- Why the messages behind this one may stay unread: it asked the server to exit, its handler
failed, or the process is the child it was forked for. -/
def Excuse (message : Message) (s : Process) (o : Outcome ClientError (LoopControl ServerControl))
    (t : Process) : Prop :=
  message = .exit ∨ o.isOk = false ∨ t.world.pid ≠ s.world.pid

instance (message : Message) (s : Process) (o : Outcome ClientError (LoopControl ServerControl))
    (t : Process) : Decidable (Excuse message s o t) := inferInstanceAs (Decidable (_ ∨ _ ∨ _))

def receive (fd : RawFd) (datagram : Bytes) (s : Process) : Process :=
  { s with
    world := (s.world.note (.recvmsg fd) none).did
      (.received (s.world.fds.fileOf fd) (datagram.take messageBufferSize)) }

/-- Read a queue as the clients expect: pass on every message in turn, and pass over
everything else. The state is where the reading ends, if no message was excuse enough to end
it early. -/
def readThrough (fd : RawFd) : List Bytes → Process → List Bytes × Option Process
  | [], s => ([], some s)
  | datagram :: rest, s =>
    let buffer := (received messageBufferSize datagram).2
    let u := receive fd datagram s
    match Message.tryFromParcel s.world.env.root buffer with
    | .ok message =>
        let handled := dispatchMessageHandler fd buffer u
        if Excuse message u handled.1 handled.2 then ([buffer], none)
        else (buffer :: (readThrough fd rest handled.2).1, (readThrough fd rest handled.2).2)
    | _ => readThrough fd rest u

/-- The client sent the queue and closed its socket. -/
structure HungUp (event : EpollEvent) (fd : RawFd) (queue : List Bytes) (s : Process) : Prop where
  data : EpollData.tryFrom event.data = .ok ⟨fd, .client⟩
  flags : event.events = epollIn ||| epollHup
  opened : s.world.fds.isOpen fd = true
  faultless : ∀ clock, s.world.env.fault clock (.recvmsg fd) = none
  sent : s.world.env.inbox s.world.clock = queue ++ [[]]
  nonempty : [] ∉ queue

/-- The record of passing on these messages, the latest first. -/
def passing (fd : RawFd) (s : Process) (buffers : List Bytes) : List (Nat × Deed) :=
  (buffers.map fun buffer => (s.world.pid, Deed.dispatched (s.world.fds.fileOf fd) buffer)).reverse

/-- Every message of the queue is passed on, in order and once, before the client is removed. -/
structure PassesOn (event : EpollEvent) (fd : RawFd) (queue : List Bytes) (s : Process) : Prop where
  read : (handleClientEvents fd s).2.world.dispatches =
    passing fd s (readThrough fd queue s).1 ++ s.world.dispatches
  once : (checkEvent event s).2.world.dispatches = (handleClientEvents fd s).2.world.dispatches

section reading
variable {fd : RawFd} {s t u : Process}

/-- The process is as before, with more on its record. -/
structure ReadsOn (s t : Process) : Prop where
  env : t.world.env = s.world.env
  pid : t.world.pid = s.world.pid
  tables : t.world.toTables = s.world.toTables

namespace ReadsOn

theorem refl (s : Process) : ReadsOn s s := ⟨rfl, rfl, rfl⟩

theorem trans (h : ReadsOn s t) (k : ReadsOn t u) : ReadsOn s u :=
  ⟨k.env.trans h.env, k.pid.trans h.pid, k.tables.trans h.tables⟩

theorem opened (h : ReadsOn s t) (opened : s.world.fds.isOpen fd = true) :
    t.world.fds.isOpen fd = true := by rwa [h.tables]

theorem passing_eq (h : ReadsOn s t) (buffers : List Bytes) :
    passing fd t buffers = passing fd s buffers := by
  rw [passing, passing, h.pid, h.tables]

end ReadsOn

theorem receive_readsOn (datagram : Bytes) : ReadsOn s (receive fd datagram s) := ⟨rfl, rfl, rfl⟩

theorem passing_append (early late : List Bytes) :
    passing fd s (early ++ late) = passing fd s late ++ passing fd s early := by
  simp [passing]

/-- Only the handler of a message is on the record of what was passed on. -/
theorem dispatches_frame : Frame (fun deed => deed.isDispatch = false) fun s t =>
    t.world.dispatches = s.world.dispatches where
  refl _ := rfl
  trans h k := k.trans h
  keeps keeps := World.filter_later keeps.world fun _ => id
  tailor socketPath s := World.filter_later (tailor_does (fun _ _ => rfl) socketPath s) fun _ => id

theorem fork_dispatches : Within (fun s t : Process => t.world.dispatches = s.world.dispatches)
    (ServerM.sys fork) := by
  intro s
  show (fork s.world).2.dispatches = s.world.dispatches
  rcases fork_cases s.world with ⟨errno, run⟩ | ⟨newPid, run⟩ | ⟨newPid, -, -, run⟩
  · rw [run]
    rfl
  · rw [run]
    rfl
  · rw [run]
    rfl

/-- A message is passed on once, and the reading goes on behind it unless there is an excuse. -/
theorem dispatchMessageHandler_passes {message : Message} {buffer : Bytes}
    (valid : Message.tryFromParcel s.world.env.root buffer = .ok message) :
    Ends (dispatchMessageHandler fd buffer) s fun o t =>
      t.world.dispatches = passing fd s [buffer] ++ s.world.dispatches ∧
        (o = .ok .continue ↔ ¬Excuse message s o t) ∧ (o = .ok .continue → ReadsOn s t) := by
  obtain ⟨child, response, reply⟩ := @dispatchMessageHandler_reply fd buffer s message valid
  have ages := dispatchMessageHandler_ages fd buffer s
  refine ⟨?_, ⟨fun run => ?_, fun stays => ?_⟩, fun run => ?_⟩
  · rw [dispatchMessageHandler_of_ok valid]
    refine (dispatchMessage_within dispatches_frame (fun _ _ => rfl) fork_dispatches fd buffer _
      message _).trans ?_
    rfl
  · obtain ⟨same, other⟩ := reply.goesOn run
    rintro (exit | failed | apart)
    · exact other exit
    · rw [run] at failed
      cases failed
    · exact apart same
  · cases run : (dispatchMessageHandler fd buffer s).1 with
    | ok control =>
        cases control with
        | «continue» => rfl
        | «break» control =>
            have same := not_not.mp fun apart => stays (Or.inr (Or.inr apart))
            exact absurd (Or.inl ((reply.breaks control run).2 same).2) stays
    | err e => exact absurd (Or.inr (Or.inl (by rw [run]; rfl))) stays
    | panic m => exact absurd (Or.inr (Or.inl (by rw [run]; rfl))) stays
  · have same := (reply.goesOn run).1
    exact ⟨ages.env, same, (reply.parent same).2⟩

/-- The loop of `handleClientEvents`. -/
def reads (fd : RawFd) : List Bytes → ServerM ClientError (LoopExit ServerControl) :=
  tryUntilWouldBlock ClientError.taskFailure
    (fun datagram => ServerM.sys (recvmsg messageBufferSize fd datagram)) (handleDatagram fd)

theorem receive_eq {datagram : Bytes} (opened : s.world.fds.isOpen fd = true)
    (faultless : ∀ clock, s.world.env.fault clock (.recvmsg fd) = none) :
    ServerM.sys (recvmsg messageBufferSize fd (some datagram)) s =
      (.ok (received messageBufferSize datagram), receive fd datagram s) :=
  ServerM.sys_eq.mpr ⟨recvmsg_some opened (faultless _), rfl⟩

theorem received_ne_zero {datagram : Bytes} (nonempty : datagram ≠ []) :
    (received messageBufferSize datagram).1 ≠ 0 := by
  cases datagram with
  | nil => exact absurd rfl nonempty
  | cons byte rest => simp [received, messageBufferSize]

section loop
variable {datagram : Bytes} (rest : List Bytes) (opened : s.world.fds.isOpen fd = true)
  (faultless : ∀ clock, s.world.env.fault clock (.recvmsg fd) = none)
include opened faultless

theorem reads_continue (handled : handleDatagram fd (received messageBufferSize datagram)
    (receive fd datagram s) = (.ok .continue, t)) :
    reads fd (datagram :: rest) s = reads fd rest t := by
  rw [reads, tryUntilWouldBlock, Prog.bind_result_ok (receive_eq opened faultless)]
  exact Prog.bind_of_ok handled _

theorem reads_stop (stops : (handleDatagram fd (received messageBufferSize datagram)
    (receive fd datagram s)).1 ≠ .ok .continue) :
    (reads fd (datagram :: rest) s).2 =
      (handleDatagram fd (received messageBufferSize datagram) (receive fd datagram s)).2 := by
  rw [reads, tryUntilWouldBlock, Prog.bind_result_ok (receive_eq opened faultless)]
  simp only [Prog.bind_apply]
  split
  · next control v run =>
    rw [run] at stops ⊢
    cases control with
    | «continue» => exact absurd rfl stops
    | «break» control => rfl
  · next e v run => rw [run]
  · next m v run => rw [run]

end loop

/-- The loop passes on nothing from there. -/
theorem reads_invalid {datagram : Bytes} (rest : List Bytes) (opened : s.world.fds.isOpen fd = true)
    (faultless : ∀ clock, s.world.env.fault clock (.recvmsg fd) = none)
    (invalid : datagram = [] ∨ Decodes s.world.env datagram = false) :
    (reads fd (datagram :: rest) s).2.world.dispatches = s.world.dispatches := by
  have unread : (received messageBufferSize datagram).1 = 0 ∨ ∀ message, Message.tryFromParcel
      s.world.env.root (received messageBufferSize datagram).2 ≠ .ok message := by
    rcases invalid with rfl | fails
    · exact Or.inl rfl
    · refine Or.inr fun message decoded => ?_
      rw [Decodes, decoded] at fails
      cases fails
  obtain ⟨breaks, state⟩ := @handleDatagram_invalid fd (receive fd datagram s) _ unread
  rw [reads_stop rest opened faultless (fun goes => nomatch breaks _ goes), state]
  rfl

theorem decodes_ok {env : Env} {datagram : Bytes} (h : Decodes env datagram = true) :
    ∃ message, Message.tryFromParcel env.root (received messageBufferSize datagram).2 = .ok message :=
  Outcome.isOk_iff.mp h

theorem readThrough_invalid {datagram : Bytes} (rest : List Bytes)
    (invalid : Decodes s.world.env datagram = false) :
    readThrough fd (datagram :: rest) s = readThrough fd rest (receive fd datagram s) := by
  unfold Decodes at invalid
  rw [readThrough]
  split
  · next message valid =>
    rw [valid] at invalid
    cases invalid
  · rfl

section message
variable {datagram : Bytes} {message : Message} {o : Outcome ClientError (LoopControl ServerControl)}
  (rest : List Bytes)
  (valid : Message.tryFromParcel s.world.env.root (received messageBufferSize datagram).2 =
    .ok message)
  (handled : dispatchMessageHandler fd (received messageBufferSize datagram).2
    (receive fd datagram s) = (o, t))
include valid handled

theorem readThrough_excused (excuse : Excuse message (receive fd datagram s) o t) :
    readThrough fd (datagram :: rest) s = ([(received messageBufferSize datagram).2], none) := by
  rw [readThrough]
  split
  · next other valid' =>
    cases Outcome.ok.inj (valid.symm.trans valid')
    simp only [handled, if_pos excuse]
  · next invalid => exact absurd valid (invalid message)

theorem readThrough_goesOn (late : ¬Excuse message (receive fd datagram s) o t) :
    readThrough fd (datagram :: rest) s =
      ((received messageBufferSize datagram).2 :: (readThrough fd rest t).1,
        (readThrough fd rest t).2) := by
  rw [readThrough]
  split
  · next other valid' =>
    cases Outcome.ok.inj (valid.symm.trans valid')
    simp only [handled, if_neg late]
  · next invalid => exact absurd valid (invalid message)

end message

theorem readThrough_append (early late : List Bytes) (s : Process) :
    (∀ u, (readThrough fd early s).2 = some u →
      (readThrough fd (early ++ late) s).1 =
        (readThrough fd early s).1 ++ (readThrough fd late u).1) ∧
    ((readThrough fd early s).2 = none →
      (readThrough fd (early ++ late) s).1 = (readThrough fd early s).1) := by
  induction early generalizing s with
  | nil =>
      refine ⟨?_, fun last => nomatch last⟩
      rintro u ⟨⟩
      rfl
  | cons datagram rest ih =>
      rw [List.cons_append]
      cases decodes : Decodes s.world.env datagram with
      | false =>
          rw [readThrough_invalid _ decodes, readThrough_invalid _ decodes]
          exact ih _
      | true =>
          obtain ⟨message, valid⟩ := decodes_ok decodes
          cases handled : dispatchMessageHandler fd (received messageBufferSize datagram).2
            (receive fd datagram s) with
          | mk o t =>
              by_cases excuse : Excuse message (receive fd datagram s) o t
              · simp only [readThrough_excused _ valid handled excuse]
                exact ⟨fun u last => (nomatch last), fun _ => True.intro⟩
              · simp only [readThrough_goesOn _ valid handled excuse]
                obtain ⟨through, ended⟩ := ih t
                refine ⟨fun u last => ?_, fun last => ?_⟩
                · rw [through u last, List.cons_append]
                · rw [ended last]

/-- Nothing is passed on exactly when there is no message at all. -/
theorem readThrough_nil_iff {queue : List Bytes} {env : Env} (same : s.world.env = env) :
    (readThrough fd queue s).1 = [] ↔ ∀ datagram ∈ queue, Decodes env datagram = false := by
  induction queue generalizing s with
  | nil => exact ⟨fun _ => List.forall_mem_nil _, fun _ => rfl⟩
  | cons datagram rest ih =>
      rw [List.forall_mem_cons]
      cases decodes : Decodes env datagram with
      | false =>
          rw [readThrough_invalid _ (same ▸ decodes), ih (s := receive fd datagram s) same]
          simp
      | true =>
          obtain ⟨message, valid⟩ := decodes_ok (same ▸ decodes)
          cases handled : dispatchMessageHandler fd (received messageBufferSize datagram).2
            (receive fd datagram s) with
          | mk o t =>
              by_cases excuse : Excuse message (receive fd datagram s) o t
              · simp [readThrough_excused _ valid handled excuse]
              · simp [readThrough_goesOn _ valid handled excuse]

/-- At the front of its supply the loop does what the clients expect. -/
structure ReadsFront (fd : RawFd) (front : List Bytes) (s : Process) : Prop where
  through : ∀ u, (readThrough fd front s).2 = some u → ReadsOn s u ∧
    u.world.dispatches = passing fd s (readThrough fd front s).1 ++ s.world.dispatches ∧
    ∀ rest, reads fd (front ++ rest) s = reads fd rest u
  ended : (readThrough fd front s).2 = none → ∀ rest,
    (reads fd (front ++ rest) s).2.world.dispatches =
      passing fd s (readThrough fd front s).1 ++ s.world.dispatches

theorem reads_valid {queue : List Bytes} (opened : s.world.fds.isOpen fd = true)
    (faultless : ∀ clock, s.world.env.fault clock (.recvmsg fd) = none)
    (nonempty : ∀ datagram ∈ queue, datagram ≠ [])
    (valid : ∀ datagram ∈ queue, Decodes s.world.env datagram = true) : ReadsFront fd queue s := by
  induction queue generalizing s with
  | nil =>
      refine ⟨?_, fun last => nomatch last⟩
      rintro u ⟨⟩
      exact ⟨.refl s, rfl, fun _ => rfl⟩
  | cons datagram rest ih =>
      obtain ⟨nonempty₀, nonempty⟩ := List.forall_mem_cons.mp nonempty
      obtain ⟨valid₀, valid⟩ := List.forall_mem_cons.mp valid
      obtain ⟨message, decoded⟩ := decodes_ok valid₀
      have same := @handleDatagram_of_ok fd (receive fd datagram s) _ message
        (received_ne_zero nonempty₀) decoded
      have passes := @dispatchMessageHandler_passes fd (receive fd datagram s) message _ decoded
      cases handled : dispatchMessageHandler fd (received messageBufferSize datagram).2
          (receive fd datagram s) with
      | mk o t =>
          obtain ⟨dispatched, excuse, goesOn⟩ := passes.of_run handled
          rw [handled] at same
          by_cases early : Excuse message (receive fd datagram s) o t
          · have front := readThrough_excused rest decoded handled early
            refine ⟨fun u last => ?_, fun _ later => ?_⟩
            · rw [front] at last
              cases last
            rw [front]
            have stops : o ≠ .ok .continue := fun goes => excuse.mp goes early
            rw [List.cons_append, reads_stop _ opened faultless (by rw [same]; exact stops), same]
            exact dispatched
          · have goes := excuse.mpr early
            have readsOn := (@receive_readsOn fd s datagram).trans (goesOn goes)
            subst goes
            have front := readThrough_goesOn rest decoded handled early
            obtain ⟨through, ended⟩ := ih (readsOn.opened opened) (readsOn.env ▸ faultless) nonempty
              (readsOn.env ▸ valid)
            have loop : ∀ later, reads fd (datagram :: rest ++ later) s = reads fd (rest ++ later) t :=
              fun later => reads_continue _ opened faultless same
            have record : passing fd t (readThrough fd rest t).1 ++ t.world.dispatches =
                passing fd s ((received messageBufferSize datagram).2 :: (readThrough fd rest t).1) ++
                  s.world.dispatches := by
              rw [readsOn.passing_eq, dispatched]
              exact (List.append_assoc _ _ _).symm.trans
                (congrArg (· ++ s.world.dispatches) (passing_append [_] _).symm)
            refine ⟨fun u last => ?_, fun last later => ?_⟩
            · rw [front] at last ⊢
              obtain ⟨more, dispatches, resumes⟩ := through u last
              exact ⟨readsOn.trans more, dispatches.trans record, fun later =>
                (loop later).trans (resumes later)⟩
            · rw [front] at last ⊢
              rw [loop, ended last, record]

theorem handleClientEvents_state (fd : RawFd) (s : Process) : (handleClientEvents fd s).2 =
    (reads fd (s.world.env.inbox s.world.clock) s).2 := by
  have ended : Ends (reads fd (s.world.env.inbox s.world.clock)) s fun _ t =>
      (reads fd (s.world.env.inbox s.world.clock) s).2 = t := rfl
  have whole : Ends (handleClientEvents fd) s fun _ t =>
      (reads fd (s.world.env.inbox s.world.clock) s).2 = t := by
    refine .read (.bind (ended.conseq fun o t same => ?_))
    cases o with
    | ok status => cases status <;> exact same
    | err e => exact same
    | panic m => exact same
  exact whole.symm

/-- In front of the first datagram that is no message there are only messages. -/
theorem reads_front {event : EpollEvent} {queue : List Bytes} (hungUp : HungUp event fd queue s) :
    ReadsFront fd (queue.takeWhile (Decodes s.world.env)) s :=
  reads_valid hungUp.opened hungUp.faultless
    (fun _ mem empty => hungUp.nonempty (empty ▸ List.takeWhile_subset (Decodes s.world.env) mem))
    fun _ mem => List.mem_takeWhile_imp mem

/-- The loop passes on the messages in front of the first datagram that is none. -/
theorem handleClientEvents_dispatches {event : EpollEvent} {queue : List Bytes}
    (hungUp : HungUp event fd queue s) : (handleClientEvents fd s).2.world.dispatches =
      passing fd s (readThrough fd (queue.takeWhile (Decodes s.world.env)) s).1 ++
        s.world.dispatches := by
  have split := @List.takeWhile_append_dropWhile _ (Decodes s.world.env) queue
  obtain ⟨through, ended⟩ := reads_front hungUp
  rw [handleClientEvents_state, hungUp.sent, ← split, List.append_assoc, split]
  cases last : (readThrough fd (queue.takeWhile (Decodes s.world.env)) s).2 with
  | none => exact ended last _
  | some u =>
      obtain ⟨readsOn, dispatches, resumes⟩ := through u last
      rw [resumes, ← dispatches]
      have opened := readsOn.opened hungUp.opened
      have faultless : ∀ clock, u.world.env.fault clock (.recvmsg fd) = none :=
        readsOn.env ▸ hungUp.faultless
      cases behind : queue.dropWhile (Decodes s.world.env) with
      | nil => exact reads_invalid [] opened faultless (Or.inl rfl)
      | cons bad after =>
          refine reads_invalid (after ++ [[]]) opened faultless (Or.inr ?_)
          have first := @List.head?_dropWhile_not _ (Decodes s.world.env) queue
          rw [behind] at first
          rw [readsOn.env]
          exact first

/-- What is left of an event when its handler is done passes on no message. -/
theorem checkEvent_dispatches {event : EpollEvent} {queue : List Bytes}
    (hungUp : HungUp event fd queue s) :
    (checkEvent event s).2.world.dispatches = (handleClientEvents fd s).2.world.dispatches := by
  have data : eventData event = .ok ⟨fd, .client⟩ := by
    have flagless : (epollIn ||| epollHup) &&& epollErrorMask = 0 := by decide
    rw [eventData, hungUp.flags, if_neg (not_not.mpr flagless), hungUp.data]
  have readable : event.events &&& epollIn = epollIn := by
    rw [hungUp.flags]
    decide
  have ended : Ends (handleClientEvents fd) s fun _ t =>
      t.world.dispatches = (handleClientEvents fd s).2.world.dispatches := rfl
  have settles : ∀ result, Within (fun s t => t.world.dispatches = s.world.dispatches)
      (settle event ⟨fd, .client⟩ result) := fun result =>
    dispatches_frame.of_keeps (settle_keeps event ⟨fd, .client⟩ result)
  have whole : Ends (checkEvent event) s fun _ t =>
      t.world.dispatches = (handleClientEvents fd s).2.world.dispatches := by
    refine .bind ?_
    rw [data]
    refine .run rfl ?_
    show Ends (if event.events &&& epollIn = epollIn then _ else _) s _
    rw [if_pos readable]
    refine .bind (.result (.mapErr (ended.conseq fun o t same => ?_)))
    cases o with
    | ok control => exact (settles (some (.ok control)) t).trans same
    | err e => exact (settles (some (.error (.clientFailure e))) t).trans same
    | panic m => exact same
  exact whole

/-- Every message of the queue is passed on exactly when none is behind the first datagram
that is no message, unless one in front of it is excuse enough to stop there. -/
theorem passesOn_iff {event : EpollEvent} {queue : List Bytes} (hungUp : HungUp event fd queue s) :
    PassesOn event fd queue s ↔
      (readThrough fd (queue.takeWhile (Decodes s.world.env)) s).2 = none ∨
        ∀ datagram ∈ queue.dropWhile (Decodes s.world.env), Decodes s.world.env datagram = false := by
  have code := handleClientEvents_dispatches hungUp
  have reading : PassesOn event fd queue s ↔ passing fd s (readThrough fd queue s).1 =
      passing fd s (readThrough fd (queue.takeWhile (Decodes s.world.env)) s).1 := by
    constructor
    · exact fun passes => List.append_left_inj _ |>.mp (passes.read.symm.trans code)
    · exact fun same => ⟨by rw [code, same], checkEvent_dispatches hungUp⟩
  obtain ⟨through, ended⟩ := @readThrough_append fd (queue.takeWhile (Decodes s.world.env))
    (queue.dropWhile (Decodes s.world.env)) s
  rw [List.takeWhile_append_dropWhile] at through ended
  rw [reading]
  cases last : (readThrough fd (queue.takeWhile (Decodes s.world.env)) s).2 with
  | none => simp [ended last]
  | some u =>
      have same : u.world.env = s.world.env := ((reads_front hungUp).through u last).1.env
      rw [through u last, passing_append, ← @readThrough_nil_iff fd u _ _ same]
      simp [passing]

end reading

/-- A finished buffer: `IdentityQuery`. -/
def identityQuery : Bytes :=
  [12, 0, 0, 0, 8, 0, 12, 0, 7, 0, 8, 0, 8, 0, 0, 0, 0, 0, 0, 3, 8, 0, 0, 0, 4, 0, 4, 0, 4, 0, 0, 0]

/-- One client connects in the first round; when the second begins it has sent the queue and
closed its socket. -/
def leavingEnv (queue : List Bytes) : Env := { Env.calm with
  ready := fun n => if n = 12 then [⟨epollIn, EpollData.toU64 ⟨4, .server⟩⟩]
    else [⟨epollIn ||| epollHup, EpollData.toU64 ⟨6, .client⟩⟩]
  backlog := fun _ => [connection]
  inbox := fun _ => queue ++ [[]]
  root := fun buffer => if buffer.take 32 = identityQuery then some ⟨.identityQuery⟩ else none }

def leaveEvent : EpollEvent := ⟨epollIn ||| epollHup, EpollData.toU64 ⟨6, .client⟩⟩

/-- The server of the clients above, when the client with this queue has left. -/
def left (queue : List Bytes) : Process := { woken with
  world := { woken.world with env := leavingEnv queue } }

theorem left_hungUp {queue : List Bytes} (nonempty : [] ∉ queue) :
    HungUp leaveEvent 6 queue (left queue) :=
  ⟨by decide, rfl, show woken.world.fds.isOpen 6 = true by decide, fun _ => rfl, rfl, nonempty⟩

theorem passesOn_left : PassesOn leaveEvent 6 [identityQuery, identityQuery]
    (left [identityQuery, identityQuery]) := by
  refine (passesOn_iff (left_hungUp (by decide))).mpr (Or.inr ?_)
  decide +kernel

/-- A byte that is no message in front of a request. -/
def spoilt : List Bytes := [[255], identityQuery]

def leavingStart : Process :=
  ⟨(started (leavingEnv spoilt)).1.get (by decide), (started (leavingEnv spoilt)).2⟩

def leavingRound : Process := (serveOnce leavingStart).2

def leavingWoken : Process :=
  (ServerM.sys (epollWait 3 bufferSizeEpollEvents) leavingRound : Outcome Errno _ × _).2

theorem leavingRound_rounds : Rounds leavingRound := by
  have start : Rounds leavingStart :=
    @Rounds.new (.turtle none none) (.boot (leavingEnv spoilt) stdio) leavingStart.world
      leavingStart.server rfl rfl (Prod.ext (Outcome.eq_ok_get _ (by decide)) rfl)
  exact start.serve (Prod.ext (by decide) rfl)

/-- The request of the client is lost with it. -/
theorem not_passesOn :
    ¬∀ (s u v : Process) (epfd : RawFd) (before later : List EpollEvent) (event : EpollEvent)
        (fd : RawFd) (queue : List Bytes), Rounds s → s.server.epollHandle = some epfd →
      ServerM.sys (epollWait epfd bufferSizeEpollEvents) s = (.ok (before ++ event :: later), u) →
      Prog.untilBreak checkEvent before u = (.ok none, v) → fd ∈ v.server.clientSockets.toList →
      HungUp event fd queue v → PassesOn event fd queue v := by
  intro claim
  have hungUp : HungUp leaveEvent 6 spoilt leavingWoken :=
    ⟨by decide, by decide, by decide, fun _ => rfl, rfl, by decide⟩
  have passes := claim leavingRound leavingWoken leavingWoken 3 [] [] leaveEvent 6 spoilt
    leavingRound_rounds (by decide) (Prod.ext (by decide) rfl) rfl (by decide) hungUp
  have code := handleClientEvents_dispatches hungUp
  have none : spoilt.takeWhile (Decodes leavingWoken.world.env) = [] := by decide +kernel
  rw [passes.read, none] at code
  have nothing : (readThrough 6 spoilt leavingWoken).1 = [] := by
    simpa [passing, readThrough] using code
  have invalid := (readThrough_nil_iff rfl).mp nothing identityQuery (by decide)
  revert invalid
  decide +kernel

end Server
end Zygote
