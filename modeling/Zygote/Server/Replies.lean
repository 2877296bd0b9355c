import Zygote.Server.Frames

/-!
# What comes of a message

A handler answers on the connection it was called for, at most once, and in the process
that read the message; the child of a fork says nothing to the clients.
-/
namespace Zygote
open Effect Descriptors Prog

/-- The deeds of a conversation with the clients. -/
def Deed.isTalk : Deed → Bool
  | .received _ _ | .sent _ _ | .forked _ => true
  | _ => false

def Deed.isDispatch : Deed → Bool
  | .dispatched _ _ => true
  | _ => false

/-- A deed without a part in the conversation or its handling. -/
def Deed.Silent (deed : Deed) : Prop := deed.isTalk = false ∧ deed.isDispatch = false

namespace World
variable {u v w : World}

/-- What was said, the latest first. -/
def talk (w : World) : List (Nat × Deed) := w.trace.filter fun done => done.2.isTalk

/-- What was handed to the handlers, the latest first. -/
def dispatches (w : World) : List (Nat × Deed) := w.trace.filter fun done => done.2.isDispatch

theorem filter_later {calls : Call → Prop} {deeds : Deed → Prop} {kind : Deed → Bool}
    (does : w.Does calls deeds v) (none : ∀ deed, deeds deed → kind deed = false) :
    v.trace.filter (fun done => kind done.2) = w.trace.filter fun done => kind done.2 := by
  obtain ⟨newer, split, all⟩ := does.trace
  have silent : newer.filter (fun done => kind done.2) = [] :=
    List.filter_eq_nil_iff.mpr fun done mem => by simp [none _ (all done mem).2]
  rw [split, List.filter_append, silent, List.nil_append]

theorem Does.talk {calls : Call → Prop} (does : w.Does calls Deed.Silent v) : v.talk = w.talk :=
  filter_later does fun _ => And.left

/-- A call that came to nothing, or to nothing that shows. -/
structure Still (w v : World) : Prop where
  tables : v.toTables = w.toTables
  pid : v.pid = w.pid
  env : v.env = w.env
  trace : v.trace = w.trace

theorem Still.note (w : World) (call : Call) : w.Still (w.note call none) := ⟨rfl, rfl, rfl, rfl⟩

theorem Still.refl (w : World) : w.Still w := ⟨rfl, rfl, rfl, rfl⟩

theorem Still.trans (h : u.Still v) (k : v.Still w) : u.Still w :=
  ⟨k.tables.trans h.tables, k.pid.trans h.pid, k.env.trans h.env, k.trace.trans h.trace⟩

theorem Still.talk (h : w.Still v) : v.talk = w.talk := by rw [World.talk, h.trace, World.talk]

end World

section answers

/-- The species takes the message for a request. -/
def Message.Accepted (species : Species) : Message → Prop
  | .exit | .identityQuery | .stat => True
  | .spawn _ payload | .spawnSubspecies _ _ payload => species.isSpawnPayloadType payload = true
  | _ => False

/-- The second message answers the first, for which `child` was forked. -/
def Message.IsAnswer (child : Option Nat) : Message → Message → Prop
  | .exit, .ackResponse => True
  | .identityQuery, .identityQueryResponse _ _ _ => True
  | .stat, .statResponse _ _ _ _ _ _ _ _ _ _ _ => True
  | .spawn _ _, .spawnResponse pid | .spawnSubspecies _ _ _, .spawnResponse pid =>
      ∃ newPid, child = some newPid ∧ pid = Int32.ofNat newPid
  | _, _ => False

/-- What a handler has said in the end, on the connection it was called for: nothing, or one
answer, which may have taken a child. -/
structure Reply (fd : RawFd) (species : Species) (message : Message) (s : Process)
    (o : Outcome ClientError (LoopControl ServerControl)) (t : Process) (child : Option Nat)
    (response : Option Bytes) : Prop where
  talk : t.world.talk =
    (response.map fun r => (s.world.pid, Deed.sent (s.world.fds.fileOf fd) r)).toList ++
      ((child.map fun newPid => (s.world.pid, Deed.forked newPid)).toList ++ s.world.talk)
  honest : ∀ r, response = some r → message.Accepted species ∧
    ∃ answer, message.IsAnswer child answer ∧ r = s.world.env.finishedData answer.toParcel
  complete : o = .ok .continue → response = none → ¬message.Accepted species
  parent : t.world.pid = s.world.pid →
    t.server = s.server ∧ t.world.toTables = s.world.toTables
  goesOn : o = .ok .continue → t.world.pid = s.world.pid ∧ message ≠ .exit
  breaks : ∀ control, o = .ok (.break control) → control ≠ .pollContinue ∧
    (t.world.pid = s.world.pid → control = .shutdown ∧ message = .exit)

namespace Reply
variable {fd : RawFd} {species : Species} {message : Message} {s t : Process}
  {o : Outcome ClientError (LoopControl ServerControl)}

/-- Nothing was said, for a message that is no request or because the handler did not end well. -/
theorem silent (still : s.world.Still t.world) (server : t.server = s.server)
    (unwanted : o = .ok .continue → ¬message.Accepted species)
    (breaks : ∀ control, o = .ok (.break control) → control = .shutdown ∧ message = .exit) :
    Reply fd species message s o t none none where
  talk := still.talk
  honest _ absent := nomatch absent
  complete run _ := unwanted run
  parent _ := ⟨server, still.tables⟩
  goesOn run := ⟨still.pid, fun same => unwanted run (same ▸ trivial)⟩
  breaks control run := by
    obtain ⟨rfl, same⟩ := breaks control run
    exact ⟨nofun, fun _ => ⟨rfl, same⟩⟩

/-- The parent's side of a fork, if there was one. -/
structure Parent (s : Process) (u : World) (child : Option Nat) : Prop where
  talk : u.talk = (child.map fun newPid => (s.world.pid, Deed.forked newPid)).toList ++ s.world.talk
  pid : u.pid = s.world.pid
  tables : u.toTables = s.world.toTables
  env : u.env = s.world.env

theorem Parent.still {u v : World} {child : Option Nat} (h : Parent s u child) (still : u.Still v) :
    Parent s v child :=
  ⟨still.talk.trans h.talk, still.pid.trans h.pid, still.tables.trans h.tables,
    still.env.trans h.env⟩

theorem Parent.none (still : s.world.Still t.world) : Parent s t.world none :=
  ⟨still.talk, still.pid, still.tables, still.env⟩

/-- The parent's answer. -/
theorem answered {u v : World} {child : Option Nat} {answer : Message} (parent : Parent s u child)
    (still : u.Still v) (accepted : message.Accepted species) (answers : message.IsAnswer child answer)
    (ends : o = .ok .continue ∧ message ≠ .exit ∨ o = .ok (.break .shutdown) ∧ message = .exit) :
    Reply fd species message s o
      ⟨s.server, v.did (.sent (u.fds.fileOf fd) (u.env.finishedData answer.toParcel))⟩ child
      (some (s.world.env.finishedData answer.toParcel)) where
  talk := by
    have later := parent.still still
    show List.filter _ (_ :: _) = _
    rw [List.filter_cons_of_pos (by rfl), parent.tables, parent.env, later.pid]
    exact congrArg (_ :: ·) later.talk
  honest r same := by
    cases same
    exact ⟨accepted, answer, answers, rfl⟩
  complete _ absent := nomatch absent
  parent _ := ⟨rfl, (parent.still still).tables⟩
  goesOn run := by
    rcases ends with ⟨-, other⟩ | ⟨same, -⟩
    · exact ⟨(parent.still still).pid, other⟩
    · cases same.symm.trans run
  breaks control run := by
    rcases ends with ⟨same, -⟩ | ⟨same, exit⟩
    · cases same.symm.trans run
    · cases same.symm.trans run
      exact ⟨nofun, fun _ => ⟨rfl, exit⟩⟩

/-- The parent fails, with or without a child. -/
theorem failed {u : World} {child : Option Nat} (parent : Parent s u child)
    (ends : ∀ control, o ≠ .ok control) :
    Reply fd species message s o ⟨s.server, u⟩ child none where
  talk := parent.talk
  honest _ absent := nomatch absent
  complete run := absurd run (ends _)
  parent _ := ⟨rfl, parent.tables⟩
  goesOn run := absurd run (ends _)
  breaks _ run := absurd run (ends _)

/-- The child's side of a fork. -/
theorem child (apart : t.world.pid ≠ s.world.pid) (silent : t.world.talk = s.world.talk)
    (ends : o ≠ .ok .continue) (breaks : ∀ control, o = .ok (.break control) → control ≠ .pollContinue) :
    Reply fd species message s o t none none where
  talk := silent
  honest _ absent := nomatch absent
  complete run := absurd run ends
  parent same := absurd same apart
  goesOn run := absurd run ends
  breaks control run := ⟨breaks control run, fun same => absurd same apart⟩

end Reply

end answers

section send
variable {fd : RawFd} {w v : World} {message : Message}

theorem attempt_err_still {α : Type} {call : Call}
    {act : World → Except Errno (α × Option RawFd × Tables)} {e : Errno}
    (h : attempt call act w = (.err e, v)) : w.Still v := (attempt_err h).1 ▸ .note w call

theorem onOpen_still {call : Call} (h : onOpen call fd (fun _ fds => .ok fds) w = (.ok (), v)) :
    w.Still v := by
  obtain ⟨-, f, t, -, act, rfl⟩ := onOpen_ok_iff.mp h
  cases act
  exact ⟨rfl, rfl, rfl, rfl⟩

/-- A message is sent as a whole or not at all. -/
theorem sendMessage_cases (fd : RawFd) (message : Message) (w : World) :
    (∃ v, w.Still v ∧ Server.sendMessage fd message w =
      (.ok (), v.did (.sent (w.fds.fileOf fd) (w.env.finishedData message.toParcel)))) ∨
    ∃ e v, w.Still v ∧ Server.sendMessage fd message w = (.err e, v) := by
  unfold Server.sendMessage sendmsg doing
  split
  · next a v run => exact Or.inl ⟨v, onOpen_still run, rfl⟩
  · next e v run => exact Or.inr ⟨e, v, attempt_err_still run, rfl⟩
  · next m v run =>
    unfold onOpen at run
    exact absurd (congrArg (fun r => r.1.isPanic) run) (by
      rw [attempt_not_panic]
      exact Bool.false_ne_true)

end send

namespace Server
variable {fd : RawFd} {messageBuffer : Bytes} {species : Species} {s t : Process}
  {o : Outcome ClientError (LoopControl ServerControl)}

theorem handleMessageExit_reply (h : handleMessageExit fd s = (o, t)) :
    ∃ response, Reply fd species .exit s o t none response := by
  unfold handleMessageExit at h
  rcases sendMessage_cases fd .ackResponse s.world with ⟨v, still, sent⟩ | ⟨e, v, still, failed⟩
  · have run : ServerM.sys (sendMessage fd .ackResponse) s = (.ok (), ⟨s.server, _⟩) :=
      ServerM.sys_eq.mpr ⟨sent, rfl⟩
    rw [Prog.bind_result_ok run] at h
    cases h
    exact ⟨_, .answered (.none (t := s) (.refl _)) still trivial trivial (Or.inr ⟨rfl, rfl⟩)⟩
  · have run : ServerM.sys (sendMessage fd .ackResponse) s = (.err e, ⟨s.server, v⟩) :=
      ServerM.sys_eq.mpr ⟨failed, rfl⟩
    rw [Prog.bind_result_err run] at h
    cases h
    refine ⟨none, .silent still rfl (fun run => nomatch run) fun control run => ?_⟩
    cases run
    exact ⟨rfl, rfl⟩

/-- A handler that ends with its answer, or fails when it cannot be sent. -/
theorem answer_reply {u : Process} {message answer : Message} {child : Option Nat}
    {failure : Errno → ClientError} (parent : Reply.Parent s u.world child)
    (server : u.server = s.server)
    (accepted : message.Accepted species) (answers : message.IsAnswer child answer)
    (other : message ≠ .exit) (h : ((ServerM.sys (sendMessage fd answer)).mapErr failure >>= fun _ =>
      (Pure.pure .continue : ServerM ClientError (LoopControl ServerControl))) u = (o, t)) :
    ∃ response, Reply fd species message s o t child response := by
  rcases sendMessage_cases fd answer u.world with ⟨v, still, sent⟩ | ⟨e, v, still, failed⟩
  · have run : ServerM.sys (sendMessage fd answer) u = (.ok (), ⟨s.server, _⟩) :=
      ServerM.sys_eq.mpr ⟨sent, server.symm⟩
    rw [Prog.bind_of_ok (Prog.mapErr_eq_ok.mpr run)] at h
    cases h
    exact ⟨_, .answered parent still accepted answers (Or.inl ⟨rfl, other⟩)⟩
  · have run : ServerM.sys (sendMessage fd answer) u = (.err e, ⟨s.server, v⟩) :=
      ServerM.sys_eq.mpr ⟨failed, server.symm⟩
    have ends : (o, t) = (.err (failure e), ⟨s.server, v⟩) := by
      rw [← h, Prog.bind_apply]
      simp only [Prog.mapErr, run, Outcome.mapErr]
    cases ends
    refine ⟨none, .failed (parent.still still) fun control run => ?_⟩
    cases run

theorem handleMessageIdentityQuery_reply (h : handleMessageIdentityQuery fd s = (o, t)) :
    ∃ response, Reply fd species .identityQuery s o t none response := by
  refine answer_reply (.none (t := s) (.refl _)) rfl trivial ?_ nofun h
  trivial

theorem attempt_still {α : Type} {call : Call} {act : World → Except Errno (α × Option RawFd × Tables)}
    (unchanged : ∀ w a made tables, act w = .ok (a, made, tables) → tables = w.toTables) :
    Within World.Still (attempt call act) := by
  intro w
  unfold attempt
  split
  · exact .note w call
  · split
    · exact .note w call
    · next a made tables made' => exact ⟨unchanged w a made tables made', rfl, rfl, rfl⟩

theorem procStat_still : Within World.Still ProcStat.get := by
  refine Within.bind World.Still.trans (.mapErr _ (attempt_still ?_)) fun _ => .lift .refl _
  intro w bytes made tables act
  split at act
  · cases act
    rfl
  · cases act

theorem handleMessageStat_reply (h : handleMessageStat fd s = (o, t)) :
    ∃ response, Reply fd species .stat s o t none response := by
  have still : ∀ {o' : Outcome ClientError ProcStat} {u : Process},
      ((ServerM.sys ProcStat.get).mapErr (.statRead fd)) s = (o', u) →
      s.world.Still u.world ∧ u.server = s.server := by
    intro o' u run
    have state : u = ⟨s.server, (ProcStat.get s.world).2⟩ := (congrArg Prod.snd run).symm
    exact state ▸ ⟨procStat_still s.world, rfl⟩
  rcases Prog.bind_cases h with ⟨proc, u, read, h⟩ | ⟨e, read, rfl⟩ | ⟨m, read, rfl⟩
  · obtain ⟨quiet, server⟩ := still read
    refine answer_reply (.none quiet) server trivial ?_ nofun h
    trivial
  · exact ⟨none, .silent (still read).1 (still read).2 (fun run => nomatch run) fun _ => nofun⟩
  · exact ⟨none, .silent (still read).1 (still read).2 (fun run => nomatch run) fun _ => nofun⟩

theorem setPriority_keeps {ε : Type} {deeds : Deed → Prop} (spawnParams : SpawnParamsCommon) :
    Within (Process.Keeps deeds) (Prog.forSome spawnParams.priorityInitial fun priority => do
      let _ ← (ServerM.sys (plainCall (.setpriority priority) ())).result
      Pure.pure () : ServerM ε Unit) :=
  .forSome Process.Keeps.refl fun _ _ =>
    Process.Keeps.bind (.result (attempt_keeps fun _ => nofun)) fun _ => Process.Keeps.refl

/-- A spawn is answered by the parent with the pid of the child it forked for it. -/
theorem handleSpawn_reply {message : Message}
    {childContinuation : SpawnParamsCommon → ServerM ClientError ServerControl}
    (accepted : message.Accepted species)
    (answers : ∀ newPid, message.IsAnswer (some newPid) (.spawnResponse (Int32.ofNat newPid)))
    (other : message ≠ .exit) (silent : ∀ params,
      Within (fun s t => s.world.Does Call.Spares Deed.Silent t.world)
      (childContinuation params))
    (controls : ∀ params s control t, childContinuation params s = (.ok control, t) →
      control ≠ .pollContinue) :
    Ends (handleSpawn false (some fd) messageBuffer childContinuation) s fun o t =>
      ∃ child response, Reply fd species message s o t child response := by
  have stopped : ∀ {o : Outcome ClientError (LoopControl ServerControl)} {u : Process},
      s.world.Still u.world → u.server = s.server → (∀ control, o ≠ .ok control) →
        ∃ child response, Reply fd species message s o u child response := fun still server ends =>
    ⟨none, none, .silent still server (fun run => absurd run (ends _)) fun _ run => absurd run (ends _)⟩
  have unmoved := World.Still.refl s.world
  unfold handleSpawn
  refine .bind (.within (R := fun s t => s = t) (.reading fun _ => .expect _ fun _ => rfl) ?_)
  rintro o _ rfl
  cases o with
  | err e => exact stopped unmoved rfl fun _ => nofun
  | panic m => exact stopped unmoved rfl fun _ => nofun
  | ok decoded =>
      refine .read ?_
      split
      · exact stopped unmoved rfl fun _ => nofun
      · refine .bind (.within (R := fun s t => s = t) (.expect _ fun _ => rfl) ?_)
        rintro o _ rfl
        cases o with
        | err e => exact stopped unmoved rfl fun _ => nofun
        | panic m => exact stopped unmoved rfl fun _ => nofun
        | ok spawnParams =>
            refine .bind (.result ?_)
            have noted := World.Still.note s.world .fork
            rcases fork_cases s.world with ⟨e, failed⟩ | ⟨newPid, forked⟩ | ⟨newPid, apart, -, forked⟩
            · have run : ServerM.sys fork s = (.err e, ⟨s.server, _⟩) := ServerM.sys_eq.mpr ⟨failed, rfl⟩
              exact .run run (stopped noted rfl fun _ => nofun)
            · have run : ServerM.sys fork s = (.ok (some newPid), ⟨s.server, _⟩) :=
                ServerM.sys_eq.mpr ⟨forked, rfl⟩
              have parent : Reply.Parent s ((s.world.note .fork none).did (.forked newPid))
                  (some newPid) := ⟨rfl, rfl, rfl, rfl⟩
              refine .run run ⟨some newPid, ?_⟩
              exact answer_reply (u := ⟨s.server, _⟩) parent rfl accepted (answers newPid) other rfl
            · have run : ServerM.sys fork s = (.ok none, ⟨s.server, _⟩) :=
                ServerM.sys_eq.mpr ⟨forked, rfl⟩
              refine .run run ?_
              have ends : ∀ {o : Outcome ClientError (LoopControl ServerControl)} {t : Process},
                  World.Does Call.Spares Deed.Silent { s.world.note .fork none with pid := newPid }
                    t.world → o ≠ .ok .continue →
                  (∀ control, o = .ok (.break control) → control ≠ .pollContinue) →
                  ∃ child response, Reply fd species message s o t child response :=
                fun does ends breaks =>
                  ⟨none, none, .child (fun back => apart (does.pid.symm.trans back)) does.talk
                    ends breaks⟩
              refine .bind (.within (R := Process.Keeps Deed.Silent) (setPriority_keeps spawnParams)
                fun o u does => ?_)
              cases o with
              | err e => exact ends does.world nofun fun _ => nofun
              | panic m => exact ends does.world nofun fun _ => nofun
              | ok _ =>
                  have rest : Ends (childContinuation spawnParams) u fun o t =>
                      childContinuation spawnParams u = (o, t) ∧
                        u.world.Does Call.Spares Deed.Silent t.world := ⟨rfl, silent spawnParams u⟩
                  refine .bind (rest.conseq fun o t ⟨run, later⟩ => ?_)
                  have does := does.world.trans later
                  cases o with
                  | err e => exact ends does nofun fun _ => nofun
                  | panic m => exact ends does nofun fun _ => nofun
                  | ok control =>
                      refine ends does nofun fun control' same => ?_
                      cases same
                      exact controls _ _ _ _ run

theorem becomeSubspecies_silent (socketPath : String) (messageBuffer : Bytes)
    (spawnParams : SpawnParamsCommon) :
    Within (fun s t => s.world.Does Call.Spares Deed.Silent t.world)
      (becomeSubspecies socketPath messageBuffer spawnParams) := by
  have frame : Frame Deed.Silent fun s t => s.world.Does Call.Spares Deed.Silent t.world :=
    ⟨fun _ => .refl _, fun h k => h.trans k, fun keeps => keeps.world, tailor_does fun _ _ => ⟨rfl, rfl⟩⟩
  exact becomeSubspecies_within frame socketPath messageBuffer spawnParams

theorem becomeSubspecies_breaks {socketPath : String} {spawnParams : SpawnParamsCommon} {s t : Process}
    {control : ServerControl}
    (h : becomeSubspecies socketPath messageBuffer spawnParams s = (.ok control, t)) :
    control = .pollBreak := by
  obtain ⟨message, u, -, h⟩ := Prog.bind_eq_ok.mp h
  cases payload : message.getSpawnPayload with
  | none =>
      simp only [payload] at h
      cases h
  | some _ =>
      simp only [payload] at h
      obtain ⟨_, u, -, h⟩ := Prog.bind_eq_ok.mp h
      obtain ⟨_, u, -, h⟩ := Prog.bind_eq_ok.mp h
      obtain ⟨_, u, -, h⟩ := Prog.bind_eq_ok.mp h
      cases h
      rfl

/-- Every message is answered as it asks, or not at all. -/
theorem dispatchMessage_reply (message : Message) :
    Ends (dispatchMessage fd messageBuffer species message) s fun o t =>
      ∃ child response, Reply fd species message s o t child response := by
  have ignored : ¬message.Accepted species →
      ∃ child response, Reply fd species message s (.ok .continue) s child response := fun unwanted =>
    ⟨none, none, .silent (.refl _) rfl (fun _ => unwanted) fun _ run => nomatch run⟩
  cases message with
  | exit => exact ⟨none, handleMessageExit_reply rfl⟩
  | identityQuery => exact ⟨none, handleMessageIdentityQuery_reply rfl⟩
  | stat => exact ⟨none, handleMessageStat_reply rfl⟩
  | spawn params payload =>
      by_cases accepted : species.isSpawnPayloadType payload = true
      · simp only [dispatchMessage, if_pos accepted]
        refine handleSpawn_reply accepted
          (fun newPid => ⟨newPid, rfl, rfl⟩) nofun (fun _ _ => .refl _) ?_
        rintro params s control t ⟨⟩
        exact nofun
      · simp only [dispatchMessage, if_neg accepted]
        exact ignored accepted
  | spawnSubspecies params socketPath payload =>
      by_cases accepted : species.isSpawnPayloadType payload = true
      · simp only [dispatchMessage, if_pos accepted]
        refine handleSpawn_reply accepted (fun newPid => ⟨newPid, rfl, rfl⟩) nofun
          (becomeSubspecies_silent socketPath messageBuffer) fun params s control t run => ?_
        rw [becomeSubspecies_breaks run]
        exact nofun
      · simp only [dispatchMessage, if_neg accepted]
        exact ignored accepted
  | _ => exact ignored id

theorem dispatchMessageHandler_of_ok {message : Message}
    (valid : Message.tryFromParcel s.world.env.root messageBuffer = .ok message) :
    dispatchMessageHandler fd messageBuffer s =
      dispatchMessage fd messageBuffer s.server.species message
        ⟨s.server, s.world.did (.dispatched (s.world.fds.fileOf fd) messageBuffer)⟩ := by
  have decoded : Prog.lift (Message.tryFromParcel s.world.env.root messageBuffer)
      (⟨s.server, s.world.did (.dispatched (s.world.fds.fileOf fd) messageBuffer)⟩ : Process) =
        (.ok message, ⟨s.server, s.world.did (.dispatched (s.world.fds.fileOf fd) messageBuffer)⟩) := by
    rw [valid]
    rfl
  exact Prog.bind_result_ok decoded _

theorem dispatchMessageHandler_reply {message : Message}
    (valid : Message.tryFromParcel s.world.env.root messageBuffer = .ok message) :
    Ends (dispatchMessageHandler fd messageBuffer) s fun o t =>
      ∃ child response, Reply fd s.server.species message s o t child response := by
  unfold Ends
  rw [dispatchMessageHandler_of_ok valid]
  obtain ⟨child, response, reply⟩ := @dispatchMessage_reply fd messageBuffer s.server.species
    ⟨s.server, s.world.did (.dispatched (s.world.fds.fileOf fd) messageBuffer)⟩ message
  exact ⟨child, response, reply.talk, reply.honest, reply.complete, reply.parent, reply.goesOn,
    reply.breaks⟩

/-- Only a datagram that is empty or does not decode is kept from the handlers. -/
theorem handleDatagram_of_ok {datagram : Nat × Bytes} {message : Message} (filled : datagram.1 ≠ 0)
    (valid : Message.tryFromParcel s.world.env.root datagram.2 = .ok message) :
    handleDatagram fd datagram s = dispatchMessageHandler fd datagram.2 s := by
  have decoded : Prog.lift (Message.tryFromParcel s.world.env.root datagram.2) s =
      (.ok message, s) := by
    rw [valid]
    rfl
  rw [handleDatagram, if_neg filled, Prog.bind_of_ok (show Prog.read s = (.ok s, s) from rfl),
    Prog.bind_result_ok decoded]

theorem handleDatagram_invalid {datagram : Nat × Bytes} (invalid : datagram.1 = 0 ∨
    ∀ message, Message.tryFromParcel s.world.env.root datagram.2 ≠ .ok message) :
    Ends (handleDatagram fd datagram) s fun o t =>
      (∀ control, o = .ok control → control = .break .pollContinue) ∧ t = s := by
  unfold handleDatagram
  split
  · exact ⟨fun control run => (Outcome.ok.inj run).symm, rfl⟩
  · next filled =>
    have none := invalid.resolve_left filled
    refine .read (.bind (.result ?_))
    cases decoded : Message.tryFromParcel s.world.env.root datagram.2 with
    | ok message => exact absurd decoded (none message)
    | err e => exact ⟨fun control run => (Outcome.ok.inj run).symm, rfl⟩
    | panic m => exact ⟨fun control run => (nomatch run), rfl⟩

theorem dispatchMessageHandler_ages (fd : RawFd) (messageBuffer : Bytes) (s : Process) :
    s.world.Ages (dispatchMessageHandler fd messageBuffer s).2.world :=
  dispatchMessageHandler_within ages_frame (fun s => fork_ages s.world) (fun _ _ _ => trivial) fd
    messageBuffer s

end Server
end Zygote
