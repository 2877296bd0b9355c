import Zygote.Server.Confinement
import Zygote.Server.Orphan
import Zygote.Server.Replies
import Zygote.Server.Upkeep

/-!
# What a child does with what it was forked with

A server goes on as it is, and a child that becomes a subspecies leaves the batch with what is
its own. One that fails before it has closed the epoll instance of its parent removes the client
that asked for it from that instance, and goes on with it.
-/
namespace Zygote
open Effect Descriptors Prog

namespace Server
open Process

/-- The process serves, and acts on nothing that was there before it. -/
def Upright (s : Process) : Prop :=
  ∃ N old epfd lfd sfd, Serving N old epfd lfd sfd [] s ∧ s.world.Weaned N

/-- How the process with the pid leaves a batch, with what it has open besides its clients, and
how a child of it does. -/
def Parts (base : RawFd → Option Nat) (pid : Nat) : ServerControl → Process → Prop
  | .pollContinue, _ => False
  | .pollBreak, t => Upright t ∧
      (t.world.pid = pid ∧ t.Upkeep base [] ∨ t.world.pid ≠ pid ∧ t.server.clients = [])
  | _, t => Detached t.world.log

/-- A child of a server that has not done anything yet. -/
structure Branched (N : Nat) (old : List Event) (epfd lfd sfd : RawFd) (env : Env) (pid : Nat)
    (s : Process) : Prop where
  serving : Serving N old epfd lfd sfd [] s
  orphan : s.world.Orphan epfd
  env : s.world.env = env
  apart : s.world.pid ≠ pid

section child
variable {N : Nat} {old : List Event} {epfd lfd sfd : RawFd} {env : Env} {pid : Nat} {s : Process}

/-- The number is that of the instance of the parent, so it was not closed. -/
theorem Branched.clung (h : Branched N old epfd lfd sfd env pid s) :
    ¬Vacated epfd s.world.pid s.world.log := by
  intro vacated
  obtain ⟨ep, behind, isEpoll, -⟩ := h.serving.polls
  cases isEpoll.symm.trans (h.orphan.vacated vacated ep behind).2

theorem sys_branched {ε α : Type} {p : Prog World ε α} (calm : ∀ about, Within (World.Calm about) p)
    (keeps : Within (Process.Keeps fun _ => True) (ServerM.sys p)) (bereft : Within (Bereft epfd) p) :
    Within (fun s t => Branched N old epfd lfd sfd env pid s → Branched N old epfd lfd sfd env pid t)
      (ServerM.sys p) := fun s h =>
  ⟨h.serving.departs (sys_departs (calm _) s), bereft s.world h.orphan, (keeps s).world.env.trans h.env,
    fun same => h.apart ((keeps s).world.pid.symm.trans same)⟩

/-- What code of the species leaves open is not behind the number. -/
theorem speciate_clings {ε : Type} (h : Branched N old epfd lfd sfd env pid s) :
    ∃ t, (speciate : ServerM ε Unit) s = (.ok (), t) ∧ Inherits sfd t ∧ t.Clings epfd ∧
    t.world.pid ≠ pid := by
  obtain ⟨t, run, inherits⟩ := @speciate_inherits ε sfd s h.serving.inherits
  obtain ⟨u, same, -, next, -⟩ := opened_grows (s.world.env.speciated s.world.clock) s.world.fds
  refine ⟨t, run, inherits, ?_⟩
  cases run
  refine ⟨⟨⟨⟨h.orphan.weaned.record, h.orphan.weaned.since.trans ?_, h.orphan.weaned.paths⟩,
    h.orphan.releases, fun vacated => absurd vacated h.clung⟩, h.serving.epollHandle⟩, h.apart⟩
  subst same
  exact next

theorem reInitializeAsSubspecies_parts (socketPath : String) :
    Exits (fun s => Inherits sfd s ∧ s.Clings epfd ∧ s.world.pid ≠ pid)
      (reInitializeAsSubspecies socketPath)
      (fun _ t => Upright t ∧ t.world.pid ≠ pid ∧ t.server.clients = [])
      (fun _ t => (∃ own, Stuck own t) ∨ Rash epfd t) fun t => Detached t.world.log := by
  rintro s ⟨inherits, clings, apart⟩
  have torn := tailor_tears socketPath s clings
  unfold reInitializeAsSubspecies
  cases run : tailor socketPath s with
  | mk o t =>
      rw [run] at torn
      cases o with
      | ok value =>
          obtain ⟨own, lfd, serving⟩ := tailor_serves inherits run
          have does := @tailor_does (fun _ => True) (fun _ _ => trivial) socketPath s
          rw [run] at does
          have noted := serving.noted (.reinitialized true) rfl fun acts => nomatch acts
          have marks : t.world.Does Call.Spares (fun _ => True)
            (t.world.note (.reinitialized true) none) :=
            @World.Does.call _ _ _ _ (.reinitialized true) none (fun _ => nofun) rfl rfl rfl rfl
          have weaned := clings.1.weaned.kept (does.trans marks) ⟨[], rfl⟩ noted.kept
          refine ⟨⟨_, _, own, lfd, sfd, noted, weaned⟩, fun same => apart (does.pid.symm.trans same), ?_⟩
          obtain ⟨epfd, lfd, path, r₁, r₂, r₃, w₁, w₂, w₃, w₄, w₅, w₆, w₇, -, -, -, -, -, -, -, rfl⟩ :=
            tailor_ok inherits.signalFd run
          rfl
      | err error => exact torn_fails torn
      | panic reason => exact torn.record

end child

/-- The process goes on with the server as it is. -/
structure Continues (about : RawFd → Prop) (s t : Process) : Prop where
  departs : s.Departs about t
  does : s.world.Does Call.Spares (fun _ => True) t.world

namespace Continues
variable {about : RawFd → Prop} {s t u : Process}

theorem refl (s : Process) : Continues about s s := ⟨.refl s, .refl _⟩

theorem trans (h : Continues about s t) (k : Continues about t u) : Continues about s u :=
  ⟨h.departs.trans k.departs, h.does.trans k.does⟩

theorem bind {ε α β : Type} {p : ServerM ε α} {f : α → ServerM ε β}
    (first : Within (Continues about) p) (rest : ∀ a, Within (Continues about) (f a)) :
    Within (Continues about) (p >>= f) := Within.bind trans first rest

theorem of_both {ε α : Type} {p : ServerM ε α} (departs : Within (Departs about) p)
    (keeps : Within (Process.Keeps fun _ => True) p) : Within (Continues about) p := fun s =>
  ⟨departs s, (keeps s).world⟩

end Continues

/-- The child could not become a subspecies. -/
def Forlorn (fd : RawFd) (s : Process) : Prop := (∃ epfd, Stuck epfd s) ∨ Rash fd s

/-- The server has acted for its clients only. -/
abbrev Goes (epfd lfd : RawFd) (s : Process) : Process → Prop :=
  Continues (· ∈ epfd :: lfd :: s.server.clients) s

def Fails (epfd lfd : RawFd) (s t : Process) : Prop := Goes epfd lfd s t ∨ Forlorn epfd t

/-- What comes of a message, for the server and for a child of it. -/
abbrev Replying (base : RawFd → Option Nat) (epfd lfd : RawFd) (s : Process)
    (p : ServerM ClientError (LoopControl ServerControl)) : Prop :=
  Exits (Goes epfd lfd s) p
    (fun | .continue => Goes epfd lfd s
         | .break control => fun t => Goes epfd lfd s t ∨ Parts base s.world.pid control t)
    (fun _ => Fails epfd lfd s) fun t => Detached t.world.log

section messages
variable {base : RawFd → Option Nat} {N : Nat} {old : List Event} {epfd lfd sfd fd : RawFd}
    {s t : Process}
  {messageBuffer : Bytes} {message : Message}
variable (serving : Serving N old epfd lfd sfd [] s) (weaned : s.world.Weaned N)
include serving weaned

theorem goes_weaned (h : Goes epfd lfd s t) : t.world.Weaned N :=
  weaned.kept h.does (serving.ledger.logged.imp fun _ => And.left) (serving.departs h.departs).kept

theorem goes_exits {ε α : Type} {p : ServerM ε α}
    (h : Within (Continues (· ∈ epfd :: lfd :: s.server.clients)) p) :
    Exits (Goes epfd lfd s) p (fun _ => Goes epfd lfd s) (fun _ => Fails epfd lfd s)
      fun t => Detached t.world.log := by
  have leads : Leads (Goes epfd lfd s) p (fun _ => Goes epfd lfd s) (Goes epfd lfd s) :=
    .within h fun _ _ before after => before.trans after
  exact Exits.conseq (.of_leads leads) (fun _ => id) (fun _ _ => id) (fun _ _ => .inl)
    fun t goes => (goes_weaned serving weaned goes).record

theorem goes_replying {p : ServerM ClientError (LoopControl ServerControl)}
    (h : Within (Continues (· ∈ epfd :: lfd :: s.server.clients)) p) : Replying base epfd lfd s p := by
  refine (goes_exits serving weaned h).conseq (fun _ => id) (fun control t goes => ?_)
    (fun _ _ => id) fun _ => id
  cases control with
  | «continue» => exact goes
  | «break» control => exact .inl goes

/-- The two processes after a fork. -/
theorem fork_branches : Exits (Goes epfd lfd s)
    ((ServerM.sys fork).result : ServerM ClientError (Except Errno (Option Nat)))
    (fun
      | .ok none => Branched N old epfd lfd sfd s.world.env s.world.pid
      | .ok (some _) => Goes epfd lfd s
      | .error _ => Goes epfd lfd s)
    (fun _ => Fails epfd lfd s) fun t => Detached t.world.log := by
  intro t goes
  have calm := @sys_departs (· ∈ epfd :: lfd :: s.server.clients) _ _ _ fork_calm t
  have noted : t.world.Does Call.Spares (fun _ => True) (t.world.note .fork none) :=
    @World.Does.call _ _ _ _ .fork none (fun _ => nofun) rfl rfl rfl rfl
  unfold Prog.result
  rcases fork_cases t.world with ⟨errno, failed⟩ | ⟨newPid, forked⟩ | ⟨newPid, apart, -, forked⟩
  · have run : ServerM.sys fork t = (.err errno, ⟨t.server, t.world.note .fork none⟩) :=
      ServerM.sys_eq.mpr ⟨failed, rfl⟩
    rw [run] at calm ⊢
    exact goes.trans ⟨calm, noted⟩
  · have run : ServerM.sys fork t =
      (.ok (some newPid), ⟨t.server, (t.world.note .fork none).did (.forked newPid)⟩) :=
      ServerM.sys_eq.mpr ⟨forked, rfl⟩
    rw [run] at calm ⊢
    exact goes.trans ⟨calm, noted.trans (.did trivial)⟩
  · have run : ServerM.sys fork t =
      (.ok none, ⟨t.server, { t.world.note .fork none with pid := newPid }⟩) :=
      ServerM.sys_eq.mpr ⟨forked, rfl⟩
    rw [run] at calm ⊢
    have own := goes_weaned serving weaned goes
    have serves := serving.departs (goes.departs.trans calm)
    refine ⟨serves, ⟨⟨⟨fun acts => (nomatch acts), own.record⟩, ?_, own.paths⟩,
      serves.ledger.releases, ?_⟩,
      goes.does.env, fun same => apart (same.trans goes.does.pid.symm)⟩
    · exact (inherited_cons (Ne.symm apart)).le
    · exact fun vacated => absurd vacated.1.symm apart

theorem handleSpawn_parts (mem : fd ∈ s.server.clients)
    {childContinuation : SpawnParamsCommon → ServerM ClientError ServerControl}
    (child : ∀ spawnParams, Exits (Branched N old epfd lfd sfd s.world.env s.world.pid)
      (childContinuation spawnParams) (Parts base s.world.pid) (fun _ => Forlorn epfd)
      fun t => Detached t.world.log) :
    Replying base epfd lfd s (handleSpawn false (some fd) messageBuffer childContinuation) := by
  unfold handleSpawn
  have about : fd ∈ epfd :: lfd :: s.server.clients :=
    List.mem_cons_of_mem _ (List.mem_cons_of_mem _ mem)
  have sends : ∀ message, Within (Continues (· ∈ epfd :: lfd :: s.server.clients))
      (ServerM.sys (sendMessage fd message)) := fun message =>
    .of_both (sent_departs about message) (sendMessage_keeps (fun _ _ => trivial) fd message)
  refine .bind _ (goes_exits serving weaned
    (.of_both (verifiedMessage_departs _) (verifiedMessage_keeps _)))
      fun decoded => .read fun t before => ?_
  have here : ∀ {α : Type} {p : ServerM ClientError α} {ok : α → Process → Prop},
      Exits (Goes epfd lfd s) p ok (fun _ => Fails epfd lfd s) (fun t => Detached t.world.log) →
      Exits (· = t) p ok (fun _ => Fails epfd lfd s) fun t => Detached t.world.log :=
    fun h => h.conseq (fun _ same => same ▸ before) (fun _ _ => id) (fun _ _ => id) fun _ => id
  split
  · exact here (.throw fun _ => .inl)
  · refine .bind _ (here (goes_exits serving weaned (.expect _ (.lift Continues.refl _))))
      fun spawnParams => ?_
    refine .bind _ (fork_branches serving weaned) fun answer => ?_
    rcases answer with errno | newPid
    · exact .throw fun _ => .inl
    cases newPid with
    | some newPid =>
        dsimp only
        rw [ServerM.unwrap_bind_some]
        exact .bind _ (goes_exits serving weaned (.mapErr _ (sends _))) fun _ => .pure fun _ => id
    | none =>
        have prioritized : Unfailing (Prog.forSome spawnParams.priorityInitial fun priority => do
            let _ ← (ServerM.sys (plainCall (.setpriority priority) ())).result
            Pure.pure () : ServerM ClientError Unit) :=
          .forSome fun _ => .bind (.result _) fun _ => .pure ()
        refine .bind _ (prioritized.exits (.forSome (fun _ => id) fun priority _ => ?_)
          fun t branched => branched.orphan.weaned.record) fun _ => ?_
        · refine Within.bind (fun h k => k ∘ h) (.result ?_) fun _ _ => id
          exact sys_branched (fun _ => plainCall_calm rfl rfl) (sys_keeps (attempt_does fun _ => nofun))
            (plainCall_bereft rfl nofun)
        · refine .bind _ ((child spawnParams).conseq (fun _ => id) (fun _ _ => id) (fun _ _ => .inr)
            fun _ => id)
            fun control => .pure fun _ => .inr

omit serving weaned

/-- The child breaks the batch off as a subspecies, or it fails. -/
theorem becomeSubspecies_parts {payload : SpawnPayload} {pid : Nat} {env : Env} (socketPath : String)
    (valid : Message.tryFromParcel env.root messageBuffer = .ok message)
    (paid : message.getSpawnPayload = some payload) (spawnParams : SpawnParamsCommon) :
    Exits (Branched N old epfd lfd sfd env pid) (becomeSubspecies socketPath messageBuffer spawnParams)
      (Parts base pid) (fun _ => Forlorn epfd) fun t => Detached t.world.log := by
  refine .bind _ (verifiedMessage_exits fun t branched => branched.env ▸ valid) fun decoded => ?_
  by_cases same : decoded = message
  case neg => exact fun t h => absurd h.1 same
  rw [same, paid]
  have prepared : Unfailing (ServerM.sys
    (ChildProcess.reInitialize false spawnParams) : ServerM ClientError Unit) :=
    fun s => ChildProcess.reInitialize_unfailing false spawnParams s.world
  refine .bind _ ((prepared.exits ?_ fun t branched => branched.orphan.weaned.record).conseq
    (fun _ => And.right) (fun _ _ => id) (fun _ _ => id) fun _ => id) fun _ => ?_
  · refine sys_branched (fun about => ?_) (reInitialize_keeps spawnParams)
      (reInitialize_bereft spawnParams)
    refine ChildProcess.reInitialize_within calm_sets (fun call free => ?_) (fun _ _ => ⟨rfl, rfl⟩)
      fun _ _ => ⟨rfl, rfl⟩
    cases call <;> first | exact ⟨rfl, rfl⟩ | cases free
  refine .bind (fun _ t => Inherits sfd t ∧ t.Clings epfd ∧ t.world.pid ≠ pid) ?_ fun _ => ?_
  · intro t branched
    obtain ⟨u, run, inherits⟩ := @speciate_clings _ _ _ _ _ _ _ t ClientError branched
    rw [run]
    exact inherits
  · exact .bind _ (.mapErr (reInitializeAsSubspecies_parts socketPath)) fun _ =>
      .pure fun t h => ⟨h.1, .inr h.2⟩

theorem dispatchMessage_parts (serving : Serving N old epfd lfd sfd [] s) (weaned : s.world.Weaned N)
    (mem : fd ∈ s.server.clients) (species : Species)
    (valid : Message.tryFromParcel s.world.env.root messageBuffer = .ok message) :
    Replying base epfd lfd s (dispatchMessage fd messageBuffer species message) := by
  have about : fd ∈ epfd :: lfd :: s.server.clients :=
    List.mem_cons_of_mem _ (List.mem_cons_of_mem _ mem)
  have goes : ∀ {p : ServerM ClientError (LoopControl ServerControl)},
      Within (Continues (· ∈ epfd :: lfd :: s.server.clients)) p → Replying base epfd lfd s p :=
    goes_replying serving weaned
  have sends : ∀ message, Within (Continues (· ∈ epfd :: lfd :: s.server.clients))
      (ServerM.sys (sendMessage fd message)) := fun message =>
    .of_both (sent_departs about message) (sendMessage_keeps (fun _ _ => trivial) fd message)
  unfold dispatchMessage
  split
  · exact goes (Continues.bind (.result (sends _)) fun _ => Continues.refl)
  · exact goes (.reading fun _ => Continues.bind (.mapErr _ (sends _)) fun _ => Continues.refl)
  · split
    · exact handleSpawn_parts serving weaned mem fun _ => .pure fun _ branched =>
        branched.orphan.weaned.record
    · exact goes Continues.refl
  · split
    · exact handleSpawn_parts serving weaned mem (becomeSubspecies_parts _ valid rfl)
    · exact goes Continues.refl
  · refine goes (Continues.bind (.mapErr _ (.of_both procStat_departs (sys_keeps ?_))) fun _ =>
      Continues.bind (.mapErr _ (sends _)) fun _ => Continues.refl)
    exact World.Does.bind (.mapErr _ (attempt_does fun _ => nofun)) fun _ => .lift World.Does.refl _
  · exact goes Continues.refl

theorem handleDatagram_parts (serving : Serving N old epfd lfd sfd [] s) (weaned : s.world.Weaned N)
    (mem : fd ∈ s.server.clients) (datagram : Nat × Bytes) :
    Replying base epfd lfd s (handleDatagram fd datagram) := by
  intro t goes
  by_cases valid : datagram.1 ≠ 0 ∧
      ∃ message, Message.tryFromParcel t.world.env.root datagram.2 = .ok message
  · obtain ⟨filled, message, decoded⟩ := valid
    rw [handleDatagram_of_ok filled decoded, dispatchMessageHandler_of_ok decoded]
    refine dispatchMessage_parts serving weaned mem _ (goes.does.env ▸ decoded) _
      (goes.trans ⟨⟨rfl, ?_⟩, .did trivial⟩)
    exact @did_calm _ ClientError (fun w => .dispatched (w.fds.fileOf fd) datagram.2) t.world
  · have invalid : datagram.1 = 0 ∨
        ∀ message, Message.tryFromParcel t.world.env.root datagram.2 ≠ .ok message := by
      rw [not_and_or, not_not, not_exists] at valid
      exact valid
    have ends := @handleDatagram_invalid fd t datagram invalid
    unfold Ends at ends
    revert ends
    cases handleDatagram fd datagram t with
    | mk o u =>
        rintro ⟨breaks, rfl⟩
        cases o with
        | ok control =>
            obtain rfl := breaks control rfl
            exact .inl goes
        | err error => exact .inl goes
        | panic reason => exact (goes_weaned serving weaned goes).record

/-- Whatever a client sends, the server goes on, or a child of it leaves the batch or fails. -/
theorem handleClientEvents_parts (serving : Serving N old epfd lfd sfd [] s) (weaned : s.world.Weaned N)
    (mem : fd ∈ s.server.clients) :
    Exits (· = s) (handleClientEvents fd)
      (fun control t => Goes epfd lfd s t ∨ Parts base s.world.pid control t)
      (fun _ => Fails epfd lfd s) fun t => Detached t.world.log := by
  have about : fd ∈ epfd :: lfd :: s.server.clients :=
    List.mem_cons_of_mem _ (List.mem_cons_of_mem _ mem)
  have loop := @tryUntilWouldBlock_exits _ _ _ _ _ ClientError.taskFailure
    (fun datagram => ServerM.sys (recvmsg messageBufferSize fd datagram)) (handleDatagram fd)
      (Goes epfd lfd s)
    (fun t => Detached t.world.log)
      (fun control t => Goes epfd lfd s t ∨ Parts base s.world.pid control t)
    (fun _ => Fails epfd lfd s) (fun _ => Goes epfd lfd s) (fun _ _ _ => recvmsg_exhausted)
    (fun datagram => ?_) (fun datagram => ?_) (s.world.env.inbox s.world.clock)
  · refine .read fun t same => ?_
    subst same
    refine .bind _ (loop.conseq (fun t same => same ▸ .refl _) (fun _ _ => id) (fun _ _ => id)
      fun _ => id) fun exit => ?_
    cases exit with
    | early control => exact .pure fun _ => id
    | wouldBlock => exact .pure fun _ => .inl
  · have reads : Within (Continues (· ∈ epfd :: lfd :: s.server.clients))
        (ServerM.sys (recvmsg messageBufferSize fd datagram)) :=
      .of_both (sys_departs (recvmsg_calm about))
        (sys_keeps (doing_does (attempt_does fun _ => nofun) fun _ _ => trivial))
    have leads : Leads (Goes epfd lfd s) (ServerM.sys (recvmsg messageBufferSize fd datagram))
        (fun _ => Goes epfd lfd s) (Goes epfd lfd s) := .within reads
          fun _ _ before after => before.trans after
    refine Exits.conseq (.of_leads leads) (fun _ => id) (fun _ _ => id) (fun errno t goes => ?_)
      fun t goes => (goes_weaned serving weaned goes).record
    split
    · exact goes
    · exact .inl goes
  · exact (handleDatagram_parts serving weaned mem datagram).conseq (fun _ => id)
      (fun control _ h => by cases control <;> exact h) (fun _ _ => id) fun _ => id

end messages

/-- The server that was waiting is about to handle these events. It acts on nothing that was there
before it, and has open what it had besides its clients. -/
structure Minding (N : Nat) (old : List Event) (epfd lfd sfd : RawFd) (pid : Nat)
    (base : RawFd → Option Nat) (events : List EpollEvent) (s : Process) : Prop where
  facing : Facing N old epfd lfd sfd events s
  weaned : s.world.Weaned N
  same : s.world.pid = pid
  upkeep : s.Upkeep base []

section events
variable {N : Nat} {old : List Event} {epfd lfd sfd : RawFd} {pid : Nat} {base : RawFd → Option Nat}
  {s t : Process}
  {event : EpollEvent} {events rest : List EpollEvent} {data : EpollData} {control : ServerControl}

theorem Minding.upright (h : Minding N old epfd lfd sfd pid base events s) : Upright s :=
  ⟨N, old, epfd, lfd, sfd, h.facing.1, h.weaned⟩

theorem Minding.goes (h : Minding N old epfd lfd sfd pid base events s) (goes : Goes epfd lfd s t) :
    Minding N old epfd lfd sfd pid base events t :=
  ⟨h.facing.departs goes.departs, goes_weaned h.facing.1 h.weaned goes, goes.does.pid.trans h.same,
    h.upkeep.departs goes.departs⟩

/-- What the process does by itself leaves it as it should be wherever its ledger is kept. -/
theorem Minding.weans (h : Minding N old epfd lfd sfd pid base events s) {calls : Call → Prop}
    {deeds : Deed → Prop} (does : s.world.Does calls deeds t.world) (kept : Kept N old t.world) :
    t.world.Weaned N :=
  h.weaned.kept does (h.facing.1.ledger.logged.imp fun _ => And.left) kept

/-- An event that asks for nothing more is done with. -/
theorem Minding.next (h : Minding N old epfd lfd sfd pid base (event :: rest) s)
    (word : event.data = data.toU64) :
    Minding N old epfd lfd sfd pid base rest s :=
  ⟨h.facing.next word h.facing.1 fun _ mem _ => mem, h.weaned, h.same, h.upkeep⟩

/-- What a handled event leaves to be settled. -/
def Remains (N : Nat) (old : List Event) (epfd lfd sfd : RawFd) (pid : Nat)
    (base : RawFd → Option Nat) (events : List EpollEvent)
    (data : EpollData) : Except ServerError ServerControl → Process → Prop
  | .ok .pollContinue, t => Minding N old epfd lfd sfd pid base events t ∧
      (data.tag = .client → data.fd ∈ t.server.clients)
  | .ok control, t => Parts base pid control t
  | .error (.clientFailure _), t => Forlorn epfd t ∨ Minding N old epfd lfd sfd pid base events t ∧
      data.tag = .client ∧ data.fd ∈ t.server.clients
  | .error (.serverSocketFailure .tooManyClients), t => Minding N old epfd lfd sfd pid base events t ∧
      data.tag ≠ .client
  | .error _, t => Detached t.world.log

/-- The server that is there has come to a control. -/
theorem Minding.remains (h : Minding N old epfd lfd sfd pid base events s)
    (stays : data.tag = .client → data.fd ∈ s.server.clients) (control : ServerControl) :
    Remains N old epfd lfd sfd pid base events data (.ok control) s := by
  cases control with
  | pollContinue => exact ⟨h, stays⟩
  | pollBreak => exact ⟨h.upright, .inl ⟨h.same, h.upkeep⟩⟩
  | shutdown => exact h.weaned.record
  | trampoline thunk => exact h.weaned.record

theorem handleEvent_remains (minding : Minding N old epfd lfd sfd pid base events s)
    (mem : data ∈ interests lfd sfd s.server.clients) :
    Exits (· = s) ((handleEvent data).result : ServerM ServerError (Except ServerError ServerControl))
      (Remains N old epfd lfd sfd pid base events data) (fun _ _ => False)
        fun t => Detached t.world.log := by
  obtain ⟨facing, weaned, same, upkeep⟩ := minding
  have minding : Minding N old epfd lfd sfd pid base events s := ⟨facing, weaned, same, upkeep⟩
  obtain ⟨fd, tag⟩ := data
  refine .result ?_
  cases tag with
  | client =>
      have client : fd ∈ s.server.clients := mem_clients mem rfl
      refine .mapErr ((@handleClientEvents_parts base _ _ _ _ _ _ s facing.1 weaned client).conseq
        (fun _ => id) ?_ ?_ fun _ => id)
      · rintro control t (goes | parts)
        · exact (minding.goes goes).remains (fun _ => goes.departs.server ▸ client) control
        · rw [same] at parts
          cases control with
          | pollContinue => exact parts.elim
          | _ => exact parts
      · rintro error t (goes | forlorn)
        · exact .inr ⟨minding.goes goes, rfl, goes.departs.server ▸ client⟩
        · exact .inl forlorn
  | server =>
      obtain rfl : fd = lfd := by
        rcases Serving.mem_interests.mp mem with same | same | ⟨tag, -⟩
        · cases same
          rfl
        · cases same
        · cases tag
      refine .mapErr ?_
      rintro s ⟨⟩
      have keeps := @handleServerEvents_keeps (fun _ => True) fd s
      have accepts := @handleServerEvents_exits N old epfd fd sfd s.server.clients s
        ⟨facing.1, fun _ => id⟩
      have holds := @handleServerEvents_holds base N old epfd fd sfd s ⟨facing.1, upkeep⟩
      revert keeps accepts holds
      cases handleServerEvents fd s with
      | mk o t =>
          intro keeps accepts holds
          cases o with
          | ok control =>
              obtain ⟨rfl, accepting⟩ := accepts
              exact ⟨⟨facing.more accepting.serves accepting.stays,
                minding.weans keeps.world accepting.serves.kept, keeps.world.pid.trans same, holds⟩,
                fun tag => nomatch tag⟩
          | err error =>
              obtain ⟨refused, kept⟩ := accepts
              have weaned := minding.weans keeps.world kept
              cases error with
              | tooManyClients =>
                  have accepting := refused rfl
                  exact ⟨⟨facing.more accepting.serves accepting.stays, weaned,
                    keeps.world.pid.trans same, holds rfl⟩,
                    fun tag => nomatch tag⟩
              | _ => exact weaned.record
          | panic reason => exact (minding.weans keeps.world accepts).record
  | signal =>
      have goes : Within (Continues (· ∈ epfd :: lfd :: s.server.clients)) (handleSignalfdEvents fd) :=
        .of_both (handleSignalfdEvents_departs fd) (handleSignalfdEvents_keeps (fun _ _ _ => trivial) fd)
      refine .mapErr ?_
      rintro s ⟨⟩
      have minding := minding.goes (goes s)
      revert minding
      cases handleSignalfdEvents fd s with
      | mk o t =>
          intro minding
          cases o with
          | ok control =>
              have stays : (⟨fd, .signal⟩ : EpollData).tag = .client → fd ∈ t.server.clients := nofun
              exact minding.remains stays control
          | err error => exact minding.weaned.record
          | panic reason => exact minding.weaned.record

theorem removeClientSocket_minds (word : event.data = data.toU64) (client : data.tag = .client) :
    Exits (fun s => Minding N old epfd lfd sfd pid base (event :: rest) s ∧ data.fd ∈ s.server.clients)
      ((removeClientSocket data.fd).mapErr ServerError.clientFailure)
      (fun _ => Minding N old epfd lfd sfd pid base rest) (fun _ t => Detached t.world.log)
      fun t => Detached t.world.log := by
  rintro s ⟨minding, mem⟩
  have faces := removeClientSocket_faces word client s ⟨minding.facing, mem⟩
  have keeps := @removeClientSocket_keeps (fun _ => True) data.fd s
  unfold Prog.mapErr at faces ⊢
  cases run : removeClientSocket data.fd s with
  | mk o t =>
      rw [run] at faces keeps
      have removal := minding.facing.1.removeClientSocket_removes mem run
      have weaned := minding.weans keeps.world removal.ledger
      cases o with
      | ok _ => exact ⟨faces, weaned, keeps.world.pid.trans minding.same,
          removeClientSocket_holds ⟨minding.facing.1, minding.upkeep⟩ mem run⟩
      | err error => exact weaned.record
      | panic reason => exact weaned.record

/-- A mark on the record stays there. -/
theorem rash_later (ages : ∃ newer, t.world.log = newer ++ s.world.log) (rash : Rash epfd s) :
    Rash epfd t := by
  obtain ⟨newer, split⟩ := ages
  intro sheds
  rw [split] at sheds
  exact rash sheds.of_append

theorem rash_frame : Frame (fun _ => True) fun s t => Rash epfd s → Rash epfd t where
  refl _ := id
  trans h k := k ∘ h
  keeps keeps := rash_later keeps.world.ages.log
  tailor socketPath s := rash_later
    (@tailor_does (fun _ => True) (fun _ _ => trivial) socketPath s).ages.log

theorem fork_rash : Within (fun s t => Rash epfd s → Rash epfd t) (ServerM.sys fork) := fun s =>
  rash_later (fork_ages s.world).log

theorem rash_exits {ε α : Type} {p : ServerM ε α} {ok : α → Process → Prop} {err : ε → Process → Prop}
    {panic : Process → Prop} (h : Within (fun s t => Rash epfd s → Rash epfd t) p)
    (done : ∀ a t, Rash epfd t → ok a t) (failed : ∀ e t, Rash epfd t → err e t)
    (panicked : ∀ t, Rash epfd t → panic t) : Exits (Rash epfd) p ok err panic := by
  have leads : Leads (Rash epfd) p (fun _ => Rash epfd) (Rash epfd) := .within h
    fun _ _ before after => after before
  exact Exits.conseq (.of_leads leads) (fun _ => id) done failed panicked

/-- The process has kept apart from what it began with, or a child has failed too early. -/
def Spared (epfd : RawFd) (s : Process) : Prop := Detached s.world.log ∨ Rash epfd s

/-- The event is settled: the server minds the others, or the process leaves the batch. -/
def Settled (N : Nat) (old : List Event) (epfd lfd sfd : RawFd) (pid : Nat)
    (base : RawFd → Option Nat) (rest : List EpollEvent) :
    LoopControl ServerControl → Process → Prop
  | .continue, t => Minding N old epfd lfd sfd pid base rest t ∨ Rash epfd t
  | .break control, t => Parts base pid control t ∨ Rash epfd t

theorem handleHangup_minds (word : event.data = data.toU64) :
    Exits (fun t => Minding N old epfd lfd sfd pid base (event :: rest) t ∧
        (data.tag = .client → data.fd ∈ t.server.clients))
      (handleHangup event data) (fun _ => Minding N old epfd lfd sfd pid base rest)
        (fun _ => Spared epfd)
      (Spared epfd) := by
  unfold handleHangup
  split
  · split
    · next client =>
      exact (removeClientSocket_minds word client).conseq (fun t h => ⟨h.1, h.2 client⟩) (fun _ _ => id)
        (fun _ _ => .inl) fun _ => .inl
    · exact fun t h => .inl h.1.weaned.record
  · exact .pure fun t h => h.1.next word

theorem settle_settles (word : event.data = data.toU64) (r : Except ServerError ServerControl) :
    Exits (Remains N old epfd lfd sfd pid base (event :: rest) data r) (settle event data (some r))
      (Settled N old epfd lfd sfd pid base rest) (fun _ => Spared epfd) (Spared epfd) := by
  cases r with
  | ok control =>
      cases control with
      | pollContinue => exact .bind _ (handleHangup_minds word) fun _ => .pure fun _ => .inl
      | _ => exact .pure fun _ => .inl
  | error error =>
      cases error with
      | clientFailure error =>
          refine .bind (fun _ t => Minding N old epfd lfd sfd pid base rest t ∨ Rash epfd t)
            (.either (.either ?_ ?_) ?_)
            fun _ => .pure fun _ => id
          · -- the epoll instance is gone: there is nothing to remove the client from
            rintro s ⟨own, stuck⟩
            exact (Exits.mapErr ((removeClientSocket_stuck data.fd).conseq (fun _ => id)
              (fun _ _ => False.elim) (fun _ _ => .inl) fun _ => .inl)) s stuck
          · exact rash_exits (.mapErr _ (rash_frame.of_keeps (removeClientSocket_keeps data.fd)))
              (fun _ _ => .inr) (fun _ _ => .inr) fun _ => .inr
          · rintro s ⟨minding, client, mem⟩
            exact (removeClientSocket_minds word client).conseq (fun _ => id) (fun _ _ => .inl)
              (fun _ _ => .inl) (fun _ => .inl) s ⟨minding, mem⟩
      | serverSocketFailure error =>
          cases error with
          | tooManyClients =>
              exact .pure fun t h => .inl (h.1.next word)
          | _ => exact .throw fun _ => .inl
      | _ => exact .throw fun _ => .inl

/-- One event of a batch, whatever comes of it. -/
theorem checkEvent_settles (event : EpollEvent) (rest : List EpollEvent) :
    Exits (fun s => Minding N old epfd lfd sfd pid base (event :: rest) s ∨ Rash epfd s)
      (checkEvent event)
      (Settled N old epfd lfd sfd pid base rest) (fun _ => Spared epfd) (Spared epfd) := by
  refine .either (fun s minding => ?_) ?_
  · obtain ⟨data, mem, word, decoded⟩ := minding.facing.tryFrom
    have handles : Exits (· = s) (checkEvent event) (Settled N old epfd lfd sfd pid base rest)
        (fun _ => Spared epfd) (Spared epfd) := by
      refine .bind (fun read t => read = data ∧ t = s) ?_ fun read => ?_
      · rintro t rfl
        unfold Prog.lift
        cases known : eventData event with
        | ok read => exact ⟨Outcome.ok.inj ((eventData_ok known).symm.trans decoded), rfl⟩
        | err error => exact .inl minding.weaned.record
        | panic reason => exact .inl minding.weaned.record
      · by_cases same : read = data
        case neg => exact fun t h => absurd h.1 same
        subst same
        split
        · refine .bind (Remains N old epfd lfd sfd pid base (event :: rest) read) ?_ fun r =>
            settle_settles word r
          refine (handleEvent_remains minding mem).conseq (fun t h => h.2) (fun _ _ => id)
            (fun _ _ => False.elim) fun _ => .inl
        · refine .bind (fun _ => Minding N old epfd lfd sfd pid base rest) ?_
            fun _ => .pure fun _ => .inl
          refine (handleHangup_minds word).conseq ?_ (fun _ _ => id) (fun _ _ => id) fun _ => id
          rintro t ⟨-, rfl⟩
          exact ⟨minding, mem_clients mem⟩
    exact handles s rfl
  · refine rash_exits (checkEvent_within rash_frame fork_rash (fun _ _ => trivial) event)
      (fun control t rash => ?_) (fun _ _ => .inr) fun _ => .inr
    cases control <;> exact .inr rash

/-- A batch is left with a control. -/
theorem checkEpollEvents_parts (events : List EpollEvent) :
    Exits (Minding N old epfd lfd sfd pid base events) (checkEpollEvents events)
      (fun control t => Parts base pid control t ∨ Rash epfd t) (fun _ => Spared epfd)
        (Spared epfd) := by
  have loop := Exits.untilBreak (fun rest s => Minding N old epfd lfd sfd pid base rest s ∨ Rash epfd s)
    (fun event rest => (checkEvent_settles event rest).conseq (fun _ => id)
      (fun control t settled => by cases control <;> exact settled) (fun _ _ => id) fun _ => id) events
  refine .bind _ (loop.conseq (fun _ => .inl) (fun _ _ => id) (fun _ _ => id) fun _ => id) fun r => ?_
  cases r with
  | some control => exact .pure fun _ => id
  | none =>
      refine .pure fun t h => h.imp_left fun minding => ?_
      exact ⟨minding.upright, .inl ⟨minding.same, minding.upkeep⟩⟩

end events

section serve
variable {s t : Process} {epfd : RawFd} {base : RawFd → Option Nat}

/-- A round leaves a process that goes on detached from what it began with, or that is done. -/
theorem serveOnce_parts (upright : Upright s) (upkeep : s.Upkeep base []) (fair : s.Fair)
    (handle : s.server.epollHandle = some epfd) :
    Exits (· = s) serveOnce
      (fun
        | .continue => fun t => Parts base s.world.pid .pollBreak t ∨ Rash epfd t
        | .break _ => Spared epfd)
      (fun _ => Spared epfd) (Spared epfd) := by
  obtain ⟨N, old, epfd', lfd, sfd, serving, weaned⟩ := upright
  obtain rfl : epfd' = epfd := Option.some.inj (serving.epollHandle.symm.trans handle)
  have facing := fair_facing fair serving
  have waits : s.world.Does Call.Spares (fun _ => True) (s.world.note (.epollWait epfd') none) :=
    @World.Does.call _ _ _ _ (.epollWait epfd') none (fun _ => nofun) rfl rfl rfl rfl
  have minding : Minding N old epfd' lfd sfd s.world.pid base
      ((s.world.env.ready s.world.clock).take bufferSizeEpollEvents)
      ⟨s.server, s.world.note (.epollWait epfd') none⟩ :=
    ⟨facing, weaned.kept waits (serving.ledger.logged.imp fun _ => And.left) facing.1.kept, rfl,
      upkeep.of_same rfl rfl⟩
  refine .bind (fun a t => a = epfd' ∧ t = s) (unwrap_exits fun t same => same ▸ handle) fun a => ?_
  refine .bind (Minding N old epfd' lfd sfd s.world.pid base) (.mapErr (attempt_exits ?_ ?_))
    fun events => ?_
  · rintro t events w ⟨rfl, rfl⟩ run
    obtain ⟨rfl, rfl⟩ := epollWait_ok run
    exact minding
  · rintro t error ⟨rfl, rfl⟩
    exact .inl minding.weaned.record
  · refine .bind _ (checkEpollEvents_parts events) fun control => ?_
    cases control with
    | pollContinue => exact .pure fun t h => .inr (h.resolve_left id)
    | _ => exact .pure fun _ => id

/-- What a process waits on, accepts from and serves was made after the fork it began with, and
there is nothing else it watches but the signals. -/
structure Separate (s : Process) : Prop where
  listens : s.Owns s.server.serverSocket
  polls : s.Owns s.server.epollHandle
  clients : ∀ fd ∈ s.server.clients, s.Owns (some fd)
  watches : ∀ epfd ep, s.server.epollHandle = some epfd → s.world.fds.fileOf epfd = some ep →
    ∀ watch ∈ s.world.watches ep, s.server.serverSocket = some watch.fd ∨
      s.server.signalFd = some watch.fd ∨ watch.fd ∈ s.server.clients

theorem Upright.separate (h : Upright s) : Separate s := by
  obtain ⟨N, old, epfd, lfd, sfd, serving, weaned⟩ := h
  have owns : ∀ fd ∈ epfd :: lfd :: s.server.clients, s.Owns (some fd) := by
    intro fd mem
    have held : fd ∈ epfd :: lfd :: sfd :: s.server.clients := by
      simp only [List.mem_cons] at mem ⊢
      tauto
    obtain ⟨file, behind⟩ := Table.isOpen_iff_fileOf.mp (serving.isOpen held)
    exact ⟨fd, file, rfl, behind, weaned.since.trans (serving.ledger.own fd mem file behind)⟩
  refine ⟨serving.serverSocket ▸ owns lfd (by simp), serving.epollHandle ▸ owns epfd (by simp),
    fun fd mem => owns fd (by simp [mem]), fun epfd' ep handle behind watch mem => ?_⟩
  obtain rfl := Option.some.inj (serving.epollHandle.symm.trans handle)
  obtain ⟨ep', behind', -, watched, -⟩ := serving.polls
  obtain rfl := Option.some.inj (behind'.symm.trans behind)
  obtain ⟨-, data, interest, same, -⟩ := watched watch mem
  rw [same, serving.serverSocket, serving.signalFd]
  rcases Serving.mem_interests.mp interest with rfl | rfl | ⟨-, client⟩
  · exact .inl rfl
  · exact .inr (.inl rfl)
  · exact .inr (.inr client)

/-- The process waits on an epoll instance of its own for connections to a socket of its own and
for signals, and has no clients. -/
structure Independent (s : Process) : Prop where
  listens : s.Owns s.server.serverSocket
  polls : s.Owns s.server.epollHandle
  clients : s.server.clients = []
  watches : ∀ epfd ep, s.server.epollHandle = some epfd → s.world.fds.fileOf epfd = some ep →
    ∀ watch ∈ s.world.watches ep, s.server.serverSocket = some watch.fd ∨
      s.server.signalFd = some watch.fd

theorem Separate.independent (h : Separate s) (clients : s.server.clients = []) :
    Independent s := by
  refine ⟨h.listens, h.polls, clients, fun epfd ep handle behind watch mem => ?_⟩
  refine (h.watches epfd ep handle behind watch mem).imp_right fun rest => ?_
  refine rest.resolve_right fun client => ?_
  rw [clients] at client
  cases client

theorem Upright.detached (h : Upright s) : Detached s.world.log := by
  obtain ⟨N, old, _, _, _, _, weaned⟩ := h
  exact weaned.record

/-- The states in which a server, or a subspecies below it, is about to wait, when no child has
failed too early. No path leads to an epoll instance. -/
inductive Careful : Process → Prop
  | new {config : Config.Server} {w w' : World} {server : Server} (log : w.log = [])
      (trace : w.trace = [])
      (limit : w.fds.limit ≤ 0x80000000) (releases : w.env.closeReleases = true)
      (paths : ∀ n path f, w.env.resolve n path = .ok f → f.isEpoll = false)
      (h : Server.new false config w = (.ok server, w')) : Careful ⟨server, w'⟩
  | serve {s t : Process} (h : Careful s) (fair : s.Fair) (round : serveOnce s = (.ok .continue, t))
      (sheds : s.Sheds t) : Careful t

theorem Upright.start (h : Upright s) : s.Upkeep s.besides [] := by
  obtain ⟨N, old, epfd, lfd, sfd, serving, -⟩ := h
  exact .start fun fd mem => serving.isOpen (by simp [mem])

theorem Upright.handle (h : Upright s) : ∃ epfd, s.server.epollHandle = some epfd := by
  obtain ⟨N, old, epfd, lfd, sfd, serving, -⟩ := h
  exact ⟨epfd, serving.epollHandle⟩

/-- The state behind a round in which no child has failed too early. -/
theorem Upright.serve (h : Upright s) (fair : s.Fair) (round : serveOnce s = (.ok .continue, t))
    (sheds : s.Sheds t) : Parts s.besides s.world.pid .pollBreak t := by
  obtain ⟨epfd, handle⟩ := h.handle
  have parts := serveOnce_parts h h.start fair handle s rfl
  rw [round] at parts
  exact parts.resolve_right fun rash => rash (sheds epfd handle)

theorem upright_of_careful (h : Careful s) : Upright s := by
  induction h with
  | @new config w w' server log _ limit releases paths made =>
      obtain ⟨epfd, lfd, sfd, serving⟩ := new_serves log limit releases made
      have fresh : w.Weaned 0 := ⟨log ▸ trivial, log ▸ (le_refl 0), paths⟩
      have does := @new_does (fun _ => True) (fun _ _ => trivial) false config w w' server made
      exact ⟨0, [], epfd, lfd, sfd, serving, fresh.kept does ⟨[], log⟩ serving.kept⟩
  | serve _ fair round sheds ih => exact (ih.serve fair round sheds).1

/-- In every round of every server, and of every subspecies below it, a process acts on nothing it
was forked with: a child that goes on serves what is its own. -/
theorem detached_of_careful {o : Outcome ServerError (LoopControl (Option Thunk))} (h : Careful s)
    (fair : s.Fair) (round : serveOnce s = (o, t)) (sheds : s.Sheds t) :
    Detached t.world.log ∧ (t.world.pid ≠ s.world.pid → o = .ok .continue → Independent t) := by
  have upright := upright_of_careful h
  by_cases goes : o = .ok .continue
  · subst goes
    obtain ⟨after, parts⟩ := upright.serve fair round sheds
    exact ⟨after.detached, fun apart _ =>
      after.separate.independent (parts.resolve_left fun same => apart same.1).2⟩
  · obtain ⟨epfd, handle⟩ := upright.handle
    have parts := serveOnce_parts upright upright.start fair handle s rfl
    rw [round] at parts
    have ended : Spared epfd t → Detached t.world.log := fun spared =>
      spared.resolve_right fun rash => rash (sheds epfd handle)
    refine ⟨?_, fun _ continues => absurd continues goes⟩
    cases o with
    | ok control =>
        cases control with
        | «continue» => exact absurd rfl goes
        | «break» _ => exact ended parts
    | err _ => exact ended parts
    | panic _ => exact ended parts

/-- Every process of the run waits on, accepts from and serves what it made itself. -/
theorem separate_of_careful (h : Careful s) : Separate s := (upright_of_careful h).separate

/-- From one wait of a process to a later one of the same process. -/
inductive Continued (s : Process) : Process → Prop
  | here : Continued s s
  | serve {t u : Process} (h : Continued s t) (fair : t.Fair) (round : serveOnce t = (.ok .continue, u))
      (same : u.world.pid = t.world.pid) (sheds : t.Sheds u) : Continued s u

theorem Continued.kept (careful : Careful s) (h : Continued s t) : Upright t ∧
    t.besides = s.besides := by
  induction h with
  | here => exact ⟨upright_of_careful careful, rfl⟩
  | serve _ fair round same sheds ih =>
      obtain ⟨upright, parts⟩ := ih.1.serve fair round sheds
      obtain ⟨-, upkeep⟩ := parts.resolve_right fun apart => apart.1 same
      exact ⟨upright, upkeep.besides.trans ih.2⟩

/-- However many connections have come and gone, the server has open what it had besides its
clients, and its clients. -/
theorem opened_of_continued (careful : Careful s) (h : Continued s t) (fd : RawFd)
    (other : fd ∉ t.server.clients) :
    t.world.fds.fileOf fd = if fd ∈ s.server.clients then none else s.world.fds.fileOf fd := by
  have same : t.besides fd = s.besides fd := by rw [(h.kept careful).2]
  rw [Process.besides, if_neg other] at same
  exact same

/-- A request for a subspecies that listens at an abstract name. -/
def childMessage : Message := .spawnSubspecies .unset "@sub" (.mock "")

/-- Its finished data, which ends with the parameters of any spawn message. -/
def childMessageData : List UInt8 :=
  [12, 0, 0, 0, 8, 0, 12, 0, 7, 0, 8, 0, 8, 0, 0, 0, 0, 0, 0, 6, 16, 0, 0, 0, 12, 0, 22, 0, 8, 0,
   12, 0, 7, 0, 16, 0, 12, 0, 0, 0, 0, 0, 0, 4, 80, 0, 0, 0, 32, 0, 0, 0, 12, 0, 0, 0, 0, 0, 6, 0,
   8, 0, 4, 0, 6, 0, 0, 0, 4, 0, 0, 0, 0, 0, 0, 0, 0, 0, 0, 0, 4, 0, 0, 0, 64, 115, 117, 98, 0, 0,
   0, 0] ++ unsetSpawnData.drop 76

/-- One client connects in the first round and asks for a subspecies in the second; the process
that is followed is the child. -/
def parentEnv : Env := { endedEnv with
  inbox := fun _ => [childMessageData]
  root := fun buffer =>
    if buffer.take childMessageData.length = childMessageData then some childMessage.toParcel else none
  fork := fun _ => .child 5000 }

def parentLaunched : Process := ⟨(started parentEnv).1.get (by decide), (started parentEnv).2⟩
def parent : Process := (serveOnce parentLaunched).2
def subspecies : Process := (serveOnce parent).2

/-- In the calm environment a path leads to a device. -/
theorem calm_paths (n : Nat) (path : Bytes) (f : OpenFile) (resolved : Env.calm.resolve n path = .ok f) :
    f.isEpoll = false := by
  unfold Env.calm at resolved
  dsimp only at resolved
  split at resolved
  · cases resolved
    decide
  · split at resolved
    · cases resolved
      decide
    · cases resolved

theorem parentLaunched_careful : Careful parentLaunched :=
  @Careful.new (.turtle none none)
    (.boot parentEnv stdio) parentLaunched.world parentLaunched.server rfl rfl
    (by decide) rfl calm_paths (Prod.ext (Outcome.eq_ok_get _ (by decide)) rfl)

theorem parentLaunched_fair : parentLaunched.Fair :=
  @fair_of parentLaunched 3 3 (by decide) (by decide) (by decide) (by decide)

theorem parentLaunched_sheds : parentLaunched.Sheds parent := by
  intro epfd handle
  obtain rfl : epfd = 3 := Option.some.inj (handle.symm.trans (by decide))
  decide

theorem parentLaunched_serves : serveOnce parentLaunched = (.ok .continue, parent) :=
  Prod.ext (by decide) rfl

theorem opened_of_continued_parent :
    parent.world.fds.fileOf 3 = parentLaunched.world.fds.fileOf 3 ∧ 3 ∉ parentLaunched.server.clients :=
  have apart : 3 ∉ parentLaunched.server.clients := by decide
  ⟨(@opened_of_continued parentLaunched parent parentLaunched_careful
    (.serve .here parentLaunched_fair parentLaunched_serves (by decide) parentLaunched_sheds) 3
      (by decide)).trans
    (if_neg apart), apart⟩

theorem parent_careful : Careful parent :=
  parentLaunched_careful.serve parentLaunched_fair parentLaunched_serves parentLaunched_sheds

theorem parent_fair : parent.Fair := @fair_of parent 3 3 (by decide) (by decide) (by decide) (by decide)

theorem parent_serves : serveOnce parent = (.ok .continue, subspecies) :=
  Prod.ext (by decide +kernel) (by rw [subspecies])

attribute [irreducible] subspecies

theorem parent_sheds : parent.Sheds subspecies := by
  intro epfd handle
  obtain rfl : epfd = 3 := Option.some.inj (handle.symm.trans (by decide))
  decide +kernel

theorem detached_of_careful_parent : Detached subspecies.world.log ∧ Independent subspecies := by
  obtain ⟨detached, independent⟩ :=
    @detached_of_careful parent subspecies _ parent_careful parent_fair parent_serves parent_sheds
  exact ⟨detached, independent (by decide +kernel) (by rfl)⟩

theorem separate_of_careful_parent :
    parent.server.clients ≠ [] ∧ Separate parent ∧ Separate subspecies :=
  ⟨by decide, separate_of_careful parent_careful,
    separate_of_careful (parent_careful.serve parent_fair parent_serves parent_sheds)⟩

/-- Files have run out when the child opens `/dev/null`. -/
def strandedEnv : Env := { parentEnv with resolve := fun _ _ => .error emfile }

def strandedLaunched : Process := ⟨(started strandedEnv).1.get (by decide), (started strandedEnv).2⟩
def strandedParent : Process := (serveOnce strandedLaunched).2
def stranded : Process := (serveOnce strandedParent).2

theorem strandedParent_serves : serveOnce strandedParent = ((serveOnce strandedParent).1, stranded) := by
  rw [stranded]

attribute [irreducible] stranded

/-- The child removes the client from the epoll instance of its parent, and goes on with it. -/
theorem not_detached : ¬∀ (s t : Process) (o : Outcome ServerError (LoopControl (Option Thunk))),
    Careful s → s.Fair → serveOnce s = (o, t) →
      Detached t.world.log ∧ (t.world.pid ≠ s.world.pid → o = .ok .continue → Independent t) := by
  intro claim
  have start : Careful strandedLaunched :=
    @Careful.new (.turtle none none)
      (.boot strandedEnv stdio) strandedLaunched.world strandedLaunched.server
      rfl rfl (by decide) rfl (fun _ _ _ => nofun) (Prod.ext (Outcome.eq_ok_get _ (by decide)) rfl)
  have before : Careful strandedParent := by
    refine start.serve (@fair_of strandedLaunched 3 3 (by decide) (by decide) (by decide) (by decide))
      (Prod.ext (by decide) rfl) fun epfd handle => ?_
    obtain rfl : epfd = 3 := Option.some.inj (handle.symm.trans (by decide))
    decide
  have detached := (claim strandedParent stranded (serveOnce strandedParent).1 before
    (@fair_of strandedParent 3 3 (by decide) (by decide) (by decide) (by decide))
    strandedParent_serves).1
  exact absurd detached (by decide +kernel)

end serve
end Server
end Zygote
