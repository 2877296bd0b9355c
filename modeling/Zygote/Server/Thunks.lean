import Zygote.Server.ExecSpawn

/-!
# What a thunk stands for

A thunk leaves the loop for a spawn message with a payload of the species, and what it does is decided by
that message: the child comes to its species whatever else the server was sent.
-/
namespace Zygote
open Effect Descriptors Prog

/-- What the thunk does with its message. The species has gathered its data before the fork. -/
def Thunk.run (exec : Bool) (species : Callbacks) (reInitData : ReInitWrapper) (thunk : Thunk) :
    ChildM Fate := do
  let child ← Prog.read
  let message ← (Prog.lift (Message.tryFromParcel child.world.env.root thunk.spawnMessage)).expect
    "Verified message is now invalid"
  match message.getSpawnPayload with
  | none => Prog.panic "Missing spawn payload"
  | some spawnPayload => Child.specialize exec species reInitData thunk.spawnParams spawnPayload

namespace Server

/-- A thunk of a spawn message whose payload the species accepts. Its parameters are those of the message
and, where it has none, those of the server. -/
def Meant (t : Process) (thunk : Thunk) : Prop :=
  ∃ params payload, Message.tryFromParcel t.world.env.root
    thunk.spawnMessage = .ok (.spawn params payload) ∧
    t.server.species.isSpawnPayloadType payload = true ∧
    params.or t.server.spawnParams = .ok thunk.spawnParams

section means
variable {ε α : Type} {messageBuffer : Bytes}

/-- What leaves the loop is meant. -/
def Control.Means (control : ServerControl) (t : Process) : Prop :=
  ∀ thunk, control = .trampoline thunk → Meant t thunk

/-- A handler of which nothing has to be known but how it breaks off. -/
abbrev Means (p : ServerM ε (LoopControl ServerControl)) : Prop :=
  Leads (fun _ => True) p (fun | .continue => fun _ => True | .break control => Control.Means control)
    fun _ => True

theorem plain_means {p : ServerM ε α} {control : ServerControl}
    (plain : ∀ thunk, control ≠ .trampoline thunk) :
    Leads (fun _ => True) (do let _ ← p; Pure.pure control) Control.Means fun _ => True :=
  .bind _ .any fun _ => .pure fun _ _ thunk same => absurd same (plain thunk)

theorem goes_means {p : ServerM ε α} : Means (do let _ ← p; Pure.pure .continue) :=
  .bind _ .any fun _ => .pure fun _ => id

theorem becomeSubspecies_means (socketPath : String) (spawnParams : SpawnParamsCommon) :
    Leads (fun _ => True) (becomeSubspecies socketPath messageBuffer spawnParams) Control.Means
      fun _ => True := by
  refine .bind _ .any fun message => ?_
  cases message.getSpawnPayload with
  | none => exact .throw fun _ => id
  | some payload => exact .bind _ .any fun _ => .bind _ .any fun _ => plain_means fun _ => nofun

theorem handleSpawn_means (fd : RawFd)
    {childContinuation : SpawnParamsCommon → ServerM ClientError ServerControl}
    (child : ∀ spawnParams, Leads (fun _ => True) (childContinuation spawnParams) Control.Means
      fun _ => True) :
    Means (handleSpawn false (some fd) messageBuffer childContinuation) := by
  unfold handleSpawn
  refine .bind _ .any fun message => .bind _ .any fun process => ?_
  split
  · exact .throw fun _ => id
  · refine .bind _ .any fun spawnParams => .bind _ .any fun answer => ?_
    split
    · exact .bind _ .any fun _ => .bind _ (child spawnParams) fun control => .pure fun _ => id
    · rw [ServerM.unwrap_bind_some]
      exact goes_means
    · rw [ServerM.unwrap_bind_some]
      exact .throw fun _ => id

/-- The gate is passed with the message the thunk is made of. -/
theorem handleMessageSpawn_means (fd : RawFd) {s : Process} {params : SpawnParamsCommon}
    {payload : SpawnPayload}
    (decoded : Message.tryFromParcel s.world.env.root messageBuffer = .ok (.spawn params payload))
    (accepted : s.server.species.isSpawnPayloadType payload = true) :
    Leads (fun t => True ∧ t = s) (handleMessageSpawn false (some fd) messageBuffer)
      (fun | .continue => fun _ => True | .break control => Control.Means control) fun _ => True := by
  refine .of_ok fun t control u ⟨_, same⟩ run => ?_
  subst same
  cases control with
  | «continue» => trivial
  | «break» control =>
      obtain ⟨handed, rfl, handing⟩ := handing_of_handleMessageSpawn run
      rintro thunk ⟨⟩
      obtain ⟨message, own, read, given, merged⟩ := handing.params
      cases decoded.symm.trans read
      cases given
      refine ⟨params, payload, ?_, ?_, ?_⟩
      · rw [handing.env, handing.spawnMessage, decoded]
      · rw [handing.server, accepted]
      · rw [handing.server, merged]

theorem dispatchMessage_means (fd : RawFd) {s : Process} {message : Message}
    (decoded : Message.tryFromParcel s.world.env.root messageBuffer = .ok message) :
    Leads (fun t => True ∧ t = s) (dispatchMessage fd messageBuffer s.server.species message)
      (fun | .continue => fun _ => True | .break control => Control.Means control) fun _ => True := by
  have anyway : ∀ {p : ServerM ClientError (LoopControl ServerControl)}, Means p →
      Leads (fun t => True ∧ t = s) p
        (fun | .continue => fun _ => True | .break control => Control.Means control) fun _ => True :=
    fun means => means.conseq (fun _ => And.left) (fun _ _ => id) fun _ => id
  unfold dispatchMessage
  split
  · exact anyway (.bind _ .any fun _ => .pure fun _ _ _ => nofun)
  · exact anyway (.bind _ .any fun _ => goes_means)
  · split
    · next accepted => exact handleMessageSpawn_means fd decoded accepted
    · exact anyway (.pure fun _ => id)
  · split
    · exact anyway (handleSpawn_means fd (becomeSubspecies_means _))
    · exact anyway (.pure fun _ => id)
  · exact anyway (.bind _ .any fun _ => goes_means)
  · exact anyway (.pure fun _ => id)

theorem dispatchMessageHandler_means (fd : RawFd) (messageBuffer : Bytes) :
    Means (dispatchMessageHandler fd messageBuffer) := by
  refine .bind _ .any fun _ => .read fun s => ?_
  cases decoded : Message.tryFromParcel s.world.env.root messageBuffer with
  | ok message => exact dispatchMessage_means fd decoded
  | err error => exact .pure fun _ _ => trivial
  | panic reason => exact fun _ _ => trivial

theorem handleDatagram_means (fd : RawFd) (datagram : Nat × Bytes) :
    Means (handleDatagram fd datagram) := by
  unfold handleDatagram
  split
  · exact .pure fun _ _ _ => nofun
  · refine .bind _ .any fun process => .bind _ .any fun r => ?_
    split
    · exact dispatchMessageHandler_means fd datagram.2
    · exact .pure fun _ _ _ => nofun

theorem handleClientEvents_means (fd : RawFd) :
    Leads (fun _ => True) (handleClientEvents fd) Control.Means fun _ => True := by
  refine .bind _ .any fun process => .bind _ (tryUntilWouldBlock_leads (fun _ _ => True) (fun _ => id)
    (fun _ _ _ => recvmsg_exhausted) (fun _ => .any)
      (fun datagram => (handleDatagram_means fd datagram).conseq
      (fun _ => id) (fun control _ h => by cases control <;> exact h) fun _ => id) _) fun exit => ?_
  cases exit with
  | early control => exact .pure fun _ => id
  | wouldBlock => exact .pure fun _ _ _ => nofun

theorem handleEvent_means (data : EpollData) :
    Leads (fun _ => True) (handleEvent data) Control.Means fun _ => True := by
  unfold handleEvent
  split
  · exact .mapErr _ (handleClientEvents_means data.fd)
  · exact .mapErr _ (.bind _ .any fun process => plain_means fun _ => nofun)
  · refine .mapErr _ (.bind _ .any fun process => .bind _ .any fun exit => ?_)
    cases exit with
    | early signal => exact .pure fun _ _ _ => nofun
    | wouldBlock => exact .pure fun _ _ _ => nofun

theorem checkEvent_means (event : EpollEvent) : Means (checkEvent event) := by
  refine .bind _ .any fun data => ?_
  split
  · refine .bind _ (.result (handleEvent_means data)) fun result => ?_
    cases result with
    | error error =>
        cases error with
        | clientFailure error => exact goes_means
        | serverSocketFailure error =>
            cases error with
            | tooManyClients => exact .pure fun _ => id
            | _ => exact .throw fun _ => id
        | _ => exact .throw fun _ => id
    | ok control =>
        cases control with
        | pollContinue => exact .bind _ .any fun _ => .pure fun _ => id
        | _ => exact .pure fun _ => id
  · exact goes_means

/-- Whatever a server was sent, a thunk is that of a spawn message it accepts. -/
theorem meant_of_serveOnce {s t : Process} {thunk : Thunk}
    (spawned : serveOnce s = (.ok (.break (some thunk)), t)) : Meant t thunk := by
  have round : Leads (fun _ => True) serveOnce (fun control t => ∀ thunk, control = .break (some thunk) →
      Meant t thunk) fun _ => True := by
    refine .bind _ .any fun epollHandle => .bind _ .any fun events => ?_
    refine .bind Control.Means (.bind _
      (.untilBreak (fun event => (checkEvent_means event).conseq (fun _ => id)
      (fun control _ h => by cases control <;> exact h) fun _ => id) events) fun exit => ?_)
        fun control => ?_
    · cases exit with
      | some control => exact .pure fun _ => id
      | none => exact .pure fun _ _ _ => nofun
    · cases control with
      | trampoline thunk =>
          refine .pure fun _ means handed same => ?_
          cases same
          exact means thunk rfl
      | _ => exact .pure fun _ _ _ => nofun
  exact round.ok_of trivial spawned thunk rfl

end means
section run
variable {s t u : Process} {thunk : Thunk} {c : Child} {message : Message} {payload : SpawnPayload}

/-- In a child the destructor is the one of a process that never was the server. -/
theorem drop_of_apart (apart : t.server.pid ≠ t.world.pid) : drop false t = drop true t := by
  have read : (Prog.read : ServerM Empty Process) t = (.ok t, t) := rfl
  unfold drop
  rw [bind_of_ok read, bind_of_ok read, if_neg fun own => apart own.1, if_neg fun own => nomatch own.2]

theorem Thunk.run_of_decoded (decoded : Message.tryFromParcel c.world.env.root
      thunk.spawnMessage = .ok message)
    (given : message.getSpawnPayload = some payload) (exec : Bool) (species : Callbacks)
    (data : ReInitWrapper) :
    thunk.run exec species data c = Child.specialize exec species data thunk.spawnParams payload c := by
  have read : ((Prog.lift (Message.tryFromParcel c.world.env.root thunk.spawnMessage)).expect
      "Verified message is now invalid" : ChildM Message) c = (.ok message, c) := by
    rw [decoded]
    rfl
  unfold Thunk.run
  rw [bind_of_ok (show (Prog.read : ChildM Child) c = (.ok c, c) from rfl), bind_of_ok read, given]

/-- The environment of a child is that of its server. -/
theorem freed_env (h : Served s) (spawned : serveOnce s = (.ok (.break (some thunk)), t))
    (dropped : drop false t = (.ok (), u)) : u.world.env = t.world.env ∧ t.world.env = s.world.env := by
  have ages := (serveOnce_ages s).env
  rw [spawned] at ages
  rw [drop_of_apart (serveOnce_hands (served_owned h) spawned)] at dropped
  have alone := (drop_alone t).env
  rw [dropped] at alone
  exact ⟨alone, ages⟩

/-- What the child of a server does with its thunk: it becomes what the message asks for, and goes
on as its species. There is no other way for the thunk to end than with the species. -/
theorem run_of_served (h : Served s) (spawned : serveOnce s = (.ok (.break (some thunk)), t))
    (dropped : drop false t = (.ok (), u)) (child : c.world = u.world) :
    ∃ params payload, Message.tryFromParcel s.world.env.root
      thunk.spawnMessage = .ok (.spawn params payload) ∧
      s.server.species.isSpawnPayloadType payload = true ∧
      params.or t.server.spawnParams = .ok thunk.spawnParams ∧
      ∀ exec species data,
        thunk.run exec species data c =
          Child.specialize exec species data thunk.spawnParams payload c := by
  obtain ⟨params, payload, decoded, accepted, merged⟩ := meant_of_serveOnce spawned
  obtain ⟨after, before⟩ := freed_env h spawned dropped
  have species : t.server.species = s.server.species := by
    have kept := serveOnce_within species_frame (fun _ => rfl) (fun _ _ => trivial) s
    rwa [spawned] at kept
  have readable : Message.tryFromParcel c.world.env.root
    thunk.spawnMessage = .ok (.spawn params payload) := by
    rw [child, after, decoded]
  exact ⟨params, payload, before ▸ decoded, species ▸ accepted, merged,
    Thunk.run_of_decoded readable rfl⟩

def freedChild : Child := ⟨freed.world, ⟨[], none, []⟩, [], .calm⟩

theorem run_of_served_asked : ∃ thunk, serveOnce asked = (.ok (.break (some thunk)), spawned) ∧
    ∃ params payload, Message.tryFromParcel asked.world.env.root
      thunk.spawnMessage = .ok (.spawn params payload) ∧
      asked.server.species.isSpawnPayloadType payload = true ∧
      params.or spawned.server.spawnParams = .ok thunk.spawnParams ∧ ∀ exec species data,
        thunk.run exec species data freedChild =
          Child.specialize exec species data thunk.spawnParams payload freedChild := by
  obtain ⟨thunk, run⟩ := asked_spawns
  have dropped : drop false spawned = (.ok (), freed) := Prod.ext (by decide +kernel) (by rw [freed])
  have child : freedChild.world = freed.world := by rw [freedChild]
  exact ⟨thunk, run, run_of_served asked_served run dropped child⟩

end run
end Server
end Zygote
