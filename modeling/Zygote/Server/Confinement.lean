import Zygote.Messages.RoundTrip
import Zygote.Server.Agreement
import Zygote.Server.SocketFile

/-!
# What no application holds

A thunk is handed out in a child only, whose pid is not the one of its server. Once the server
is dropped there, no number refers to anything that it or a server before it had for itself.
-/
namespace Zygote
open Effect Descriptors Prog

namespace Server
open Process

section handed
variable {ε α : Type}

/-- What leaves the loop with the process: a thunk leaves it in a child only. -/
structure Handed (control : ServerControl) (t : Process) : Prop where
  owned : Owned t
  apart : ∀ thunk, control = .trampoline thunk → t.server.pid ≠ t.world.pid

/-- A handler that hands out a thunk in a child only. -/
abbrev Hands (p : ServerM ε (LoopControl ServerControl)) : Prop :=
  Leads Owned p (fun | .continue => Owned | .break control => Handed control) Owned

theorem stays_leads {p : ServerM ε α} (h : StaysOwned p) : Leads Owned p (fun _ => Owned) Owned :=
  .within h fun _ _ owned stays => stays owned

theorem keeps_leads {p : ServerM ε α} (h : Within (Process.Keeps Deed.Proper) p) :
    Leads Owned p (fun _ => Owned) Owned := stays_leads (owned_frame.of_keeps h)

/-- A program that hands out no thunk. -/
theorem plain_hands {p : ServerM ε α} (control : ServerControl) (h : StaysOwned p)
    (plain : ∀ thunk, control ≠ .trampoline thunk) :
    Leads Owned (do let _ ← p; Pure.pure control) Handed Owned :=
  .bind _ (stays_leads h) fun _ => .pure fun _ owned =>
    ⟨owned, fun thunk same => absurd same (plain thunk)⟩

theorem fork_hands : Leads Owned
    ((ServerM.sys fork).result : ServerM ClientError (Except Errno (Option Nat)))
    (fun answer t => Owned t ∧ (answer = .ok none → t.server.pid ≠ t.world.pid)) Owned := by
  intro s owned
  have stays := fork_owned s owned
  cases run : ServerM.sys fork s with
  | mk o t =>
      rw [run] at stays
      unfold Prog.result
      rw [run]
      cases o with
      | ok answer =>
          refine ⟨stays, fun child => ?_⟩
          cases child
          obtain ⟨w, forked, rfl⟩ := sys_ok run
          exact @fork_apart s w owned forked
      | err errno => exact ⟨stays, fun child => nomatch child⟩
      | panic reason => exact stays

/-- The process is a child that still has the server of its parent. -/
def Forked (t : Process) : Prop := Owned t ∧ t.server.pid ≠ t.world.pid

theorem handleSpawn_hands (fd : RawFd) (messageBuffer : Bytes)
    {childContinuation : SpawnParamsCommon → ServerM ClientError ServerControl}
    (child : ∀ spawnParams, Leads Forked (childContinuation spawnParams) Handed Owned) :
    Hands (handleSpawn false (some fd) messageBuffer childContinuation) := by
  unfold handleSpawn
  refine .bind _ (keeps_leads (verifiedMessage_keeps messageBuffer))
    fun message => .read fun process => ?_
  split
  · exact .throw fun _ => And.left
  · refine .bind (fun _ => Owned) ((keeps_leads (.expect _ (.lift Process.Keeps.refl _))).conseq
      (fun _ => And.left) (fun _ _ => id) fun _ => id) fun spawnParams => ?_
    refine .bind _ fork_hands fun answer => ?_
    split
    · refine .bind (fun _ => Forked) ?_ fun _ => .bind _ (child spawnParams)
        fun control => .pure fun _ => id
      have prioritized : Within (Process.Keeps Deed.Proper) (Prog.forSome spawnParams.priorityInitial
          fun priority => do
            let _ ← (ServerM.sys (plainCall (.setpriority priority) ())).result
            Pure.pure () : ServerM ClientError Unit) :=
        .forSome Process.Keeps.refl fun _ _ => Process.Keeps.bind
          (.result (attempt_keeps fun _ => nofun)) fun _ => Process.Keeps.refl
      refine .conseq (.within prioritized fun s t (forked : Forked s) keeps => ?_)
        (fun _ h => ⟨h.1, h.2 rfl⟩) (fun _ _ => id) fun _ => And.left
      exact (⟨forked.1.later keeps, by rw [keeps.pid, keeps.world.pid]; exact forked.2⟩ : Forked t)
    · rw [ServerM.unwrap_bind_some]
      exact .bind (fun _ => Owned) ((keeps_leads
        (.mapErr _ (sendMessage_keeps (fun _ _ _ => nofun) _ _))).conseq
        (fun _ => And.left) (fun _ _ => id) fun _ => id) fun _ => .pure fun _ => id
    · rw [ServerM.unwrap_bind_some]
      exact .throw fun _ => And.left

theorem becomeSubspecies_hands (socketPath : String) (messageBuffer : Bytes)
    (spawnParams : SpawnParamsCommon) :
    Leads Forked (becomeSubspecies socketPath messageBuffer spawnParams) Handed Owned := by
  refine .conseq (.bind _ (keeps_leads (verifiedMessage_keeps messageBuffer)) fun message => ?_)
    (fun _ => And.left) (fun _ _ => id) fun _ => id
  cases message.getSpawnPayload with
  | none => exact .throw fun _ => id
  | some payload =>
      refine .bind _ (keeps_leads (reInitialize_keeps spawnParams)) fun _ => ?_
      refine .bind _ (keeps_leads speciate_keeps) fun _ =>
        plain_hands .pollBreak (.mapErr _ ?_) fun _ => nofun
      exact reInitializeAsSubspecies_within owned_frame socketPath

theorem dispatchMessage_hands (fd : RawFd) (messageBuffer : Bytes) (species : Species)
    (message : Message) :
    Hands (dispatchMessage fd messageBuffer species message) := by
  have sends : ∀ message, Within (Process.Keeps Deed.Proper) (ServerM.sys (sendMessage fd message)) :=
    sendMessage_keeps (fun _ _ _ => nofun) fd
  have goes : ∀ {p : ServerM ClientError Unit}, StaysOwned p →
      Hands (do p; Pure.pure .continue) := fun h =>
    .bind _ (stays_leads h) fun _ => .pure fun _ => id
  unfold dispatchMessage
  split
  · exact .bind _ (keeps_leads (.result (sends _))) fun _ => .pure fun _ owned => ⟨owned, fun _ => nofun⟩
  · exact .read fun s => .conseq (goes (owned_frame.of_keeps (.mapErr _ (sends _)))) (fun _ => And.left)
      (fun _ _ => id) fun _ => id
  · split
    · exact handleSpawn_hands fd messageBuffer fun _ => .pure fun _ forked =>
        ⟨forked.1, fun _ _ => forked.2⟩
    · exact .pure fun _ => id
  · split
    · exact handleSpawn_hands fd messageBuffer (becomeSubspecies_hands _ messageBuffer)
    · exact .pure fun _ => id
  · refine .bind _ (keeps_leads (.mapErr _ (sys_keeps ?_))) fun proc =>
      goes (owned_frame.of_keeps (.mapErr _ (sends _)))
    exact World.Does.bind (.mapErr _ (attempt_does fun _ => nofun)) fun _ => .lift World.Does.refl _
  · exact .pure fun _ => id

theorem handleDatagram_hands (fd : RawFd) (datagram : Nat × Bytes) :
    Hands (handleDatagram fd datagram) := by
  have reads : ∀ {ε α : Type} {p : ServerM ε α} {s : Process}, Within (Process.Keeps Deed.Proper) p →
      Leads (fun t => Owned t ∧ t = s) p (fun _ => Owned) Owned := fun h =>
    (keeps_leads h).conseq (fun _ => And.left) (fun _ _ => id) fun _ => id
  unfold handleDatagram
  split
  · exact .pure fun _ owned => ⟨owned, fun _ => nofun⟩
  · refine .read fun s => .bind (fun _ => Owned) (reads (.result (.lift Process.Keeps.refl _)))
      fun r => ?_
    split
    · refine .bind _ (keeps_leads (sys_keeps fun w => .did fun _ => nofun)) fun _ => .read fun t => ?_
      refine .bind (fun _ => Owned) (reads (.result (.lift Process.Keeps.refl _))) fun r => ?_
      split
      · exact dispatchMessage_hands fd datagram.2 _ _
      · exact .pure fun _ => id
    · exact .pure fun _ owned => ⟨owned, fun _ => nofun⟩

theorem handleClientEvents_hands (fd : RawFd) : Leads Owned (handleClientEvents fd) Handed Owned := by
  refine .read fun s => .conseq (.bind _ (tryUntilWouldBlock_leads (fun _ => Owned) (fun _ => id)
    (fun _ _ _ => recvmsg_exhausted) (fun datagram => ?_)
      (fun datagram => (handleDatagram_hands fd datagram).conseq
      (fun _ => id) (fun control _ h => by cases control <;> exact h) fun _ => id) _) fun exit => ?_)
    (fun _ => And.left) (fun _ _ => id) fun _ => id
  · exact keeps_leads (sys_keeps (doing_does (attempt_does fun _ => nofun) fun _ _ _ => nofun))
  · cases exit with
    | early control => exact .pure fun _ => id
    | wouldBlock => exact .pure fun _ owned => ⟨owned, fun _ => nofun⟩

theorem handleEvent_hands (data : EpollData) : Leads Owned (handleEvent data) Handed Owned := by
  unfold handleEvent
  split
  · exact .mapErr _ (handleClientEvents_hands data.fd)
  · refine .mapErr _ (.read fun s => .conseq (plain_hands .pollContinue (owned_frame.of_keeps ?_)
      fun _ => nofun)
      (fun _ => And.left) (fun _ _ => id) fun _ => id)
    refine tryUntilWouldBlock_within Process.Keeps.refl Process.Keeps.trans (fun connection => ?_)
      handleConnection_keeps _
    exact attempt_keeps fun _ => nofun
  · refine .mapErr _ (.read fun s => .bind (fun _ => Owned) ((keeps_leads ?_).conseq (fun _ => And.left)
      (fun _ _ => id) fun _ => id) fun exit => ?_)
    · refine tryUntilWouldBlock_within Process.Keeps.refl Process.Keeps.trans (fun siginfo => ?_)
        (handleSiginfo_keeps fun _ _ _ _ => nofun) _
      exact attempt_keeps fun _ => nofun
    · cases exit with
      | early signal => exact .pure fun _ owned => ⟨owned, fun _ => nofun⟩
      | wouldBlock => exact .pure fun _ owned => ⟨owned, fun _ => nofun⟩

theorem checkEvent_hands (event : EpollEvent) : Hands (checkEvent event) := by
  refine .bind _ (keeps_leads (.lift Process.Keeps.refl _)) fun data => ?_
  split
  · refine .bind _ (.result (handleEvent_hands data)) fun result => ?_
    cases result with
    | error error =>
        cases error with
        | clientFailure error =>
            exact .bind _ (keeps_leads (.mapErr _ (removeClientSocket_keeps data.fd)))
              fun _ => .pure fun _ => id
        | serverSocketFailure error =>
            cases error with
            | tooManyClients => exact .pure fun _ => id
            | _ => exact .throw fun _ => id
        | _ => exact .throw fun _ => id
    | ok control =>
        cases control with
        | pollContinue =>
            exact .bind (fun _ => Owned) ((keeps_leads (handleHangup_keeps event data)).conseq
              (fun _ => Handed.owned) (fun _ _ => id) fun _ => id) fun _ => .pure fun _ => id
        | _ => exact .pure fun _ => id
  · exact .bind _ (keeps_leads (handleHangup_keeps event data)) fun _ => .pure fun _ => id

/-- A thunk leaves the loop in a child. -/
theorem serveOnce_hands {s t : Process} {thunk : Thunk} (owned : Owned s)
    (spawned : serveOnce s = (.ok (.break (some thunk)), t)) : t.server.pid ≠ t.world.pid := by
  have round : Leads Owned serveOnce (fun control t => ∀ thunk, control = .break (some thunk) →
      t.server.pid ≠ t.world.pid) Owned := by
    refine .bind _ (keeps_leads (unwrap_keeps _)) fun epollHandle => ?_
    refine .bind _ (keeps_leads (.mapErr _ (attempt_keeps fun _ => nofun))) fun events => ?_
    refine .bind Handed (.bind _ (.untilBreak (fun event => (checkEvent_hands event).conseq (fun _ => id)
      (fun control _ h => by cases control <;> exact h) fun _ => id) events) fun exit => ?_)
        fun control => ?_
    · cases exit with
      | some control => exact .pure fun _ => id
      | none => exact .pure fun _ owned => ⟨owned, fun _ => nofun⟩
    · cases control with
      | trampoline thunk => exact .pure fun _ handed _ _ => handed.apart thunk rfl
      | _ => exact .pure fun _ _ _ => nofun
  exact round.ok_of owned spawned thunk rfl

end handed

/-- What a server has open for itself. -/
def descriptors (server : Server) : List RawFd :=
  server.epollHandle.toList ++ server.serverSocket.toList ++ server.signalFd.toList ++ server.clients

/-- From one wait of a server to a later one, of the server itself or of a subspecies below it. -/
inductive Passed (s : Process) : Process → Prop
  | here : Passed s s
  | serve {t u : Process} (h : Passed s t) (round : serveOnce t = (.ok .continue, u)) : Passed s u

section confined
variable {a s t u : Process} {thunk : Thunk}

theorem Passed.grows (h : Passed a s) : ∃ newer, s.world.log = newer ++ a.world.log := by
  induction h with
  | here => exact ⟨[], rfl⟩
  | @serve t u _ round ih =>
      obtain ⟨early, first⟩ := ih
      obtain ⟨late, second⟩ := (serveOnce_ages t).log
      rw [round] at second
      exact ⟨late ++ early, by rw [second, first, List.append_assoc]⟩

theorem served_owned (h : Served s) : Owned s := by
  induction h with
  | @new config w w' server log trace _ _ made => exact Lineage.owned (.new log trace made)
  | @serve s t _ _ round ih =>
      have owned := serveOnce_owned s ih
      rwa [round] at owned

theorem privileged_of_stands (stands : s.Stands) {fd : RawFd} (mem : fd ∈ s.server.descriptors) :
    Privileged s.world fd := by
  obtain ⟨N, old, epfd, lfd, sfd, serving⟩ := stands
  refine serving.marked fd ?_
  simpa [descriptors, serving.epollHandle, serving.serverSocket, serving.signalFd] using mem

/-- The destructor in a child closes all that the server had for itself. -/
theorem drop_confines (stands : t.Stands) (apart : t.server.pid ≠ t.world.pid)
    (h : drop false t = (.ok (), u)) :
    (∀ fd, ¬Privileged u.world fd) ∧ ∃ newer, u.world.log = newer ++ t.world.log := by
  obtain ⟨N, old, epfd, lfd, sfd, serving⟩ := stands
  obtain ⟨_, _, ⟨⟩, h₁⟩ := Prog.bind_eq_ok.mp h
  rw [if_neg fun own => apart own.1] at h₁
  obtain ⟨⟨⟩, v, executed, h₂⟩ := Prog.bind_eq_ok.mp h₁
  obtain ⟨registry, w, run, rfl⟩ := registry_ok (Prog.expect_eq_ok.mp executed)
  obtain ⟨x, masked, rfl⟩ := sys_ok (Prog.expect_eq_ok.mp h₂)
  have closes : ∀ fd ∈ [] ++ epfd :: lfd :: sfd :: t.server.clients,
      t.server.registry.Has fd .close ∨ t.server.registry.Has fd .closeUnlessSpawnSubspecies := by
    intro fd mem
    by_cases signal : fd = sfd
    · exact .inr (signal ▸ serving.spares)
    · refine .inl (serving.closes fd ?_)
      simp only [List.nil_append, List.mem_cons] at mem ⊢
      tauto
  have ledger := FileDescriptorRegistry.executeActions_application serving.ordered
    (fun fd live => ((serving.live fd).mp live).1) serving.ledger closes run
  have calm : w.Calm (· ∈ []) (sigprocmask w).2 := plainCall_calm rfl rfl w
  rw [masked] at calm
  dsimp only at calm
  refine ⟨fun fd privileged => List.not_mem_nil ((ledger.calm calm).privileged fd privileged), ?_⟩
  have records := FileDescriptorRegistry.executeActions_records .application (t.server.registry, t.world)
  rw [run] at records
  obtain ⟨early, first, -⟩ := records.log
  obtain ⟨late, second⟩ := calm.grows
  exact ⟨late ++ early, by rw [second, first, List.append_assoc]⟩

/-- When the thunk of an application starts, no number refers to a description that was made for
a server, and no number a server had for itself refers to what it did: not for the server that
forked the application, as it last waited or as it was at the fork, nor for any before it. -/
theorem confined_of_served (h : Served s) (fair : s.Fair)
    (spawned : serveOnce s = (.ok (.break (some thunk)), t)) (reinitialized : ¬t.Failed)
    (dropped : drop false t = (.ok (), u)) :
    (∀ fd, ¬Privileged u.world fd) ∧ ∀ a, Served a ∧ Passed a s ∨ a = t →
      ∀ fd ∈ a.server.descriptors, u.world.fds.fileOf fd ≠ a.world.fds.fileOf fd := by
  obtain ⟨late, later⟩ := (serveOnce_ages s).log
  rw [spawned] at later
  have unfailed : ∀ {a : Process} {newer : List Event}, t.world.log = newer ++ a.world.log →
    ¬a.Failed := by
    rintro a newer grows ⟨event, mem, failed⟩
    exact reinitialized ⟨event, grows ▸ List.mem_append_right _ mem, failed⟩
  have stands : t.Stands := by
    have kept := serveOnce_stands s (.inl ⟨(served_stands h).resolve_right (unfailed later), fair⟩)
    rw [spawned] at kept
    exact kept.resolve_right reinitialized
  obtain ⟨confined, newest, grown⟩ :=
    drop_confines stands (serveOnce_hands (served_owned h) spawned) dropped
  refine ⟨confined, fun a before fd mem same => ?_⟩
  obtain ⟨standing, newer, grows⟩ : a.Stands ∧ ∃ newer, t.world.log = newer ++ a.world.log := by
    rcases before with ⟨served, passed⟩ | rfl
    · obtain ⟨early, first⟩ := passed.grows
      have grows : t.world.log = (late ++ early) ++ a.world.log := by
        rw [List.append_assoc, ← first]
        exact later
      exact ⟨(served_stands served).resolve_right (unfailed grows), _, grows⟩
    · exact ⟨stands, [], rfl⟩
  exact confined fd ((privileged_of_stands standing mem).later same
    ⟨newest ++ newer, by rw [grown, grows, List.append_assoc]⟩)

/-- One client connects in the first round and asks for an application in the second; the process
that is followed is the child. -/
def spawningEnv : Env := { endedEnv with
  inbox := fun _ => [appSpawnData]
  root := rootApp
  fork := fun _ => .child 5000 }

def asked : Process := (serveOnce ⟨(started spawningEnv).1.get (by decide), (started spawningEnv).2⟩).2

theorem asked_served : Served asked := by
  have start : Served ⟨(started spawningEnv).1.get (by decide), (started spawningEnv).2⟩ :=
    .new rfl rfl (by decide) rfl (Prod.ext (Outcome.eq_ok_get _ (by decide)) rfl)
  exact start.serve (@fair_of _ 3 3 (by decide) (by decide) (by decide) (by decide))
    (Prod.ext (by decide) rfl)

theorem asked_fair : asked.Fair := @fair_of asked 3 3 (by decide) (by decide) (by decide) (by decide)

/-- The round that ends with the thunk, and the destructor that follows it. -/
def spawned : Process := (serveOnce asked).2
def freed : Process := (drop false spawned).2

theorem exists_thunk (returns : (serveOnce s).1.isOk = true) (ends : (serveOnce s).1 ≠ .ok .continue)
    (hands : (serveOnce s).1 ≠ .ok (.break none)) :
    ∃ thunk, serveOnce s = (.ok (.break (some thunk)), (serveOnce s).2) := by
  obtain ⟨control, run⟩ := Outcome.isOk_iff.mp returns
  match control with
  | .continue => exact absurd run ends
  | .break none => exact absurd run hands
  | .break (some thunk) => exact ⟨thunk, Prod.ext run rfl⟩

theorem asked_spawns : ∃ thunk, serveOnce asked = (.ok (.break (some thunk)), spawned) := by
  rw [spawned]
  exact exists_thunk (by decide +kernel) (by decide +kernel) (by decide +kernel)

theorem confined_of_served_asked : (∀ fd, ¬Privileged freed.world fd) ∧
    ∀ a, Served a ∧ Passed a asked ∨ a = spawned →
      ∀ fd ∈ a.server.descriptors, freed.world.fds.fileOf fd ≠ a.world.fds.fileOf fd := by
  obtain ⟨thunk, run⟩ := asked_spawns
  exact @confined_of_served asked spawned freed thunk asked_served asked_fair run
    (fun ⟨event, mem, failed⟩ => absurd failed
      ((by decide +kernel : ∀ event ∈ spawned.world.log, event.call ≠ .reinitialized false) event mem))
    (Prod.ext (by decide +kernel) (by rw [freed]))

end confined
end Server
end Zygote
