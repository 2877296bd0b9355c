import Zygote.Server.Disconnect
import Zygote.Server.Rounds

/-!
# The clients, the registry, the interest set and the table

Whenever a server is about to wait for events, the four agree on who is a client and on which
numbers are open. This holds of a server and of every subspecies tailored from one.
-/
namespace Zygote
open Effect Descriptors Prog

namespace Server
open Process

/-- The states in which a server, or a subspecies below it, is about to wait. The kernel hands
out numbers of a `c_int`, and a close releases its number whatever it reports. -/
inductive Served : Process → Prop
  | new {config : Config.Server} {w w' : World} {server : Server} (log : w.log = [])
      (trace : w.trace = [])
      (limit : w.fds.limit ≤ 0x80000000) (releases : w.env.closeReleases = true)
      (h : Server.new false config w = (.ok server, w')) : Served ⟨server, w'⟩
  | serve {s t : Process} (h : Served s) (fair : s.Fair) (round : serveOnce s = (.ok .continue, t)) :
      Served t

theorem served_stands {s : Process} (h : Served s) : s.Stands ∨ s.Failed := by
  induction h with
  | new log _ limit releases made =>
      obtain ⟨epfd, lfd, sfd, serving⟩ := new_serves log limit releases made
      exact .inl ⟨0, [], epfd, lfd, sfd, serving⟩
  | serve _ fair round ih =>
      have kept := serveOnce_stands _ (ih.imp (fun stands => ⟨stands, fair⟩) id)
      rwa [round] at kept

/-- The clients are a set that fits its array; they are what is watched as a client, and each
is open with a live entry to close it. The live entries are those of the open numbers. -/
structure Agrees (s : Process) : Prop where
  nodup : s.server.clients.Nodup
  few : s.server.clients.length ≤ bufferSizeClientSockets
  watched : ∃ epfd ep, s.server.epollHandle = some epfd ∧ s.world.fds.fileOf epfd = some ep ∧
    ∀ fd, fd ∈ s.server.clients ↔ ∃ watch ∈ s.world.watches ep, watch.fd = fd ∧
      ∃ data, EpollData.tryFrom watch.data = .ok data ∧ data.tag = .client
  closes : ∀ fd ∈ s.server.clients, s.world.fds.isOpen fd = true ∧
    ∃ entry ∈ s.server.registry.data.toList, entry.fd = fd ∧ entry.action = .close ∧ entry.closed = false
  live : ∀ fd, (∃ entry ∈ s.server.registry.data.toList, entry.fd = fd ∧ entry.closed = false) ↔
    s.world.fds.isOpen fd = true

theorem agrees_of_stands {s : Process} (stands : s.Stands) : Agrees s := by
  obtain ⟨N, old, epfd, lfd, sfd, serving⟩ := stands
  have nodup := serving.nodup
  simp only [List.nil_append, List.nodup_cons] at nodup
  have opened : ∀ fd ∈ s.server.clients, s.world.fds.isOpen fd = true := fun fd mem =>
    serving.isOpen (by simp [mem])
  refine ⟨nodup.2.2.2, s.server.clientSockets.fits, ?_, fun fd mem => ⟨opened fd mem, ?_⟩, fun fd => ?_⟩
  · obtain ⟨ep, behind, -, known, listed⟩ := serving.polls
    refine ⟨epfd, ep, serving.epollHandle, behind, fun fd => ⟨fun mem => ?_, ?_⟩⟩
    · have interest : ⟨fd, .client⟩ ∈ interests lfd sfd s.server.clients :=
        Serving.mem_interests.mpr (.inr (.inr ⟨rfl, mem⟩))
      obtain ⟨watch, member, same, word⟩ := listed _ interest
      exact ⟨watch, member, same, ⟨fd, .client⟩, word ▸ decodes serving interest, rfl⟩
    · rintro ⟨watch, member, rfl, data, word, client⟩
      obtain ⟨-, other, interest, same, stored, -⟩ := known watch member
      obtain rfl : other = data := Outcome.ok.inj ((decodes serving interest).symm.trans (stored ▸ word))
      exact same ▸ mem_clients interest client
  · obtain ⟨entry, member, same, action, fresh⟩ := serving.closes fd (by simp [mem])
    exact ⟨entry, member, same, action, by simp [FileDescriptorEntry.closed, action, fresh]⟩
  · have live := serving.live fd
    simp only [List.not_mem_nil, not_false_eq_true, and_true] at live
    exact live

/-- Whatever connections, messages and signals have come, and whatever became of them. -/
theorem agrees_of_served {s : Process} (h : Served s) (reinitialized : ¬s.Failed) : Agrees s :=
  agrees_of_stands ((served_stands h).resolve_right reinitialized)

/-- A server has one epoll instance, so its batch is looked at once. -/
theorem fair_of {s : Process} {epfd : RawFd} {ep : Nat} (handle : s.server.epollHandle = some epfd)
    (behind : s.world.fds.fileOf epfd = some ep)
    (nodup : (((s.world.env.ready s.world.clock).take bufferSizeEpollEvents).map EpollEvent.data).Nodup)
    (named : ∀ event ∈ (s.world.env.ready s.world.clock).take bufferSizeEpollEvents,
      ∃ watch ∈ s.world.watches ep, watch.data = event.data) : s.Fair := by
  intro epfd' ep' handle' behind'
  obtain rfl := Option.some.inj (handle.symm.trans handle')
  obtain rfl := Option.some.inj (behind.symm.trans behind')
  exact ⟨nodup, named⟩

theorem launched_fair : launched.Fair :=
  @fair_of launched 3 3 (by decide) (by decide) (by decide) (by decide)

theorem connected_served : Served connected := by
  have start : Served launched :=
    @Served.new (.turtle none none) (.boot endedEnv stdio) launched.world launched.server rfl rfl
      (by decide) rfl
      (Prod.ext (Outcome.eq_ok_get _ (by decide)) rfl)
  exact start.serve launched_fair (Prod.ext (by decide) rfl)

theorem agrees_of_served_connected : Agrees connected :=
  agrees_of_served connected_served fun ⟨event, mem, failed⟩ =>
    absurd failed
      ((by decide : ∀ event ∈ connected.world.log, event.call ≠ .reinitialized false) event mem)

end Server
end Zygote
