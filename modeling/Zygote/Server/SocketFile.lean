import Zygote.Server.Frames
import Zygote.SocketNames

/-!
# Who removes a socket file

The destructor goes by a pid and a path that a fork copies. Whatever becomes of the
processes of a tree, one whose pid is that of its server has bound a socket for the path
of its server.
-/
namespace Zygote
open Effect Descriptors Prog

section addresses

/-- No address is as long as the structure and free of null bytes. -/
theorem SockAddr.Made.null {address : SockAddr} (made : address.Made)
    (long : address.path.length = sunPathLen) : 0 ∈ address.path := by
  rcases made with ⟨path, rfl⟩ | ⟨name, rfl⟩
  · have short : (path.toUTF8.data.toList.take (sunPathLen - 1)).length < sunPathLen :=
      (List.length_take_le _ _).trans_lt (by decide)
    simp only [SocketAddr.covered, boundSocketAddress, List.length_take] at long ⊢
    rw [length_zeroPadded short.le] at long
    rw [List.take_of_length_le (by rw [length_zeroPadded short.le]; omega)]
    refine List.mem_append_right _ (List.mem_replicate.mpr ⟨?_, rfl⟩)
    omega
  · have behind : sunPathOffset + name.toUTF8.data.toList.length + 1 - sunPathOffset =
        name.toUTF8.data.toList.length + 1 := by omega
    simp only [SocketAddr.covered, abstractSocketAddress, behind, zeroPadded, List.cons_append,
      List.take_succ_cons]
    exact List.mem_cons_self

end addresses

/-- The process has bound a socket at the path. -/
def BoundAt (w : World) (path : Bytes) : Prop := (w.pid, Deed.bound ⟨afUnix, path⟩) ∈ w.trace

/-- The process has bound its socket at the path, if it has one and it fits. -/
def Serves (w : World) (socketPath : Option String) : Prop :=
  ∀ path, socketPath = some path → path.toUTF8.data.toList.length ≠ sunPathLen →
    BoundAt w path.toUTF8.data.toList

/-- Nothing was removed, and every address was made by the code. -/
structure Clean (w : World) : Prop where
  spared : ∀ event ∈ w.log, event.call.Spares
  made : ∀ done ∈ w.trace, ∀ address, done.2 = .bound address → address.Made

/-- A file was removed by the process that bound a socket at its path, whenever the path is
not as long as the address of a socket. -/
def Removals (w : World) : Prop :=
  ∀ event ∈ w.log, ∀ path, event.call = .removeFile path →
    ((event.pid, Deed.bound ⟨afUnix, path⟩) ∈ w.trace ↔ path.length ≠ sunPathLen)

theorem Clean.removals {w : World} (clean : Clean w) : Removals w :=
  fun event mem path removed => absurd removed (clean.spared event mem path)

/-- The deeds of a server, its sockets being bound under addresses it made. -/
def Deed.Proper (deed : Deed) : Prop := ∀ address, deed = .bound address → address.Made

theorem proper_bound (address : SockAddr) (made : address.Made) : (Deed.bound address).Proper := by
  rintro _ ⟨⟩
  exact made

section carry
variable {w w' : World}

theorem Clean.later (h : Clean w) (does : w.Does Call.Spares Deed.Proper w') : Clean w' := by
  obtain ⟨newer, split, spares⟩ := does.log
  obtain ⟨done, splitDeeds, proper⟩ := does.trace
  refine ⟨?_, ?_⟩
  · rw [split]
    exact List.forall_mem_append.mpr ⟨fun event mem => (spares event mem).2, h.spared⟩
  · rw [splitDeeds]
    exact List.forall_mem_append.mpr ⟨fun d mem => (proper d mem).2, h.made⟩

theorem Serves.later {socketPath : Option String} {calls : Call → Prop} {deeds : Deed → Prop}
    (h : Serves w socketPath) (does : w.Does calls deeds w') : Serves w' socketPath := by
  intro path same fits
  rw [BoundAt, does.pid]
  exact does.mem_trace (h path same fits)

theorem serves_none : Serves w none := fun _ absent => nomatch absent

end carry

section bind
variable {w w' : World} {fd : RawFd}

theorem createBoundSocket_serves {path : String} {sockType : Nat}
    (h : createBoundSocket path sockType w = (.ok fd, w')) : Serves w' (some path) := by
  rintro _ ⟨⟩ unequal
  obtain ⟨fits, trace, -⟩ := createBoundSocket_ok h
  rw [BoundAt, ← covered_boundSocketAddress (lt_of_le_of_ne fits unequal), trace]
  exact List.mem_cons_self

theorem boundSocket_serves (socketPath : String) :
    Leads (fun _ => True) (Server.boundSocket socketPath) (fun r w => Serves w r.2) fun _ => True := by
  unfold Server.boundSocket
  split
  · exact .bind _ .any fun _ => .pure fun _ _ => serves_none
  · refine .read fun w => ?_
    split
    · exact .throw fun _ _ => trivial
    · split
      · exact .throw fun _ _ => trivial
      · refine .bind _ .any fun _ => .bind (fun _ w => Serves w (some socketPath)) (.mapErr _ ?_)
          fun _ => .pure fun _ => id
        exact .of_ok fun _ _ _ _ => createBoundSocket_serves

theorem providedSocket_serves (fd : RawFd) :
    Leads (fun _ => True) (Server.providedSocket fd) (fun r w => Serves w r.2) fun _ => True := by
  refine .read fun w => ?_
  split
  · refine .bind _ .any fun stat => ?_
    split
    · refine .bind _ .any fun socketType => ?_
      split
      · exact .bind _ .any fun _ => .bind _ .any fun _ => .pure fun _ _ => serves_none
      · exact .throw fun _ _ => trivial
    · exact .throw fun _ _ => trivial
  · exact .throw fun _ _ => trivial

/-- Whatever socket the server ends up with, it has bound it at the path it keeps. -/
theorem getServerSocket_serves (socketPathOrFd : String) :
    Leads (fun _ => True) (Server.getServerSocket socketPathOrFd) (fun r w => Serves w r.2)
      fun _ => True := by
  have kept : ∀ {path : Option String} {call : Call}
      {act : World → Except Errno (Unit × Option RawFd × Tables)} (f : Errno → ServerSocketError),
      Leads (fun w => Serves w path) ((attempt call act).mapErr f) (fun _ w => Serves w path)
        fun _ => True := by
    intro path call act f
    refine .mapErr f (.conseq (.within (@attempt_does _ (fun _ => True) (fun _ => True) _ _ trivial)
      fun s t h does => h.later does) (fun _ => id) (fun _ _ => id) fun _ _ => trivial)
  unfold Server.getServerSocket
  split
  · exact providedSocket_serves _
  · refine .bind _ (boundSocket_serves _) fun (fd, path) => ?_
    exact .bind _ (kept _) fun _ => .bind _ (kept _) fun _ => .pure fun _ => id

end bind

/-- A process whose pid is that of its server has bound the socket of the server. The pid of
the server is its own or that of a process it descends from. -/
structure Owned (s : Process) : Prop where
  clean : Clean s.world
  own : s.server.pid = s.world.pid → Serves s.world s.server.serverSocketPath
  known : s.server.pid = s.world.pid ∨ ∃ event ∈ s.world.log, event.pid = s.server.pid

section owned
variable {s t : Process}

theorem known_later {w w' : World} {pid : Nat} {calls : Call → Prop} {deeds : Deed → Prop}
    (h : pid = w.pid ∨ ∃ event ∈ w.log, event.pid = pid) (does : w.Does calls deeds w') :
    pid = w'.pid ∨ ∃ event ∈ w'.log, event.pid = pid := by
  rcases h with same | ⟨event, mem, same⟩
  · exact Or.inl (same.trans does.pid.symm)
  · exact Or.inr ⟨event, does.mem_log mem, same⟩

theorem Owned.later (h : Owned s) (keeps : s.Keeps Deed.Proper t) : Owned t where
  clean := h.clean.later keeps.world
  own same := by
    rw [keeps.path]
    rw [keeps.pid, keeps.world.pid] at same
    exact (h.own same).later keeps.world
  known := keeps.pid ▸ known_later h.known keeps.world

/-- However the program ends, the process still owns what its server thinks it does. -/
abbrev StaysOwned {ε α : Type} (p : ServerM ε α) : Prop := Within (fun s t => Owned s → Owned t) p

/-- The pid of a child is on no record, so it is not the one of the server it was forked from. -/
theorem fork_apart {w : World} (owned : Owned s) (run : fork s.world = (.ok none, w)) :
    s.server.pid ≠ w.pid := by
  rcases fork_cases s.world with ⟨errno, run'⟩ | ⟨newPid, run'⟩ | ⟨newPid, apart, fresh, run'⟩
  · cases run.symm.trans run'
  · cases run.symm.trans run'
  · cases run.symm.trans run'
    rcases owned.known with parent | ⟨event, mem, older⟩
    · exact fun same => apart (same.symm.trans parent)
    · exact fun same => fresh event mem (older.trans same)

/-- A child does not own what it has from its parent. -/
theorem fork_owned : StaysOwned (ServerM.sys fork) := by
  intro s owned
  have noted : s.world.Does Call.Spares Deed.Proper (s.world.note .fork none) :=
    @World.Does.call _ _ s.world _ .fork none (fun _ => nofun) rfl rfl rfl rfl
  have state : ∀ {o : Outcome Errno (Option Nat)} {w : World}, fork s.world = (o, w) →
      (ServerM.sys fork s).2 = ⟨s.server, w⟩ := fun run =>
    congrArg Prod.snd (ServerM.sys_eq (t := ⟨s.server, _⟩).mpr ⟨run, rfl⟩)
  rcases fork_cases s.world with ⟨errno, run⟩ | ⟨newPid, run⟩ | ⟨newPid, apart, fresh, run⟩
  · rw [state run]
    exact owned.later ⟨⟨noted, rfl, rfl⟩, rfl, rfl⟩
  · rw [state run]
    exact owned.later ⟨⟨noted.trans (.did fun _ => nofun), rfl, rfl⟩, rfl, rfl⟩
  · rw [state run]
    have clean := owned.clean.later noted
    refine ⟨⟨clean.spared, clean.made⟩, fun same => absurd same (@fork_apart s _ owned run), Or.inr ?_⟩
    · rcases owned.known with parent | ⟨event, mem, older⟩
      · exact ⟨_, List.mem_cons_self, parent.symm⟩
      · exact ⟨event, List.mem_cons_of_mem _ mem, older⟩

end owned

/-- The server has a socket of this process, while its pid may still be that of the parent. -/
structure Renewed (s : Process) : Prop where
  clean : Clean s.world
  serves : Serves s.world s.server.serverSocketPath
  known : s.server.pid = s.world.pid ∨ ∃ event ∈ s.world.log, event.pid = s.server.pid

namespace Renewed
variable {s t : Process}

theorem owned (h : Renewed s) : Owned s := ⟨h.clean, fun _ => h.serves, h.known⟩

theorem later (h : Renewed s) (keeps : s.Keeps Deed.Proper t) : Renewed t :=
  ⟨h.clean.later keeps.world, keeps.path ▸ h.serves.later keeps.world,
    keeps.pid ▸ known_later h.known keeps.world⟩

theorem step {ε α : Type} {p : ServerM ε α} (h : Within (Process.Keeps Deed.Proper) p) :
    Leads Renewed p (fun _ => Renewed) Owned :=
  .conseq (.within h fun _ _ renewed => renewed.later) (fun _ => id) (fun _ _ => id) fun _ => owned

end Renewed

namespace Server

theorem getServerSocket_owned (socketPath : String) :
    Leads Owned (ServerM.sys (getServerSocket socketPath))
      (fun r s => Owned s ∧ Serves s.world r.2) Owned :=
  .conseq (.both (.within (sys_keeps (getServerSocket_does proper_bound socketPath))
      fun _ _ owned => owned.later) (.focus (fun _ _ => rfl) (getServerSocket_serves socketPath)))
    (fun _ owned => ⟨owned, trivial⟩) (fun _ _ => id) fun _ => And.left

/-- The pid is brought up to date when the path has been, and the new path is this process's
own. -/
theorem tailor_owned (socketPath : String) :
    Leads Owned (tailor socketPath) (fun _ => Owned) Owned := by
  refine .bind (fun _ => Owned) (.mapErr _ (.within (registry_keeps resetForSubspecies_keeps)
    fun _ _ owned => owned.later)) fun _ => ?_
  refine .bind _ (.mapErr _ (getServerSocket_owned socketPath)) fun (childSocketFd, path) => ?_
  refine .bind (fun _ s => Owned s ∧ Serves s.world path) (.mapErr _ (.conseq
    (.within (registry_keeps (register_keeps childSocketFd .close))
      fun _ _ h keeps => And.intro (h.1.later keeps) (h.2.later keeps.world))
    (fun _ => id) (fun _ _ => id) fun _ h => h.1)) fun _ => ?_
  refine .bind (fun _ => Renewed) (fun s h => ⟨h.1.clean, h.2, h.1.known⟩) fun _ => ?_
  refine .bind (fun _ => Renewed) (.mapErr _ (Renewed.step (attempt_keeps fun _ => nofun)))
    fun epollHandle => ?_
  refine .bind (fun _ => Renewed)
    (Renewed.step (update_keeps (fun _ => rfl) (fun _ => rfl) (fun _ => rfl) fun _ => rfl)) fun _ => ?_
  refine .bind (fun _ => Renewed)
    (.mapErr _ (Renewed.step (registry_keeps (register_keeps epollHandle .close)))) fun _ => ?_
  refine .bind (fun _ => Renewed) (Renewed.step (unwrap_keeps _)) fun serverSocket => ?_
  refine .bind (fun _ => Renewed) (.mapErr _ (Renewed.step (attempt_keeps fun _ => nofun)))
    fun _ => ?_
  refine .bind (fun _ => Renewed) (Renewed.step (unwrap_keeps _)) fun signalFd => ?_
  refine .bind (fun _ => Renewed) (.mapErr _ (Renewed.step (attempt_keeps fun _ => nofun)))
    fun _ => ?_
  refine .read fun s => ?_
  rintro t ⟨renewed, rfl⟩
  exact ⟨renewed.clean, fun _ => renewed.serves, Or.inl rfl⟩

section new
open FileDescriptorRegistry (register registerNew audit onWorld)

/-- A step of the construction, before and after the socket is there. -/
theorem construct_step {ε α : Type} {socketPath : Option String}
    {p : Prog (FileDescriptorRegistry × World) ε α}
    (h : Within (fun s t => s.2.Does Call.Spares Deed.Proper t.2) p) :
    Leads (fun s => Clean s.2 ∧ Serves s.2 socketPath) p
      (fun _ s => Clean s.2 ∧ Serves s.2 socketPath) fun s => Clean s.2 :=
  .conseq (.within h fun _ _ kept does => And.intro (kept.1.later does) (kept.2.later does))
    (fun _ => id) (fun _ _ => id) fun _ => And.left

theorem openDescriptors_serves (exec : Bool) (config : Config.Server) :
    Leads (fun s => Clean s.2) (openDescriptors exec config)
      (fun own s => Clean s.2 ∧ Serves s.2 own.2.2.1)
      fun s => Clean s.2 := by
  have start : ∀ {ε α : Type} {p : Prog (FileDescriptorRegistry × World) ε α},
      Within (fun s t => s.2.Does Call.Spares Deed.Proper t.2) p →
      Leads (fun s => Clean s.2) p (fun _ s => Clean s.2) fun s => Clean s.2 :=
    fun h => .within h fun _ _ clean does => clean.later does
  unfold openDescriptors
  split
  · exact .bind _ (start (onWorld_keeps _ fun _ => nofun)) fun _ => .pure fun _ clean =>
      ⟨clean, fun _ none => nomatch none⟩
  refine .bind _ (start (onWorld_keeps _ fun _ => nofun)) fun epollHandle => ?_
  refine .bind _ (start (.mapErr _ (register_keeps _ _))) fun _ => ?_
  refine .bind (fun r s => Clean s.2 ∧ Serves s.2 r.2) (.mapErr _ ?_) fun (serverSocket, path) => ?_
  · exact .conseq (.both
      (.within (fun s => getServerSocket_does proper_bound config.socket s.2)
        fun _ _ clean does => Clean.later clean does)
      (.focus (fun _ _ => rfl) (getServerSocket_serves config.socket)))
      (fun _ clean => ⟨clean, trivial⟩) (fun _ _ => id) fun _ => And.left
  refine .bind _ (construct_step (.mapErr _ (register_keeps _ _))) fun _ => ?_
  refine .bind _ (construct_step (onWorld_keeps _ fun _ => nofun)) fun _ => ?_
  refine .bind _ (construct_step (onWorld_keeps _ fun _ => nofun)) fun _ => ?_
  refine .bind _ (construct_step (onWorld_keeps _ fun _ => nofun)) fun signalFd => ?_
  refine .bind _ (construct_step (.mapErr _ (register_keeps _ _))) fun _ => ?_
  exact .bind _ (construct_step (onWorld_keeps _ fun _ => nofun)) fun _ => .pure fun _ => id

theorem construct_owned (exec : Bool) (config : Config.Server) :
    Leads (fun s => Clean s.2) (construct exec config) (fun server s => Owned ⟨server, s.2⟩)
      fun s => Clean s.2 := by
  refine .bind _ (openDescriptors_serves exec config)
    fun (epollHandle, serverSocket, path, signalFd) => ?_
  refine .bind _ (construct_step (.mapErr _ registerNew_keeps)) fun _ => ?_
  refine .read fun (registry, world) => ?_
  refine .bind _ (.conseq (construct_step (.mapErr _ fun s => audit_does registry s.2))
    (fun _ => And.left) (fun _ _ => id) fun _ => id) fun _ => ?_
  refine .read fun (registry, world) => ?_
  refine .bind (fun _ s => (Clean s.2 ∧ Serves s.2 path) ∧ s = (registry, world)) ?_ fun params => ?_
  · have still : Within (fun s t => s = t) ((Prog.lift config.toSpawnParams).expect "unreachable" :
        Prog (FileDescriptorRegistry × World) ServerError SpawnParamsCommon) := .expect _ fun _ => rfl
    exact .conseq (.within still fun _ _ kept same => same ▸ kept) (fun _ => id) (fun _ _ => id)
      fun _ kept => kept.1.1
  · rintro _ ⟨⟨clean, serves⟩, rfl⟩
    exact ⟨clean, fun _ => serves, Or.inl rfl⟩

end new

section drop

theorem removeFile_removals {path : String} {w : World} (clean : Clean w)
    (serves : Serves w (some path)) : Removals (removeFile path.toUTF8.data.toList w).2 := by
  unfold removeFile
  split
  · exact clean.removals
  · next whole =>
    have left := @attempt_does _ (fun _ => True) (fun _ => False) (.removeFile path.toUTF8.data.toList)
      (fun w => .ok ((), none, w.toTables)) trivial w
    obtain ⟨newer, split, no⟩ := left.trace
    have trace : (plainCall (.removeFile path.toUTF8.data.toList) () w).2.trace = w.trace := by
      rw [show newer = [] from List.eq_nil_iff_forall_not_mem.mpr fun d mem => (no d mem).2] at split
      exact split
    have log : (plainCall (.removeFile path.toUTF8.data.toList) () w).2.log =
        (w.note (.removeFile path.toUTF8.data.toList) none).log := by
      unfold plainCall attempt
      split <;> rfl
    intro event mem removed same
    rw [log] at mem
    rw [trace]
    rcases List.mem_cons.mp mem with rfl | mem
    · cases same
      refine ⟨fun bound long => whole ?_, serves path rfl⟩
      have null := (clean.made _ bound _ rfl).null long
      simpa using null
    · exact absurd same (clean.spared event mem removed)

/-- What is removed by the destructor. -/
theorem drop_removals (exec : Bool) : Leads Owned (drop exec) (fun _ s => Removals s.world)
    fun s => Removals s.world := by
  refine .read fun process => ?_
  split
  · next own =>
    refine .bind (fun _ s => Clean s.world ∧ Serves s.world process.server.serverSocketPath)
      (.conseq (.within (R := Process.Keeps Deed.Proper)
        (.result (registry_keeps overrideAndClose_keeps)) ?_) (fun _ => id)
        (fun _ _ => id) ?_) fun _ => ?_
    · rintro s t ⟨owned, rfl⟩ keeps
      have later := owned.later keeps
      refine ⟨later.clean, ?_⟩
      rw [← keeps.path]
      exact later.own (by rw [keeps.pid, keeps.world.pid, own.1])
    · exact fun s h => h.1.removals
    · split
      · next path named =>
        rw [named]
        refine .bind (fun _ s => Removals s.world) ?_ fun _ => .pure fun _ => id
        intro s h
        have removes := removeFile_removals h.1 h.2
        unfold Prog.result ServerM.sys Prog.focus
        revert removes
        cases removeFile path.toUTF8.data.toList s.world with
        | mk o w => cases o <;> exact id
      · exact .pure fun s h => h.1.removals
  · refine .bind (fun _ => Owned) (.conseq (.within (.expect _ (registry_keeps
      (executeActions_keeps .application))) fun _ _ h keeps => Owned.later h.1 keeps) (fun _ => id)
      (fun _ _ => id) fun _ owned => owned.clean.removals) fun _ => ?_
    exact .conseq (.within (.expect _ (attempt_keeps fun _ => nofun))
      fun _ _ owned keeps => Owned.later owned keeps) (fun _ => id)
      (fun _ _ owned => owned.clean.removals) fun _ owned => owned.clean.removals

/-- A server that is not handed out has been dropped. -/
theorem new_owned (exec : Bool) (config : Config.Server) :
    Leads Clean (new exec config) (fun server w => Owned ⟨server, w⟩) Removals := by
  have alone : ∀ {server : Server} {w w' : World}, Owned ⟨server, w⟩ →
      w.Does Call.Spares Deed.Proper w' → Owned ⟨server, w'⟩ :=
    fun owned does => owned.later ⟨⟨does, rfl, rfl⟩, rfl, rfl⟩
  refine .bind (fun _ => Clean) (.mapErr _ (.conseq (.within (registry_new_does _)
    fun _ _ clean does => Clean.later clean does) (fun _ => id) (fun _ _ => id)
    fun _ => Clean.removals)) fun registry => ?_
  refine .bind (fun server w => Owned ⟨server, w⟩) ?_ fun server => ?_
  · intro w clean
    have built := construct_owned exec config (registry, w) clean
    unfold Prog.focus
    revert built
    cases construct exec config (registry, w) with
    | mk o s =>
        cases o with
        | ok server => exact id
        | err e => exact Clean.removals
        | panic m => exact Clean.removals
  refine .bind (fun _ w => Owned ⟨server, w⟩) (.conseq (.within (R := World.Does Call.Spares Deed.Proper)
    (.result (World.Does.bind (.mapErr _ (attempt_does fun _ => nofun)) fun _ => preload_does server))
    fun _ _ owned does => alone owned does) (fun _ => id) (fun _ _ => id)
    fun _ owned => owned.clean.removals) fun r => ?_
  cases r with
  | ok _ => exact .pure fun _ => id
  | error error =>
      refine .bind (fun _ => Removals) ?_ fun _ => .throw fun _ => id
      intro w owned
      have dropped : Leads Owned ((drop exec).mapErr Empty.elim : ServerM ServerError Unit)
          (fun _ s => Removals s.world) fun s => Removals s.world := .mapErr _ (drop_removals exec)
      have removals := dropped ⟨server, w⟩ owned
      unfold Prog.focus
      revert removals
      cases ((drop exec).mapErr Empty.elim : ServerM ServerError Unit) ⟨server, w⟩ with
      | mk o s => cases o <;> exact id

end drop

section serve

/-- What the handlers are made of leaves the process with what is its own. -/
theorem owned_frame : Frame Deed.Proper (fun s t => Owned s → Owned t) where
  refl _ := id
  trans h k owned := k (h owned)
  keeps keeps owned := owned.later keeps
  tailor socketPath _ owned := (tailor_owned socketPath).snd owned

theorem serveOnce_owned : StaysOwned serveOnce :=
  serveOnce_within owned_frame fork_owned fun _ unbound _ bound => absurd bound (unbound _)

end serve

/-- A process of the tree that grows from a server, between two rounds of its loop or behind the
last one: at every fork of its ancestors and of its own it is followed on either side. -/
inductive Lineage : Process → Prop
  | new {config : Config.Server} {w w' : World} {server : Server} (log : w.log = [])
      (trace : w.trace = []) (h : Server.new false config w = (.ok server, w')) : Lineage ⟨server, w'⟩
  | serve {s : Process} (h : Lineage s) : Lineage (serveOnce s).2

/-- The world a server leaves: it was dropped after it had served, or was not handed out. -/
inductive Left : World → Prop
  | new {config : Config.Server} {w : World} (log : w.log = []) (trace : w.trace = []) :
      Left (Server.new false config w).2
  | drop {s : Process} (h : Lineage s) : Left (Server.drop false s).2.world

theorem Lineage.owned {s : Process} (h : Lineage s) : Owned s := by
  induction h with
  | @new config w w' server log trace h =>
      have clean : Clean w := by
        refine ⟨?_, ?_⟩
        · rw [log]; exact List.forall_mem_nil _
        · rw [trace]; exact List.forall_mem_nil _
      exact (new_owned false config).ok_of clean h
  | serve h ih => exact serveOnce_owned _ ih

theorem Left.removals {w : World} (left : Left w) : Removals w := by
  cases left with
  | @new config w log trace =>
      have clean : Clean w := by
        refine ⟨?_, ?_⟩
        · rw [log]; exact List.forall_mem_nil _
        · rw [trace]; exact List.forall_mem_nil _
      have made := new_owned false config w clean
      revert made
      split <;> next run =>
        rw [run]
        first
          | exact id
          | exact fun owned => owned.clean.removals
  | drop h => exact (drop_removals false).snd h.owned

/-- In every process of the tree, and however it got there: what is removed is the path of a
socket that the same process bound, exactly when a socket can have that path. -/
theorem removes_own_iff {w : World} (left : Left w) {event : Event} (mem : event ∈ w.log)
    {path : Bytes} (removed : event.call = .removeFile path) :
    (event.pid, Deed.bound ⟨afUnix, path⟩) ∈ w.trace ↔ path.length ≠ sunPathLen :=
  left.removals event mem path removed

/-- A path of the given length. -/
def pathOf (length : Nat) : String := String.ofList ('/' :: List.replicate (length - 1) 'z')

def startedAt (socket : String) : Outcome ServerError Server × World :=
  Server.new false { Config.Server.turtle none none with socket } (.boot .calm stdio)

/-- The server shuts down as soon as it has started. -/
theorem left_startedAt {socket : String} (started : (startedAt socket).1.isOk = true) :
    Left (Server.drop false ⟨(startedAt socket).1.get started, (startedAt socket).2⟩).2.world := by
  refine .drop (@Lineage.new { Config.Server.turtle none none with socket } (.boot .calm stdio) _ _
    rfl rfl ?_)
  exact Prod.ext (Outcome.eq_ok_get _ _) rfl

theorem short_started : (startedAt (pathOf 16)).1.isOk = true := by decide

def shortLeft : World :=
  (Server.drop false ⟨(startedAt (pathOf 16)).1.get short_started, (startedAt (pathOf 16)).2⟩).2.world

theorem removes_own_short : ∃ event ∈ shortLeft.log,
    event.call = .removeFile (pathOf 16).toUTF8.data.toList ∧
      ((event.pid, Deed.bound ⟨afUnix, (pathOf 16).toUTF8.data.toList⟩) ∈ shortLeft.trace ↔
        (pathOf 16).toUTF8.data.toList.length ≠ sunPathLen) := by
  have removes : ∃ event ∈ shortLeft.log,
      event.call = .removeFile (pathOf 16).toUTF8.data.toList := by decide +kernel
  obtain ⟨event, mem, removed⟩ := removes
  exact ⟨event, mem, removed, removes_own_iff (left_startedAt short_started) mem removed⟩

theorem long_started : (startedAt (pathOf 108)).1.isOk = true := by decide +kernel

def longLeft : World :=
  (Server.drop false ⟨(startedAt (pathOf 108)).1.get long_started, (startedAt (pathOf 108)).2⟩).2.world

/-- A path of 108 bytes is removed, and it was one of 107 that was bound. -/
theorem removes_other : ¬∀ w, Left w → ∀ event ∈ w.log, ∀ path, event.call = .removeFile path →
    (event.pid, Deed.bound ⟨afUnix, path⟩) ∈ w.trace := by
  intro claim
  have removes : ∃ event ∈ longLeft.log,
      event.call = .removeFile (pathOf 108).toUTF8.data.toList := by decide +kernel
  obtain ⟨event, mem, removed⟩ := removes
  have left : Left longLeft := left_startedAt long_started
  have fits := (left.removals event mem _ removed).mp (claim longLeft left event mem _ removed)
  exact fits (by decide +kernel)

end Server
end Zygote
