import Zygote.Child
import Zygote.Server.ExecSpawn

/-!
# Preloading

A server loads the libraries of its configuration with the effective ids that are configured for it.
The code of a library runs while it is loaded: what it runs with then, and what the server has
afterwards.
-/
namespace Zygote
open Effect Credentials Child

namespace Server

section loading

/-- Open each library. One that cannot be opened is reported, and the others are opened all the same. -/
def openLibraries : List String → Prog Child ServerError Unit
  | [] => pure ()
  | path :: rest => do
      let _ ← (library (.libraryOpen path)).result
      openLibraries rest

def preloadLibraries (server : Server) (libraries : List String) : Prog Child ServerError Unit := do
  let context ← onWorld ((EffectiveIdContext.enter server.preloadUid server.preloadGid).mapErr
    (.effectivePermissionsFailure server.preloadUid server.preloadGid))
  openLibraries libraries
  onWorld context.drop

/-- `Server::new` with the libraries of the configuration, for a process that serves or was spawned by
`exec`. -/
def newLoading (exec : Bool) (config : Config.Server) (libraries : List String) :
    Prog Child ServerError Server := do
  let registry ← onWorld ((FileDescriptorRegistry.new config.species).mapErr .fdRegistryFailure)
  let server ← onWorld (Prog.focus (fun world => (registry, world)) (fun s _ => s.2)
    (construct exec config))
  onNaming (Naming.prctlSetName server.name.toUTF8.data.toList)
  match ← (do
      onWorld (setpgid.mapErr ServerError.processGroupFailure)
      server.preloadLibraries libraries).result with
  | .ok _ => do
      let _ ← (library .malloptPurgeAll).result
      pure server
  | .error error => do
      onWorld (Prog.focus (fun world => (⟨server, world⟩ : Process)) (fun s _ => s.world)
        ((drop exec).mapErr Empty.elim))
      Prog.throw error

end loading
section follows
open Prog (Follows)
variable {exec : Bool} {config : Config.Server} {libraries : List String} {c c' : Child}
    {server : Server}

/-- The process of the libraries, seen as the world they run in. A library may end it. -/
abbrev Shadows {α : Type} (P : Prog Child ServerError α) (p : Prog World ServerError α) : Prop :=
  Follows Child.world (fun _ => True) True P p

end follows

section steady
open Prog (Within Leads)
variable {config : Config.Server}

/-- The process keeps its credentials. -/
abbrev Steady (w v : World) : Prop := v.task = w.task

theorem Steady.then {u v w : World} (h : Steady u v) (k : Steady v w) : Steady u w := k.trans h

theorem attempt_steady {α : Type} {call : Call}
    {act : World → Except Errno (α × Option RawFd × Tables)} :
    Within Steady (attempt call act) := by
  intro w
  unfold attempt
  split
  · rfl
  · split <;> rfl

theorem doing_steady {α : Type} {deed : World → α → Deed} {p : Prog World Errno α}
    (h : Within Steady p) :
    Within Steady (doing deed p) := by
  intro w
  have made := h w
  unfold doing
  split <;> next run => rw [run] at made; exact made

theorem close_steady (fd : RawFd) : Within Steady (close fd) := by
  intro w
  unfold close
  split
  · split
    · rfl
    · split <;> rfl
  · rfl

theorem steady_handles : Handles Steady where
  refl _ := rfl
  trans := Steady.then
  openFd _ _ := attempt_steady
  close := close_steady
  dup3 _ _ _ := attempt_steady
  fcntlSetfd _ _ := attempt_steady
  fcntlSetfl _ _ := attempt_steady
  lseekSet _ _ := attempt_steady
  procFdIterator := by
    intro w
    unfold procFdIterator
    split
    · rfl
    · exact attempt_steady w

theorem steady_bind {ε α β : Type} {p : Prog World ε α} {f : α → Prog World ε β}
    (first : Within Steady p)
    (rest : ∀ a, Within Steady (f a)) : Within Steady (p >>= f) := Within.bind Steady.then first rest

theorem providedSocket_steady (fd : RawFd) : Within Steady (providedSocket fd) := by
  refine .reading fun w => ?_
  split
  · refine steady_bind (.mapErr _ (.lift steady_handles.refl _)) fun stat => ?_
    split
    · refine steady_bind (.mapErr _ (.lift steady_handles.refl _)) fun socketType => ?_
      split
      · exact steady_bind (.mapErr _ attempt_steady) fun _ =>
          steady_bind (.mapErr _ attempt_steady) fun _ _ => rfl
      · exact fun _ => rfl
    · exact fun _ => rfl
  · exact fun _ => rfl

theorem boundSocket_steady (socketPath : String) : Within Steady (boundSocket socketPath) := by
  have created : ∀ address, Within Steady (do
      let socketFd ← socket sockSeqpacket
      bind socketFd address
      pure socketFd : Prog World Errno RawFd) := fun address =>
    steady_bind attempt_steady fun _ => steady_bind (doing_steady attempt_steady) fun _ _ => rfl
  unfold boundSocket
  split
  · exact steady_bind (.mapErr _ (created _)) fun _ _ => rfl
  · refine .reading fun w => ?_
    split
    · exact fun _ => rfl
    · cases Text.parent _ with
      | none => exact fun _ => rfl
      | some parent =>
        exact steady_bind (.mapErr _ attempt_steady) fun _ =>
          steady_bind (.mapErr _ (created _)) fun _ _ => rfl

theorem getServerSocket_steady (socketPathOrFd : String) :
    Within Steady (getServerSocket socketPathOrFd) := by
  unfold getServerSocket
  split
  · exact providedSocket_steady _
  · refine steady_bind (boundSocket_steady _) fun (fd, path) => ?_
    exact steady_bind (.mapErr _ attempt_steady) fun _ =>
      steady_bind (.mapErr _ attempt_steady) fun _ _ => rfl

end steady

section configured
open Prog (Within Leads)
variable {task : Task}

theorem steady_leads {ε α : Type} {p : Prog (FileDescriptorRegistry × World) ε α}
    (h : Within (fun s t => Steady s.2 t.2) p) :
    Leads (fun s => s.2.task = task) p (fun _ s => s.2.task = task) fun s => s.2.task = task :=
  .within h fun _ _ before same => same.trans before

theorem registry_new_steady (species : Species) :
    Within Steady (FileDescriptorRegistry.new species) := by
  intro w
  have built : Within (fun s t : FileDescriptorRegistry × World => Steady s.2 t.2) (do
      FileDescriptorRegistry.register 0 .ignore
      FileDescriptorRegistry.register 1 .ignore
      FileDescriptorRegistry.register 2 .ignore : RegistryM Unit) :=
    Within.bind Steady.then (FileDescriptorRegistry.register_within steady_handles 0 .ignore) fun _ =>
      Within.bind Steady.then (FileDescriptorRegistry.register_within steady_handles 1 .ignore) fun _ =>
        FileDescriptorRegistry.register_within steady_handles 2 .ignore
  have made := built (FileDescriptorRegistry.bare species, w)
  unfold FileDescriptorRegistry.new
  revert made
  dsimp only [FileDescriptorRegistry.bare]
  split <;> next run => rw [run]; exact id

/-- A server as it is built, by a process with these credentials. -/
abbrev Configured (config : Config.Server) (task : Task) (server : Server)
    (s : FileDescriptorRegistry × World) : Prop :=
  s.2.task = task ∧ server.preloadUid = config.preloadUid ∧ server.preloadGid = config.preloadGid

theorem openDescriptors_steady (exec : Bool) (config : Config.Server) :
    Leads (fun s => s.2.task = task) (openDescriptors exec config) (fun _ s => s.2.task = task)
      fun s => s.2.task = task := by
  have called : ∀ {ε ε' α : Type} {p : Prog World ε α} (f : ε → ε'), Within Steady p →
      Within (fun s t => Steady s.2 t.2) ((FileDescriptorRegistry.onWorld p).mapErr f) :=
    fun f h => .mapErr f fun s => h s.2
  have registers : ∀ fd action, Within (fun s t => Steady s.2 t.2)
      ((FileDescriptorRegistry.register fd action).mapErr ServerError.fdRegistryFailure) :=
    fun fd action => .mapErr _ (FileDescriptorRegistry.register_within steady_handles fd action)
  unfold openDescriptors
  split
  · exact .bind _ (steady_leads (called _ attempt_steady)) fun _ => .pure fun _ => id
  refine .bind _ (steady_leads (called _ attempt_steady)) fun epollHandle => ?_
  refine .bind _ (steady_leads (registers _ _)) fun _ => ?_
  refine .bind _ (steady_leads (called _ (getServerSocket_steady _))) fun (serverSocket, path) => ?_
  refine .bind _ (steady_leads (registers _ _)) fun _ => ?_
  refine .bind _ (steady_leads (called _ attempt_steady)) fun _ => ?_
  refine .bind _ (steady_leads (called _ attempt_steady)) fun _ => ?_
  refine .bind _ (steady_leads (called _ attempt_steady)) fun signalFd => ?_
  refine .bind _ (steady_leads (registers _ _)) fun _ => ?_
  exact .bind _ (steady_leads (called _ attempt_steady)) fun _ => .pure fun _ => id

theorem construct_configured (exec : Bool) (config : Config.Server) :
    Leads (fun s => s.2.task = task) (construct exec config) (Configured config task)
      fun s => s.2.task = task := by
  refine .bind _ (openDescriptors_steady exec config)
    fun (epollHandle, serverSocket, path, signalFd) => ?_
  refine .bind _ (steady_leads (.mapErr _ (FileDescriptorRegistry.registerNew_within steady_handles)))
    fun _ => ?_
  refine .reading fun (registry, world) => .bind _ (steady_leads (.mapErr _ fun s =>
    FileDescriptorRegistry.audit_within steady_handles registry s.2)) fun _ => ?_
  refine .reading fun (_, world) => .bind _ (steady_leads (.expect _ fun _ => rfl)) fun params => ?_
  exact .pure fun _ same => ⟨same, rfl, rfl⟩

end configured

section preloaded
open EffectiveIdContext (Granted taken)
variable {w v : World} {server : Server} {libraries : List String} {c c' : Child}

/-- With a real user id of zero no change of the effective one takes a permitted capability. -/
theorem withUid_rooted {task : Task} {uid : Ids} (root : task.uid.real = 0)
    (real : uid.real = task.uid.real) :
    task.withUid uid = { task with
      uid
      effective := if task.uid.effective = 0 ∧ uid.effective ≠ 0 then 0
        else if task.uid.effective ≠ 0 ∧ uid.effective = 0 then task.permitted
        else task.effective } := by
  have has : uid.has 0 = true := by simp [Ids.has, real, root]
  simp [Task.withUid, has]

/-- What the process becomes by asking for another effective user, if it does. -/
structure Took (before after : Task) (id : Option Id) : Prop where
  granted : Granted before.uid.effective before.uid id
  follows : after.FollowsUid
  real : after.uid.real = before.uid.real
  effective : after.uid.effective = taken before.uid id
  gid : after.gid = before.gid
  permitted : before.uid.real = 0 → after.permitted = before.permitted
  powers : before.uid.real = 0 → after.effective =
    if before.uid.effective = 0 ∧ after.uid.effective ≠ 0 then 0
    else if before.uid.effective ≠ 0 ∧ after.uid.effective = 0 then before.permitted
    else before.effective

theorem setreuid_took {id : Option Id} (follows : w.task.FollowsUid)
    (run : Prog.forSome id (setreuid unchanged) w = (.ok (), v)) : Took w.task v.task id := by
  cases id with
  | none =>
      cases run
      refine ⟨fun _ absent => (nomatch absent), follows, rfl, rfl, rfl, fun _ => rfl, fun _ => ?_⟩
      by_cases zero : w.task.uid.effective = 0 <;> simp [zero]
  | some id =>
      have made : w.task.setreuid unchanged id = some v.task :=
        @onTask_ok w v (.setreuid unchanged id) (fun task => task.setreuid unchanged id) run
      obtain ⟨granted, after, real, effective, gid⟩ := follows.setreuid made
      obtain ⟨uid, -, same⟩ := Option.map_eq_some_iff.mp made
      have kept : uid.real = w.task.uid.real := by
        rw [← same] at real
        exact real
      refine ⟨?_, after, real, effective, gid, fun root => ?_, fun root => ?_⟩
      · rintro asked ⟨⟩
        exact granted
      · rw [← same, withUid_rooted root kept]
      · rw [← same, withUid_rooted root kept]

theorem setregid_took {id : Option Id} (follows : w.task.FollowsUid)
    (run : Prog.forSome id (setregid unchanged) w = (.ok (), v)) :
    Granted w.task.uid.effective w.task.gid id ∧ v.task.FollowsUid ∧ v.task.gid.real = w.task.gid.real ∧
      v.task.gid.effective = taken w.task.gid id ∧ v.task = { w.task with gid := v.task.gid } := by
  cases id with
  | none =>
      cases run
      exact ⟨fun _ absent => (nomatch absent), follows, rfl, rfl, rfl⟩
  | some id =>
      have made : w.task.setregid unchanged id = some v.task :=
        @onTask_ok w v (.setregid unchanged id) (fun task => task.setregid unchanged id) run
      obtain ⟨granted, after, real, effective, -⟩ := follows.setregid made
      obtain ⟨gid, -, same⟩ := Option.map_eq_some_iff.mp made
      refine ⟨?_, after, real, effective, by rw [← same]⟩
      rintro asked ⟨⟩
      exact granted

/-- The ids and capabilities of a server before, during and after the loading of its libraries. -/
structure Preloaded (uid gid : Option Id) (before during after : Task) : Prop where
  user : Granted before.uid.effective before.uid uid
  group : Granted (taken before.uid uid) before.gid gid
  effective : during.uid.effective = taken before.uid uid ∧ during.gid.effective = taken before.gid gid
  real : during.uid.real = before.uid.real ∧ during.gid.real = before.gid.real
  /-- Another user than the superuser has none of the capabilities, but can have them back. -/
  powers : before.uid.real = 0 → before.uid.effective = 0 → taken before.uid uid ≠ 0 →
    during.effective = 0 ∧ during.permitted = before.permitted
  left : after.uid.effective = (if uid.isSome then before.uid.real else before.uid.effective) ∧
    after.gid.effective = if gid.isSome then before.gid.real else before.gid.effective
  /-- What is permitted is effective again. -/
  regained : before.uid.real = 0 → before.uid.effective = 0 → before.effective = before.permitted →
    after.effective = before.effective ∧ after.permitted = before.permitted

theorem enter_ok {uid gid : Option Id} {context : EffectiveIdContext} (follows : w.task.FollowsUid)
    (run : EffectiveIdContext.enter uid gid w = (.ok context, v)) :
    ∃ u, Took w.task u uid ∧ Granted u.uid.effective u.gid gid ∧ v.task.FollowsUid ∧
      v.task.gid.real = u.gid.real ∧ v.task.gid.effective = taken u.gid gid ∧
      v.task = { u with gid := v.task.gid } ∧
      context = ⟨v.task.uid.real, v.task.gid.real, uid, gid⟩ := by
  obtain ⟨_, u, first, run⟩ := Prog.bind_eq_ok.mp run
  obtain ⟨_, x, second, run⟩ := Prog.bind_eq_ok.mp run
  cases run
  have user := setreuid_took follows first
  obtain ⟨granted, after, real, effective, rest⟩ := setregid_took user.follows second
  exact ⟨u.task, user, granted, after, real, effective, rest, rfl⟩

end preloaded

section launched
open EffectiveIdContext (Granted taken)
open Prog (Leads)
variable {exec : Bool} {config : Config.Server} {libraries : List String} {c c' : Child}
    {server : Server}
  {w v : World}

theorem built_configured {registry : FileDescriptorRegistry}
    (run : Prog.focus (fun world => (registry, world)) (fun s _ => s.2) (construct exec config) w =
      (.ok server, v)) :
    v.task = w.task ∧ server.preloadUid = config.preloadUid ∧ server.preloadGid = config.preloadGid := by
  unfold Prog.focus at run
  cases built : construct exec config (registry, w) with
  | mk o s =>
  rw [built] at run
  cases run
  exact (construct_configured exec config).ok_of rfl built

/-- Nothing has been asked of a library, and the credentials are those at the start. -/
structure Untouched (task : Task) (calls : List Made) (c : Child) : Prop where
  task : c.world.task = task
  calls : c.calls = calls

theorem onWorld_untouched {ε α : Type} {task : Task} {calls : List Made} {quit : List Made → Prop}
    {value : α → Prop}
    {p : Prog World ε α} (nothing : quit calls)
    (steady : ∀ w v a, p w = (.ok a, v) → v.task = w.task ∧ value a) :
    Leads (Untouched task calls) (onWorld p) (fun a c => Untouched task calls c ∧ value a)
      fun c => quit c.calls := by
  intro c untouched
  have rest : quit c.calls := untouched.calls.symm ▸ nothing
  unfold onWorld Prog.focus
  cases run : p c.world with
  | mk o v =>
  cases o with
  | ok a => exact ⟨⟨(steady _ _ _ run).1.trans untouched.task, untouched.calls⟩, (steady _ _ _ run).2⟩
  | err e => exact rest
  | panic m => exact rest

theorem steady_ok {ε α : Type} {p : Prog World ε α} (steady : Prog.Within Steady p) (w v : World) (a : α)
    (run : p w = (.ok a, v)) : v.task = w.task ∧ True :=
  ⟨(congrArg (fun r => r.2.task) run).symm.trans (steady w), trivial⟩

theorem onWorld_calls {ε α : Type} {quit : List Made → Prop} (p : Prog World ε α) :
    Leads (fun c => quit c.calls) (onWorld p) (fun _ c => quit c.calls) fun c => quit c.calls := by
  intro c rest
  unfold onWorld Prog.focus
  cases run : p c.world with
  | mk o v => cases o <;> exact rest

theorem library_leads {ε : Type} {call : LibraryCall} {done : Child → Prop} {quit : List Made → Prop}
    (aborted : ∀ c, done c → quit (adding c [call]).calls) :
    Leads done ((library call).result : Prog Child ε (Except Errno Unit))
      (fun _ c => ∃ d, done d ∧ c = adding d [call]) fun c => quit c.calls := by
  intro c h
  unfold Prog.result library
  dsimp only
  cases c.libraries.answer c.calls.length call with
  | done => exact ⟨c, h, rfl⟩
  | failed errno => exact ⟨c, h, rfl⟩
  | aborts reason => exact aborted c h

/-- Of the construction only the loading of the libraries has to be looked at. -/
theorem newLoading_leads {task : Task} {calls : List Made} {done : Child → Prop}
    {quit : List Made → Prop}
    (nothing : quit calls)
    (loads : ∀ server : Server, server.preloadUid = config.preloadUid →
      server.preloadGid = config.preloadGid →
      Leads (Untouched task calls) (server.preloadLibraries libraries) (fun _ => done)
        fun c => quit c.calls)
    (purged : ∀ c, done c → quit (adding c [.malloptPurgeAll]).calls) :
    Leads (Untouched task calls) (newLoading exec config libraries)
      (fun _ c => ∃ d, done d ∧ c = adding d [.malloptPurgeAll]) fun c => quit c.calls := by
  refine .bind _ (onWorld_untouched nothing (steady_ok (.mapErr _ (registry_new_steady _))))
    fun registry => ?_
  refine .bind (fun server c => Untouched task calls c ∧ server.preloadUid = config.preloadUid ∧
    server.preloadGid = config.preloadGid) ?_ fun server => ?_
  · exact .conseq (onWorld_untouched nothing fun _ _ _ run => built_configured run) (fun c h => h.1)
      (fun _ _ => id) fun _ => id
  rintro c ⟨untouched, uid, gid⟩
  refine (?_ : Leads (Untouched task calls) _ _ _) c untouched
  refine .bind (fun _ => Untouched task calls) (fun c h => ⟨h.task, h.calls⟩) fun _ => ?_
  have grouped := @onWorld_untouched _ _ task calls quit _
    (setpgid.mapErr ServerError.processGroupFailure) nothing
    (steady_ok (.mapErr _ attempt_steady))
  have loading : Leads (Untouched task calls) (do
      onWorld (setpgid.mapErr ServerError.processGroupFailure)
      server.preloadLibraries libraries) (fun _ => done) fun c => quit c.calls :=
    .bind _ grouped fun _ => .conseq (loads server uid gid) (fun _ h => h.1) (fun _ _ => id) fun _ => id
  refine .bind _ loading.result fun r => ?_
  cases r with
  | ok _ => exact .bind _ (library_leads purged) fun _ => .pure fun _ => id
  | error error => exact .bind (fun _ c => quit c.calls) (onWorld_calls _) fun _ => .throw fun _ => id

/-- A server of the superuser that loads two libraries as another user. -/
def librarian : Config.Server := { Config.Server.turtle none none with preloadUid := some 1000 }

/-- The second library cannot be opened. -/
def shelf : Child where
  world := .boot .calm stdio
  naming := ⟨[], none, []⟩
  calls := []
  libraries := { Libraries.calm with answer := fun n _ => if n = 1 then .failed enoent else .done }

/-- With ids that are not granted no server comes up, and no library is opened. -/
theorem refused_of_new (follows : c.world.task.FollowsUid)
    (refused : Granted c.world.task.uid.effective c.world.task.uid config.preloadUid →
      ¬Granted (taken c.world.task.uid config.preloadUid) c.world.task.gid config.preloadGid) :
    (newLoading exec config libraries c).1.isOk = false ∧
    (newLoading exec config libraries c).2.calls = c.calls := by
  have never : ∀ server : Server, server.preloadUid = config.preloadUid →
    server.preloadGid = config.preloadGid →
      Leads (Untouched c.world.task c.calls) (server.preloadLibraries libraries) (fun _ _ => False)
        fun d => d.calls = c.calls := by
    intro server uid gid
    refine .bind (fun _ _ => False) ?_ fun _ _ impossible => impossible.elim
    intro d untouched
    unfold onWorld Prog.focus
    cases run : (EffectiveIdContext.enter server.preloadUid server.preloadGid).mapErr
        (ServerError.effectivePermissionsFailure server.preloadUid server.preloadGid) d.world with
    | mk o v =>
    cases o with
    | err e => exact untouched.calls
    | panic m => exact untouched.calls
    | ok context =>
        obtain ⟨u, user, group, -⟩ := enter_ok (untouched.task ▸ follows) (Prog.mapErr_eq_ok.mp run)
        rw [user.effective, user.gid, untouched.task, uid, gid] at group
        have granted := user.granted
        rw [untouched.task, uid] at granted
        exact refused granted group
  have leads := @newLoading_leads exec config libraries c.world.task c.calls (fun _ => False)
    (fun calls => calls = c.calls) rfl never (fun _ => False.elim) c ⟨rfl, rfl⟩
  revert leads
  cases run : newLoading exec config libraries c with
  | mk o d =>
  cases o with
  | ok server => exact fun ⟨_, impossible, _⟩ => impossible.elim
  | err e => exact fun same => ⟨rfl, same⟩
  | panic m => exact fun same => ⟨rfl, same⟩

/-- The superuser can have no other user and another group. -/
theorem refused_of_new_librarian :
    (newLoading false { librarian with preloadGid := some 1000 } ["/lib/libfirst.so"] shelf).1.isOk =
      false ∧
      (newLoading false { librarian with preloadGid := some 1000 } ["/lib/libfirst.so"]
        shelf).2.calls = [] :=
  refused_of_new Task.root_followsUid fun _ granted => absurd (granted 1000 rfl) (by decide)

end launched

end Server
end Zygote
