import Zygote.Server.Thunks
import Zygote.Species.LibApp

/-!
# From a message to an application

What is true of an application when control is given to it, from the start of its server on: of a
native one that a server has forked, of one that was spawned by `exec`, and of a library.
-/
namespace Zygote
open Effect Descriptors Prog Credentials

section table
open ChildProcess
variable {exec : Bool} {species : Callbacks} {data : ReInitWrapper} {params : SpawnParamsCommon}
  {payload : SpawnPayload}

/-- The process has the descriptors it had. -/
def Child.Holding (c c' : Child) : Prop := c'.world.fds = c.world.fds

end table

namespace AndroidNative
open Server (Served FileContents Started Commanded execSpawn serveOnce drop confined_of_served
      inherited_of_served
  started_of_execSpawn Passed descriptors)
open Process
variable {exec : Bool} {reInitData : ReInitWrapper} {thunk : Thunk} {ending : Fate} {c c' : Child}

/-- A run of the thunk has given control to an application: the message of the thunk asks for it, and the
child is what the parameters of the thunk ask for. -/
structure Launched (exec : Bool) (thunk : Thunk) (c : Child) (ending : Fate) (c' : Child) : Prop where
  message : ∃ message preloadingCmd package startSeq targetSdkVersion runtimeFlags topApp,
    Message.tryFromParcel c.world.env.root thunk.spawnMessage = .ok message ∧
      message.getSpawnPayload =
        some (.androidNative preloadingCmd package startSeq targetSdkVersion runtimeFlags topApp) ∧
      ending = .entered startSeq ∧
      Entered exec thunk.spawnParams
        (.androidNative preloadingCmd package startSeq targetSdkVersion runtimeFlags topApp) c c'
  fds : c'.world.fds = c.world.fds

section launch
open Server (endedEnv fair_of new_screens serveOnce_within species_frame)

/-- The server of the species, run by the superuser. -/
def zygote : Config.Server := { Config.Server.turtle none none with species := .androidNative }

def launchMessage : Message := .spawn launchParams launchPayload

/-- Its finished data. -/
def launchData : Bytes :=
  [12, 0, 0, 0, 8, 0, 14, 0, 7, 0, 8, 0, 8, 0, 0, 0, 0, 0, 0, 5, 16, 0, 0, 0, 0, 0, 10, 0, 16, 0,
   8, 0, 7, 0, 12, 0, 10, 0, 0, 0, 0, 0, 0, 1, 100, 0, 0, 0, 20, 0, 0, 0, 16, 0, 28, 0, 8, 0, 12, 0,
   20, 0, 16, 0, 0, 0, 7, 0, 16, 0, 0, 0, 0, 0, 0, 1, 32, 0, 0, 0, 16, 0, 0, 0, 35, 0, 0, 0, 7, 0,
   0, 0, 0, 0, 0, 0, 7, 0, 0, 0, 111, 114, 103, 46, 97, 112, 112, 0, 0, 0, 0, 0, 32, 0, 76, 0, 40,
   0, 7, 0, 8, 0, 12, 0, 16, 0, 20, 0, 24, 0, 0, 0, 48, 0, 56, 0, 64, 0, 28, 0, 32, 0, 36, 0, 32, 0,
   0, 0, 0, 0, 0, 1, 16, 39, 0, 0, 17, 39, 0, 0, 92, 0, 0, 0, 255, 255, 255, 127, 255, 255, 255,
   127, 68, 0, 0, 0, 52, 0, 0, 0, 40, 0, 0, 0, 1, 0, 0, 0, 0, 0, 0, 0, 4, 0, 0, 0, 0, 0, 0, 0, 4, 0,
   0, 0, 0, 0, 0, 0, 4, 0, 0, 0, 0, 0, 0, 0, 0, 0, 0, 0, 0, 0, 0, 0, 0, 0, 0, 0, 2, 0, 0, 0, 187,
   11, 0, 0, 13, 39, 0, 0, 7, 0, 0, 0, 100, 101, 102, 97, 117, 108, 116, 0, 7, 0, 0, 0, 111, 114,
   103, 46, 97, 112, 112, 0]

def rootLaunch (buffer : Bytes) : Option Inner.Parcel :=
  if buffer.take launchData.length = launchData then some launchMessage.toParcel else none

def launchThunk : Thunk := ⟨launchParams,
      launchData ++ List.replicate (messageBufferSize - launchData.length) 0⟩

/-- One client connects in the first round and asks for the application in the second; the process
that is followed is the child. -/
def zygoteEnv : Env := { endedEnv with
  inbox := fun _ => [launchData]
  root := rootLaunch
  fork := fun _ => .child 5000 }

def zygoteWorld : World := { World.boot zygoteEnv stdio with task := ChildProcess.superuser.task }

def zygoteStarted : Process :=
  ⟨(Server.new false zygote zygoteWorld).1.get (by decide), (Server.new false zygote zygoteWorld).2⟩
def zygoteAsked : Process := (serveOnce zygoteStarted).2
def zygoteForked : Process := (serveOnce zygoteAsked).2
def zygoteFreed : Process := (drop false zygoteForked).2
def zygoteChild : Child := { launched with world := zygoteFreed.world }

/-- The message on a file in memory, behind the number the process is told. -/
def commandFile : OpenFile where
  stat := ⟨0x8180, 1, 4⟩
  link := "/memfd:command (deleted)".toUTF8.data.toList

def execContents : FileContents := fun file => if file = 3 then .ok launchData else .error ebadf

def execWorld : World :=
  { World.boot { Env.calm with root := rootLaunch } (stdio ++ [(5, commandFile)]) with
    task := ChildProcess.superuser.task }

def execFreed : World := (execSpawn execContents zygote "5_264" execWorld).2
def execChild : Child := { launched with world := execFreed }

end launch

end AndroidNative
namespace LibApp
open Server (Served serveOnce drop run_of_served freed_env serveOnce_ages endedEnv fair_of new_screens
  serveOnce_within species_frame)
variable {libraries : Libraries} {data : ReInitWrapper} {thunk : Thunk} {s t u : Process} {c : Child}

/-- A server of the species lets no other payload through to its children: whatever it was sent, a
child of it exits by itself unless its arguments cannot be passed on or the kernel does not let it
have its credentials. -/
theorem run_exits_iff (h : Served s) (libApp : s.server.species = .libApp)
    (spawned : serveOnce s = (.ok (.break (some thunk)), t)) (dropped : drop false t = (.ok (), u))
    (child : c.world = u.world) (sound : Child.Sound libraries c) (lives : Lives libraries) :
    ∃ params path args,
      Message.tryFromParcel s.world.env.root
        thunk.spawnMessage = .ok (.spawn params (.libApp path args)) ∧
      params.or t.server.spawnParams = .ok thunk.spawnParams ∧
      ((∃ status c', thunk.run false callbacks data c = (.ok (.exited status), c')) ↔
        (cstrings args.toList).isSome = true ∧
          (ChildProcess.reInitialize false thunk.spawnParams c.world : Outcome Empty Unit ×
            World).1.isOk = true) := by
  obtain ⟨params, payload, decoded, accepted, merged, run⟩ := run_of_served h spawned dropped child
  rw [libApp] at accepted
  cases payload with
  | androidNative => cases accepted
  | androidNativeSubspecies => cases accepted
  | mock => cases accepted
  | libApp path args =>
  have exits := @specialize_exits_iff false data thunk.spawnParams
    (.libApp path args) libraries c sound lives
  refine ⟨params, path, args, decoded, merged, ?_⟩
  rw [run]
  refine exits.trans (and_congr_left fun _ => ⟨?_, fun given => ⟨path, args, rfl, given⟩⟩)
  rintro ⟨_, _, ⟨⟩, given⟩
  exact given

section library

def loader : Config.Server := { Config.Server.turtle none none with species := .libApp }

def loadingMessage : Message := .spawn ChildProcess.appParams loadingPayload

/-- Its finished data. -/
def loadingData : Bytes :=
  [12, 0, 0, 0, 8, 0, 14, 0, 7, 0, 8, 0, 8, 0, 0, 0, 0, 0, 0, 5, 16, 0, 0, 0, 0, 0, 10, 0, 16, 0,
   8, 0, 7, 0, 12, 0, 10, 0, 0, 0, 0, 0, 0, 3, 120, 0, 0, 0, 12, 0, 0, 0, 8, 0, 12, 0, 4, 0, 8, 0,
   8, 0, 0, 0, 44, 0, 0, 0, 4, 0, 0, 0, 2, 0, 0, 0, 20, 0, 0, 0, 4, 0, 0, 0, 6, 0, 0, 0, 115, 101,
   99, 111, 110, 100, 0, 0, 5, 0, 0, 0, 102, 105, 114, 115, 116, 0, 0, 0, 18, 0, 0, 0, 47, 108, 105,
   98, 47, 108, 105, 98, 109, 101, 109, 109, 97, 114, 107, 46, 115, 111, 0, 0, 32, 0, 64, 0, 0, 0,
   0, 0, 4, 0, 8, 0, 12, 0, 16, 0, 20, 0, 0, 0, 36, 0, 44, 0, 52, 0, 24, 0, 28, 0, 32, 0, 32, 0, 0,
   0, 16, 39, 0, 0, 17, 39, 0, 0, 80, 0, 0, 0, 255, 255, 255, 127, 255, 255, 255, 127, 60, 0, 0, 0,
   44, 0, 0, 0, 32, 0, 0, 0, 4, 0, 0, 0, 0, 0, 0, 0, 4, 0, 0, 0, 0, 0, 0, 0, 4, 0, 0, 0, 0, 0, 0, 0,
   0, 0, 0, 0, 0, 0, 0, 0, 0, 0, 0, 0, 2, 0, 0, 0, 187, 11, 0, 0, 13, 39, 0, 0, 0, 0, 0, 0, 0, 0, 0,
   0, 0, 0, 0, 0, 0, 0, 0, 0]

/-- One client connects in the first round and asks for the library in the second. -/
def loaderEnv : Env := { endedEnv with
  inbox := fun _ => [loadingData]
  root := fun buffer => if buffer.take loadingData.length = loadingData then
    some loadingMessage.toParcel else none
  pathExists := fun _ _ => true
  fork := fun _ => .child 5000 }

def loaderWorld : World := { World.boot loaderEnv stdio with task := ChildProcess.superuser.task }

def loaderStarted : Process :=
  ⟨(Server.new false loader loaderWorld).1.get (by decide), (Server.new false loader loaderWorld).2⟩
def loaderAsked : Process := (serveOnce loaderStarted).2
def loaderForked : Process := (serveOnce loaderAsked).2
def loaderFreed : Process := (drop false loaderForked).2
def loaderChild : Child := { loading with world := loaderFreed.world }

theorem loaderStarted_new : Server.new false loader loaderWorld =
    (.ok loaderStarted.server, loaderStarted.world) :=
  Prod.ext (Outcome.eq_ok_get _ (by decide)) rfl

theorem loaderAsked_species : loaderAsked.server.species = .libApp :=
  (serveOnce_within species_frame (fun _ => rfl) (fun _ _ => trivial) loaderStarted).trans
    (new_screens loaderStarted_new).2

theorem loaderAsked_served : Served loaderAsked := by
  have start : Served loaderStarted :=
    @Served.new loader loaderWorld loaderStarted.world loaderStarted.server rfl rfl
      (by decide) rfl loaderStarted_new
  exact start.serve (@fair_of _ 3 3 (by decide) (by decide) (by decide) (by decide))
    (Prod.ext (by decide) rfl)

/-- What is not said of the parameters comes back from the message as an empty text or a zero. -/
def loadingThunk : Thunk where
  spawnParams := { ChildProcess.appParams with
    selinuxFlags := some 0
    noNewPrivs := some false
    processName := some ""
    seInfo := some "" }
  spawnMessage := loadingData ++ List.replicate (messageBufferSize - loadingData.length) 0

theorem loaderAsked_spawns : serveOnce loaderAsked = (.ok (.break (some loadingThunk)), loaderForked) :=
  Prod.ext (by decide +kernel) (by rw [loaderForked])

theorem run_exits_iff_loader : ∃ params path args,
    Message.tryFromParcel loaderAsked.world.env.root loadingThunk.spawnMessage =
      .ok (.spawn params (.libApp path args)) ∧
    params.or loaderForked.server.spawnParams = .ok loadingThunk.spawnParams ∧
    ((∃ status c', loadingThunk.run false callbacks .libApp loaderChild = (.ok (.exited status), c')) ↔
      (cstrings args.toList).isSome = true ∧
        (ChildProcess.reInitialize false loadingThunk.spawnParams loaderChild.world : Outcome Empty
          Unit × World).1.isOk =
          true) := by
  have dropped : drop false loaderForked = (.ok (), loaderFreed) :=
    Prod.ext (by decide +kernel) (by rw [loaderFreed])
  have child : loaderChild.world = loaderFreed.world := by rw [loaderChild]
  have silent : ∀ n call, loaderChild.world.env.hookPanics n call = none := by
    obtain ⟨after, before⟩ := freed_env loaderAsked_served loaderAsked_spawns dropped
    rw [child, after, before, loaderAsked, (serveOnce_ages loaderStarted).env]
    exact fun _ _ => rfl
  exact run_exits_iff loaderAsked_served loaderAsked_species loaderAsked_spawns dropped child
    ⟨silent, fun _ absent => (nomatch absent), rfl⟩ fun _ _ _ aborted => nomatch aborted

end library
end LibApp
end Zygote
