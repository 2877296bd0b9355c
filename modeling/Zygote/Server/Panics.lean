import Zygote.FileDescriptors.Capacity
import Zygote.Messages.Decode
import Zygote.Messages.Merge
import Zygote.Server.Rounds
import Zygote.Server.Statistics

/-!
# What makes a server panic

A panic ends the server for all of its clients. Whether there is one depends on what the clients
send, on the statistics file, on the signals and on the room in the registry. A process that has
been forked panics for itself only.
-/
namespace Zygote
open Effect Descriptors Prog

/-- A client sends what fills the buffer of the server like this. -/
def Env.Sends (env : Env) (buffer : Bytes) : Prop :=
  ∃ n, ∃ datagram ∈ env.inbox n, datagram ≠ [] ∧ buffer = (received messageBufferSize datagram).2

/-- What is read of the datagrams has its common parameters and fits the arrays, the statistics have
all their fields, and the signals are those that are waited for. -/
structure Bearable (env : Env) : Prop where
  decodes : ∀ buffer, env.Sends buffer → ∀ parcel, env.root buffer = some parcel → parcel.message.Fits
  statistics : ∀ n,
    ProcStat.Complete (Text.fromUtf8Lossy ((env.procStat n).take ProcStat.procStatBufferSize))
  signals : ∀ n, ∀ siginfo ∈ env.signals n,
    siginfo.signo = sigchld ∨ siginfo.signo = sigint ∨ siginfo.signo = sigterm

namespace Process

/-- The registry has room for as many clients as the server takes. -/
def Roomy (s : Process) : Prop :=
  s.server.registry.data.length + bufferSizeClientSockets ≤
    registrySize + s.server.clients.length

def Merges (s : Process) (message : Message) : Prop :=
  ∀ params, message.getSpawnParams = some params → params.Fits s.server.spawnParams

/-- The server can take in as many clients as it takes, and spawn what the messages that wait ask
for. -/
structure Prepared (s : Process) : Prop where
  merges : ∀ buffer message, s.world.env.Sends buffer →
    Message.tryFromParcel s.world.env.root buffer = .ok message → s.Merges message
  room : s.Roomy

end Process

theorem Message.tryFromParcel_returns {root : Bytes → Option Inner.Parcel} {buffer : Bytes}
    (fits : ∀ parcel, root buffer = some parcel → parcel.message.Fits) :
    (Message.tryFromParcel root buffer).isPanic = false := by
  unfold Message.tryFromParcel
  cases read : root buffer with
  | none => rfl
  | some parcel => exact fromParcel_not_panic.mpr (fits parcel read)

namespace ProcStat

theorem get_returns {w : World}
    (complete : Complete (Text.fromUtf8Lossy ((w.env.procStat w.clock).take procStatBufferSize))) :
    (get w).1.isPanic = false := by
  cases read : readProcStat procStatBufferSize w with
  | mk o w' =>
      cases o with
      | ok bytes =>
          rw [← readProcStat_ok read] at complete
          rcases (get_answers_iff read).mpr complete with ⟨stat, ok⟩ | ⟨text, err⟩
          · rw [ok]
            rfl
          · rw [err]
            rfl
      | err error =>
          have failed : ((readProcStat procStatBufferSize).mapErr ProcFsError.inaccessibleProcStat) w =
              (.err (.inaccessibleProcStat error), w') := by
            rw [Prog.mapErr, read]
            rfl
          rw [get, Prog.bind_apply, failed]
          rfl
      | panic reason =>
          have returns : (readProcStat procStatBufferSize w).1.isPanic = false := attempt_not_panic
          rw [read] at returns
          cases returns

end ProcStat

namespace FileDescriptorRegistry
open Ascending
variable {registry after : FileDescriptorRegistry} {w w' : World} {fd : RawFd}

theorem register_taken (free : ¬registry.Live fd) (legible : (infoOf w fd).isOk = true)
    (room : registry.data.length < registrySize) :
    ∃ after, register fd .close (registry, w) = (.ok (), after, w) ∧
      after.data.length ≤ registry.data.length + 1 := by
  obtain ⟨info, looked⟩ := Outcome.isOk_iff.mp legible
  cases search : binarySearch FileDescriptorEntry.fd fd registry.data.toList with
  | ok index =>
      obtain ⟨entry, found, same⟩ := binarySearch_ok search
      have closed : entry.closed = true := by
        by_contra live
        exact free ⟨entry, List.mem_of_getElem? found, same, by simpa using live⟩
      refine ⟨registry.withData (registry.data.set index (.new fd info .close)), ?_, ?_⟩
      · simp only [register, registerData, search, found, closed, looked, if_true, Outcome.bind_ok]
      · show (registry.data.toList.set _ _).length ≤ registry.data.toList.length + 1
        rw [List.length_set]
        exact Nat.le_succ _
  | error index =>
      obtain ⟨data, inserts⟩ : ∃ data, registry.data.insert index (.new fd info .close) = some data :=
        ⟨_, dif_pos ⟨room, binarySearch_error_le search⟩⟩
      refine ⟨registry.withData data, ?_, ?_⟩
      · simp only [register, registerData, search, looked, Outcome.bind_ok, inserts, reduceCtorEq,
          false_and, if_false]
      · show data.toList.length ≤ registry.data.toList.length + 1
        rw [(ArrayVec.insert_eq_some.mp inserts).2]
        exact List.length_insertIdx_le_succ

theorem remove_length (h : remove fd (registry, w) = (.ok (), after, w')) :
    after.data.length + 1 = registry.data.length := by
  simp only [remove, removeData] at h
  split at h
  case h_2 => cases h
  case h_3 => cases h
  case h_1 data removed =>
  cases h
  split at removed
  · next index found =>
    cases removed
    obtain ⟨entry, hit, -⟩ := binarySearch_ok found
    obtain ⟨inside, -⟩ := List.getElem?_eq_some_iff.mp hit
    exact List.length_eraseIdx_add_one inside
  · cases removed

end FileDescriptorRegistry

namespace Server
open Process

section messages
variable {fd : RawFd} {s : Process} {message : Message} {messageBuffer : Bytes}

theorem pid_frame : Frame (fun _ => True) fun s t => t.world.pid = s.world.pid where
  refl _ := rfl
  trans first second := second.trans first
  keeps keeps := keeps.world.pid
  tailor socketPath s := (@tailor_does (fun _ => True) (fun _ _ => trivial) socketPath s).pid

theorem child_exits {ε α : Type} {p : ServerM ε α}
    (stays : Within (fun t u => u.world.pid = t.world.pid) p) :
    Exits (fun t => t.world.pid ≠ s.world.pid) p (fun _ t => t.world.pid ≠ s.world.pid)
      (fun _ _ => True) fun t => t.world.pid ≠ s.world.pid := by
  have leads : Leads (fun t => t.world.pid ≠ s.world.pid) p (fun _ t => t.world.pid ≠ s.world.pid)
      fun t => t.world.pid ≠ s.world.pid :=
    .within stays fun t u apart same => same ▸ apart
  exact Exits.conseq (.of_leads leads) (fun _ => id) (fun _ _ => id) (fun _ _ _ => trivial) fun _ => id

theorem fork_parts : Exits (· = s) (ServerM.sys fork)
    (fun child t => child = none → t.world.pid ≠ s.world.pid) (fun _ _ => True)
    fun t => t.world.pid ≠ s.world.pid := by
  rintro s rfl
  unfold ServerM.sys Prog.focus
  rcases fork_cases s.world with ⟨errno, run⟩ | ⟨newPid, run⟩ | ⟨newPid, apart, -, run⟩
  · rw [run]
    exact trivial
  · rw [run]
    exact fun none => nomatch none
  · rw [run]
    exact fun _ => apart

theorem handleSpawn_panics {childContinuation : SpawnParamsCommon → ServerM ClientError ServerControl}
    (valid : Message.tryFromParcel s.world.env.root messageBuffer = .ok message)
    (merges : s.Merges message)
    (stays : ∀ spawnParams, Within (fun t u => u.world.pid = t.world.pid)
      (childContinuation spawnParams)) :
    Exits (· = s) (handleSpawn false (some fd) messageBuffer childContinuation) (fun _ _ => True)
      (fun _ _ => True)
      fun t => t.world.pid ≠ s.world.pid := by
  unfold handleSpawn
  refine .bind (fun m t => m = message ∧ t = s) (verifiedMessage_exits fun t same => same ▸ valid)
    fun m => .read fun t known => ?_
  obtain ⟨rfl, rfl⟩ := known
  split
  · exact .throw fun _ _ => trivial
  · next params given =>
    obtain ⟨spawnParams, merged⟩ := SpawnParamsCommon.exists_or_iff.mpr (merges params given)
    refine .bind (fun _ u => u = t) (.expect ?_) fun spawnParams => ?_
    · rintro u rfl
      rw [merged]
      exact rfl
    · refine .bind (fun r u => r = .ok none → u.world.pid ≠ t.world.pid) (.result ?_) fun r => ?_
      · exact fork_parts.conseq (fun _ => id) (fun child u parts same => parts (Except.ok.inj same))
          (fun _ _ _ same => nomatch same) fun _ => id
      · split
        · refine Exits.conseq (?_ : Exits (fun u => u.world.pid ≠ t.world.pid) _ (fun _ _ => True)
            (fun _ _ => True) fun u => u.world.pid ≠ t.world.pid) (fun u parts => parts rfl)
            (fun _ _ => id) (fun _ _ => id) fun _ => id
          refine .bind _ (child_exits (.forSome (fun _ => rfl) fun priority _ => ?_)) fun _ => ?_
          · exact pid_frame.of_keeps (Process.Keeps.bind (.result (attempt_keeps fun _ => nofun))
              fun _ => Process.Keeps.refl)
          · exact .bind _ (child_exits (stays _)) fun _ => .pure fun _ _ => trivial
        · rw [ServerM.unwrap_bind_some]
          exact .bind _ (.mapErr (.of_returns fun u => sendMessage_returns _ _ u.world)) fun _ =>
            .pure fun _ _ => trivial
        · rw [ServerM.unwrap_bind_some]
          exact .throw fun _ _ => trivial

/-- A server panics at no message that is read as it was sent, whose parameters can be merged and
whose statistics are complete. -/
theorem dispatchMessageHandler_panics
    (valid : Message.tryFromParcel s.world.env.root messageBuffer = .ok message)
    (merges : s.Merges message)
    (bearable : Bearable s.world.env) :
    Exits (· = s) (dispatchMessageHandler fd messageBuffer) (fun _ _ => True) (fun _ _ => True)
      fun t => t.world.pid ≠ s.world.pid := by
  have sends : ∀ {pre panic : Process → Prop} (response : Message),
      Exits pre (ServerM.sys (sendMessage fd response)) (fun _ _ => True) (fun _ _ => True) panic :=
    fun response => .of_returns fun u => sendMessage_returns fd response u.world
  let noted : Process := ⟨s.server, s.world.did (.dispatched (s.world.fds.fileOf fd) messageBuffer)⟩
  unfold dispatchMessageHandler
  refine .bind (fun _ t => t = noted) ?_ fun _ => .read fun t same => ?_
  · rintro t rfl
    exact rfl
  subst same
  refine .bind (fun r t => r = .ok message ∧ t = noted) (.result ?_) fun r => ?_
  · rintro t rfl
    rw [show noted.world.env.root = s.world.env.root from rfl, valid]
    exact ⟨rfl, rfl⟩
  cases r with
  | error error => exact fun t known => nomatch known.1
  | ok decoded =>
      by_cases same : decoded = message
      case neg => exact fun t known => absurd (Except.ok.inj known.1) same
      subst same
      suffices spoken : Exits (· = noted) (dispatchMessage fd messageBuffer noted.server.species decoded)
          (fun _ _ => True) (fun _ _ => True) fun t => t.world.pid ≠ noted.world.pid from
        fun t known => spoken t known.2
      have valid' : Message.tryFromParcel noted.world.env.root messageBuffer = .ok decoded := valid
      unfold dispatchMessage
      split
      · exact .bind (fun _ _ => True) (.result (sends _)) fun _ => .pure fun _ _ => trivial
      · exact .read fun t _ => .bind (fun _ _ => True) (.mapErr (sends _)) fun _ => .pure fun _ _ =>
          trivial
      · split
        · exact handleSpawn_panics valid' merges fun _ _ => rfl
        · exact .pure fun _ _ => trivial
      · split
        · exact handleSpawn_panics valid' merges (becomeSubspecies_within pid_frame _ _)
        · exact .pure fun _ _ => trivial
      · rintro t rfl
        have returns := handleMessageStat_isPanic fd noted
        rw [@ProcStat.get_returns noted.world (bearable.statistics _)] at returns
        revert returns
        cases handleMessageStat fd noted with
        | mk o u =>
            cases o with
            | panic reason => exact fun returns => nomatch returns
            | _ => exact fun _ => trivial
      · exact .pure fun _ _ => trivial

end messages
end Server
end Zygote
