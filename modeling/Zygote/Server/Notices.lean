import Zygote.LittleEndian
import Zygote.WaitRecords
import Zygote.Server.Confinement
import Zygote.Server.Signals
import Zygote.Species.AndroidNative

/-!
# What the system server is told

`handle_sigchld` of the native applications: one datagram for each child that was waited for, on a
socket made for it. What can be read of the datagrams a server sends in a run.
-/
namespace Zygote
open Effect Descriptors

inductive UnsolicitedZygoteMessageTypes where
  | reserved
  | sigChld
  deriving DecidableEq, Repr

def UnsolicitedZygoteMessageTypes.code : UnsolicitedZygoteMessageTypes → BitVec 32
  | .reserved => 0
  | .sigChld => 1

structure UnsolicitedZygoteMessageSigChld where
  typ : UnsolicitedZygoteMessageTypes
  pid : BitVec 32
  uid : UInt32
  status : BitVec 32
  deriving DecidableEq, Repr

/-- The fields lie one behind the other, and none is shorter than a word. -/
def UnsolicitedZygoteMessageSigChld.asBytes (self : UnsolicitedZygoteMessageSigChld) : Bytes :=
  LittleEndian.words [self.typ.code, self.pid, self.uid.toBitVec, self.status]

/-- The calls on a datagram socket that is closed again before anything else is opened. -/
inductive DatagramCall where
  | unbound
  | connect (path : String)
  | send (data : Bytes)
  deriving DecidableEq, Repr

/-- The calls that were made, the oldest first, and the errors they end with, by the number of calls
before. -/
structure Datagrams where
  calls : List DatagramCall
  fault : Nat → DatagramCall → Option Errno

namespace Datagrams

def datagram (call : DatagramCall) : Prog Datagrams Errno Unit := fun d =>
  let made := { d with calls := d.calls ++ [call] }
  match d.fault d.calls.length call with
  | none => (.ok (), made)
  | some errno => (.err errno, made)

/-- More calls on the record. -/
def after (d : Datagrams) (calls : List DatagramCall) : Datagrams := { d with calls := d.calls ++ calls }

theorem after_after (d : Datagrams) (early late : List DatagramCall) :
    (d.after early).after late = d.after (early ++ late) := by
  simp only [after, List.append_assoc]

theorem after_nil (d : Datagrams) : d.after [] = d := by simp only [after, List.append_nil]

theorem datagram_cases (d : Datagrams) (call : DatagramCall) :
    (d.fault d.calls.length call = none ∧ datagram call d = (.ok (), d.after [call])) ∨
      ∃ errno, d.fault d.calls.length call = some errno ∧
      datagram call d = (.err errno, d.after [call]) := by
  unfold datagram
  cases failed : d.fault d.calls.length call with
  | none => exact .inl ⟨rfl, rfl⟩
  | some errno => exact .inr ⟨errno, rfl, rfl⟩

end Datagrams

namespace AndroidNative
open Datagrams (datagram)

/-- Tell the system server. Without a socket there is nobody to be told, and a message that cannot
be sent is only logged. -/
def handleSigchld {ε : Type} (pid : Nat) (uid : UInt32) (status : BitVec 32) :
    Prog Datagrams ε Unit := do
  match ← (do datagram .unbound; datagram (.connect unsolicitedZygoteSocketPath)).result with
  | .error _ => pure ()
  | .ok _ => do
      let data : UnsolicitedZygoteMessageSigChld :=
        { typ := .sigChld, pid := BitVec.ofNat 32 pid, uid, status }
      let _ ← (datagram (.send data.asBytes)).result
      pure ()

/-- What the server hands to its species, one after the other. -/
def handleReports {ε : Type} : List Sigchld.Report → Prog Datagrams ε Unit
  | [] => pure ()
  | report :: rest => do
      handleSigchld report.pid report.uid report.status
      handleReports rest

section notices
open Prog
variable {ε : Type}

def notice (report : Sigchld.Report) : Bytes :=
  UnsolicitedZygoteMessageSigChld.asBytes
    ⟨.sigChld, BitVec.ofNat 32 report.pid, report.uid, report.status⟩

/-- A socket on which the system server can be told. -/
def connected : Prog Datagrams Errno Unit := do
  datagram .unbound
  datagram (.connect unsolicitedZygoteSocketPath)

theorem handleSigchld_eq (report : Sigchld.Report) :
    (handleSigchld report.pid report.uid report.status : Prog Datagrams ε Unit) = (do
      match ← connected.result with
      | .error _ => Pure.pure ()
      | .ok _ => do
          let _ ← (datagram (.send (notice report))).result
          Pure.pure ()) := rfl

/-- How far a notice comes, after so many calls. Only a call that fails breaks it off. -/
inductive Attempt (fault : Nat → DatagramCall → Option Errno) (made : Nat) (notice : Bytes) :
    List DatagramCall → Prop
  | unbound {errno : Errno} (refused : fault made .unbound = some errno) :
      Attempt fault made notice [.unbound]
  | unconnected {errno : Errno} (bound : fault made .unbound = none)
      (refused : fault (made + 1) (.connect unsolicitedZygoteSocketPath) = some errno) :
      Attempt fault made notice [.unbound, .connect unsolicitedZygoteSocketPath]
  | sent (bound : fault made .unbound = none)
      (connected : fault (made + 1) (.connect unsolicitedZygoteSocketPath) = none) :
      Attempt fault made notice [.unbound, .connect unsolicitedZygoteSocketPath, .send notice]

/-- One attempt for each report, in their order. -/
inductive Attempts (fault : Nat → DatagramCall → Option Errno) :
    Nat → List Sigchld.Report → List (List DatagramCall) → Prop
  | nil (made : Nat) : Attempts fault made [] []
  | cons {made : Nat} {report : Sigchld.Report} {rest : List Sigchld.Report} {calls : List DatagramCall}
      {parts : List (List DatagramCall)} (attempt : Attempt fault made (notice report) calls)
      (others : Attempts fault (made + calls.length) rest parts) :
      Attempts fault made (report :: rest) (calls :: parts)

/-- There is a socket, or a call has failed. -/
theorem connected_cases (d : Datagrams) :
    (connected d = (.ok (), d.after [.unbound, .connect unsolicitedZygoteSocketPath]) ∧
      d.fault d.calls.length .unbound = none ∧
      d.fault (d.calls.length + 1) (.connect unsolicitedZygoteSocketPath) = none) ∨
      ∃ errno calls, connected d = (.err errno, d.after calls) ∧
        ∀ notice, Attempt d.fault d.calls.length notice calls := by
  have later : (d.after [.unbound]).calls.length = d.calls.length + 1 := List.length_append
  unfold connected
  rcases d.datagram_cases .unbound with ⟨bound, made⟩ | ⟨errno, fault, refused⟩
  · rcases (d.after [.unbound]).datagram_cases (.connect unsolicitedZygoteSocketPath) with
      ⟨connected, run⟩ | ⟨errno, fault, run⟩
    · rw [later] at connected
      refine .inl ⟨?_, bound, connected⟩
      rw [bind_of_ok made, run, Datagrams.after_after]
      rfl
    · rw [later] at fault
      refine .inr ⟨errno, [.unbound, .connect unsolicitedZygoteSocketPath], ?_,
        fun _ => .unconnected bound fault⟩
      rw [bind_of_ok made, run, Datagrams.after_after]
      rfl
  · refine .inr ⟨errno, [.unbound], ?_, fun _ => .unbound fault⟩
    rw [bind_apply, refused]

/-- One attempt for one report. -/
theorem handleSigchld_attempts (report : Sigchld.Report) (d : Datagrams) : ∃ calls,
    (handleSigchld report.pid report.uid report.status : Prog Datagrams ε Unit) d =
      (.ok (), d.after calls) ∧
      Attempt d.fault d.calls.length (notice report) calls := by
  rw [handleSigchld_eq]
  rcases connected_cases d with ⟨run, bound, connected⟩ | ⟨errno, calls, run, attempt⟩
  · refine ⟨_, ?_, .sent bound connected⟩
    rw [bind_result_ok run]
    dsimp only
    rcases (d.after [.unbound, .connect unsolicitedZygoteSocketPath]).datagram_cases
      (.send (notice report)) with
      ⟨-, sent⟩ | ⟨errno, _, sent⟩
    · rw [bind_result_ok sent, Datagrams.after_after]
      rfl
    · rw [bind_result_err sent, Datagrams.after_after]
      rfl
  · refine ⟨calls, ?_, attempt _⟩
    rw [bind_result_err run]
    rfl

theorem handleReports_attempts (reports : List Sigchld.Report) (d : Datagrams) :
    ∃ parts : List (List DatagramCall),
    (handleReports reports : Prog Datagrams ε Unit) d = (.ok (), d.after parts.flatten) ∧
      Attempts d.fault d.calls.length reports parts := by
  induction reports generalizing d with
  | nil => exact ⟨[], by rw [List.flatten_nil, Datagrams.after_nil]; rfl, .nil _⟩
  | cons report rest ih =>
      obtain ⟨calls, made, attempt⟩ := @handleSigchld_attempts ε report d
      obtain ⟨parts, run, others⟩ := ih (d.after calls)
      refine ⟨calls :: parts, ?_, .cons attempt ?_⟩
      · rw [handleReports, bind_of_ok made, run, Datagrams.after_after, List.flatten_cons]
      · rw [← List.length_append]
        exact others

end notices

section reading

/-- A child as it is known on the other side. -/
structure Notice where
  pid : Nat
  uid : UInt32
  record : WaitRecord
  deriving DecidableEq, Repr

/-- The same layout, read. -/
def readNotice (bytes : Bytes) : Option Notice :=
  match LittleEndian.readWords bytes with
  | some [1, pid, uid, status] =>
      match WaitRecord.tryFromStatus status with
      | .ok record => some ⟨pid.toNat, ⟨uid⟩, record⟩
      | .error _ => none
  | _ => none

theorem readNotice_of_words {bytes : Bytes} {pid uid status : BitVec 32} {record : WaitRecord}
    (words : LittleEndian.readWords bytes = some [1, pid, uid, status])
    (ended : WaitRecord.tryFromStatus status = .ok record) :
    readNotice bytes = some ⟨pid.toNat, ⟨uid⟩, record⟩ := by
  have read : readNotice bytes = (match WaitRecord.tryFromStatus status with
      | .ok record => some ⟨pid.toNat, ⟨uid⟩, record⟩
      | .error _ => none) := by
    unfold readNotice
    rw [words]
    rfl
  rw [read, ended]

/-- A notice is read of exactly the messages about a child that ended with a status that is one. -/
theorem readNotice_iff {bytes : Bytes} {read : Notice} : readNotice bytes = some read ↔
    ∃ message : UnsolicitedZygoteMessageSigChld, bytes = message.asBytes ∧ message.typ = .sigChld ∧
      message.pid.toNat = read.pid ∧ message.uid = read.uid ∧
      WaitRecord.tryFromStatus message.status = .ok read.record := by
  constructor
  · intro found
    unfold readNotice at found
    split at found
    · next pid uid status words =>
      split at found
      · next record ended =>
        cases found
        exact ⟨⟨.sigChld, pid, ⟨uid⟩, status⟩, LittleEndian.words_of_readWords words, rfl,
          rfl, rfl, ended⟩
      · cases found
    · cases found
  · rintro ⟨⟨typ, pid, uid, status⟩, rfl, rfl, same, rfl, ended⟩
    have words : LittleEndian.readWords
      (UnsolicitedZygoteMessageSigChld.asBytes ⟨.sigChld, pid, read.uid, status⟩) =
        some [1, pid, read.uid.toBitVec, status] := LittleEndian.readWords_words _
    rw [readNotice_of_words words ended]
    exact congrArg (fun pid => some (Notice.mk pid read.uid read.record)) same

end reading
end AndroidNative

namespace Termination

/-- There is no signal 0, and 127 in its place says that a child has only stopped. -/
def Real : Termination → Prop
  | .exited _ => True
  | .killed signal | .dumped signal => 1 ≤ signal.toNat ∧ signal.toNat ≤ 126

/-- What is to be known of a child that ended. -/
def record : Termination → WaitRecord
  | .exited status => .exited (status.setWidth 32)
  | .killed signal | .dumped signal => .signaled (signal.setWidth 32)

theorem tryFromStatus_waitStatus {termination : Termination} (real : termination.Real) :
    WaitRecord.tryFromStatus termination.waitStatus = .ok termination.record := by
  have width : ∀ signal : BitVec 7, (signal.setWidth 32).toNat = signal.toNat := by decide
  cases termination with
  | exited status =>
      have noSignal : wExitcode (status.setWidth 32) 0 = status.setWidth 32 <<< 8 := BitVec.or_zero
      have fits : (status.setWidth 32).toNat ≤ 255 := by
        rw [BitVec.toNat_setWidth]
        have := status.isLt
        omega
      have read := WaitRecord.tryFromStatus_exited fits
      rwa [noSignal] at read
  | killed signal =>
      refine WaitRecord.tryFromStatus_signaled ?_ (by rw [width]; exact real.1)
        (by rw [width]; exact real.2)
      have fits := signal.isLt
      rw [waitStatus, width]
      omega
  | dumped signal =>
      have low : ∀ signal : BitVec 7, (dumped signal).waitStatus.toNat % 128 = signal.toNat := by decide
      exact WaitRecord.tryFromStatus_signaled ((low signal).trans (width signal).symm)
        (by rw [width]; exact real.1) (by rw [width]; exact real.2)

end Termination

/-- No report of a child. -/
def Deed.Unreported (deed : Deed) : Prop := ∀ pid uid status, deed ≠ .reported pid uid status

/-- If it is a report, the kernel has said so of a child. -/
def Deed.Told (env : Env) (deed : Deed) : Prop :=
  ∀ pid uid status, deed = .reported pid uid status →
    ∃ n, ∃ info ∈ env.zombies n, info.pid = pid ∧ info.uid = uid ∧ rawStatusFromSiginfo info = .ok status

/-- What is added to the trace is told as the kernel says it. -/
structure Process.Tells (s t : Process) : Prop where
  env : t.world.env = s.world.env
  trace : ∃ newer, t.world.trace = newer ++ s.world.trace ∧ ∀ done ∈ newer, done.2.Told s.world.env

namespace Server
open Prog Process

section tells

theorem Tells.refl (s : Process) : s.Tells s := ⟨rfl, [], rfl, List.forall_mem_nil _⟩

theorem Tells.trans {s t u : Process} (h : s.Tells t) (k : t.Tells u) : s.Tells u := by
  obtain ⟨early, first, told⟩ := h.trace
  obtain ⟨late, second, later⟩ := k.trace
  refine ⟨k.env.trans h.env, late ++ early, by rw [second, first, List.append_assoc], ?_⟩
  rw [h.env] at later
  exact List.forall_mem_append.mpr ⟨later, told⟩

theorem tells_of_does {s t : Process} {calls : Call → Prop}
    (does : s.world.Does calls Deed.Unreported t.world) :
    s.Tells t := by
  obtain ⟨newer, split, all⟩ := does.trace
  exact ⟨does.env, newer, split, fun done mem pid uid status same =>
    absurd same ((all done mem).2 pid uid status)⟩

theorem tells_frame : Frame Deed.Unreported Process.Tells where
  refl := Tells.refl
  trans := Tells.trans
  keeps keeps := tells_of_does keeps.world
  tailor socketPath s := tells_of_does (tailor_does (fun _ _ _ _ _ => nofun) socketPath s)

theorem fork_tells : Within Process.Tells (ServerM.sys fork) := by
  intro s
  have state : ∀ {o : Outcome Errno (Option Nat)} {w : World}, fork s.world = (o, w) →
      (ServerM.sys fork s).2 = ⟨s.server, w⟩ := fun run =>
    congrArg Prod.snd (ServerM.sys_eq (t := ⟨s.server, _⟩).mpr ⟨run, rfl⟩)
  rcases fork_cases s.world with ⟨errno, run⟩ | ⟨newPid, run⟩ | ⟨newPid, _, _, run⟩
  · rw [state run]
    exact ⟨rfl, [], rfl, List.forall_mem_nil _⟩
  · rw [state run]
    exact ⟨rfl, [_], rfl, List.forall_mem_singleton.mpr fun _ _ _ => nofun⟩
  · rw [state run]
    exact ⟨rfl, [], rfl, List.forall_mem_nil _⟩

theorem handleReaped_tells {child : ChildInfo} {s : Process}
    (ended : ∃ n, child ∈ s.world.env.zombies n) :
    s.Tells (handleReaped child s).2 := by
  unfold handleReaped
  cases converted : rawStatusFromSiginfo child with
  | error error => exact Tells.refl s
  | ok status =>
      obtain ⟨n, mem⟩ := ended
      refine ⟨rfl, [_], rfl, List.forall_mem_singleton.mpr fun pid uid status' same => ?_⟩
      cases same
      exact ⟨n, child, mem, rfl, rfl, converted⟩

/-- What follows starts from where the first part has come to. -/
theorem tells_bind {ε α β : Type} {p : ServerM ε α} {f : α → ServerM ε β} {s : Process}
    (first : s.Tells (p s).2)
    (rest : ∀ a t, p s = (.ok a, t) → s.Tells t → t.Tells (f a t).2) : s.Tells ((p >>= f) s).2 := by
  cases ended : p s with
  | mk o t =>
      rw [ended] at first
      rw [bind_apply, ended]
      cases o with
      | ok a => exact Tells.trans first (rest a t ended first)
      | err e => exact first
      | panic reason => exact first

/-- Whoever is waited for is one of those that the kernel has for it. -/
theorem reapChildren_tells (children : List ChildInfo) {s : Process}
    (ended : ∀ child ∈ children, ∃ n, child ∈ s.world.env.zombies n) :
    s.Tells (reapChildren children s).2 := by
  have waits : ∀ child, Within Process.Tells ((ServerM.sys (waitid child)).result :
      ServerM SignalHandlerError (Except Errno (Option ChildInfo))) := fun child =>
    .result (tells_frame.of_keeps (attempt_keeps fun _ => nofun))
  have failed : ∀ errno, Within Process.Tells (if errno = echild then Pure.pure ()
      else Prog.throw (.processAccounting (.libc errno)) : ServerM SignalHandlerError Unit) := by
    intro errno
    split <;> exact Tells.refl
  induction children generalizing s with
  | nil =>
      refine tells_bind (waits none s) fun r t _ _ => ?_
      cases r with
      | ok child => exact Tells.refl t
      | error errno => exact failed errno t
  | cons child rest ih =>
      refine tells_bind (waits (some child) s) fun r t run reached => ?_
      rcases Prog.result_eq_ok.mp run with ⟨answer, made, rfl⟩ | ⟨errno, made, rfl⟩
      · cases (Sigchld.waitid_eq (ServerM.sys_eq.mp made).1).2
        have still : ∀ other ∈ child :: rest, ∃ n, other ∈ t.world.env.zombies n := by
          rw [reached.env]
          exact ended
        refine tells_bind (handleReaped_tells (still child List.mem_cons_self)) fun _ u _ handled =>
          ih ?_
        rw [handled.env]
        exact fun other mem => still other (List.mem_cons_of_mem _ mem)
      · exact failed errno t

theorem handleSignalfdEvents_tells (fd : RawFd) : Within Process.Tells (handleSignalfdEvents fd) := by
  have signal : ∀ siginfo, Within Process.Tells (handleSiginfo siginfo) := by
    intro siginfo
    unfold handleSiginfo
    split
    · refine .read fun s => tells_bind (reapChildren_tells _ fun child mem => ⟨_, mem⟩) fun _ t _ _ => ?_
      exact Tells.refl t
    · split
      · exact Tells.refl
      · split <;> exact Tells.refl
  refine .reading fun s => tells_frame.bind ?_ fun exit => ?_
  · refine tryUntilWouldBlock_within Tells.refl Tells.trans (fun siginfo => ?_) signal _
    exact tells_frame.of_keeps (attempt_keeps fun _ => nofun)
  · cases exit <;> exact Tells.refl

theorem serveOnce_tells : Within Process.Tells serveOnce :=
  serveOnce_within_signals tells_frame fork_tells
    (fun _ _ unreported => unreported) handleSignalfdEvents_tells

/-- Over any number of rounds, of the server itself or of a subspecies below it. -/
theorem tells_of_passed {a t : Process} (passed : Passed a t) : a.Tells t := by
  induction passed with
  | here => exact Tells.refl a
  | @serve t u _ round ih =>
      have told := serveOnce_tells t
      rw [round] at told
      exact Tells.trans ih told

end tells

section notified
open AndroidNative Sigchld

/-- A child that has ended by itself or by a signal that there is. -/
def Waited (info : ChildInfo) : Prop :=
  ∃ termination : Termination, termination.Real ∧ info = termination.siginfo info.pid info.uid ∧
    info.pid < 0x80000000

/-- What a process has handed to its species, the oldest first. -/
def reports (own : Nat) (done : List (Nat × Deed)) : List Report :=
  done.reverse.filterMap fun
    | (pid, .reported child uid status) => if pid = own then some ⟨child, uid, status⟩ else none
    | _ => none

/-- One attempt for each child, of which the other side reads who it was and how it ended. -/
structure Notified (env : Env) (reports : List Report) (children : List Ended)
    (parts : List (List DatagramCall))
    (d : Datagrams) : Prop where
  ended : ∀ e ∈ children, ∃ n, e.siginfo ∈ env.zombies n
  reported : reports = children.map Ended.report
  run : (handleReports reports : Prog Datagrams Empty Unit) d = (.ok (), d.after parts.flatten)
  attempts : Attempts d.fault d.calls.length reports parts
  read : ∀ e ∈ children, readNotice (notice e.report) =
    some ⟨e.child.pid, e.child.uid, e.termination.record⟩

/-- The children behind the reports that are told as the kernel says it. -/
theorem children_of_told {env : Env} (waited : ∀ n, ∀ info ∈ env.zombies n, Waited info)
    {reports : List Report} (told : ∀ r ∈ reports, r.deed.Told env) : ∃ children : List Ended,
      reports = children.map Ended.report ∧ ∀ e ∈ children, (∃ n, e.siginfo ∈ env.zombies n) ∧
        e.termination.Real ∧ e.child.pid < 0x80000000 := by
  induction reports with
  | nil => exact ⟨[], rfl, List.forall_mem_nil _⟩
  | cons report rest ih =>
      obtain ⟨children, others, all⟩ := ih fun r mem => told r (List.mem_cons_of_mem _ mem)
      obtain ⟨pid, uid, status⟩ := report
      obtain ⟨n, info, mem, rfl, rfl, converted⟩ := told ⟨pid, uid, status⟩ List.mem_cons_self _ _ _ rfl
      obtain ⟨termination, real, same, small⟩ := waited n info mem
      rw [same, Termination.rawStatusFromSiginfo_siginfo] at converted
      refine ⟨⟨⟨0, info.pid, info.uid⟩, termination⟩ :: children, ?_, List.forall_mem_cons.mpr ⟨?_, all⟩⟩
      · have told : termination.waitStatus = status := Except.ok.inj converted
        rw [List.map_cons, ← others, ← told]
        rfl
      · exact ⟨⟨n, same ▸ mem⟩, real, small⟩

theorem told_of_mem_reports {env : Env} {own : Nat} {newer : List (Nat × Deed)}
    (told : ∀ done ∈ newer, done.2.Told env) : ∀ r ∈ reports own newer, r.deed.Told env := by
  intro r mem
  obtain ⟨⟨pid, deed⟩, done, found⟩ := List.mem_filterMap.mp mem
  have here := told _ (List.mem_reverse.mp done)
  cases deed with
  | reported child uid status =>
      dsimp only at found
      split at found
      · cases found
        exact here
      · cases found
  | _ => cases found

/-- In every run, of a server or a subspecies below it, the system server is told of a child only
what the kernel says of it, with one attempt for each report and in their order, whatever the
sockets do. -/
theorem notified_of_passed {a t : Process} (passed : Passed a t)
    (waited : ∀ n, ∀ info ∈ a.world.env.zombies n, Waited info) :
    ∃ newer, t.world.trace = newer ++ a.world.trace ∧ ∀ (own : Nat) (d : Datagrams),
      ∃ children parts, Notified a.world.env (reports own newer) children parts d := by
  obtain ⟨newer, split, told⟩ := (tells_of_passed passed).trace
  refine ⟨newer, split, fun own d => ?_⟩
  obtain ⟨children, reported, all⟩ := children_of_told waited (told_of_mem_reports told)
  obtain ⟨parts, run, attempts⟩ := @handleReports_attempts Empty (reports own newer) d
  refine ⟨children, parts, fun e mem => (all e mem).1, reported, run, attempts, fun e mem => ?_⟩
  obtain ⟨_, real, small⟩ := all e mem
  let message : UnsolicitedZygoteMessageSigChld :=
    ⟨.sigChld, BitVec.ofNat 32 e.child.pid, e.child.uid, e.termination.waitStatus⟩
  have number : message.pid.toNat = e.child.pid :=
    (BitVec.toNat_ofNat _ _).trans (Nat.mod_eq_of_lt (by omega))
  exact readNotice_iff.mpr
    ⟨message, rfl, rfl, number, rfl, Termination.tryFromStatus_waitStatus real⟩

/-- A server that is told of a child: it was number 7, of user 1000, and has left with status 3. -/
def reapingEnv : Env := { Env.calm with
  ready := fun _ => [⟨epollIn, EpollData.toU64 ⟨5, .signal⟩⟩]
  signals := fun _ => [⟨sigchld, 7⟩]
  zombies := fun _ => [Termination.siginfo (.exited 3) 7 1000] }

def reaping : Process := ⟨(started reapingEnv).1.get (by decide), (started reapingEnv).2⟩
def reaped : Process := (serveOnce reaping).2

theorem notified_of_passed_reaping : ∃ newer, reaped.world.trace = newer ++ reaping.world.trace ∧
    ∀ (own : Nat) (d : Datagrams), ∃ children parts,
      Notified reaping.world.env (reports own newer) children parts d := by
  refine notified_of_passed (.serve .here (Prod.ext (by decide) rfl)) fun n info mem => ?_
  cases List.mem_singleton.mp mem
  exact ⟨.exited 3, trivial, rfl, by decide⟩

end notified
end Server
end Zygote
