import Mathlib.Tactic.Common

/-!
# Wait statuses

What `waitid` says of a child, and the status word it is turned into.
-/
namespace Zygote

def sigchld : Nat := 17

def cldExited : Nat := 1
def cldKilled : Nat := 2
def cldDumped : Nat := 3
def cldTrapped : Nat := 4
def cldStopped : Nat := 5
def cldContinued : Nat := 6

/-- The fields of a `siginfo_t` that `SIGCHLD` sets. -/
structure ChildInfo where
  signo : Nat
  code : Nat
  pid : Nat
  uid : UInt32
  status : BitVec 32
  deriving DecidableEq, Repr

inductive WaitError where
  | libc (errno : Nat)
  | invalidSiginfo (signo : Nat)
  | invalidSiginfoCode (code : Nat)
  | invalidWaitStatus (status : BitVec 32)
  deriving DecidableEq, Repr

/-- `W_EXITCODE` -/
def wExitcode (ret sig : BitVec 32) : BitVec 32 := ret <<< 8 ||| sig

theorem wExitcode_zero (sig : BitVec 32) : wExitcode 0 sig = sig := by
  simp [wExitcode]

/-- `W_STOPCODE` -/
def wStopcode (sig : BitVec 32) : BitVec 32 := sig <<< 8 ||| 0x7f

/-- Build a status integer from a `siginfo_t`. -/
def rawStatusFromSiginfo (info : ChildInfo) : Except WaitError (BitVec 32) :=
  if info.signo ≠ sigchld then .error (.invalidSiginfo info.signo)
  else if info.code = cldExited then .ok (wExitcode info.status 0)
  else if info.code = cldKilled then .ok (wExitcode 0 (info.status &&& 0x7f))
  else if info.code = cldDumped then .ok (wExitcode 0 (info.status &&& 0x7f ||| 0x80))
  else if info.code = cldStopped ∨ info.code = cldTrapped then .ok (wStopcode info.status)
  else if info.code = cldContinued then .ok 0xffff
  else .error (.invalidSiginfoCode info.code)

/-- The three ways a process ends. -/
inductive Termination where
  | exited (status : BitVec 8)
  | killed (signal : BitVec 7)
  | dumped (signal : BitVec 7)
  deriving DecidableEq, Repr

namespace Termination

def code : Termination → Nat
  | .exited _ => cldExited
  | .killed _ => cldKilled
  | .dumped _ => cldDumped

def siStatus : Termination → BitVec 32
  | .exited status => status.setWidth 32
  | .killed signal | .dumped signal => signal.setWidth 32

/-- The status word `waitpid` would report. -/
def waitStatus : Termination → BitVec 32
  | .exited status => status.setWidth 32 <<< 8
  | .killed signal => signal.setWidth 32
  | .dumped signal => signal.setWidth 32 ||| 0x80

/-- What the kernel says of a child that ended. -/
def siginfo (termination : Termination) (pid : Nat) (uid : UInt32) : ChildInfo where
  signo := sigchld
  code := termination.code
  pid
  uid
  status := termination.siStatus

/-- A signal number fits the bits it is cut to. -/
theorem signal_and_mask (signal : BitVec 7) :
    signal.setWidth 32 &&& 0x7f = signal.setWidth 32 := by
  revert signal
  decide

theorem rawStatusFromSiginfo_siginfo (termination : Termination) (pid : Nat) (uid : UInt32) :
    rawStatusFromSiginfo (termination.siginfo pid uid) = .ok termination.waitStatus := by
  cases termination with
  | exited status =>
      have noSignal : wExitcode (status.setWidth 32) 0 = status.setWidth 32 <<< 8 := BitVec.or_zero
      exact congrArg Except.ok noSignal
  | killed signal =>
      have noStatus : wExitcode 0 (signal.setWidth 32 &&& 0x7f) = signal.setWidth 32 := by
        rw [signal_and_mask, wExitcode_zero]
      exact congrArg Except.ok noStatus
  | dumped signal =>
      have noStatus : wExitcode 0 (signal.setWidth 32 &&& 0x7f ||| 0x80) =
          signal.setWidth 32 ||| 0x80 := by
        rw [signal_and_mask, wExitcode_zero]
      exact congrArg Except.ok noStatus

end Termination
end Zygote
