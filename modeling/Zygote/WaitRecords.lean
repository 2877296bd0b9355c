import Mathlib.Algebra.Group.Nat.Defs
import Zygote.Wait

/-!
# Wait records

A record is built from what `waitid` says of a child, or from the status word `waitpid`
reports. The words the server makes of the former are read as the same records.
-/
namespace Zygote

/-- The status of a waited-for child process. -/
inductive WaitRecord where
  | continued
  | exited (status : BitVec 32)
  | signaled (signal : BitVec 32)
  | stopped (signal status : BitVec 32)
  deriving DecidableEq, Repr

section macros
variable (status : BitVec 32)

/-- `WIFEXITED` -/
def wIfexited : Bool := status &&& 0x7f == 0
/-- `WIFSIGNALED`, a comparison of `i8` -/
def wIfsignaled : Bool := 2 ≤ ((status &&& 0x7f) + 1 |>.setWidth 8).toInt
/-- `WIFSTOPPED` -/
def wIfstopped : Bool := status &&& 0xff == 0x7f
/-- `WIFCONTINUED` -/
def wIfcontinued : Bool := status == 0xffff
/-- `WEXITSTATUS` -/
def wExitstatus : BitVec 32 := status.sshiftRight 8 &&& 0xff
/-- `WTERMSIG` -/
def wTermsig : BitVec 32 := status &&& 0x7f
/-- `WSTOPSIG` -/
def wStopsig : BitVec 32 := status.sshiftRight 8 &&& 0xff

end macros

namespace WaitRecord

/-- Build a record from a `siginfo` struct. -/
def tryFromSiginfo (info : ChildInfo) : Except WaitError WaitRecord :=
  if info.signo ≠ sigchld then .error (.invalidSiginfo info.signo)
  else if info.code = cldExited then .ok (.exited info.status)
  else if info.code = cldKilled ∨ info.code = cldDumped then .ok (.signaled info.status)
  else if info.code = cldStopped ∨ info.code = cldTrapped then
    .ok (.stopped (info.status &&& 0xff) (info.status.sshiftRight 8))
  else if info.code = cldContinued then .ok .continued
  else .error (.invalidSiginfoCode info.code)

/-- Build a record from the status number returned from `waitpid`. -/
def tryFromStatus (status : BitVec 32) : Except WaitError WaitRecord :=
  if wIfexited status then .ok (.exited (wExitstatus status))
  else if wIfsignaled status then .ok (.signaled (wTermsig status))
  else if wIfstopped status then .ok (.stopped (wStopsig status) (status.sshiftRight 16))
  else if wIfcontinued status then .ok .continued
  else .error (.invalidWaitStatus status)

end WaitRecord

section masks
variable (x : BitVec 32)

theorem toNat_and_7f : (x &&& 0x7f).toNat = x.toNat % 128 := by
  rw [BitVec.toNat_and]
  exact Nat.and_two_pow_sub_one_eq_mod x.toNat 7

theorem toNat_and_ff : (x &&& 0xff).toNat = x.toNat % 256 := by
  rw [BitVec.toNat_and]
  exact Nat.and_two_pow_sub_one_eq_mod x.toNat 8

variable {x}

theorem toNat_sshiftRight (k : Nat) (nonneg : x.toNat < 2 ^ 31) :
    (x.sshiftRight k).toNat = x.toNat / 2 ^ k := by
  have msb : x.msb = false := by
    rw [BitVec.msb_eq_false_iff_two_mul_lt]
    omega
  rw [BitVec.sshiftRight_eq_of_msb_false msb, BitVec.toNat_ushiftRight, Nat.shiftRight_eq_div_pow]

theorem wIfexited_iff : wIfexited x = true ↔ x.toNat % 128 = 0 := by
  rw [wIfexited, beq_iff_eq, ← BitVec.toNat_inj, toNat_and_7f]
  rfl

theorem wIfsignaled_iff : wIfsignaled x = true ↔ 1 ≤ x.toNat % 128 ∧ x.toNat % 128 ≤ 126 := by
  have bound : x.toNat % 128 < 128 := Nat.mod_lt _ (by decide)
  rw [wIfsignaled, decide_eq_true_iff, BitVec.toInt_eq_toNat_cond, BitVec.toNat_setWidth,
    BitVec.toNat_add, toNat_and_7f]
  split <;> simp at * <;> omega

theorem wIfstopped_iff : wIfstopped x = true ↔ x.toNat % 256 = 127 := by
  rw [wIfstopped, beq_iff_eq, ← BitVec.toNat_inj, toNat_and_ff]
  rfl

end masks

/-- What the kernel says of a child with `SIGCHLD`. The status of a stopped child holds the
number of a ptrace event above the signal. -/
def ChildInfo.FromKernel (info : ChildInfo) : Prop :=
  info.signo = sigchld ∧
    (info.code = cldExited ∧ info.status.toNat ≤ 255 ∨
      (info.code = cldKilled ∨ info.code = cldDumped) ∧
        1 ≤ info.status.toNat ∧ info.status.toNat ≤ 126 ∨
      (info.code = cldStopped ∨ info.code = cldTrapped) ∧
        1 ≤ info.status.toNat ∧ info.status.toNat < 2 ^ 23 ∨
      info.code = cldContinued)

namespace WaitRecord
variable {status : BitVec 32}

theorem toNat_wExitcode (fits : status.toNat ≤ 255) :
    (wExitcode status 0).toNat = status.toNat * 256 := by
  have noSignal : wExitcode status 0 = status <<< 8 := BitVec.or_zero
  rw [noSignal, BitVec.toNat_shiftLeft, Nat.shiftLeft_eq]
  omega

theorem toNat_wStopcode (fits : status.toNat < 2 ^ 23) :
    (wStopcode status).toNat = status.toNat * 256 + 127 := by
  have shifted : (status <<< 8).toNat = status.toNat <<< 8 := by
    rw [BitVec.toNat_shiftLeft, Nat.shiftLeft_eq]
    omega
  rw [wStopcode, BitVec.toNat_or, shifted, show (0x7f : BitVec 32).toNat = 127 from rfl,
    ← Nat.shiftLeft_add_eq_or_of_lt (by decide) status.toNat, Nat.shiftLeft_eq]

/-- An exit status stands above a signal of 0. -/
theorem tryFromStatus_exited (fits : status.toNat ≤ 255) :
    tryFromStatus (wExitcode status 0) = .ok (.exited status) := by
  have word := toNat_wExitcode fits
  have exited : wIfexited (wExitcode status 0) = true := by
    rw [wIfexited_iff, word]
    omega
  have read : wExitstatus (wExitcode status 0) = status := by
    apply BitVec.eq_of_toNat_eq
    rw [wExitstatus, toNat_and_ff, toNat_sshiftRight 8 (by omega), word]
    omega
  rw [tryFromStatus, if_pos exited, read]

/-- A word whose low bits are a signal is read as that signal, whatever the bit above them. -/
theorem tryFromStatus_signaled {word : BitVec 32} (low : word.toNat % 128 = status.toNat)
    (pos : 1 ≤ status.toNat) (fits : status.toNat ≤ 126) :
    tryFromStatus word = .ok (.signaled status) := by
  have running : ¬wIfexited word = true := by
    rw [wIfexited_iff]
    omega
  have signaled : wIfsignaled word = true := by
    rw [wIfsignaled_iff]
    omega
  have read : wTermsig word = status := by
    apply BitVec.eq_of_toNat_eq
    rw [wTermsig, toNat_and_7f, low]
  rw [tryFromStatus, if_neg running, if_pos signaled, read]

theorem tryFromStatus_stopped (fits : status.toNat < 2 ^ 23) :
    tryFromStatus (wStopcode status) =
      .ok (.stopped (status &&& 0xff) (status.sshiftRight 8)) := by
  have word := toNat_wStopcode fits
  have running : ¬wIfexited (wStopcode status) = true := by
    rw [wIfexited_iff]
    omega
  have unsignaled : ¬wIfsignaled (wStopcode status) = true := by
    rw [wIfsignaled_iff]
    omega
  have stopped : wIfstopped (wStopcode status) = true := by
    rw [wIfstopped_iff]
    omega
  have signal : wStopsig (wStopcode status) = status &&& 0xff := by
    apply BitVec.eq_of_toNat_eq
    rw [wStopsig, toNat_and_ff, toNat_and_ff, toNat_sshiftRight 8 (by omega), word]
    omega
  have event : (wStopcode status).sshiftRight 16 = status.sshiftRight 8 := by
    apply BitVec.eq_of_toNat_eq
    rw [toNat_sshiftRight 16 (by omega), toNat_sshiftRight 8 (by omega), word]
    omega
  rw [tryFromStatus, if_neg running, if_neg unsignaled, if_pos stopped, signal, event]

/-- The status word made of what the kernel says of a child is read as the record made of it
directly. -/
theorem tryFromStatus_rawStatus {info : ChildInfo} (genuine : info.FromKernel) :
    ∃ status record, rawStatusFromSiginfo info = .ok status ∧
      tryFromStatus status = .ok record ∧ tryFromSiginfo info = .ok record := by
  obtain ⟨signo, ⟨code, fits⟩ | ⟨code | code, pos, fits⟩ | ⟨code | code, pos, fits⟩ | code⟩ := genuine
  · refine ⟨_, _, ?_, tryFromStatus_exited fits, ?_⟩
    · simp [rawStatusFromSiginfo, signo, code]
    · simp [tryFromSiginfo, signo, code]
  · have low : (wExitcode 0 (info.status &&& 0x7f)).toNat % 128 = info.status.toNat := by
      rw [wExitcode_zero, toNat_and_7f]
      omega
    refine ⟨_, _, ?_, tryFromStatus_signaled low pos fits, ?_⟩
    · simp [rawStatusFromSiginfo, signo, code, cldKilled, cldExited]
    · simp [tryFromSiginfo, signo, code, cldKilled, cldExited]
  · have low : (wExitcode 0 (info.status &&& 0x7f ||| 0x80)).toNat % 128 = info.status.toNat := by
      have apart : (0x80 : BitVec 32) &&& 0x7f = 0#32 := by decide
      rw [wExitcode_zero, ← toNat_and_7f, BitVec.and_or_distrib_right, BitVec.and_assoc,
        BitVec.and_self, apart, BitVec.or_zero, toNat_and_7f]
      omega
    refine ⟨_, _, ?_, tryFromStatus_signaled low pos fits, ?_⟩
    · simp [rawStatusFromSiginfo, signo, code, cldDumped, cldKilled, cldExited]
    · simp [tryFromSiginfo, signo, code, cldDumped, cldKilled, cldExited]
  · refine ⟨_, _, ?_, tryFromStatus_stopped fits, ?_⟩
    · simp [rawStatusFromSiginfo, signo, code, cldStopped, cldDumped, cldKilled, cldExited]
    · simp [tryFromSiginfo, signo, code, cldStopped, cldDumped, cldKilled, cldExited]
  · refine ⟨_, _, ?_, tryFromStatus_stopped fits, ?_⟩
    · simp [rawStatusFromSiginfo, signo, code, cldTrapped, cldStopped, cldDumped, cldKilled, cldExited]
    · simp [tryFromSiginfo, signo, code, cldTrapped, cldStopped, cldDumped, cldKilled, cldExited]
  · refine ⟨0xffff, .continued, ?_, rfl, ?_⟩
    · simp [rawStatusFromSiginfo, signo, code, cldContinued, cldTrapped, cldStopped, cldDumped,
        cldKilled, cldExited]
    · simp [tryFromSiginfo, signo, code, cldContinued, cldTrapped, cldStopped, cldDumped, cldKilled,
        cldExited]

theorem tryFromStatus_rawStatus_traced :
    ∃ status record, rawStatusFromSiginfo ⟨sigchld, cldTrapped, 7, 0, 0x305⟩ = .ok status ∧
      tryFromStatus status = .ok record ∧
      tryFromSiginfo ⟨sigchld, cldTrapped, 7, 0, 0x305⟩ = .ok record :=
  tryFromStatus_rawStatus ⟨rfl, .inr (.inr (.inl ⟨.inr rfl, by decide, by decide⟩))⟩

end WaitRecord
end Zygote
