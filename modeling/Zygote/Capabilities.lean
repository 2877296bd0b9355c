import Zygote.Privileges

/-!
# The capabilities a child keeps

Capabilities are lost with the last user id of zero, unless the process asked to keep them.
A child always asks, and lays down only the sets it was given.
-/
namespace Zygote
open Effect Credentials

/-- What decides over the permitted capabilities is as it was. -/
structure World.Retains (w v : World) : Prop where
  permitted : v.task.permitted = w.task.permitted
  uid : v.task.uid = w.task.uid
  keepCaps : v.task.keepCaps = w.task.keepCaps

namespace World.Retains
variable {u v w : World}

theorem of_task (same : v.task = w.task) : w.Retains v :=
  ⟨congrArg _ same, congrArg _ same, congrArg _ same⟩

theorem trans (first : u.Retains v) (second : v.Retains w) : u.Retains w :=
  ⟨second.permitted.trans first.permitted, second.uid.trans first.uid,
    second.keepCaps.trans first.keepCaps⟩

end World.Retains

namespace ChildProcess
variable {ε : Type} {exec : Bool} {params : SpawnParamsCommon} {w v : World}

/-- The kernel lets the process set its secure bits. -/
def GrantsSecurebits (w : World) : Prop :=
  w.env.fault w.clock .prctlSetSecurebits = none ∧ w.task.capable capSetpcap = true

theorem keepCapabilities_keeps (run : (keepCapabilities : Prog World ε Unit) w = (.ok (), v)) :
    v.task.permitted = w.task.permitted ∧ v.task.uid = w.task.uid ∧
      (v.task.keepCaps = true ↔ w.task.keepCaps = true ∨ GrantsSecurebits w) := by
  obtain ⟨keepCaps, task⟩ := keepCapabilities_ok run
  refine ⟨by rw [task], by rw [task], ?_⟩
  by_cases grants : GrantsSecurebits w
  · have set : prctlSetSecurebits w = (.ok (),
        { w.note .prctlSetSecurebits none with task := { w.task with keepCaps := true } }) := by
      simp only [prctlSetSecurebits, onTask, grants.1, Task.setKeepCaps, grants.2, if_true]
    rw [keepCapabilities, Prog.bind_result_ok set] at run
    cases run
    exact iff_of_true rfl (.inr grants)
  · have refused : ∃ errno, prctlSetSecurebits w =
        (.err errno, w.note .prctlSetSecurebits none) := by
      cases fault : w.env.fault w.clock .prctlSetSecurebits with
      | some errno => exact ⟨errno, by simp only [prctlSetSecurebits, onTask, fault]⟩
      | none =>
          have denied : w.task.setKeepCaps = none := if_neg fun able => grants ⟨fault, able⟩
          exact ⟨eperm, by simp only [prctlSetSecurebits, onTask, fault, denied]⟩
    obtain ⟨errno, refused⟩ := refused
    rw [keepCapabilities, Prog.bind_result_err refused] at run
    by_cases denied : errno = eperm
    · simp only [if_pos denied] at run
      cases run
      exact (or_iff_left grants).symm
    · simp only [if_neg denied] at run
      cases run

theorem storeAdditive_retains {cap : Option CapabilityFlags}
    (run : (Prog.forSome cap fun cap => (storeAdditive cap).expect
      "Failed to store additive capabilities" : Prog World ε Unit) w = (.ok (), v)) : w.Retains v := by
  cases cap with
  | none => cases run; exact .of_task rfl
  | some cap =>
      have task := storeAdditive_ok (Prog.expect_eq_ok.mp run)
      exact ⟨by rw [task], by rw [task], by rw [task]⟩

theorem dropBounds_retains {bound : Option CapabilityFlags}
    (run : (Prog.forSome bound fun cap => dropBounds (complement cap) : Prog World ε Unit) w =
      (.ok (), v)) : w.Retains v := by
  cases bound with
  | none => cases run; exact .of_task rfl
  | some bound =>
      obtain ⟨bounding, task, -⟩ := dropBounds_ok run
      exact ⟨by rw [task], by rw [task], by rw [task]⟩

theorem setgroups_retains {groups : List Id}
    (run : (if groups = [] ∧ exec = false then pure () else
      (setgroups groups).expect "Failed to set groups" :
      Prog World ε Unit) w = (.ok (), v)) : w.Retains v := by
  split at run
  · cases run; exact .of_task rfl
  · have made := onTask_ok (Prog.expect_eq_ok.mp run)
    unfold Task.setgroups at made
    split at made
    · have task := (Option.some.inj made).symm
      exact ⟨by rw [task], by rw [task], by rw [task]⟩
    · cases made

theorem setresgid_retains {gid : Option Int32}
    (run : (setIds setresgid "Failed to set GID" gid : Prog World ε Unit) w = (.ok (), v)) :
    w.Retains v := by
  cases gid with
  | none => cases run; exact .of_task rfl
  | some gid =>
      have made := onTask_ok (Prog.expect_eq_ok.mp run)
      obtain ⟨new, -, task⟩ := Option.map_eq_some_iff.mp made
      exact ⟨by rw [← task], by rw [← task], by rw [← task]⟩

/-- The capabilities survive the change of the user: the request that the child makes right
after the prologue is granted, or the process had made it before. -/
def KeepsCapabilities (w : World) : Prop :=
  w.task.keepCaps = true ∨ GrantsSecurebits (w.note .reInitializePrologue none)

theorem prepare_retains (run : (prepare exec params : Prog World ε Unit) w = (.ok (), v)) :
    v.task.permitted = w.task.permitted ∧ v.task.uid = w.task.uid ∧
      (v.task.keepCaps = true ↔ KeepsCapabilities w) := by
  obtain ⟨_, w₁, prologue, run⟩ := Prog.bind_eq_ok.mp run
  obtain ⟨_, w₂, kept, run⟩ := Prog.bind_eq_ok.mp run
  obtain ⟨_, w₃, stored, run⟩ := Prog.bind_eq_ok.mp run
  obtain ⟨_, w₄, dropped, run⟩ := Prog.bind_eq_ok.mp run
  obtain ⟨_, w₅, grouped, limited⟩ := Prog.bind_eq_ok.mp run
  obtain rfl : w₁ = w.note .reInitializePrologue none := by
    unfold hook at prologue
    split at prologue
    · cases prologue
    · cases prologue
      rfl
  obtain ⟨permitted, uid, keepCaps⟩ := keepCapabilities_keeps kept
  have retains : w₂.Retains v :=
    (((storeAdditive_retains stored).trans (dropBounds_retains dropped)).trans
      (setgroups_retains grouped)).trans (.of_task (setrlimits_ok limited))
  exact ⟨retains.permitted.trans permitted, retains.uid.trans uid, by
    rw [retains.keepCaps, keepCaps]; rfl⟩

/-- Without a permitted set to lay down, the one that is in force stays. -/
theorem finish_permitted (run : (finish params : Prog World ε Unit) w = (.ok (), v)) :
    v.task.permitted = params.capPermitted.getD w.task.permitted := by
  obtain ⟨_, u, stored, epilogue⟩ := Prog.bind_eq_ok.mp run
  obtain ⟨world, x, read, stored⟩ := Prog.bind_eq_ok.mp (Prog.expect_eq_ok.mp stored)
  cases read
  rw [hook_ok epilogue, capset_ok (onTask_ok stored)]

/-- With the last zero the permitted capabilities go, unless they are kept. -/
theorem setresuid_permitted {id : Int32} (positive : 1 ≤ id) (superuser : w.task.uid = ⟨0, 0, 0⟩)
    (run : (setIds setresuid "Failed to set UID" (some id) : Prog World ε Unit) w = (.ok (), v)) :
    v.task.permitted = if w.task.keepCaps = true then w.task.permitted else 0 := by
  have made := onTask_ok (Prog.expect_eq_ok.mp run)
  obtain ⟨new, set, task⟩ := Option.map_eq_some_iff.mp made
  have proper := (properId_toUInt32 id).mpr positive
  have nonzero : (0 : Id) ≠ id.toUInt32 := by
    intro zero
    rw [ProperId, ← zero] at proper
    exact absurd proper (by decide)
  have left : new.has 0 = false := by
    rw [setres_ok (ne_of_positive positive) set]
    simp [Ids.has, nonzero]
  rw [← task, Task.withUid, superuser, left]
  cases w.task.keepCaps with
  | true => rfl
  | false => rfl

/-- The capabilities the parameters permit, which are none where they do not say. -/
def Contained (asked : Option CapabilityFlags) (v : World) : Prop :=
  v.task.permitted &&& asked.getD 0 = v.task.permitted

/-- A child that leaves the superuser keeps what nobody asked for exactly when no permitted
set was given and the capabilities survive the change of the user. -/
theorem reInitialize_contained_iff {uid : Int32} (superuser : w.task.uid = ⟨0, 0, 0⟩)
    (full : w.task.permitted &&& CapabilityFlags.all = CapabilityFlags.all)
    (user : params.uid = some uid) (positive : 1 ≤ uid)
    (run : (reInitialize exec params : Prog World ε Unit) w = (.ok (), v)) :
    Contained params.capPermitted v ↔ params.capPermitted.isSome = true ∨ ¬KeepsCapabilities w := by
  obtain ⟨_, w₁, prepared, run⟩ := Prog.bind_eq_ok.mp run
  obtain ⟨_, w₂, grouped, run⟩ := Prog.bind_eq_ok.mp run
  obtain ⟨_, w₃, filtered, run⟩ := Prog.bind_eq_ok.mp run
  obtain ⟨_, w₄, became, finished⟩ := Prog.bind_eq_ok.mp run
  obtain ⟨permitted, uid₁, keepCaps⟩ := prepare_retains prepared
  have retains := (setresgid_retains grouped).trans (.of_task (hook_ok filtered))
  rw [user] at became
  have after := setresuid_permitted positive (by rw [retains.uid, uid₁, superuser]) became
  rw [retains.permitted, retains.keepCaps, permitted] at after
  rw [Contained, finish_permitted finished]
  cases params.capPermitted with
  | some asked => simp
  | none =>
      have nonzero : w.task.permitted ≠ 0 := by
        intro zero
        rw [zero] at full
        exact absurd full (by decide)
      rw [Option.getD_none, Option.getD_none, after, ← keepCaps]
      by_cases keeps : w₁.task.keepCaps = true
      · rw [if_pos keeps]
        refine iff_of_false (fun empty => nonzero ?_) (by simp [keeps])
        exact empty.symm.trans BitVec.and_zero
      · rw [if_neg keeps]
        exact iff_of_true BitVec.and_zero (.inr keeps)

/-- A user is all the parameters ask for. -/
def userParams : SpawnParamsCommon := { SpawnParamsCommon.unset with uid := some 10000 }

theorem reInitialize_user :
    (reInitialize false userParams superuser : Outcome Errno Unit × World).1 = .ok () := by
    decide +kernel

theorem reInitialize_contained_app : ∃ v,
    (reInitialize false appParams superuser : Outcome Errno Unit × World) = (.ok (), v) ∧
      (Contained (some 4) v ↔ (some (4 : CapabilityFlags)).isSome = true ∨
        ¬KeepsCapabilities superuser) := by
  have full : superuser.task.permitted &&& CapabilityFlags.all = CapabilityFlags.all :=
    BitVec.and_self
  obtain ⟨v, run⟩ := Prog.exists_of_fst reInitialize_app
  exact ⟨v, run, @reInitialize_contained_iff Errno _ appParams superuser v 10000 rfl full rfl
    (by decide) run⟩

/-- All capabilities of the superuser are left to the user 10000. -/
theorem reInitialize_not_contained :
    ¬∀ (exec : Bool) (params : SpawnParamsCommon) (w v : World) (uid : Int32), w.task.uid = ⟨0, 0, 0⟩ →
      w.task.permitted &&& CapabilityFlags.all = CapabilityFlags.all → params.uid = some uid →
      1 ≤ uid → (reInitialize exec params : Prog World Errno Unit) w = (.ok (), v) →
      Contained params.capPermitted v := by
  intro claim
  have full : superuser.task.permitted &&& CapabilityFlags.all = CapabilityFlags.all :=
    BitVec.and_self
  have kept : (reInitialize false userParams superuser : Outcome Errno Unit × World).2.task.permitted =
      CapabilityFlags.all := by decide +kernel
  obtain ⟨v, run⟩ := Prog.exists_of_fst reInitialize_user
  have contained := claim false userParams superuser v 10000 rfl full rfl (by decide) run
  rw [run] at kept
  rw [Contained, kept] at contained
  exact absurd contained (by decide)

end ChildProcess
end Zygote
