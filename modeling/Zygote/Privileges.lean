import Zygote.ChildProcess

/-!
# What a re-initialization leaves

Each call that returns has made its change to the credentials and no other. Put together
in the order of the calls, they leave the ids, groups and capability sets of the parameters,
wherever the process started.
-/
namespace Zygote
open Effect Credentials

section calls
variable {w v : World}

theorem onTask_ok {call : Call} {act : Task → Option Task} (run : onTask call act w = (.ok (), v)) :
    act w.task = some v.task := by
  unfold onTask at run
  split at run
  · cases run
  · split at run
    · cases run
    · next made => cases run; exact made

theorem onTask_err {call : Call} {act : Task → Option Task} {errno : Errno}
    (run : onTask call act w = (.err errno, v)) : v.task = w.task := by
  unfold onTask at run
  split at run
  · cases run
    rfl
  · split at run
    · cases run
      rfl
    · cases run

theorem plainCall_ok {α : Type} {call : Call} {value a : α}
    (run : plainCall call value w = (.ok a, v)) : v.task = w.task ∧ a = value := by
  unfold plainCall at run
  obtain ⟨-, made, tables, act, rfl⟩ := attempt_ok_iff.mp run
  cases act
  exact ⟨rfl, rfl⟩

theorem hook_ok {ε : Type} {call : Call} (run : (hook call : Prog World ε Unit) w = (.ok (), v)) :
    v.task = w.task := by
  unfold hook at run
  split at run
  · cases run
  · cases run
    rfl

theorem ne_of_positive {id : Int32} (positive : 1 ≤ id) : id ≠ -1 := by
  rintro rfl
  exact absurd positive (by decide)

/-- Only -1 leaves an id as it was. -/
theorem pick_given {id : Int32} (given : id ≠ -1) (old : Id) : Ids.pick id.toUInt32 old = id.toUInt32 :=
  if_neg fun same => given (congrArg Int32.ofUInt32 same)

theorem setres_ok {privileged : Bool} {ids new : Ids} {id : Int32} (given : id ≠ -1)
    (h : ids.setres privileged id.toUInt32 id.toUInt32 id.toUInt32 = some new) :
    new = ⟨id.toUInt32, id.toUInt32, id.toUInt32⟩ := by
  unfold Ids.setres at h
  split at h
  · cases h
    rw [pick_given given, pick_given given, pick_given given]
  · cases h

end calls

namespace ChildProcess
variable {ε : Type} {exec : Bool} {params : SpawnParamsCommon} {w v : World}

theorem keepCapabilities_ok (run : (keepCapabilities : Prog World ε Unit) w = (.ok (), v)) :
    ∃ keepCaps, v.task = { w.task with keepCaps } := by
  obtain ⟨r, u, asked, rest⟩ := Prog.bind_eq_ok.mp run
  obtain ⟨_, set, rfl⟩ | ⟨errno, refused, rfl⟩ := Prog.result_eq_ok.mp asked
  · cases rest
    have made := onTask_ok set
    unfold Task.setKeepCaps at made
    split at made
    · exact ⟨true, (Option.some.inj made).symm⟩
    · cases made
  · have same : v = u := by
      by_cases denied : errno = eperm
      · simp only [if_pos denied] at rest
        cases rest
        rfl
      · simp only [if_neg denied] at rest
        cases rest
    subst same
    exact ⟨w.task.keepCaps, onTask_err refused⟩

theorem capset_ok {t new : Task} {effective permitted inheritable : CapSet}
    (h : t.capset effective permitted inheritable = some new) :
    new = { t with effective, permitted, inheritable } := by
  unfold Task.capset at h
  split at h
  · exact (Option.some.inj h).symm
  · cases h

theorem storeAdditive_ok {cap : CapabilityFlags} (run : storeAdditive cap w = (.ok (), v)) :
    v.task = { w.task with inheritable := w.task.inheritable ||| cap } := by
  obtain ⟨world, u, read, run⟩ := Prog.bind_eq_ok.mp run
  cases read
  exact capset_ok (onTask_ok run)

theorem getLsbD_without (set : CapSet) (cap i : Nat) :
    (set &&& ~~~BitVec.twoPow 64 cap).getLsbD i = (set.getLsbD i && i != cap) := by
  by_cases inside : i < 64
  · rw [BitVec.getLsbD_and, BitVec.getLsbD_not, BitVec.getLsbD_twoPow]
    by_cases same : i = cap
    · simp [← same, inside]
    · simp [same, Ne.symm same, inside]
  · rw [BitVec.getLsbD_of_ge _ _ (not_lt.mp inside), BitVec.getLsbD_of_ge _ _ (not_lt.mp inside),
      Bool.false_and]

/-- The bounds that are dropped are gone, and no other. -/
theorem dropBounds_ok {caps : List Nat}
    (run : (dropBounds caps : Prog World ε Unit) w = (.ok (), v)) :
    ∃ bounding, v.task = { w.task with bounding } ∧
      ∀ i, bounding.getLsbD i = (w.task.bounding.getLsbD i && !caps.contains i) := by
  induction caps generalizing w with
  | nil =>
      cases run
      exact ⟨_, rfl, by simp⟩
  | cons cap rest ih =>
      obtain ⟨within, u, looked, run⟩ := Prog.bind_eq_ok.mp run
      obtain ⟨_, x, dropped, run⟩ := Prog.bind_eq_ok.mp run
      obtain ⟨same, answer⟩ := plainCall_ok (Prog.expect_eq_ok.mp looked)
      obtain ⟨bounding, task, bits⟩ := ih run
      have here : ∃ b, x.task = { w.task with bounding := b } ∧
          ∀ i, b.getLsbD i = (w.task.bounding.getLsbD i && i != cap) := by
        cases within with
        | false =>
            cases dropped
            refine ⟨w.task.bounding, same, fun i => ?_⟩
            by_cases this : i = cap
            · rw [this, ← answer, Bool.false_and]
            · simp [this]
        | true =>
            have made := onTask_ok (Prog.expect_eq_ok.mp dropped)
            unfold Task.dropBound at made
            split at made
            · refine ⟨_, by rw [← Option.some.inj made, same], fun i => getLsbD_without _ _ _⟩
            · cases made
      obtain ⟨b, task', bits'⟩ := here
      refine ⟨bounding, by rw [task, task'], fun i => ?_⟩
      rw [bits, task', bits', List.contains_cons, Bool.not_or, Bool.and_assoc]
      rfl

theorem setrlimits_ok {limits : List Inner.RLimitData}
    (run : (setrlimits limits : Prog World ε Unit) w = (.ok (), v)) : v.task = w.task := by
  induction limits generalizing w with
  | nil => cases run; rfl
  | cons limit rest ih =>
      obtain ⟨_, u, set, run⟩ := Prog.bind_eq_ok.mp run
      rw [ih run, (plainCall_ok (Prog.expect_eq_ok.mp set)).1]

/-- The bounding set that is left when some of it is asked for. -/
def narrowed (bounding : CapSet) : Option CapabilityFlags → CapSet
  | none => bounding
  | some bound => bounding &&& bound

/-- Dropping what is not asked for leaves what is, as long as every capability is known. -/
theorem dropBounds_complement {bound : CapabilityFlags}
    (known : CapabilityFlags.Known w.task.bounding)
    (run : (dropBounds (complement bound) : Prog World ε Unit) w = (.ok (), v)) :
    v.task = { w.task with bounding := w.task.bounding &&& bound } := by
  obtain ⟨bounding, task, bits⟩ := dropBounds_ok run
  have rest : bounding = w.task.bounding &&& bound := by
    refine BitVec.eq_of_getLsbD_eq fun i inside => ?_
    rw [bits, BitVec.getLsbD_and]
    cases held : w.task.bounding.getLsbD i with
    | false => rfl
    | true =>
        have among : CapabilityFlags.all.getLsbD i = true := by
          rw [← show w.task.bounding &&& CapabilityFlags.all = w.task.bounding from known,
            BitVec.getLsbD_and, Bool.and_eq_true] at held
          exact held.2
        rw [Bool.true_and, Bool.true_and, Bool.eq_iff_iff]
        simp [complement, inside, among]
  rw [task, rest]

/-- Before the ids, the groups and the bounding set are as they will be. -/
theorem prepare_ok (known : CapabilityFlags.Known w.task.bounding)
    (run : (prepare exec params : Prog World ε Unit) w = (.ok (), v)) :
    v.task.groups = (if params.secondaryGroups.toList = [] ∧ exec = false then w.task.groups
      else params.secondaryGroups.toList) ∧
      v.task.bounding = narrowed w.task.bounding params.capBound := by
  obtain ⟨_, w₁, prologue, run⟩ := Prog.bind_eq_ok.mp run
  obtain ⟨_, w₂, kept, run⟩ := Prog.bind_eq_ok.mp run
  obtain ⟨_, w₃, stored, run⟩ := Prog.bind_eq_ok.mp run
  obtain ⟨_, w₄, dropped, run⟩ := Prog.bind_eq_ok.mp run
  obtain ⟨_, w₅, grouped, run⟩ := Prog.bind_eq_ok.mp run
  obtain ⟨keepCaps, task₂⟩ := keepCapabilities_ok kept
  rw [hook_ok prologue] at task₂
  have task₃ : w₃.task.groups = w.task.groups ∧ w₃.task.bounding = w.task.bounding := by
    cases permitted : params.capPermitted with
    | none =>
        rw [permitted] at stored
        cases stored
        rw [task₂]
        exact ⟨rfl, rfl⟩
    | some cap =>
        rw [permitted] at stored
        rw [storeAdditive_ok (Prog.expect_eq_ok.mp stored), task₂]
        exact ⟨rfl, rfl⟩
  have task₄ : w₄.task.groups = w.task.groups ∧
      w₄.task.bounding = narrowed w.task.bounding params.capBound := by
    cases bounded : params.capBound with
    | none =>
        rw [bounded] at dropped
        cases dropped
        exact task₃
    | some bound =>
        rw [bounded] at dropped
        rw [dropBounds_complement (by rw [task₃.2]; exact known) dropped]
        exact ⟨task₃.1, by rw [narrowed, ← task₃.2]⟩
  rw [setrlimits_ok run]
  by_cases empty : params.secondaryGroups.toList = [] ∧ exec = false
  · rw [if_pos empty] at grouped ⊢
    cases grouped
    exact task₄
  · rw [if_neg empty] at grouped ⊢
    have made := onTask_ok (Prog.expect_eq_ok.mp grouped)
    unfold Task.setgroups at made
    split at made
    · rw [← Option.some.inj made]
      exact ⟨rfl, task₄.2⟩
    · cases made

theorem setresgid_ok {id : Int32} (given : id ≠ -1)
    (run : (setIds setresgid "Failed to set GID" (some id) : Prog World ε Unit) w = (.ok (), v)) :
    v.task = { w.task with gid := ⟨id.toUInt32, id.toUInt32, id.toUInt32⟩ } := by
  have made := onTask_ok (Prog.expect_eq_ok.mp run)
  obtain ⟨new, set, task⟩ := Option.map_eq_some_iff.mp made
  rw [← task, setres_ok given set]

/-- Setting the user ids changes nothing else but the capability sets that follow them. -/
theorem setresuid_ok {id : Int32} (given : id ≠ -1)
    (run : (setIds setresuid "Failed to set UID" (some id) : Prog World ε Unit) w = (.ok (), v)) :
    v.task.uid = ⟨id.toUInt32, id.toUInt32, id.toUInt32⟩ ∧ v.task.gid = w.task.gid ∧
      v.task.groups = w.task.groups ∧ v.task.bounding = w.task.bounding := by
  have made := onTask_ok (Prog.expect_eq_ok.mp run)
  obtain ⟨new, set, task⟩ := Option.map_eq_some_iff.mp made
  rw [← task, setres_ok given set]
  exact ⟨rfl, rfl, rfl, rfl⟩

theorem finish_ok {effective permitted inheritable : CapabilityFlags}
    (asked : params.capEffective = some effective ∧ params.capPermitted = some permitted ∧
      params.capInheritable = some inheritable)
    (run : (finish params : Prog World ε Unit) w = (.ok (), v)) :
    v.task = { w.task with effective, permitted, inheritable } := by
  obtain ⟨_, u, stored, epilogue⟩ := Prog.bind_eq_ok.mp run
  obtain ⟨world, x, read, stored⟩ := Prog.bind_eq_ok.mp (Prog.expect_eq_ok.mp stored)
  cases read
  rw [hook_ok epilogue, capset_ok (onTask_ok stored), asked.1, asked.2.1, asked.2.2]
  rfl

/-- A re-initialization that returns has left exactly the privileges of its parameters,
whatever the process had. -/
theorem reInitialize_exact {uid gid : Int32} {effective permitted inheritable : CapabilityFlags}
    (user : params.uid = some uid) (positiveUid : 1 ≤ uid) (group : params.gid = some gid)
    (positiveGid : 1 ≤ gid) (groups : params.secondaryGroups.toList ≠ [] ∨ exec = true)
    (asked : params.capEffective = some effective ∧ params.capPermitted = some permitted ∧
      params.capInheritable = some inheritable)
    (known : CapabilityFlags.Known w.task.bounding)
    (run : (reInitialize exec params : Prog World ε Unit) w = (.ok (), v)) :
    v.task.uid = ⟨uid.toUInt32, uid.toUInt32, uid.toUInt32⟩ ∧
      v.task.gid = ⟨gid.toUInt32, gid.toUInt32, gid.toUInt32⟩ ∧
      v.task.groups = params.secondaryGroups.toList ∧
      v.task.effective = effective ∧ v.task.permitted = permitted ∧
      v.task.inheritable = inheritable ∧
      v.task.bounding = narrowed w.task.bounding params.capBound := by
  obtain ⟨_, w₁, prepared, run⟩ := Prog.bind_eq_ok.mp run
  obtain ⟨_, w₂, grouped, run⟩ := Prog.bind_eq_ok.mp run
  obtain ⟨_, w₃, filtered, run⟩ := Prog.bind_eq_ok.mp run
  obtain ⟨_, w₄, became, finished⟩ := Prog.bind_eq_ok.mp run
  obtain ⟨groups₁, bounding₁⟩ := prepare_ok known prepared
  rw [group] at grouped
  rw [user] at became
  obtain ⟨uid₄, gid₄, groups₄, bounding₄⟩ := setresuid_ok (ne_of_positive positiveUid) became
  rw [hook_ok filtered, setresgid_ok (ne_of_positive positiveGid) grouped] at gid₄ groups₄ bounding₄
  rw [finish_ok asked finished]
  refine ⟨uid₄, gid₄, ?_, rfl, rfl, rfl, ?_⟩
  · rw [groups₄, groups₁, if_neg]
    rintro ⟨empty, forked⟩
    rcases groups with some | spawned
    · exact some empty
    · exact absurd (forked.symm.trans spawned) Bool.false_ne_true
  · rw [bounding₄, bounding₁]

/-- The superuser with every capability there is, and parameters that keep one of them. -/
def superuser : World :=
  { World.boot .calm [] with
    task := { Task.root with
      effective := CapabilityFlags.all
      permitted := CapabilityFlags.all
      bounding := CapabilityFlags.all } }

def appParams : SpawnParamsCommon :=
  { SpawnParamsCommon.unset with
    uid := some 10000
    gid := some 10001
    secondaryGroups := appGroups
    capEffective := some 0
    capPermitted := some 4
    capInheritable := some 4
    capBound := some 4 }

theorem reInitialize_app :
    (reInitialize false appParams superuser : Outcome Errno Unit × World).1 = .ok () := by decide +kernel

theorem reInitialize_exact_app : ∃ v,
    (reInitialize false appParams superuser : Outcome Errno Unit × World) = (.ok (), v) ∧
      v.task.uid = ⟨10000, 10000, 10000⟩ ∧ v.task.gid = ⟨10001, 10001, 10001⟩ ∧
      v.task.groups = [3003, 9997] ∧ v.task.effective = 0 ∧ v.task.permitted = 4 ∧
      v.task.inheritable = 4 ∧ v.task.bounding = CapabilityFlags.all &&& 4 := by
  have known : CapabilityFlags.Known superuser.task.bounding := BitVec.and_self
  obtain ⟨v, run⟩ := Prog.exists_of_fst reInitialize_app
  exact ⟨v, run, @reInitialize_exact Errno _ appParams superuser v 10000 10001 0 4 4 rfl (by decide) rfl
    (by decide) (.inl (by decide)) ⟨rfl, rfl, rfl⟩ known run⟩

end ChildProcess
end Zygote
