import Zygote.Sockets

/-!
# Effective ids for a while

`EffectiveIdContext` takes on other effective ids and gives them up again. What it gives
them up for are the real ids, and the group is asked for with the user already changed.
-/
namespace Zygote
open Effect Credentials

def setreuid (real effective : Id) : Prog World Errno Unit :=
  onTask (.setreuid real effective) fun task => task.setreuid real effective

def setregid (real effective : Id) : Prog World Errno Unit :=
  onTask (.setregid real effective) fun task => task.setregid real effective

structure EffectiveIdContext where
  ruid : Id
  rgid : Id
  euid : Option Id
  egid : Option Id

namespace EffectiveIdContext

def enter (euid egid : Option Id) : Prog World Errno EffectiveIdContext := do
  Prog.forSome euid fun euid => setreuid unchanged euid
  Prog.forSome egid fun egid => setregid unchanged egid
  let world ← Prog.read
  pure ⟨world.task.uid.real, world.task.gid.real, euid, egid⟩

def exit (context : EffectiveIdContext) : Prog World Errno Unit := do
  if context.euid.isSome then setreuid unchanged context.ruid else pure ()
  if context.egid.isSome then setregid unchanged context.rgid else pure ()

/-- The destructor of a thread that is not panicking. -/
def drop {ε : Type} (context : EffectiveIdContext) : Prog World ε Unit :=
  context.exit.expect "Failed to restore effective permissions on drop"


section restore
variable {w : World}

/-- The id that is asked for, if one is, is granted. -/
def Granted (acting : Id) (ids : Ids) (id : Option Id) : Prop :=
  ∀ asked, id = some asked → Grants acting ids asked

/-- The effective id the process has taken on once it was granted. -/
def taken (ids : Ids) (id : Option Id) : Id := Ids.pick (id.getD unchanged) ids.effective

theorem onTask_cases (call : Call) (act : Task → Option Task) (quiet : w.env.Quiet) :
    (∃ task, act w.task = some task ∧
      onTask call act w = (.ok (), { w.note call none with task })) ∨
      act w.task = none ∧ onTask call act w = (.err eperm, w.note call none) := by
  unfold onTask
  rw [quiet.fault]
  cases act w.task with
  | none => exact Or.inr ⟨rfl, rfl⟩
  | some task => exact Or.inl ⟨task, rfl, rfl⟩

/-- What asking for another effective user comes to. -/
structure TookUid (w u : World) (id : Option Id) : Prop where
  granted : Granted w.task.uid.effective w.task.uid id
  env : u.env = w.env
  follows : u.task.FollowsUid
  real : u.task.uid.real = w.task.uid.real
  effective : u.task.uid.effective = taken w.task.uid id
  gid : u.task.gid = w.task.gid

structure TookGid (w u : World) (id : Option Id) : Prop where
  granted : Granted w.task.uid.effective w.task.gid id
  env : u.env = w.env
  follows : u.task.FollowsUid
  real : u.task.gid.real = w.task.gid.real
  effective : u.task.gid.effective = taken w.task.gid id
  uid : u.task.uid = w.task.uid

theorem takeUid (quiet : w.env.Quiet) (follows : w.task.FollowsUid) (id : Option Id) :
    (∃ u, Prog.forSome id (setreuid unchanged) w = (.ok (), u) ∧ TookUid w u id) ∨
      ¬Granted w.task.uid.effective w.task.uid id ∧
        ∃ e u, Prog.forSome id (setreuid unchanged) w = (.err e, u) ∧ u.task = w.task := by
  cases id with
  | none =>
      exact Or.inl ⟨w, rfl, ⟨(fun asked absent => nomatch absent), rfl, follows, rfl, rfl, rfl⟩⟩
  | some id =>
      rcases onTask_cases (.setreuid unchanged id)
        (fun task => task.setreuid unchanged id) quiet with ⟨task, made, run⟩ | ⟨refused, run⟩
      · obtain ⟨granted, after, real, effective, gid⟩ := follows.setreuid made
        refine Or.inl ⟨_, run, ⟨?_, rfl, after, real, effective, gid⟩⟩
        rintro asked ⟨⟩
        exact granted
      · exact Or.inr ⟨fun granted => follows.setreuid_none refused (granted id rfl), _, _, run, rfl⟩

theorem takeGid (quiet : w.env.Quiet) (follows : w.task.FollowsUid) (id : Option Id) :
    (∃ u, Prog.forSome id (setregid unchanged) w = (.ok (), u) ∧ TookGid w u id) ∨
      ¬Granted w.task.uid.effective w.task.gid id ∧
        ∃ e u, Prog.forSome id (setregid unchanged) w = (.err e, u) ∧ u.task = w.task := by
  cases id with
  | none =>
      exact Or.inl ⟨w, rfl, ⟨(fun asked absent => nomatch absent), rfl, follows, rfl, rfl, rfl⟩⟩
  | some id =>
      rcases onTask_cases (.setregid unchanged id)
        (fun task => task.setregid unchanged id) quiet with ⟨task, made, run⟩ | ⟨refused, run⟩
      · obtain ⟨granted, after, real, effective, uid⟩ := follows.setregid made
        refine Or.inl ⟨_, run, ⟨?_, rfl, after, real, effective, uid⟩⟩
        rintro asked ⟨⟩
        exact granted
      · exact Or.inr ⟨fun granted => follows.setregid_none refused (granted id rfl), _, _, run, rfl⟩

theorem exit_eq (context : EffectiveIdContext) : context.exit = (do
    Prog.forSome (context.euid.map fun _ => context.ruid) (setreuid unchanged)
    Prog.forSome (context.egid.map fun _ => context.rgid) (setregid unchanged)) := by
  obtain ⟨ruid, rgid, euid, egid⟩ := context
  cases euid <;> cases egid <;> rfl

/-- The real id is always granted, and leaves nothing else to be taken on. -/
theorem granted_real (acting : Id) (ids : Ids) (id : Option Id) :
    Granted acting ids (id.map fun _ => ids.real) := by
  rintro asked h
  obtain ⟨-, -, rfl⟩ := Option.map_eq_some_iff.mp h
  exact Or.inr (Or.inr (by simp [Ids.has]))

theorem taken_real {ids : Ids} (valid : ids.real ≠ unchanged) (id : Option Id) :
    taken ids (id.map fun _ => ids.real) = if id.isSome then ids.real else ids.effective := by
  cases id with
  | none => rfl
  | some id => simp [taken, Ids.pick, valid]

/-- Leaving always succeeds, and gives what was taken on up for the real ids. -/
theorem exit_restores {context : EffectiveIdContext} (quiet : w.env.Quiet)
    (follows : w.task.FollowsUid) (ruid : context.ruid = w.task.uid.real)
    (rgid : context.rgid = w.task.gid.real) :
    ∃ v, context.exit w = (.ok (), v) ∧
      v.task.uid.effective =
        (if context.euid.isSome then w.task.uid.real else w.task.uid.effective) ∧
      v.task.gid.effective =
        (if context.egid.isSome then w.task.gid.real else w.task.gid.effective) := by
  rw [exit_eq, ruid, rgid]
  rcases takeUid quiet follows (context.euid.map fun _ => w.task.uid.real) with
    ⟨u, first, user⟩ | ⟨refused, -⟩
  · rcases takeGid (user.env ▸ quiet) user.follows (context.egid.map fun _ => w.task.gid.real) with
      ⟨v, second, group⟩ | ⟨refused, -⟩
    · refine ⟨v, Prog.bind_eq_ok.mpr ⟨_, _, first, second⟩, ?_, ?_⟩
      · rw [group.uid, user.effective, taken_real follows.realUid]
      · rw [group.effective, user.gid, taken_real follows.realGid]
    · rw [user.gid] at refused
      exact absurd (granted_real _ _ _) refused
  · exact absurd (granted_real _ _ _) refused

end restore

section atomic
variable {w : World}

def SameEffective (w v : World) : Prop :=
  v.task.uid.effective = w.task.uid.effective ∧ v.task.gid.effective = w.task.gid.effective

/-- Entering has failed and changed nothing, or leaving, by either way, undoes it. -/
def Restores (euid egid : Option Id) (w : World) : Prop :=
  match enter euid egid w with
  | (.ok context, u) =>
      (∃ v, context.exit u = (.ok (), v) ∧ SameEffective w v) ∧
        ∃ v, (context.drop u : Outcome Errno Unit × World) = (.ok (), v) ∧ SameEffective w v
  | (.err _, u) => SameEffective w u
  | (.panic _, _) => False

/-- Each id that is asked for in place of another was the real one's, and a refused group
comes with an unchanged user. -/
def Restorable (task : Task) (euid egid : Option Id) : Prop :=
  Granted task.uid.effective task.uid euid →
    (Granted (taken task.uid euid) task.gid egid →
      (euid.isSome → task.uid.effective = task.uid.real) ∧
        (egid.isSome → task.gid.effective = task.gid.real)) ∧
    (¬Granted (taken task.uid euid) task.gid egid → taken task.uid euid = task.uid.effective)

theorem restored_iff {ids : Ids} {id : Option Id} :
    (if id.isSome then ids.real else taken ids id) = ids.effective ↔
      (id.isSome → ids.effective = ids.real) := by
  cases id with
  | none => simp [taken, Ids.pick]
  | some id => simp [eq_comm]

theorem drop_eq {context : EffectiveIdContext} {v : World} (left : context.exit w = (.ok (), v)) :
    (context.drop w : Outcome Errno Unit × World) = (.ok (), v) := by
  simp only [drop, Prog.expect, left]

theorem enter_restores_iff (quiet : w.env.Quiet) (follows : w.task.FollowsUid)
    (euid egid : Option Id) : Restores euid egid w ↔ Restorable w.task euid egid := by
  unfold Restores Restorable
  rcases takeUid quiet follows euid with ⟨u, first, user⟩ | ⟨refused, e, u, first, same⟩
  · have group := takeGid (user.env ▸ quiet) user.follows egid
    rw [user.effective, user.gid] at group
    rcases group with ⟨v, second, group⟩ | ⟨refused, e, v, second, same⟩
    · have run : enter euid egid w =
          (.ok ⟨v.task.uid.real, v.task.gid.real, euid, egid⟩, v) :=
        Prog.bind_eq_ok.mpr ⟨_, _, first, Prog.bind_eq_ok.mpr ⟨_, _, second, rfl⟩⟩
      have granted : Granted (taken w.task.uid euid) w.task.gid egid := by
        rw [← user.effective, ← user.gid]
        exact group.granted
      obtain ⟨x, left, uid, gid⟩ := @exit_restores v ⟨v.task.uid.real, v.task.gid.real, euid, egid⟩
        (group.env ▸ user.env ▸ quiet) group.follows rfl rfl
      rw [group.uid, user.real, user.effective] at uid
      rw [group.real, group.effective, user.gid] at gid
      have same : SameEffective w x ↔ (euid.isSome → w.task.uid.effective = w.task.uid.real) ∧
          (egid.isSome → w.task.gid.effective = w.task.gid.real) := by
        unfold SameEffective
        rw [uid, gid, restored_iff, restored_iff]
      rw [run]
      simp only [drop_eq left, left, Prod.mk.injEq, true_and, exists_eq_left', and_self, same]
      exact ⟨fun h _ => ⟨fun _ => h, fun refused => absurd granted refused⟩,
        fun h => (h user.granted).1 granted⟩
    · have run : enter euid egid w = (.err e, v) := by
        simp only [enter, Prog.bind_apply, first, second]
      rw [run]
      show SameEffective w v ↔ _
      rw [SameEffective, same, user.effective, user.gid]
      exact ⟨fun h _ => ⟨fun granted => absurd granted refused, fun _ => h.1⟩,
        fun h => ⟨(h user.granted).2 refused, rfl⟩⟩
  · have run : enter euid egid w = (.err e, u) := by
      simp only [enter, Prog.bind_apply, first]
    rw [run]
    exact iff_of_true ⟨by rw [same], by rw [same]⟩ fun granted => absurd granted refused

/-- The superuser is another user for a while. -/
theorem enter_restores_iff_user : Restores (some 1000) none (.boot .calm stdio) ↔
    Restorable .root (some 1000) none :=
  enter_restores_iff Env.calm_quiet Task.root_followsUid (some 1000) none

/-- The superuser asks for another user and another group: the first is granted, and with it
the right to the second is gone. -/
theorem enter_not_atomic : ¬∀ (w : World) (euid egid : Option Id), w.env.Quiet →
    w.task.FollowsUid → Restores euid egid w := by
  intro claim
  have failed : SameEffective (.boot .calm stdio)
      (enter (some 1000) (some 1000) (.boot .calm stdio)).2 :=
    claim (.boot .calm stdio) (some 1000) (some 1000) Env.calm_quiet Task.root_followsUid
  exact absurd failed.1 (by decide)

end atomic

end EffectiveIdContext
end Zygote
