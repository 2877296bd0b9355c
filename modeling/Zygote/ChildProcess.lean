import Zygote.Messages.RoundTrip
import Zygote.EffectiveIds
import Zygote.Config

/-!
# Re-initializing a child

`child_process::re_initialize`: the child takes on the groups, limits, ids and capabilities
of its parameters. Whatever it may not do is fatal, and an id that is not asked for is not
touched. The names of the process are left out.
-/
namespace Zygote
open Effect Credentials

def setresuid (real effective saved : Id) : Prog World Errno Unit :=
  onTask (.setresuid real effective saved) fun task => task.setresuid real effective saved

def setresgid (real effective saved : Id) : Prog World Errno Unit :=
  onTask (.setresgid real effective saved) fun task => task.setresgid real effective saved

def setgroups (groups : List Id) : Prog World Errno Unit :=
  onTask (.setgroups groups) fun task => task.setgroups groups

def setrlimit (limit : Inner.RLimitData) : Prog World Errno Unit := plainCall (.setrlimit limit) ()

def prctlSetSecurebits : Prog World Errno Unit := onTask .prctlSetSecurebits Task.setKeepCaps

def capset (effective permitted inheritable : CapSet) : Prog World Errno Unit :=
  onTask (.capset effective permitted inheritable) fun task =>
    task.capset effective permitted inheritable

def capWithinBound (cap : Nat) : Prog World Errno Bool := do
  let world ← Prog.read
  plainCall (.capWithinBound cap) (world.task.bounding.getLsbD cap)

def capDropBound (cap : Nat) : Prog World Errno Unit :=
  onTask (.capDropBound cap) fun task => task.dropBound cap

/-- A callback of the species. -/
def hook {ε : Type} (call : Call) : Prog World ε Unit := fun w =>
  match w.env.hookPanics w.clock call with
  | some reason => (.panic reason, w.note call none)
  | none => (.ok (), w.note call none)

namespace ChildProcess
variable {ε : Type}

/-- Keep the capabilities across the change of the user. Without permission to say so the
child goes on. -/
def keepCapabilities : Prog World ε Unit := do
  match ← prctlSetSecurebits.result with
  | .ok _ => pure ()
  | .error errno =>
      if errno = eperm then pure ()
      else Prog.panic "Failed to set secure bits in child process"

/-- `store_additive` of a set with only inheritable capabilities. -/
def storeAdditive (inheritable : CapabilityFlags) : Prog World Errno Unit := do
  let world ← Prog.read
  capset world.task.effective world.task.permitted (world.task.inheritable ||| inheritable)

/-- The known capabilities outside a set, from the lowest. -/
def complement (bound : CapabilityFlags) : List Nat :=
  (List.range 64).filter fun cap => (CapabilityFlags.all &&& ~~~bound).getLsbD cap

def dropBounds : List Nat → Prog World ε Unit
  | [] => pure ()
  | cap :: rest => do
      let within ← (capWithinBound cap).expect "Failed to check capability bound"
      (if within then (capDropBound cap).expect "Failed to drop capability bound" else pure ())
      dropBounds rest

def setrlimits : List Inner.RLimitData → Prog World ε Unit
  | [] => pure ()
  | limit :: rest => do
      (setrlimit limit).expect "Failed to set rlimit"
      setrlimits rest

/-- `load`, `overwrite_some` and `store_overwrite`. -/
def overwriteSome (effective permitted inheritable : Option CapabilityFlags) :
    Prog World Errno Unit := do
  let world ← Prog.read
  capset (effective.getD world.task.effective) (permitted.getD world.task.permitted)
    (inheritable.getD world.task.inheritable)

/-- Everything that comes before the ids. A process spawned by `exec` replaces its groups even by
none. -/
def prepare (exec : Bool) (params : SpawnParamsCommon) : Prog World ε Unit := do
  hook .reInitializePrologue
  keepCapabilities
  Prog.forSome params.capPermitted fun cap =>
    (storeAdditive cap).expect "Failed to store additive capabilities"
  Prog.forSome params.capBound fun cap => dropBounds (complement cap)
  (if params.secondaryGroups.toList = [] ∧ exec = false then pure ()
    else (setgroups params.secondaryGroups.toList).expect "Failed to set groups")
  setrlimits params.rlimits.toList

/-- `as libc::gid_t` and `as libc::uid_t` keep the bit pattern. -/
def setIds (call : Id → Id → Id → Prog World Errno Unit) (reason : String) (id : Option Int32) :
    Prog World ε Unit :=
  Prog.forSome id fun id => (call id.toUInt32 id.toUInt32 id.toUInt32).expect reason

/-- Everything that comes after the ids. -/
def finish (params : SpawnParamsCommon) : Prog World ε Unit := do
  (overwriteSome params.capEffective params.capPermitted params.capInheritable).expect
    "Failed to store overwritten capabilities"
  hook .reInitializeEpilogue

/-- The user is changed last, since the filters need the capabilities that go with it. -/
def becomeUser (params : SpawnParamsCommon) : Prog World ε Unit := do
  hook .setSeccompFilters
  setIds setresuid "Failed to set UID" params.uid
  finish params

def reInitialize (exec : Bool) (params : SpawnParamsCommon) : Prog World ε Unit := do
  prepare exec params
  setIds setresgid "Failed to set GID" params.gid
  becomeUser params

end ChildProcess
section ids

/-- An id of its own: neither the superuser's nor the pattern that leaves an id unchanged. -/
def ProperId (id : Id) : Prop := 1 ≤ id.toNat ∧ id.toNat < 0x80000000

/-- The call sets proper ids, if it sets ids at all. -/
def Call.ProperIds : Call → Prop
  | .setresuid real effective saved | .setresgid real effective saved =>
      ProperId real ∧ ProperId effective ∧ ProperId saved
  | _ => True

theorem properId_toUInt32 (id : Int32) : ProperId id.toUInt32 ↔ 1 ≤ id := by
  have value : id.toInt = if 2 * id.toUInt32.toNat < 2 ^ 32 then (id.toUInt32.toNat : Int)
      else id.toUInt32.toNat - 2 ^ 32 := BitVec.toInt_eq_toNat_cond _
  have := id.toUInt32.toNat_lt
  rw [ProperId, Int32.le_iff_toInt_le, value]
  simp only [Int32.toInt_one]
  split <;> omega

/-- The calls of a re-initialization that set no id. -/
def Call.prepares : Call → Bool
  | .reInitializePrologue | .prctlSetSecurebits | .capset _ _ _ | .capWithinBound _
  | .capDropBound _ | .setgroups _ | .setrlimit _ | .setSeccompFilters | .reInitializeEpilogue => true
  | _ => false

/-- Those of them that come after the group id. -/
def Call.finishes : Call → Bool
  | .setSeccompFilters | .capset _ _ _ | .reInitializeEpilogue => true
  | _ => false

namespace ChildProcess
variable {ε : Type} {calls : Call → Prop} {deeds : Deed → Prop} {exec : Bool}
    {params : SpawnParamsCommon}
open Prog World

/-- A relation that holds across calls which change nothing but the credentials. -/
structure Sets (calls : Call → Prop) (R : World → World → Prop) : Prop where
  refl : ∀ w, R w w
  trans : ∀ {u v w}, R u v → R v w → R u w
  call : ∀ {call}, calls call → ∀ w task, R w { w.note call none with task }

theorem does_sets : Sets calls (Does calls deeds) :=
  ⟨.refl, .trans, fun h _ _ => .call h rfl rfl rfl rfl⟩

section sets
variable {R : World → World → Prop} (sets : Sets calls R)
include sets

theorem Sets.bind {ε α β : Type} {p : Prog World ε α} {f : α → Prog World ε β} (first : Within R p)
    (rest : ∀ a, Within R (f a)) : Within R (p >>= f) := Within.bind sets.trans first rest

theorem hook_within {call : Call} (h : calls call) : Within R (hook call : Prog World ε Unit) := by
  intro w
  unfold hook
  split <;> exact sets.call h w w.task

theorem onTask_within {call : Call} {act : Task → Option Task} (h : calls call) :
    Within R (onTask call act) := by
  intro w
  unfold onTask
  split
  · exact sets.call h w w.task
  · split
    · exact sets.call h w w.task
    · exact sets.call h w _

theorem plainCall_within {α : Type} {call : Call} {value : α} (h : calls call) :
    Within R (plainCall call value) := by
  intro w
  unfold plainCall attempt
  split <;> exact sets.call h w w.task

theorem keepCapabilities_within (h : calls .prctlSetSecurebits) :
    Within R (keepCapabilities : Prog World ε Unit) := by
  refine sets.bind (.result (onTask_within sets h)) fun r => ?_
  cases r with
  | ok _ => exact sets.refl
  | error errno =>
      by_cases denied : errno = eperm
      · simp only [if_pos denied]
        exact sets.refl
      · simp only [if_neg denied]
        exact sets.refl

theorem dropBounds_within (look : ∀ cap, calls (.capWithinBound cap))
    (drop : ∀ cap, calls (.capDropBound cap)) (caps : List Nat) :
    Within R (dropBounds caps : Prog World ε Unit) := by
  induction caps with
  | nil => exact sets.refl
  | cons cap rest ih =>
      refine sets.bind (.expect _ (.read fun w => plainCall_within sets (look cap) w)) fun within => ?_
      refine sets.bind ?_ fun _ => ih
      cases within with
      | false => exact sets.refl
      | true => exact .expect _ (onTask_within sets (drop cap))

theorem setrlimits_within (h : ∀ limit, calls (.setrlimit limit)) (limits : List Inner.RLimitData) :
    Within R (setrlimits limits : Prog World ε Unit) := by
  induction limits with
  | nil => exact sets.refl
  | cons limit rest ih =>
      exact sets.bind (.expect _ (plainCall_within sets (h limit))) fun _ => ih

theorem prepare_within (free : ∀ call : Call, call.prepares = true → calls call) :
    Within R (prepare exec params : Prog World ε Unit) := by
  refine sets.bind (hook_within sets (free _ rfl)) fun _ => ?_
  refine sets.bind (keepCapabilities_within sets (free _ rfl)) fun _ => ?_
  refine sets.bind (.forSome sets.refl fun cap _ =>
    .expect _ (.read fun w => onTask_within sets (free _ rfl) w)) fun _ => ?_
  refine sets.bind (.forSome sets.refl fun cap _ =>
    dropBounds_within sets (fun _ => free _ rfl) (fun _ => free _ rfl) _) fun _ => ?_
  refine sets.bind ?_ fun _ => setrlimits_within sets (fun _ => free _ rfl) _
  by_cases empty : params.secondaryGroups.toList = [] ∧ exec = false
  · rw [if_pos empty]
    exact sets.refl
  · rw [if_neg empty]
    exact .expect _ (onTask_within sets (free _ rfl))

theorem finish_within (free : ∀ call : Call, call.finishes = true → calls call) :
    Within R (finish params : Prog World ε Unit) :=
  sets.bind (.expect _ (.read fun w => onTask_within sets (free _ rfl) w)) fun _ =>
    hook_within sets (free _ rfl)

theorem becomeUser_within (free : ∀ call : Call, call.finishes = true → calls call)
    (uid : ∀ id, params.uid = some id → calls (.setresuid id.toUInt32 id.toUInt32 id.toUInt32)) :
    Within R (becomeUser params : Prog World ε Unit) := by
  refine sets.bind (hook_within sets (free _ rfl)) fun _ => ?_
  refine sets.bind (.forSome sets.refl fun id asked => .expect _ (onTask_within sets (uid id asked)))
    fun _ => ?_
  exact finish_within sets free

/-- Whatever holds across the calls of a re-initialization holds across the whole of it. -/
theorem reInitialize_within (free : ∀ call : Call, call.prepares = true → calls call)
    (gid : ∀ id, params.gid = some id → calls (.setresgid id.toUInt32 id.toUInt32 id.toUInt32))
    (uid : ∀ id, params.uid = some id → calls (.setresuid id.toUInt32 id.toUInt32 id.toUInt32)) :
    Within R (reInitialize exec params : Prog World ε Unit) := by
  refine sets.bind (prepare_within sets free) fun _ => ?_
  refine sets.bind (.forSome sets.refl fun id asked => .expect _ (onTask_within sets (gid id asked)))
    fun _ => ?_
  refine becomeUser_within sets (fun call finishes => free call ?_) uid
  cases call <;> first | exact finishes | rfl

end sets

/-- The child changes its credentials as it is asked to, or panics. -/
theorem reInitialize_unfailing {ε : Type} (exec : Bool) (params : SpawnParamsCommon) :
    Unfailing (reInitialize exec params : Prog World ε Unit) := by
  have hooks : ∀ call, Unfailing (hook call : Prog World ε Unit) := by
    intro call w
    unfold hook
    split <;> rfl
  have drops : ∀ caps, Unfailing (dropBounds caps : Prog World ε Unit) := by
    intro caps
    induction caps with
    | nil => exact .pure ()
    | cons cap rest ih =>
        refine .bind (.expect _ _) fun within => .bind ?_ fun _ => ih
        cases within with
        | false => exact .pure ()
        | true => exact .expect _ _
  have limits : ∀ limits, Unfailing (setrlimits limits : Prog World ε Unit) := by
    intro limits
    induction limits with
    | nil => exact .pure ()
    | cons limit rest ih => exact .bind (.expect _ _) fun _ => ih
  have ids : ∀ call reason id, Unfailing (setIds call reason id : Prog World ε Unit) :=
    fun call reason id => .forSome fun _ => .expect _ _
  refine .bind (.bind (hooks _) fun _ => .bind (.bind (.result _) fun r => ?_) fun _ =>
    .bind (.forSome fun _ => .expect _ _) fun _ => .bind (.forSome fun _ => drops _) fun _ =>
    .bind ?_ fun _ => limits _) fun _ => .bind (ids _ _ _) fun _ =>
    .bind (hooks _) fun _ => .bind (ids _ _ _) fun _ => .bind (.expect _ _) fun _ => hooks _
  · cases r with
    | ok _ => exact .pure ()
    | error errno =>
        by_cases denied : errno = eperm
        · simp only [if_pos denied]
          exact .pure ()
        · simp only [if_neg denied]
          exact .panic _
  · by_cases empty : params.secondaryGroups.toList = [] ∧ exec = false
    · rw [if_pos empty]
      exact .pure ()
    · rw [if_neg empty]
      exact .expect _ _

/-- Nothing fails, and every capability is there. -/
structure Ready (w : World) : Prop where
  env : w.env = .calm
  effective : w.task.effective = BitVec.allOnes 64
  permitted : w.task.permitted = BitVec.allOnes 64

theorem Ready.capable {w : World} (h : Ready w) {cap : Nat} (known : cap < 64) :
    w.task.capable cap = true := by
  simp only [Task.capable, h.effective, BitVec.getLsbD_allOnes, known, decide_true]

theorem onTask_completes {call : Call} {act : Task → Option Task} {pre post : World → Prop}
    (h : ∀ w, pre w → w.env = .calm ∧
      ∃ task, act w.task = some task ∧ post { w.note call none with task }) :
    Triple False pre (onTask call act) (fun _ => post) fun _ _ => False := by
  intro w hw
  obtain ⟨calm, task, made, holds⟩ := h w hw
  have fault : w.env.fault w.clock call = none := by rw [calm]; rfl
  simp only [onTask, fault, made]
  exact holds

theorem plainCall_completes {α : Type} {call : Call} {value : α} {pre : World → Prop}
    (h : ∀ w, pre w → w.env = .calm ∧ pre (w.note call none)) :
    Triple False pre (plainCall call value) (fun _ => pre) fun _ _ => False := by
  intro w hw
  obtain ⟨calm, holds⟩ := h w hw
  have fault : w.env.fault w.clock call = none := by rw [calm]; rfl
  simp only [plainCall, attempt, fault]
  exact holds

theorem hook_completes {call : Call} {pre : World → Prop}
    (h : ∀ w, pre w → w.env = .calm ∧ pre (w.note call none)) :
    Triple False pre (hook call : Prog World ε Unit) (fun _ => pre) fun _ _ => False := by
  intro w hw
  obtain ⟨calm, holds⟩ := h w hw
  have silent : w.env.hookPanics w.clock call = none := by rw [calm]; rfl
  simp only [hook, silent]
  exact holds

theorem Ready.note {w : World} (h : Ready w) (call : Call) : Ready (w.note call none) :=
  ⟨h.env, h.effective, h.permitted⟩

theorem dropBounds_completes (caps : List Nat) :
    Triple False Ready (dropBounds caps : Prog World ε Unit) (fun _ => Ready) fun _ _ => False := by
  induction caps with
  | nil => exact fun w hw => hw
  | cons cap rest ih =>
      refine .bind (fun _ => Ready) (.expect (.read fun w hw => ?_)) fun within => ?_
      · exact (plainCall_completes fun w hw => ⟨hw.env, hw.note _⟩).conseq
          (fun _ same => same ▸ hw) (fun _ _ => id) fun _ _ => id
      · refine .bind (fun _ => Ready) ?_ fun _ => ih
        cases within with
        | false => exact fun w hw => hw
        | true =>
            exact .expect (onTask_completes fun w hw => ⟨hw.env, _,
              if_pos (hw.capable (by decide)), hw.env, hw.effective, hw.permitted⟩)

theorem setrlimits_completes (limits : List Inner.RLimitData) :
    Triple False Ready (setrlimits limits : Prog World ε Unit) (fun _ => Ready) fun _ _ => False := by
  induction limits with
  | nil => exact fun w hw => hw
  | cons limit rest ih =>
      exact .bind (fun _ => Ready)
        (.expect (plainCall_completes fun w hw => ⟨hw.env, hw.note _⟩)) fun _ => ih

/-- With every capability in the bounding set too, the ids are reached. -/
theorem prepare_completes (exec : Bool) (params : SpawnParamsCommon) :
    Triple False (fun w => Ready w ∧ w.task.bounding = BitVec.allOnes 64)
      (prepare exec params : Prog World ε Unit) (fun _ => Ready) fun _ _ => False := by
  refine .bind _ (hook_completes fun w hw => ⟨hw.1.env, hw.1.note _, hw.2⟩) fun _ => ?_
  refine .bind (fun _ w => Ready w ∧ w.task.bounding = BitVec.allOnes 64) ?_ fun _ => ?_
  · refine .bind (fun r w => match r with
      | .ok _ => Ready w ∧ w.task.bounding = BitVec.allOnes 64
      | .error _ => False) (.result (onTask_completes fun w hw => ⟨hw.1.env, _,
        if_pos (hw.1.capable (by decide)), ⟨hw.1.env, hw.1.effective, hw.1.permitted⟩, hw.2⟩))
      fun r => ?_
    cases r with
    | ok _ => exact fun w hw => hw
    | error errno => exact fun w hw => hw.elim
  refine .bind (fun _ w => Ready w ∧ w.task.bounding = BitVec.allOnes 64)
    (.forSome (fun _ => id) fun cap => .expect (.read fun w hw => ?_)) fun _ => ?_
  · refine onTask_completes fun v same => ?_
    subst same
    refine ⟨hw.1.env, _, if_pos ⟨?_, ?_, ?_, ?_⟩, ⟨hw.1.env, hw.1.effective, hw.1.permitted⟩, hw.2⟩
    · rw [hw.1.effective, hw.1.permitted, BitVec.and_self]
    · rw [BitVec.and_self]
    · rw [hw.2, BitVec.or_allOnes, BitVec.and_allOnes]
    · exact Or.inl (hw.1.capable (by decide))
  refine .bind (fun _ => Ready) (.forSome (fun _ => And.left) fun bound => ?_) fun _ => ?_
  · exact (dropBounds_completes _).conseq (fun _ => And.left) (fun _ _ => id) fun _ _ => id
  refine .bind (fun _ => Ready) ?_ fun _ => setrlimits_completes _
  by_cases empty : params.secondaryGroups.toList = [] ∧ exec = false
  · rw [if_pos empty]
    exact fun w hw => hw
  · rw [if_neg empty]
    exact .expect (onTask_completes fun w hw => ⟨hw.env, _,
      if_pos (hw.capable (by decide)), hw.env, hw.effective, hw.permitted⟩)

theorem setresgid_completes (gid : Option Int32) :
    Triple False Ready (setIds setresgid "Failed to set GID" gid : Prog World ε Unit)
      (fun _ => Ready) fun _ _ => False := by
  refine .forSome (fun _ => id) fun id => .expect (onTask_completes fun w hw => ⟨hw.env, ?_⟩)
  simp only [Task.setresgid, hw.capable (by decide : capSetgid < 64), Ids.setres_privileged,
    Option.map_some]
  exact ⟨_, rfl, hw.env, hw.effective, hw.permitted⟩

/-- Setting ids is on the record as soon as it is tried. -/
theorem setIds_recorded {made : Id → Id → Id → Call}
    {act : Id → Id → Id → Task → Option Task} {reason : String} {ids : Option Int32} {id : Int32}
    (asked : ids = some id) (w : World) :
    ∃ event ∈ (setIds (fun r e s => onTask (made r e s) (act r e s)) reason ids w :
        Outcome ε Unit × World).2.log,
      event.call = made id.toUInt32 id.toUInt32 id.toUInt32 := by
  subst asked
  let call := made id.toUInt32 id.toUInt32 id.toUInt32
  refine ⟨⟨w.pid, call, call.target.bind w.fds.fileOf, w.fds.next, none⟩, ?_, rfl⟩
  show _ ∈ (Prog.expect reason (onTask _ _) w : Outcome ε Unit × World).2.log
  rw [Prog.expect_snd, onTask_log]
  exact List.mem_cons_self

/-- The ids a child asks the kernel for are proper, whatever the kernel answers, exactly when
the present ids of its parameters are positive. -/
theorem reInitialize_properIds_iff : Within (Calls Call.ProperIds)
    (reInitialize exec params : Prog World ε Unit) ↔
      (∀ id, params.gid = some id → 1 ≤ id) ∧ ∀ id, params.uid = some id → 1 ≤ id := by
  have proper : ∀ id : Int32, 1 ≤ id →
      ProperId id.toUInt32 ∧ ProperId id.toUInt32 ∧ ProperId id.toUInt32 := by
    intro id positive
    have := (properId_toUInt32 id).mpr positive
    exact ⟨this, this, this⟩
  constructor
  · intro h
    have start : Ready (.boot .calm []) := ⟨rfl, rfl, rfl⟩
    have all : ∀ event ∈ (reInitialize exec params (.boot .calm []) : Outcome ε Unit × World).2.log,
        event.call.ProperIds := by
      obtain ⟨newer, split, all⟩ := h (.boot .calm [])
      rw [split]
      exact List.forall_mem_append.mpr ⟨all, List.forall_mem_nil _⟩
    obtain ⟨⟨⟩, v, prepared, ready⟩ := (@prepare_completes ε exec params).completes ⟨start, rfl⟩
    unfold reInitialize at all
    rw [bind_of_ok prepared] at all
    refine ⟨fun id asked => ?_, fun id asked => ?_⟩
    · obtain ⟨event, recorded, call⟩ := @setIds_recorded ε .setresgid
        (fun r e s task => task.setresgid r e s) "Failed to set GID" _ _ asked v
      have proper := all event (Calls.after (fun _ w => (@becomeUser_within ε (fun _ => True) params _
        (@does_sets (fun _ => True) fun _ => True) (fun _ _ => trivial) (fun _ _ => trivial) w).toCalls)
        recorded)
      rw [call] at proper
      exact (properId_toUInt32 id).mp proper.1
    · obtain ⟨⟨⟩, u, became, ready⟩ := (@setresgid_completes ε params.gid).completes ready
      rw [bind_of_ok became] at all
      obtain ⟨⟨⟩, x, filtered, ready⟩ := (@hook_completes ε .setSeccompFilters Ready
        fun w hw => ⟨hw.env, hw.note _⟩).completes ready
      unfold becomeUser at all
      rw [bind_of_ok filtered] at all
      obtain ⟨event, recorded, call⟩ := @setIds_recorded ε .setresuid
        (fun r e s task => task.setresuid r e s) "Failed to set UID" _ _ asked x
      have proper := all event (Calls.after (fun _ w => (@finish_within ε (fun _ => True) params _
        (@does_sets (fun _ => True) fun _ => True) (fun _ _ => trivial) w).toCalls) recorded)
      rw [call] at proper
      exact (properId_toUInt32 id).mp proper.1
  · rintro ⟨gid, uid⟩
    have made : Within (Does Call.ProperIds fun _ => True)
      (reInitialize exec params : Prog World ε Unit) := by
      refine reInitialize_within does_sets (fun call free => ?_)
        (fun id asked => proper id (gid id asked))
        fun id asked => proper id (uid id asked)
      cases call <;> trivial
    exact fun w => (made w).toCalls

end ChildProcess

/-- An id is merged from a decoded message, which has checked its own, and the configuration,
which has not. -/
theorem merged_positive_iff {asked configured merged : Option Int32}
    (checked : ∀ id, asked = some id → 1 ≤ id) (or : merged = asked.or configured) :
    (∀ id, merged = some id → 1 ≤ id) ↔
      asked.isSome ∨ ∀ id, configured = some id → 1 ≤ id := by
  subst or
  cases asked with
  | none => simp
  | some id => simpa using checked id rfl

/-- Each id is in the message, or the configured one is positive or absent. -/
def IdsCovered (params : SpawnParamsCommon) (config : Config.Server) : Prop :=
  (params.gid.isSome ∨ ∀ id, config.gid = some id → 1 ≤ id) ∧
    (params.uid.isSome ∨ ∀ id, config.uid = some id → 1 ≤ id)

/-- A child of a decoded message asks for proper ids only, whatever the kernel answers, exactly
when both ids are covered. -/
theorem requestedIds_proper_iff {exec : Bool} {root : Bytes → Option Inner.Parcel} {buffer : Bytes}
    {message : Message} {config : Config.Server} {params defaults merged : SpawnParamsCommon}
    (decoded : Message.tryFromParcel root buffer = .ok message)
    (carried : message.getSpawnParams = some params)
    (configured : config.toSpawnParams = .ok defaults) (or : params.or defaults = .ok merged) :
    Prog.Within (World.Calls Call.ProperIds)
        (ChildProcess.reInitialize exec merged : Prog World Errno Unit) ↔ IdsCovered params config := by
  have range := Message.tryFromParcel_inRange decoded params carried
  obtain ⟨uid, gid⟩ := Config.Server.toSpawnParams_ids configured
  have fields := SpawnParamsCommon.or_eq_ok or
  rw [ChildProcess.reInitialize_properIds_iff, IdsCovered, ← uid, ← gid]
  refine and_congr (merged_positive_iff range.gid ?_) (merged_positive_iff range.uid ?_)
  · rw [fields]
  · rw [fields]

/-- A configuration as the parser accepts it, with the ids as given. -/
def Config.Server.turtle (uid gid : Option Int32) : Config.Server where
  name := "zygote"
  species := .turtle
  socket := "@zygote"
  preloadUid := none
  preloadGid := none
  selinuxFlags := none
  uid
  gid
  processName := none
  priorityInitial := none
  priorityFinal := none
  secondaryGroups := []

/-- The user is the message's, the group is the configuration's. -/
theorem requestedIds_proper_native : Prog.Within (World.Calls Call.ProperIds)
      (ChildProcess.reInitialize false { nativeParams with gid := some 10000 } : Prog World Errno Unit) ↔
    IdsCovered nativeParams (.turtle none (some 10000)) :=
  @requestedIds_proper_iff false rootNative nativeSpawnData nativeSpawn
    (.turtle none (some 10000)) nativeParams
    { SpawnParamsCommon.unset with gid := some 10000 } _ decoded_native rfl rfl rfl

theorem requestedIds_improper : ¬∀ (exec : Bool) (root : Bytes → Option Inner.Parcel) (buffer : Bytes)
    (message : Message) (config : Config.Server) (params defaults merged : SpawnParamsCommon),
    Message.tryFromParcel root buffer = .ok message → message.getSpawnParams = some params →
    config.toSpawnParams = .ok defaults → params.or defaults = .ok merged →
    Prog.Within (World.Calls Call.ProperIds)
      (ChildProcess.reInitialize exec merged : Prog World Errno Unit) := by
  intro claim
  have proper := claim false rootUnset unsetSpawnData unsetSpawn.filled (.turtle (some 0) none)
    SpawnParamsCommon.unset.filled { SpawnParamsCommon.unset with uid := some 0 }
    { SpawnParamsCommon.unset.filled with uid := some 0 } decoded_unset rfl rfl rfl
  exact absurd ((ChildProcess.reInitialize_properIds_iff.mp proper).2 0 rfl) (by decide)

end ids

end Zygote
