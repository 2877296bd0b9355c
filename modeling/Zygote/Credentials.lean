import Mathlib.Tactic.Common

/-!
# Credentials of a process

The ids, the capability sets and how the calls that set them treat each other: a
privileged call needs its capability in the effective set, and the capability sets follow
the user ids across zero.
-/
namespace Credentials

abbrev Id := UInt32
abbrev CapSet := BitVec 64

/-- The bit pattern of `-1`, which tells a call to leave an id as it is. -/
def unchanged : Id := 0xFFFFFFFF

def capSetgid : Nat := 6
def capSetuid : Nat := 7
def capSetpcap : Nat := 8

/-- The real, effective and saved id. -/
structure Ids where
  real : Id
  effective : Id
  saved : Id
  deriving DecidableEq, Repr

namespace Ids

def has (ids : Ids) (id : Id) : Bool :=
  id == ids.real || id == ids.effective || id == ids.saved

/-- An argument of a call: the id it names, or the one it leaves. -/
def pick (id old : Id) : Id := if id = unchanged then old else id

/-- `setre[ug]id`: the real id may become the real or effective one, the effective id any of
the three. The saved id follows whenever the real id is set or the effective id is set to
something other than the real one. -/
def setre (privileged : Bool) (ids : Ids) (real effective : Id) : Option Ids :=
  if (privileged || real == unchanged || real == ids.real || real == ids.effective) &&
      (privileged || effective == unchanged || ids.has effective) then
    some {
      real := pick real ids.real
      effective := pick effective ids.effective
      saved :=
        if real ≠ unchanged ∨ effective ≠ unchanged ∧ effective ≠ ids.real then
          pick effective ids.effective
        else ids.saved }
  else none

/-- `setres[ug]id`: each id may become any of the three. -/
def setres (privileged : Bool) (ids : Ids) (real effective saved : Id) : Option Ids :=
  if [real, effective, saved].all fun id => privileged || id == unchanged || ids.has id then
    some ⟨pick real ids.real, pick effective ids.effective, pick saved ids.saved⟩
  else none

theorem setres_privileged (ids : Ids) (real effective saved : Id) :
    ids.setres true real effective saved =
      some ⟨pick real ids.real, pick effective ids.effective, pick saved ids.saved⟩ := by
  simp [setres]

end Ids

/-- The credentials of a process, and what it keeps when its user ids leave zero. -/
structure Task where
  uid : Ids
  gid : Ids
  groups : List Id
  effective : CapSet
  permitted : CapSet
  inheritable : CapSet
  bounding : CapSet
  keepCaps : Bool
  deriving DecidableEq, Repr

namespace Task

def capable (t : Task) (cap : Nat) : Bool := t.effective.getLsbD cap

/-- New user ids, with the capability sets that follow from them: all are lost when the last
zero goes, unless they are kept; the effective ones are lost when the effective id leaves
zero and regained when it comes back. -/
def withUid (t : Task) (uid : Ids) : Task :=
  let lost := t.uid.has 0 && !uid.has 0 && !t.keepCaps
  let permitted := if lost then 0 else t.permitted
  let effective := if lost then 0 else t.effective
  { t with
    uid, permitted
    effective :=
      if t.uid.effective = 0 ∧ uid.effective ≠ 0 then 0
      else if t.uid.effective ≠ 0 ∧ uid.effective = 0 then permitted
      else effective }

def setreuid (t : Task) (real effective : Id) : Option Task :=
  (t.uid.setre (t.capable capSetuid) real effective).map t.withUid

def setregid (t : Task) (real effective : Id) : Option Task :=
  (t.gid.setre (t.capable capSetgid) real effective).map fun gid => { t with gid }

def setresuid (t : Task) (real effective saved : Id) : Option Task :=
  (t.uid.setres (t.capable capSetuid) real effective saved).map t.withUid

def setresgid (t : Task) (real effective saved : Id) : Option Task :=
  (t.gid.setres (t.capable capSetgid) real effective saved).map fun gid => { t with gid }

def setgroups (t : Task) (groups : List Id) : Option Task :=
  if t.capable capSetgid then some { t with groups } else none

def setKeepCaps (t : Task) : Option Task :=
  if t.capable capSetpcap then some { t with keepCaps := true } else none

def dropBound (t : Task) (cap : Nat) : Option Task :=
  if t.capable capSetpcap then
    some { t with bounding := t.bounding &&& ~~~BitVec.twoPow 64 cap }
  else none

/-- `capset`: permitted capabilities can only be given up, effective ones are permitted, and
inheritable ones come from the bounding set and, without privilege, from the permitted ones. -/
def capset (t : Task) (effective permitted inheritable : CapSet) : Option Task :=
  if effective &&& permitted = effective ∧ permitted &&& t.permitted = permitted ∧
      inheritable &&& (t.inheritable ||| t.bounding) = inheritable ∧
      (t.capable capSetpcap ∨ inheritable &&& (t.inheritable ||| t.permitted) = inheritable) then
    some { t with effective, permitted, inheritable }
  else none

/-- A process of the superuser with every capability. -/
def root : Task where
  uid := ⟨0, 0, 0⟩
  gid := ⟨0, 0, 0⟩
  groups := []
  effective := BitVec.allOnes 64
  permitted := BitVec.allOnes 64
  inheritable := 0
  bounding := BitVec.allOnes 64
  keepCaps := false

end Task

/-- The privilege over ids follows the effective user id, and can come back with it as long
as one of the user ids is zero. The real ids are ids. -/
structure Task.FollowsUid (t : Task) : Prop where
  setuid : t.capable capSetuid = (t.uid.effective == 0)
  setgid : t.capable capSetgid = (t.uid.effective == 0)
  kept : t.uid.has 0 = true → t.permitted.getLsbD capSetuid = true ∧
    t.permitted.getLsbD capSetgid = true
  realUid : t.uid.real ≠ unchanged
  realGid : t.gid.real ≠ unchanged

theorem Task.root_followsUid : Task.root.FollowsUid := by
  constructor <;> decide

/-- A call that only asks for another effective id is granted to the superuser, and to
everyone for an id the process has. -/
def Grants (acting : Id) (ids : Ids) (id : Id) : Prop :=
  acting = 0 ∨ id = unchanged ∨ ids.has id = true

instance (acting : Id) (ids : Ids) (id : Id) : Decidable (Grants acting ids id) :=
  inferInstanceAs (Decidable (_ ∨ _ ∨ _))

namespace Ids
variable {ids new : Ids} {privileged : Bool} {id : Id}

theorem has_effective (ids : Ids) : ids.has ids.effective = true := by simp [has]

/-- What `setre` makes of the ids when the real one is left alone. -/
theorem setre_ok (h : ids.setre privileged unchanged id = some new) :
    (privileged = true ∨ id = unchanged ∨ ids.has id = true) ∧ new.real = ids.real ∧
      new.effective = pick id ids.effective ∧ (new.saved = ids.saved ∨ new.saved = new.effective) := by
  unfold setre at h
  split at h
  · next granted =>
    cases h
    refine ⟨?_, by simp [pick], rfl, ?_⟩
    · simpa [or_assoc] using granted
    · split
      · exact Or.inr rfl
      · exact Or.inl rfl
  · cases h

theorem setre_none (h : ids.setre privileged unchanged id = none) :
    ¬(privileged = true ∨ id = unchanged ∨ ids.has id = true) := by
  unfold setre at h
  split at h
  · cases h
  · next refused => simpa [or_assoc] using refused

/-- No id becomes zero that was not, unless the call was privileged. -/
theorem setre_has_zero (h : ids.setre privileged unchanged id = some new)
    (acting : privileged = true → ids.effective = 0) (zero : new.has 0 = true) :
    ids.has 0 = true := by
  obtain ⟨granted, real, effective, saved⟩ := setre_ok h
  have of_effective : new.effective = 0 → ids.has 0 = true := by
    intro isZero
    rw [effective, pick] at isZero
    split at isZero
    · rw [← isZero]; exact ids.has_effective
    · subst isZero
      rcases granted with superuser | same | had
      · rw [← acting superuser]; exact ids.has_effective
      · exact absurd same (by decide)
      · exact had
  simp only [has, Bool.or_eq_true, beq_iff_eq] at zero
  rcases zero with (isZero | isZero) | isZero
  · simp [has, ← real, ← isZero]
  · exact of_effective isZero.symm
  · rcases saved with same | same
    · simp [has, ← same, ← isZero]
    · exact of_effective (same.symm.trans isZero.symm)

end Ids

namespace Task
variable {t u : Task} {new : Ids} {id : Id}

/-- The capability sets keep up with a change of the user ids. -/
theorem FollowsUid.withUid (h : t.FollowsUid) (real : new.real = t.uid.real)
    (zero : new.has 0 = true → t.uid.has 0 = true) : (t.withUid new).FollowsUid := by
  have kept : new.has 0 = true → (t.withUid new).permitted = t.permitted := by
    intro has
    simp [Task.withUid, has]
  have capable : ∀ cap, t.capable cap = (t.uid.effective == 0) →
      (t.uid.has 0 = true → t.permitted.getLsbD cap = true) →
      (t.withUid new).capable cap = (new.effective == 0) := by
    intro cap before permitted
    by_cases now : new.effective = 0
    · have has : new.has 0 = true := by rw [← now]; exact new.has_effective
      by_cases old : t.uid.effective = 0
      · simpa [Task.withUid, Task.capable, now, old, has] using before
      · simpa [Task.withUid, Task.capable, now, old, has] using permitted (zero has)
    · by_cases old : t.uid.effective = 0
      · simp [Task.withUid, Task.capable, now, old]
      · have none : t.effective.getLsbD cap = false := before.trans (beq_eq_false_iff_ne.mpr old)
        simp only [Task.withUid, Task.capable, now, old, false_and, and_false, if_false]
        split <;> simp [none, now]
  refine ⟨capable _ h.setuid fun has => (h.kept has).1, capable _ h.setgid fun has => (h.kept has).2,
    fun has => ?_, ?_, h.realGid⟩
  · rw [kept has]
    exact h.kept (zero has)
  · exact fun invalid => h.realUid (real.symm.trans invalid)

theorem FollowsUid.setreuid (h : t.FollowsUid) (run : t.setreuid unchanged id = some u) :
    Grants t.uid.effective t.uid id ∧ u.FollowsUid ∧ u.uid.real = t.uid.real ∧
      u.uid.effective = Ids.pick id t.uid.effective ∧ u.gid = t.gid := by
  obtain ⟨new, made, rfl⟩ := Option.map_eq_some_iff.mp run
  rw [h.setuid] at made
  obtain ⟨granted, real, effective, -⟩ := Ids.setre_ok made
  rw [beq_iff_eq] at granted
  exact ⟨granted, h.withUid real (Ids.setre_has_zero made beq_iff_eq.mp), real, effective, rfl⟩

theorem FollowsUid.setreuid_none (h : t.FollowsUid) (run : t.setreuid unchanged id = none) :
    ¬Grants t.uid.effective t.uid id := by
  have refused := Ids.setre_none (Option.map_eq_none_iff.mp run)
  rwa [h.setuid, beq_iff_eq] at refused

theorem FollowsUid.setregid (h : t.FollowsUid) (run : t.setregid unchanged id = some u) :
    Grants t.uid.effective t.gid id ∧ u.FollowsUid ∧ u.gid.real = t.gid.real ∧
      u.gid.effective = Ids.pick id t.gid.effective ∧ u.uid = t.uid := by
  obtain ⟨new, made, rfl⟩ := Option.map_eq_some_iff.mp run
  rw [h.setgid] at made
  obtain ⟨granted, real, effective, -⟩ := Ids.setre_ok made
  rw [beq_iff_eq] at granted
  exact ⟨granted, ⟨h.setuid, h.setgid, h.kept, h.realUid, real ▸ h.realGid⟩, real, effective, rfl⟩

theorem FollowsUid.setregid_none (h : t.FollowsUid) (run : t.setregid unchanged id = none) :
    ¬Grants t.uid.effective t.gid id := by
  have refused := Ids.setre_none (Option.map_eq_none_iff.mp run)
  rwa [h.setgid, beq_iff_eq] at refused

end Task
end Credentials
