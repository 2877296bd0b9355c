import Zygote.ChildProcess
import Zygote.Messages.Merge

/-!
# Whose limits win

A merge puts the limits of the message in front of the defaults, and the child sets them
one after the other. The last entry for a resource is the one that stays.
-/
namespace Zygote
open Effect

def lastLimit (resource : UInt32) (limits : List Inner.RLimitData) : Option Inner.RLimitData :=
  limits.reverse.find? fun limit => limit.resource = resource

theorem lastLimit_append (resource : UInt32) (l m : List Inner.RLimitData) :
    lastLimit resource (l ++ m) = (lastLimit resource m).or (lastLimit resource l) := by
  rw [lastLimit, List.reverse_append, List.find?_append]
  rfl

def Call.limit : Call → Option Inner.RLimitData
  | .setrlimit limit => some limit
  | _ => none

namespace World

/-- The limit of a resource as it was last set, in a record without a failed call. -/
def limit (w : World) (resource : UInt32) : Option Inner.RLimitData :=
  (w.log.filterMap fun event => event.call.limit).find? fun limit => limit.resource = resource

def SameLimits (w w' : World) : Prop := ∀ resource, w'.limit resource = w.limit resource

end World

namespace ChildProcess
variable {ε : Type} {exec : Bool} {params p q merged : SpawnParamsCommon} {w v : World}

theorem sameLimits_sets : Sets (fun call => call.limit = none) World.SameLimits where
  refl _ _ := rfl
  trans h k resource := (k resource).trans (h resource)
  call := by
    intro call silent w task resource
    simp only [World.limit, World.note, List.filterMap_cons, silent]

theorem setrlimits_limit {limits : List Inner.RLimitData}
    (run : (setrlimits limits w : Outcome ε Unit × World) = (.ok (), v)) (resource : UInt32) :
    v.limit resource = (lastLimit resource limits).or (w.limit resource) := by
  induction limits generalizing w with
  | nil => cases run; rfl
  | cons limit rest ih =>
      obtain ⟨_, u, first, later⟩ := Prog.bind_eq_ok.mp run
      have set : u = w.note (.setrlimit limit) none := by
        have called := Prog.expect_eq_ok.mp first
        unfold setrlimit plainCall at called
        obtain ⟨-, made, tables, act, state⟩ := attempt_ok_iff.mp called
        cases act
        exact state
      have here : u.limit resource =
          (if limit.resource = resource then some limit else none).or (w.limit resource) := by
        subst set
        simp only [World.limit, World.note, List.filterMap_cons, Call.limit, List.find?_cons]
        by_cases same : limit.resource = resource <;> simp [same]
      rw [ih later, here, ← List.singleton_append, lastLimit_append, Option.or_assoc]
      congr 1
      by_cases same : limit.resource = resource <;> simp [lastLimit, same]

theorem prepare_limit (run : (prepare exec params w : Outcome ε Unit × World) = (.ok (), v))
    {resource : UInt32} {limit : Inner.RLimitData}
    (listed : lastLimit resource params.rlimits.toList = some limit) :
    v.limit resource = some limit := by
  obtain ⟨_, w₁, -, run⟩ := Prog.bind_eq_ok.mp run
  obtain ⟨_, w₂, -, run⟩ := Prog.bind_eq_ok.mp run
  obtain ⟨_, w₃, -, run⟩ := Prog.bind_eq_ok.mp run
  obtain ⟨_, w₄, -, run⟩ := Prog.bind_eq_ok.mp run
  obtain ⟨_, w₅, -, run⟩ := Prog.bind_eq_ok.mp run
  rw [setrlimits_limit run, listed, Option.some_or]

/-- Once the limits are set, the rest of the re-initialization leaves them. -/
theorem reInitialize_limit (run : (prepare exec params w : Outcome ε Unit × World) = (.ok (), v))
    (resource : UInt32) :
    (reInitialize exec params w : Outcome ε Unit × World).2.limit resource = v.limit resource := by
  have rest : Prog.Within World.SameLimits (do
      setIds setresgid "Failed to set GID" params.gid
      becomeUser params : Prog World ε Unit) := by
    refine sameLimits_sets.bind
      (.forSome sameLimits_sets.refl fun id _ => .expect _ (onTask_within sameLimits_sets rfl))
      fun _ => becomeUser_within sameLimits_sets (fun call finishes => ?_) fun _ _ => rfl
    cases call <;> first | rfl | cases finishes
  have state : reInitialize exec params w = (do
      setIds setresgid "Failed to set GID" params.gid
      becomeUser params : Prog World ε Unit) v := Prog.bind_of_ok run _
  rw [state]
  exact rest v resource

/-- The limits of the message take precedence over the defaults, as far as the child has set
all of them, exactly when the two agree on every resource that both list. -/
theorem limits_precede_iff (or : p.or q = .ok merged)
    (applied : (prepare exec merged w : Outcome ε Unit × World) = (.ok (), v)) :
    (∀ resource limit,
        lastLimit resource p.rlimits.toList = some limit ∨
            lastLimit resource p.rlimits.toList = none ∧
              lastLimit resource q.rlimits.toList = some limit →
          (reInitialize exec merged w : Outcome ε Unit × World).2.limit resource = some limit) ↔
      ∀ resource limit other, lastLimit resource p.rlimits.toList = some limit →
        lastLimit resource q.rlimits.toList = some other → other = limit := by
  have whole : ∀ resource limit,
      (lastLimit resource q.rlimits.toList).or (lastLimit resource p.rlimits.toList) = some limit →
      (reInitialize exec merged w : Outcome ε Unit × World).2.limit resource = some limit := by
    intro resource limit listed
    rw [reInitialize_limit applied]
    refine prepare_limit applied ?_
    rw [(SpawnParamsCommon.or_lists or).2, lastLimit_append, listed]
  constructor
  · intro precede resource limit other own default
    have last := whole resource other (by rw [default, Option.some_or])
    rw [precede resource limit (Or.inl own)] at last
    exact (Option.some.inj last).symm
  · rintro agree resource limit (own | ⟨none, default⟩)
    · refine whole resource limit ?_
      cases default : lastLimit resource q.rlimits.toList with
      | none => rw [Option.none_or, own]
      | some other => rw [agree resource limit other own default, Option.some_or]
    · exact whole resource limit (by rw [default, Option.some_or])

def limited (rlimits : ArrayVec Inner.RLimitData rlimitVectorSize) : SpawnParamsCommon :=
  { SpawnParamsCommon.unset with rlimits }

def openFiles : Inner.RLimitData := ⟨7, 2048, 1024⟩
def manyFiles : Inner.RLimitData := ⟨7, 65536, 65536⟩
def cpuTime : Inner.RLimitData := ⟨0, 120, 60⟩

theorem limits_precede_apart :
    (∀ resource limit,
        lastLimit resource [openFiles] = some limit ∨
            lastLimit resource [openFiles] = none ∧ lastLimit resource [cpuTime] = some limit →
          (reInitialize false (limited ⟨[openFiles, cpuTime], by decide⟩) (.boot .calm []) :
            Outcome Errno Unit × World).2.limit resource = some limit) ↔
      ∀ resource limit other, lastLimit resource [openFiles] = some limit →
        lastLimit resource [cpuTime] = some other → other = limit :=
  @limits_precede_iff Errno false (limited ⟨[openFiles], by decide⟩)
    (limited ⟨[cpuTime], by decide⟩) _ _ _
    rfl rfl

/-- The default for the same resource is set after that of the message, and stays. -/
theorem limits_overridden : ¬∀ (exec : Bool) (p q merged : SpawnParamsCommon) (w v : World),
    p.or q = .ok merged → (prepare exec merged w : Outcome Errno Unit × World) = (.ok (), v) →
    ∀ resource limit,
      lastLimit resource p.rlimits.toList = some limit ∨
          lastLimit resource p.rlimits.toList = none ∧
            lastLimit resource q.rlimits.toList = some limit →
        (reInitialize exec merged w : Outcome Errno Unit × World).2.limit resource = some limit := by
  intro claim
  have kept := claim false (limited ⟨[openFiles], by decide⟩) (limited ⟨[manyFiles], by decide⟩)
    (limited ⟨[openFiles, manyFiles], by decide⟩) (.boot .calm []) _ rfl rfl 7 openFiles (Or.inl rfl)
  revert kept
  decide

end ChildProcess
end Zygote
