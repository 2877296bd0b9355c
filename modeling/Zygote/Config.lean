import Zygote.Species

/-!
# The configuration of a server

What the argument parser makes of the command line. It checks the ranges of the priorities
and of the ids libraries are preloaded with, and takes every other number as it is.
-/
namespace Zygote.Config
open Effect

/-- The configuration a server is built from. `socket` is what the method of that name
returns. -/
structure Server where
  name : String
  species : Species
  socket : String
  preloadUid : Option UInt32
  preloadGid : Option UInt32
  selinuxFlags : Option UInt64
  uid : Option Int32
  gid : Option Int32
  processName : Option String
  priorityInitial : Option Int32
  priorityFinal : Option Int32
  secondaryGroups : List UInt32

/-- Generate spawn parameters from a server configuration. -/
def Server.toSpawnParams (config : Server) : Outcome MessageError SpawnParamsCommon := do
  let secondaryGroups ← collectArrayVec config.secondaryGroups
  .ok {
    selinuxFlags := config.selinuxFlags
    noNewPrivs := none
    uid := config.uid
    gid := config.gid
    processName := config.processName
    priorityInitial := config.priorityInitial
    priorityFinal := config.priorityFinal
    capEffective := none
    capPermitted := none
    capInheritable := none
    capBound := none
    seInfo := none
    secondaryGroups
    rlimits := .empty }

theorem Server.toSpawnParams_ids {config : Server} {params : SpawnParamsCommon}
    (h : config.toSpawnParams = .ok params) : params.uid = config.uid ∧ params.gid = config.gid := by
  obtain ⟨secondaryGroups, -, built⟩ := Outcome.bind_eq_ok.mp h
  cases built
  exact ⟨rfl, rfl⟩

end Zygote.Config
