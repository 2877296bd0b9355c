import Mathlib.Data.List.Dedup
import Zygote.Messages.RoundTrip

/-!
# Merging two sets of parameters

The lists of a merge are made from those of both sides and collected into vectors of the
same capacity as either. They are what they should be whenever they fit.
-/
namespace Zygote
open Effect

/-- A list of the elements of another, each once and in order of first occurrence. -/
structure Firsts {α : Type} [DecidableEq α] (l firsts : List α) : Prop where
  nodup : firsts.Nodup
  mem : ∀ a, a ∈ firsts ↔ a ∈ l
  order : firsts.Pairwise fun a b => l.idxOf a < l.idxOf b

namespace SpawnParamsCommon
section unique
variable {α : Type} [DecidableEq α]

theorem mem_unique {l : List α} {a : α} : a ∈ unique l ↔ a ∈ l := by
  induction l with
  | nil => rfl
  | cons b rest ih =>
      by_cases same : a = b
      · simp [unique, same]
      · simp [unique, same, ih]

theorem unique_firsts (l : List α) : Firsts l (unique l) := by
  refine ⟨?_, fun _ => mem_unique, ?_⟩
  · induction l with
    | nil => exact List.nodup_nil
    | cons a rest ih =>
        refine List.nodup_cons.mpr ⟨?_, ih.filter _⟩
        simp
  · induction l with
    | nil => exact List.Pairwise.nil
    | cons a rest ih =>
        refine List.pairwise_cons.mpr ⟨fun b mem => ?_, ?_⟩
        · have other : b ≠ a := by simpa using (List.mem_filter.mp mem).2
          rw [List.idxOf_cons_self, List.idxOf_cons_ne _ (Ne.symm other)]
          exact Nat.succ_pos _
        · -- the elements that are kept differ from the first and move up by one
          refine (ih.filter _).imp_of_mem fun {b c} memB memC before => ?_
          have otherB : b ≠ a := by simpa using (List.mem_filter.mp memB).2
          have otherC : c ≠ a := by simpa using (List.mem_filter.mp memC).2
          rw [List.idxOf_cons_ne _ (Ne.symm otherB), List.idxOf_cons_ne _ (Ne.symm otherC)]
          exact Nat.succ_lt_succ before

theorem length_unique (l : List α) : (unique l).length = l.dedup.length := by
  have perm : (unique l).Perm l.dedup := by
    refine (List.perm_ext_iff_of_nodup (unique_firsts l).nodup l.nodup_dedup).mpr fun a => ?_
    rw [mem_unique, List.mem_dedup]
  exact perm.length_eq

end unique

section or
variable {α : Type} {p q : SpawnParamsCommon}

theorem collectArrayVec_eq_ok {capacity : Nat} {l : List α} {v : ArrayVec α capacity} :
    (collectArrayVec l : Outcome MessageError (ArrayVec α capacity)) = .ok v ↔ v.toList = l := by
  rw [← ArrayVec.collect_eq_some]
  unfold collectArrayVec
  cases h : (ArrayVec.collect l : Option (ArrayVec α capacity)) with
  | none => simp
  | some u => simp

theorem exists_collectArrayVec {capacity : Nat} {l : List α} (fits : l.length ≤ capacity) :
    ∃ v : ArrayVec α capacity, collectArrayVec l = .ok v ∧ v.toList = l :=
  ⟨⟨l, fits⟩, collectArrayVec_eq_ok.mpr rfl, rfl⟩

/-- A merge that returns has both lists as they are combined. -/
theorem or_lists {r : SpawnParamsCommon} (merged : p.or q = .ok r) :
    r.secondaryGroups.toList = unique (p.secondaryGroups.toList ++ q.secondaryGroups.toList) ∧
      r.rlimits.toList = p.rlimits.toList ++ q.rlimits.toList := by
  obtain ⟨secondaryGroups, groups, rest⟩ := Outcome.bind_eq_ok.mp merged
  obtain ⟨rlimits, limits, built⟩ := Outcome.bind_eq_ok.mp rest
  cases built
  exact ⟨collectArrayVec_eq_ok.mp groups, collectArrayVec_eq_ok.mp limits⟩

/-- The different groups of both sides, and all their limits, have room in one. -/
def Fits (p q : SpawnParamsCommon) : Prop :=
  (p.secondaryGroups.toList ++ q.secondaryGroups.toList).dedup.length ≤ gidVectorSize ∧
    p.rlimits.length + q.rlimits.length ≤ rlimitVectorSize

theorem exists_or_iff : (∃ r, p.or q = .ok r) ↔ p.Fits q := by
  constructor
  · rintro ⟨r, merged⟩
    obtain ⟨groups, limits⟩ := or_lists merged
    refine ⟨?_, ?_⟩
    · rw [← length_unique, ← groups]
      exact r.secondaryGroups.fits
    · have fits := r.rlimits.fits
      rwa [limits, List.length_append] at fits
  · rintro ⟨groups, limits⟩
    rw [← length_unique] at groups
    obtain ⟨secondaryGroups, collected, -⟩ := exists_collectArrayVec groups
    rw [ArrayVec.length, ArrayVec.length, ← List.length_append] at limits
    obtain ⟨rlimits, collected', -⟩ := exists_collectArrayVec limits
    exact ⟨_, Outcome.bind_eq_ok.mpr ⟨secondaryGroups, collected,
      Outcome.bind_eq_ok.mpr ⟨rlimits, collected', rfl⟩⟩⟩

/-- A merge returns, with every group of either side once and in order of first occurrence,
exactly when the lists fit. -/
theorem or_groups_iff : (∃ r, p.or q = .ok r ∧
      Firsts (p.secondaryGroups.toList ++ q.secondaryGroups.toList) r.secondaryGroups.toList) ↔
    p.Fits q := by
  rw [← exists_or_iff]
  constructor
  · rintro ⟨r, merged, -⟩
    exact ⟨r, merged⟩
  · rintro ⟨r, merged⟩
    refine ⟨r, merged, ?_⟩
    rw [(or_lists merged).1]
    exact unique_firsts _

/-- The groups from a number on, as many as one set of parameters can hold. -/
def manyGroups (first : UInt32) : SpawnParamsCommon :=
  { unset with
    secondaryGroups := ⟨(List.range gidVectorSize).map fun i => first + UInt32.ofNat i, by simp⟩ }

theorem or_panics : ¬∀ p q : SpawnParamsCommon, ∃ r, p.or q = .ok r ∧
    Firsts (p.secondaryGroups.toList ++ q.secondaryGroups.toList) r.secondaryGroups.toList := by
  intro claim
  obtain ⟨r, merged, -⟩ := claim (manyGroups 1000) (manyGroups 2000)
  have stops : ((manyGroups 1000).or (manyGroups 2000)).isOk = false := by decide
  rw [merged] at stops
  cases stops

end or
end SpawnParamsCommon
end Zygote
