import Mathlib.Data.List.Basic
import Mathlib.Tactic.Common

/-!
# Vectors of fixed capacity

A list that carries the proof that it fits. `push` and `insert` have no result when
the vector is full; what that means (a panic, an error) is the caller's to say.
-/
structure ArrayVec (α : Type) (capacity : Nat) where
  toList : List α
  fits : toList.length ≤ capacity
  deriving DecidableEq

variable {α : Type} {capacity : Nat}

namespace ArrayVec

@[ext] theorem ext {u v : ArrayVec α capacity} (h : u.toList = v.toList) : u = v := by
  cases u
  cases v
  cases h
  rfl

def empty : ArrayVec α capacity := ⟨[], Nat.zero_le _⟩

def length (v : ArrayVec α capacity) : Nat := v.toList.length

/-- Insert before index `i`; nothing when the vector is full or `i` is past its end. -/
def insert (v : ArrayVec α capacity) (i : Nat) (a : α) : Option (ArrayVec α capacity) :=
  if h : v.toList.length < capacity ∧ i ≤ v.toList.length then
    some ⟨v.toList.insertIdx i a, by rw [List.length_insertIdx_of_le_length h.2]; exact h.1⟩
  else none

def push (v : ArrayVec α capacity) (a : α) : Option (ArrayVec α capacity) :=
  if h : v.toList.length < capacity then some ⟨v.toList ++ [a], by rw [List.length_append]; exact h⟩
  else none

def set (v : ArrayVec α capacity) (i : Nat) (a : α) : ArrayVec α capacity :=
  ⟨v.toList.set i a, by rw [List.length_set]; exact v.fits⟩

def removeAt (v : ArrayVec α capacity) (i : Nat) : ArrayVec α capacity :=
  ⟨v.toList.eraseIdx i, Nat.le_trans (List.length_eraseIdx_le _ _) v.fits⟩

/-- Collect a list, when it fits. -/
def collect (l : List α) : Option (ArrayVec α capacity) :=
  if h : l.length ≤ capacity then some ⟨l, h⟩ else none

theorem push_eq_some {v u : ArrayVec α capacity} {a : α} :
    v.push a = some u ↔ v.toList.length < capacity ∧ u.toList = v.toList ++ [a] := by
  unfold push
  constructor
  · intro h
    split at h
    · next room => cases h; exact ⟨room, rfl⟩
    · cases h
  · rintro ⟨room, same⟩
    rw [dif_pos room]
    exact congrArg some (ext same.symm)

theorem exists_push {v : ArrayVec α capacity} (a : α) (room : v.length < capacity) :
    ∃ u, v.push a = some u ∧ u.length = v.length + 1 := by
  refine ⟨⟨v.toList ++ [a], by rw [List.length_append]; exact room⟩, push_eq_some.mpr ⟨room, rfl⟩, ?_⟩
  rw [length, List.length_append]
  rfl

theorem insert_eq_some {v u : ArrayVec α capacity} {i : Nat} {a : α} :
    v.insert i a = some u ↔
      (v.toList.length < capacity ∧ i ≤ v.toList.length) ∧ u.toList = v.toList.insertIdx i a := by
  unfold insert
  constructor
  · intro h
    split at h
    · next room => cases h; exact ⟨room, rfl⟩
    · cases h
  · rintro ⟨room, same⟩
    rw [dif_pos room]
    exact congrArg some (ext same.symm)

@[simp] theorem empty_toList : (empty : ArrayVec α capacity).toList = [] := rfl
@[simp] theorem set_toList (v : ArrayVec α capacity) (i : Nat) (a : α) :
    (v.set i a).toList = v.toList.set i a := rfl
@[simp] theorem removeAt_toList (v : ArrayVec α capacity) (i : Nat) :
    (v.removeAt i).toList = v.toList.eraseIdx i := rfl

theorem collect_eq_some {l : List α} {v : ArrayVec α capacity} :
    collect l = some v ↔ v.toList = l := by
  unfold collect
  constructor
  · intro h
    split at h
    · cases h; rfl
    · cases h
  · rintro rfl
    rw [dif_pos v.fits]

theorem collect_eq_none {l : List α} :
    (collect l : Option (ArrayVec α capacity)) = none ↔ capacity < l.length := by
  unfold collect
  split <;> simp <;> omega

end ArrayVec
