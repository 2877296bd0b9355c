import Mathlib.Data.List.Basic
import Mathlib.Tactic.Common
import Zygote.Ascending

/-!
# Descriptor tables

A process refers to open files through small numbers. The numbers of a table map
to file identities; several numbers may share one identity, and an identity is
never reused. New files take the lowest free number below the limit.
-/
namespace Descriptors
open Ascending

/-- What a descriptor number holds: the file it refers to and its own flag. -/
structure Slot where
  file : Nat
  cloexec : Bool
  deriving DecidableEq, Repr

structure Table (F : Type) where
  slot : Int → Option Slot
  limit : Nat
  file : Nat → F
  next : Nat
  bounded : ∀ n s, slot n = some s → 0 ≤ n ∧ n < limit
  fresh : ∀ n s, slot n = some s → s.file < next

namespace Table
variable {F : Type} (t : Table F)

def isOpen (n : Int) : Bool := (t.slot n).isSome

/-- The identity a number refers to. -/
def fileOf (n : Int) : Option Nat := (t.slot n).map Slot.file

/-- The contents of the file a number refers to. -/
def contents (n : Int) : Option F := (t.slot n).map fun s => t.file s.file

def range (limit : Nat) : List Int := (List.range limit).map Int.ofNat

/-- The open numbers, in ascending order. -/
def numbers : List Int := (range t.limit).filter t.isOpen

def lowestFree : Option Int := (range t.limit).find? fun n => !t.isOpen n

/-- Point a number within the limit at an identity the table already knows. -/
def point (n : Int) (s : Slot) (hn : 0 ≤ n ∧ n < t.limit) (hs : s.file < t.next) : Table F where
  slot m := if m = n then some s else t.slot m
  limit := t.limit
  file := t.file
  next := t.next
  bounded := by
    intro m r h
    split at h
    · next eq => exact eq ▸ hn
    · exact t.bounded m r h
  fresh := by
    intro m r h
    split at h
    · cases h; exact hs
    · exact t.fresh m r h

/-- Make a file without giving it a number yet. -/
def create (f : F) : Table F where
  slot := t.slot
  limit := t.limit
  file i := if i = t.next then f else t.file i
  next := t.next + 1
  bounded := t.bounded
  fresh n s h := Nat.lt_succ_of_lt (t.fresh n s h)

/-- The table with nothing open. -/
def empty (limit : Nat) (f : F) : Table F where
  slot _ := none
  limit := limit
  file _ := f
  next := 0
  bounded _ _ h := nomatch h
  fresh _ _ h := nomatch h

/-- A new file at a given number, replacing what was there. -/
def put (n : Int) (f : F) (cloexec : Bool) : Table F :=
  if hn : 0 ≤ n ∧ n < t.limit then
    (t.create f).point n ⟨t.next, cloexec⟩ hn (Nat.lt_succ_self _)
  else t

theorem mem_range {limit : Nat} {n : Int} : n ∈ range limit ↔ 0 ≤ n ∧ n < limit := by
  constructor
  · intro h
    obtain ⟨k, hk, rfl⟩ := List.mem_map.mp h
    have := List.mem_range.mp hk
    simp only [Int.ofNat_eq_natCast]
    omega
  · rintro ⟨nonneg, lt⟩
    exact List.mem_map.mpr ⟨n.toNat, List.mem_range.mpr (by omega), by
      simp only [Int.ofNat_eq_natCast]; omega⟩

theorem lowestFree_spec {n : Int} (h : t.lowestFree = some n) :
    (0 ≤ n ∧ n < t.limit) ∧ t.slot n = none := by
  refine ⟨mem_range.mp (List.mem_of_find?_eq_some h), ?_⟩
  have := List.find?_some h
  simpa [isOpen] using this

/-- A new file at the lowest free number. -/
def alloc (f : F) (cloexec : Bool) : Option (Int × Table F) :=
  match h : t.lowestFree with
  | none => none
  | some n =>
      some (n, (t.create f).point n ⟨t.next, cloexec⟩ (t.lowestFree_spec h).1 (Nat.lt_succ_self _))

def close (n : Int) : Table F where
  slot m := if m = n then none else t.slot m
  limit := t.limit
  file := t.file
  next := t.next
  bounded m r h := by
    split at h
    · cases h
    · exact t.bounded m r h
  fresh m r h := by
    split at h
    · cases h
    · exact t.fresh m r h

/-- Make `new` refer to the file of `old`, with its own flag. -/
def dup (old new : Int) (cloexec : Bool) : Option (Table F) :=
  match h : t.slot old with
  | none => none
  | some s =>
      if hn : 0 ≤ new ∧ new < t.limit then
        some (t.point new ⟨s.file, cloexec⟩ hn (t.fresh old s h))
      else none

def setCloexec (n : Int) (flag : Bool) : Table F where
  slot m := if m = n then (t.slot m).map fun s => { s with cloexec := flag } else t.slot m
  limit := t.limit
  file := t.file
  next := t.next
  bounded m r h := by
    split at h
    · obtain ⟨s, hs, -⟩ := Option.map_eq_some_iff.mp h
      exact t.bounded m s hs
    · exact t.bounded m r h
  fresh m r h := by
    split at h
    · obtain ⟨s, hs, rfl⟩ := Option.map_eq_some_iff.mp h
      exact t.fresh m s hs
    · exact t.fresh m r h

/-- Change the contents behind a number; every number sharing the file sees it. -/
def update (n : Int) (f : F → F) : Table F where
  slot := t.slot
  limit := t.limit
  file i := if t.fileOf n = some i then f (t.file i) else t.file i
  next := t.next
  bounded := t.bounded
  fresh := t.fresh

variable {t}

theorem mem_numbers {n : Int} : n ∈ t.numbers ↔ t.isOpen n = true := by
  rw [numbers, List.mem_filter, mem_range]
  refine ⟨And.right, fun h => ⟨?_, h⟩⟩
  obtain ⟨s, hs⟩ := Option.isSome_iff_exists.mp h
  exact t.bounded n s hs

theorem numbers_ascends : Ascends id t.numbers := by
  refine Ascends.filter ?_ _
  refine List.pairwise_map.mpr (List.pairwise_lt_range.imp ?_)
  intro a b lt
  simpa using lt

/-- A table with room has a lowest free number, and no smaller number is free. -/
theorem lowestFree_isSome_iff : t.lowestFree.isSome = true ↔
    ∃ n : Int, (0 ≤ n ∧ n < t.limit) ∧ t.slot n = none := by
  rw [lowestFree, List.find?_isSome]
  simp [mem_range, isOpen]

theorem isOpen_of_slot {n : Int} {s : Slot} (h : t.slot n = some s) : t.isOpen n = true := by
  simp [isOpen, h]

theorem fileOf_eq_some {n : Int} {i : Nat} :
    t.fileOf n = some i ↔ ∃ s, t.slot n = some s ∧ s.file = i := Option.map_eq_some_iff

theorem fileOf_lt {n : Int} {i : Nat} (h : t.fileOf n = some i) : i < t.next := by
  obtain ⟨s, hs, rfl⟩ := fileOf_eq_some.mp h
  exact t.fresh n s hs

theorem isOpen_iff_fileOf {n : Int} : t.isOpen n = true ↔ ∃ i, t.fileOf n = some i := by
  unfold isOpen fileOf
  cases t.slot n <;> simp

theorem alloc_eq_some {f : F} {c : Bool} {n : Int} {u : Table F} (h : t.alloc f c = some (n, u)) :
    t.lowestFree = some n ∧ t.slot n = none ∧ u.next = t.next + 1 ∧ u.limit = t.limit ∧
      (∀ m, u.slot m = if m = n then some ⟨t.next, c⟩ else t.slot m) ∧
      (∀ i, u.file i = if i = t.next then f else t.file i) := by
  unfold alloc at h
  split at h
  · cases h
  · next k hk =>
    cases h
    exact ⟨hk, (t.lowestFree_spec hk).2, rfl, rfl, fun _ => rfl, fun _ => rfl⟩

theorem alloc_isSome {f : F} {c : Bool} : (t.alloc f c).isSome = t.lowestFree.isSome := by
  unfold alloc
  split <;> simp_all

theorem exists_dup {old new : Int} {c : Bool} (opened : t.isOpen old = true)
    (inside : 0 ≤ new ∧ new < t.limit) : ∃ u, t.dup old new c = some u := by
  unfold dup
  split
  · next closed => simp [isOpen, closed] at opened
  · exact ⟨_, dif_pos inside⟩

theorem inside_of_isOpen {n : Int} (opened : t.isOpen n = true) : 0 ≤ n ∧ n < t.limit := by
  obtain ⟨s, hs⟩ := Option.isSome_iff_exists.mp opened
  exact t.bounded n s hs

theorem dup_eq_some {old new : Int} {c : Bool} {u : Table F} (h : t.dup old new c = some u) :
    ∃ s, t.slot old = some s ∧ (0 ≤ new ∧ new < t.limit) ∧ u.next = t.next ∧ u.limit = t.limit ∧
      u.file = t.file ∧ ∀ m, u.slot m = if m = new then some ⟨s.file, c⟩ else t.slot m := by
  unfold dup at h
  split at h
  · cases h
  · next s hs =>
    split at h
    · next hn => cases h; exact ⟨s, hs, hn, rfl, rfl, rfl, fun _ => rfl⟩
    · cases h

/-- `u` still has what `t` has: the same slots but for the touched numbers, and the
same contents in every file that existed. -/
structure Frame (t u : Table F) (touched : Int → Prop) : Prop where
  limit : u.limit = t.limit
  next : t.next ≤ u.next
  slot : ∀ n, ¬touched n → u.slot n = t.slot n
  file : ∀ i, i < t.next → u.file i = t.file i

theorem Frame.refl (t : Table F) (touched : Int → Prop) : t.Frame t touched :=
  ⟨rfl, le_refl _, fun _ _ => rfl, fun _ _ => rfl⟩

theorem Frame.trans {u v : Table F} {touched : Int → Prop} (h : t.Frame u touched)
    (k : u.Frame v touched) : t.Frame v touched where
  limit := k.limit.trans h.limit
  next := h.next.trans k.next
  slot n hn := (k.slot n hn).trans (h.slot n hn)
  file i hi := (k.file i (hi.trans_le h.next)).trans (h.file i hi)

theorem Frame.mono {u : Table F} {touched more : Int → Prop} (h : t.Frame u touched)
    (sub : ∀ n, touched n → more n) : t.Frame u more :=
  ⟨h.limit, h.next, fun n hn => h.slot n fun m => hn (sub n m), h.file⟩

/-- The files of the slots that stay have the contents they had. -/
theorem Frame.contents {u : Table F} {touched : Int → Prop} (h : t.Frame u touched) {n : Int}
    (hn : ¬touched n) : u.contents n = t.contents n := by
  unfold Table.contents
  rw [h.slot n hn]
  cases hs : t.slot n with
  | none => rfl
  | some s => simp [h.file s.file (t.fresh n s hs)]

@[simp] theorem close_slot (n m : Int) :
    (t.close n).slot m = if m = n then none else t.slot m := rfl
@[simp] theorem close_limit (n : Int) : (t.close n).limit = t.limit := rfl
@[simp] theorem close_file (n : Int) : (t.close n).file = t.file := rfl
@[simp] theorem close_next (n : Int) : (t.close n).next = t.next := rfl
@[simp] theorem setCloexec_slot (n m : Int) (b : Bool) : (t.setCloexec n b).slot m =
    if m = n then (t.slot m).map fun s => { s with cloexec := b } else t.slot m := rfl
@[simp] theorem setCloexec_limit (n : Int) (b : Bool) : (t.setCloexec n b).limit = t.limit := rfl
@[simp] theorem setCloexec_file (n : Int) (b : Bool) : (t.setCloexec n b).file = t.file := rfl
@[simp] theorem setCloexec_next (n : Int) (b : Bool) : (t.setCloexec n b).next = t.next := rfl
@[simp] theorem update_slot (n : Int) (f : F → F) : (t.update n f).slot = t.slot := rfl
theorem update_file (n : Int) (f : F → F) (i : Nat) :
    (t.update n f).file i = if t.fileOf n = some i then f (t.file i) else t.file i := rfl
theorem update_contents (n : Int) (f : F → F) : (t.update n f).contents n = (t.contents n).map f := by
  cases slot : t.slot n with
  | none => simp [contents, slot]
  | some s => simp [contents, slot, update_file, fileOf]
@[simp] theorem update_limit (n : Int) (f : F → F) : (t.update n f).limit = t.limit := rfl
@[simp] theorem update_next (n : Int) (f : F → F) : (t.update n f).next = t.next := rfl

end Table
end Descriptors
