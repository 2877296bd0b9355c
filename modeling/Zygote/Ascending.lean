import Mathlib.Order.Basic
import Mathlib.Data.List.Basic
import Mathlib.Data.List.Sort
import Mathlib.Tactic.Common

/-!
# Keyed lists in strictly ascending order

A table kept as a list that ascends strictly by a key has at most one element
for each key. The search below is the branchless bisection of a slice's
`binary_search_by`: it always narrows to one element, whatever the list holds,
so what it answers on a list that is out of order is defined too.
-/
namespace Ascending
variable {α κ : Type} [LinearOrder κ]

/-- The keys ascend strictly, so no two elements share one. -/
def Ascends (key : α → κ) (l : List α) : Prop :=
  l.Pairwise fun a b => key a < key b

instance (key : α → κ) (l : List α) : Decidable (Ascends key l) :=
  inferInstanceAs (Decidable (l.Pairwise fun a b => key a < key b))

/-- The keys never descend (`is_sorted_by_key`). -/
def Sorted (key : α → κ) (l : List α) : Prop :=
  l.Pairwise fun a b => key a ≤ key b

instance (key : α → κ) (l : List α) : Decidable (Sorted key l) :=
  inferInstanceAs (Decidable (l.Pairwise fun a b => key a ≤ key b))

/-- Narrow the window `[base, base + size)` to its last element not above the target. -/
def narrow (key : α → κ) (target : κ) (l : List α) : Nat → Nat → Nat → Nat
  | 0, base, _ => base
  | fuel + 1, base, size =>
      if size ≤ 1 then base
      else match l[base + size / 2]? with
        | none => base
        | some a =>
            narrow key target l fuel (if target < key a then base else base + size / 2)
              (size - size / 2)

/-- The index of the target, or the index at which it would be inserted. -/
def binarySearch (key : α → κ) (target : κ) (l : List α) : Except Nat Nat :=
  match l[narrow key target l l.length 0 l.length]? with
  | none => .error 0
  | some a =>
      if key a = target then .ok (narrow key target l l.length 0 l.length)
      else if key a < target then .error (narrow key target l l.length 0 l.length + 1)
      else .error (narrow key target l l.length 0 l.length)

section order
variable {key : α → κ} {l : List α}

theorem Ascends.sorted (h : Ascends key l) : Sorted key l := h.imp le_of_lt

theorem ascends_nil : Ascends key ([] : List α) := List.Pairwise.nil

theorem ascends_cons {a : α} :
    Ascends key (a :: l) ↔ (∀ b ∈ l, key a < key b) ∧ Ascends key l := List.pairwise_cons

theorem ascends_append {r : List α} :
    Ascends key (l ++ r) ↔ Ascends key l ∧ Ascends key r ∧ ∀ a ∈ l, ∀ b ∈ r, key a < key b :=
  List.pairwise_append

theorem Ascends.sublist {r : List α} (h : Ascends key l) (sub : r.Sublist l) : Ascends key r :=
  List.Pairwise.sublist sub h

theorem Ascends.filter (h : Ascends key l) (p : α → Bool) : Ascends key (l.filter p) :=
  h.sublist List.filter_sublist

/-- Order depends on the keys alone. -/
theorem Ascends.congr {r : List α} (h : Ascends key l) (same : r.map key = l.map key) :
    Ascends key r := by
  have keys : (l.map key).Pairwise (· < ·) := List.pairwise_map.mpr h
  rw [← same] at keys
  exact List.pairwise_map.mp keys

theorem Ascends.eq_of_key_eq (h : Ascends key l) {a b : α} (ha : a ∈ l) (hb : b ∈ l)
    (same : key a = key b) : a = b := by
  induction l with
  | nil => cases ha
  | cons c rest ih =>
      obtain ⟨above, tail⟩ := ascends_cons.mp h
      rcases List.mem_cons.mp ha with rfl | ha' <;> rcases List.mem_cons.mp hb with rfl | hb'
      · rfl
      · exact absurd same (above b hb').ne
      · exact absurd same.symm (above a ha').ne
      · exact ih tail ha' hb'

theorem Ascends.nodup_keys (h : Ascends key l) : (l.map key).Nodup :=
  List.pairwise_map.mpr (h.imp fun lt => lt.ne)

theorem Ascends.getElem_lt (h : Ascends key l) {i j : Nat} {a b : α} (hij : i < j)
    (ha : l[i]? = some a) (hb : l[j]? = some b) : key a < key b := by
  obtain ⟨hi, rfl⟩ := List.getElem?_eq_some_iff.mp ha
  obtain ⟨hj, rfl⟩ := List.getElem?_eq_some_iff.mp hb
  exact List.pairwise_iff_getElem.mp h i j hi hj hij

/-- Two ascending lists with the same members are the same list. -/
theorem Ascends.eq_of_mem_iff {r : List α} (hl : Ascends key l) (hr : Ascends key r)
    (same : ∀ a, a ∈ l ↔ a ∈ r) : l = r := by
  have irrefl : ∀ {t : List α}, Ascends key t → t.Nodup :=
    fun h => h.imp (fun lt eq => absurd (congrArg key eq) lt.ne)
  have perm : l.Perm r := (List.perm_ext_iff_of_nodup (irrefl hl) (irrefl hr)).mpr same
  refine perm.eq_of_pairwise (fun a b _ _ ab ba => ?_) hl hr
  exact absurd ab (lt_asymm ba)

theorem Ascends.length_le_one (h : Ascends key l) {c : α} (same : ∀ a ∈ l, a = c) :
    l.length ≤ 1 := by
  match l with
  | [] => exact Nat.zero_le 1
  | [_] => exact le_refl 1
  | a :: b :: rest =>
      have lt := (ascends_cons.mp h).1 b List.mem_cons_self
      rw [same a List.mem_cons_self, same b (List.mem_cons_of_mem _ List.mem_cons_self)] at lt
      exact absurd rfl lt.ne

end order

section search
variable {key : α → κ} {l : List α} {target : κ}

/-- What the bisection maintains about its window on an ascending list. -/
structure Window (key : α → κ) (target : κ) (l : List α) (base size : Nat) : Prop where
  positive : 0 < size
  inside : base + size ≤ l.length
  notBelow : base = 0 ∨ ∀ a, l[base]? = some a → key a ≤ target
  above : ∀ j, base + size ≤ j → ∀ a, l[j]? = some a → target < key a

theorem narrow_window (target : κ) (sorted : Ascends key l) (fuel base size : Nat)
    (w : Window key target l base size) (enough : size ≤ fuel + 1) :
    Window key target l (narrow key target l fuel base size) 1 := by
  induction fuel generalizing base size with
  | zero =>
      have one : size = 1 := by have := w.positive; omega
      exact one ▸ w
  | succ fuel ih =>
      unfold narrow
      split
      · have one : size = 1 := by have := w.positive; omega
        exact one ▸ w
      · next big =>
        have hmid : base + size / 2 < l.length := by have := w.inside; omega
        rw [List.getElem?_eq_getElem hmid]
        by_cases lt : target < key l[base + size / 2]
        · simp only [if_pos lt]
          refine ih _ _ ⟨by omega, by have := w.inside; omega, w.notBelow, ?_⟩ (by omega)
          intro j hj a ha
          rcases Nat.eq_or_lt_of_le (show base + size / 2 ≤ j by omega) with rfl | far
          · rw [List.getElem?_eq_getElem hmid] at ha
            cases ha
            exact lt
          · exact lt.trans (sorted.getElem_lt far (List.getElem?_eq_getElem hmid) ha)
        · simp only [if_neg lt]
          refine ih _ _ ⟨by omega, by have := w.inside; omega, Or.inr ?_, ?_⟩ (by omega)
          · intro a ha
            rw [List.getElem?_eq_getElem hmid] at ha
            cases ha
            exact not_lt.mp lt
          · intro j hj
            exact w.above j (by omega)

/-- A hit is a hit in any list: the element found carries the key. -/
theorem binarySearch_ok {i : Nat} (h : binarySearch key target l = .ok i) :
    ∃ a, l[i]? = some a ∧ key a = target := by
  unfold binarySearch at h
  split at h
  · cases h
  · next a found =>
    split at h
    · next same => cases h; exact ⟨a, found, same⟩
    · split at h <;> cases h

/-- A miss names an index at which an element can be inserted. -/
theorem binarySearch_error_le {i : Nat} (h : binarySearch key target l = .error i) :
    i ≤ l.length := by
  unfold binarySearch at h
  split at h
  · cases h; exact Nat.zero_le _
  · next a found =>
    have inside := (List.getElem?_eq_some_iff.mp found).1
    split at h
    · cases h
    · split at h <;> cases h <;> omega

/-- On an ascending list a miss splits it: smaller keys before, larger ones from there on. -/
theorem binarySearch_error (sorted : Ascends key l) {i : Nat}
    (h : binarySearch key target l = .error i) :
    (∀ a ∈ l.take i, key a < target) ∧ ∀ a ∈ l.drop i, target < key a := by
  cases hl : l with
  | nil => simp
  | cons head rest =>
      rw [← hl]
      have positive : 0 < l.length := by rw [hl]; exact Nat.succ_pos _
      have w := narrow_window target sorted l.length 0 l.length
        ⟨positive, by omega, Or.inl rfl, fun j hj a ha => by
          have := (List.getElem?_eq_some_iff.mp ha).1; omega⟩ (by omega)
      unfold binarySearch at h
      generalize narrow key target l l.length 0 l.length = b at h w
      have hb : b < l.length := by have := w.inside; omega
      rw [List.getElem?_eq_getElem hb] at h
      have fromDrop : ∀ k, (∀ j, k ≤ j → ∀ a, l[j]? = some a → target < key a) →
          ∀ a ∈ l.drop k, target < key a := by
        intro k above a ha
        obtain ⟨j, hj, rfl⟩ := List.mem_iff_getElem.mp ha
        have := List.getElem?_eq_getElem hj
        rw [List.getElem?_drop] at this
        exact above (k + j) (by omega) _ this
      by_cases same : key l[b] = target
      · simp [same] at h
      · by_cases below : key l[b] < target
        · simp only [if_neg same, if_pos below, Except.error.injEq] at h
          subst h
          refine ⟨fun a ha => ?_, fromDrop _ w.above⟩
          obtain ⟨j, hj, rfl⟩ := List.mem_iff_getElem.mp ha
          simp only [List.length_take] at hj
          rw [List.getElem_take]
          rcases Nat.eq_or_lt_of_le (show j ≤ b by omega) with rfl | lt
          · exact below
          · exact (sorted.getElem_lt lt (List.getElem?_eq_getElem _)
              (List.getElem?_eq_getElem hb)).trans below
        · simp only [if_neg same, if_neg below, Except.error.injEq] at h
          subst h
          have higher : target < key l[b] := lt_of_le_of_ne (not_lt.mp below) (Ne.symm same)
          have zero : b = 0 := by
            rcases w.notBelow with zero | le
            · exact zero
            · exact absurd higher (not_lt.mpr (le _ (List.getElem?_eq_getElem hb)))
          refine ⟨by simp [zero], fromDrop _ ?_⟩
          intro j hj a ha
          rcases Nat.eq_or_lt_of_le hj with rfl | lt
          · rw [List.getElem?_eq_getElem hb] at ha
            cases ha
            exact higher
          · exact w.above j (by omega) a ha

/-- The search finds an element exactly when one exists. -/
theorem binarySearch_error_not_mem (sorted : Ascends key l) {i : Nat}
    (h : binarySearch key target l = .error i) : ∀ a ∈ l, key a ≠ target := by
  obtain ⟨before, after⟩ := binarySearch_error sorted h
  intro a ha
  rw [← List.take_append_drop i l] at ha
  rcases List.mem_append.mp ha with left | right
  · exact (before a left).ne
  · exact (after a right).ne'

theorem exists_binarySearch_ok_iff (sorted : Ascends key l) :
    (∃ i, binarySearch key target l = .ok i) ↔ ∃ a ∈ l, key a = target := by
  constructor
  · rintro ⟨i, h⟩
    obtain ⟨a, found, same⟩ := binarySearch_ok h
    exact ⟨a, List.mem_of_getElem? found, same⟩
  · rintro ⟨a, ha, same⟩
    cases h : binarySearch key target l with
    | ok i => exact ⟨i, rfl⟩
    | error i => exact absurd same (binarySearch_error_not_mem sorted h a ha)

end search

section update
variable {key : α → κ} {l : List α} {a : α} {i : Nat}

omit [LinearOrder κ] in
theorem insertIdx_split (h : i ≤ l.length) : l.insertIdx i a = l.take i ++ a :: l.drop i := by
  induction l generalizing i with
  | nil =>
      have zero : i = 0 := Nat.le_zero.mp h
      subst zero
      rfl
  | cons b rest ih =>
      cases i with
      | zero => rfl
      | succ i => simp [List.insertIdx_succ_cons, ih (Nat.le_of_succ_le_succ h)]

/-- Inserting where the search missed keeps the order. -/
theorem Ascends.insert (sorted : Ascends key l)
    (h : binarySearch key (key a) l = .error i) : Ascends key (l.insertIdx i a) := by
  obtain ⟨before, after⟩ := binarySearch_error sorted h
  rw [insertIdx_split (binarySearch_error_le h)]
  refine ascends_append.mpr ⟨sorted.sublist (List.take_sublist _ _), ?_, ?_⟩
  · exact ascends_cons.mpr ⟨after, sorted.sublist (List.drop_sublist _ _)⟩
  · intro b hb c hc
    rcases List.mem_cons.mp hc with rfl | hc'
    · exact before b hb
    · exact (before b hb).trans (after c hc')

omit [LinearOrder κ] in
theorem map_set_of_key_eq {b : α} (found : l[i]? = some b) (same : key a = key b) :
    (l.set i a).map key = l.map key := by
  obtain ⟨hi, rfl⟩ := List.getElem?_eq_some_iff.mp found
  rw [List.map_set, same, ← List.getElem_map key (h := by simpa using hi), List.set_getElem_self]

/-- Replacing an element by one of the same key keeps the order. -/
theorem Ascends.set {b : α} (sorted : Ascends key l) (found : l[i]? = some b)
    (same : key a = key b) : Ascends key (l.set i a) :=
  sorted.congr (map_set_of_key_eq found same)

theorem Ascends.eraseIdx (sorted : Ascends key l) (i : Nat) : Ascends key (l.eraseIdx i) :=
  sorted.sublist (List.eraseIdx_sublist _ _)

/-- After the element at a hit is replaced, the members are the new one and those of other keys. -/
theorem mem_set_iff {b : α} (sorted : Ascends key l) (found : l[i]? = some b)
    (same : key a = key b) {c : α} : c ∈ l.set i a ↔ c = a ∨ c ∈ l ∧ key c ≠ key b := by
  obtain ⟨hi, rfl⟩ := List.getElem?_eq_some_iff.mp found
  have sorted' := sorted.set found same
  constructor
  · intro hc
    rcases List.mem_or_eq_of_mem_set hc with old | rfl
    · by_cases eq : key c = key l[i]
      · left
        exact sorted'.eq_of_key_eq hc (List.mem_set hi a) (eq.trans same.symm)
      · exact Or.inr ⟨old, eq⟩
    · exact Or.inl rfl
  · rintro (rfl | ⟨old, ne⟩)
    · exact List.mem_set hi c
    · obtain ⟨j, hj, rfl⟩ := List.mem_iff_getElem.mp old
      have hij : i ≠ j := fun eq => ne (by subst eq; rfl)
      exact List.mem_iff_getElem.mpr ⟨j, by simpa using hj, List.getElem_set_ne hij _⟩

/-- Erasing a hit leaves the elements of the other keys. -/
theorem mem_eraseIdx_iff {b : α} (sorted : Ascends key l) (found : l[i]? = some b) {c : α} :
    c ∈ l.eraseIdx i ↔ c ∈ l ∧ key c ≠ key b := by
  rw [List.mem_eraseIdx_iff_getElem?]
  constructor
  · rintro ⟨j, ne, hj⟩
    refine ⟨List.mem_of_getElem? hj, ?_⟩
    rcases Nat.lt_or_gt_of_ne ne with lt | lt
    · exact (sorted.getElem_lt lt hj found).ne
    · exact (sorted.getElem_lt lt found hj).ne'
  · rintro ⟨hc, ne⟩
    obtain ⟨j, hj⟩ := List.mem_iff_getElem?.mp hc
    refine ⟨j, ?_, hj⟩
    rintro rfl
    exact ne (by rw [hj] at found; cases found; rfl)

/-- A stable sort of a list whose keys differ puts it in strict order. -/
theorem ascends_insertionSort (distinct : (l.map key).Nodup) :
    Ascends key (l.insertionSort fun a b => key a ≤ key b) := by
  have perm := List.perm_insertionSort (fun a b => key a ≤ key b) l
  have nodup : ((l.insertionSort fun a b => key a ≤ key b).map key).Nodup :=
    (perm.map key).nodup_iff.mpr distinct
  have total : Std.Total fun a b : α => key a ≤ key b := ⟨fun a b => le_total (key a) (key b)⟩
  have trans : IsTrans α fun a b => key a ≤ key b := ⟨fun _ _ _ => le_trans⟩
  have sorted := List.pairwise_insertionSort (fun a b => key a ≤ key b) l
  exact (sorted.and (List.pairwise_map.mp nodup)).imp fun h => lt_of_le_of_ne h.1 h.2

end update
end Ascending
