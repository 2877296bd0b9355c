import Zygote.FileDescriptors.Audit
import Zygote.Procfs

/-!
# The listing of open descriptors

The kernel lists its descriptors by name, among them that of the directory the names are read
from. What the iterator makes of them are the numbers that were open before it, and an audit
holds them against the live entries one by one.
-/
namespace Zygote
open Effect Descriptors Ascending

section decimal

/-- The name of a descriptor in `/proc/self/fd`. -/
def decimal (fd : RawFd) : Bytes := (toString fd.toNat).toUTF8.data.toList

theorem fromUTF8?_toUTF8 (text : String) :
    String.fromUTF8? text.toUTF8.data.toList.toByteArray = some text := by
  have same : text.toUTF8.data.toList.toByteArray = text.toUTF8 := ByteArray.ext (by simp)
  have valid : text.toUTF8.IsValidUTF8 := text.isValidUTF8
  rw [same, String.fromUTF8?, dif_pos valid]
  rfl

theorem startsWithDigit_decimal (fd : RawFd) : ProcFdIterator.startsWithDigit (decimal fd) = true := by
  have all : ∀ c ∈ Nat.toDigits 10 fd.toNat, c.isDigit = true :=
    fun c mem => Nat.isDigit_of_mem_toDigits (by decide) (by decide) mem
  have nonempty := @Nat.toDigits_ne_nil fd.toNat 10
  rw [decimal, Nat.toString_eq_ofList_toDigits]
  revert all nonempty
  cases Nat.toDigits 10 fd.toNat with
  | nil => intro _ nonempty; exact absurd rfl nonempty
  | cons c rest =>
      intro all _
      have first := all c List.mem_cons_self
      simp only [Char.isDigit, Bool.and_eq_true, decide_eq_true_eq] at first
      obtain ⟨low, high⟩ := first
      have size : c.utf8Size = 1 := Char.utf8Size_eq_one_iff.mpr
        (UInt32.le_trans high (by decide : '9'.val ≤ 127))
      have bounds : 48 ≤ c.toNat ∧ c.toNat ≤ 57 :=
        ⟨UInt32.le_iff_toNat_le.mp low, UInt32.le_iff_toNat_le.mp high⟩
      have byte : c.toUInt8.toNat = c.toNat := by
        have cut : c.toUInt8.toNat = c.toNat % 256 := UInt32.toNat_toUInt8 c.val
        omega
      have digit : 48 ≤ c.toUInt8 ∧ c.toUInt8 ≤ 57 :=
        ⟨UInt8.le_iff_toNat_le.mpr (byte ▸ bounds.1), UInt8.le_iff_toNat_le.mpr (byte ▸ bounds.2)⟩
      rw [String.toUTF8, String.toByteArray_ofList, List.utf8Encode, List.flatMap_cons,
        String.utf8EncodeChar_eq_singleton size]
      simpa [ProcFdIterator.startsWithDigit] using digit

/-- A name is read back as its number. -/
theorem nextFd_decimal {dirFd fd : Int} (inside : 0 ≤ fd ∧ fd < 0x80000000) :
    ProcFdIterator.nextFd dirFd (decimal fd) = .ok (if dirFd ≠ fd then some fd else none) := by
  have small : fd.toNat < 0x80000000 := by omega
  have whole : ((fd.toNat : Nat) : Int) = fd := Int.toNat_of_nonneg inside.1
  have parsed : Text.parseSigned 0x80000000 (toString fd.toNat).toList = some fd := by
    rw [Nat.toString_eq_ofList_toDigits, String.toList_ofList, Text.parseSigned_toDigits small, whole]
  rw [ProcFdIterator.nextFd, startsWithDigit_decimal, decimal, fromUTF8?_toUTF8]
  simp only [parsed]
  rfl

end decimal

section listing
open ProcFdIterator
variable {w w' : World} {dirFd : RawFd} {names : List Bytes}

/-- The names the kernel gives a process in `/proc/self/fd`. The directory is read through a
descriptor of its own, so that is among the numbers, which are in order. Names that are no
numbers stand anywhere. -/
structure Listing (w : World) (dirFd : RawFd) (names : List Bytes) : Prop where
  limit : w.fds.limit ≤ 0x80000000
  numbers : ∃ dir t, w.fds.alloc dir true = some (dirFd, t) ∧
    names.filter startsWithDigit = t.numbers.map decimal

theorem items_filter (dirFd : RawFd) (names : List Bytes) :
    items dirFd names = items dirFd (names.filter startsWithDigit) := by
  rw [items, items, List.filterMap_filter]
  refine List.filterMap_congr fun name _ => ?_
  cases digit : startsWithDigit name with
  | true => simp
  | false => simp [nextFd, digit, transpose]

/-- The numbers that are open beside the directory. -/
theorem numbers_beside {dir : OpenFile} {t : Table OpenFile}
    (made : w.fds.alloc dir true = some (dirFd, t)) :
    t.numbers.filter (fun fd => decide (dirFd ≠ fd)) = w.fds.numbers := by
  obtain ⟨-, free, -, limit, slot, -⟩ := Table.alloc_eq_some made
  rw [Table.numbers, List.filter_filter, limit, Table.numbers]
  refine List.filter_congr fun fd _ => ?_
  by_cases own : dirFd = fd
  · subst own
    simp [Table.isOpen, free]
  · simp [Table.isOpen, slot, own, Ne.symm own]

/-- The iterator gives the open numbers but its own, and no error. -/
theorem Listing.items_eq (listing : Listing w dirFd names) :
    items dirFd names = w.fds.numbers.map .ok := by
  obtain ⟨dir, t, made, numbers⟩ := listing.numbers
  obtain ⟨-, -, -, limit, -, -⟩ := Table.alloc_eq_some made
  have each : ∀ fd ∈ t.numbers, transpose (nextFd dirFd (decimal fd)) =
      if dirFd ≠ fd then some (.ok fd) else none := by
    intro fd mem
    obtain ⟨nonneg, below⟩ := Table.inside_of_isOpen (Table.mem_numbers.mp mem)
    have small : fd < (0x80000000 : Int) := by
      have := listing.limit
      rw [limit] at below
      omega
    rw [nextFd_decimal ⟨nonneg, small⟩]
    split <;> rfl
  have whole := numbers_beside made
  rw [items_filter, numbers, items, List.filterMap_map]
  refine (List.filterMap_congr each).trans ?_
  rw [← whole, ← List.filterMap_eq_map, List.filterMap_filter]
  simp

end listing

namespace FileDescriptorRegistry
variable {registry : FileDescriptorRegistry} {w w' : World} {dirFd : RawFd} {names : List Bytes}

/-- The loop of `audit` over the items of the iterator, which may be errors. -/
def auditItems (world : World) : List FileDescriptorEntry → List (Except ProcFsError RawFd) →
    Outcome AuditError Unit
  | [], [] => .ok ()
  | entry :: entries, .ok openFd :: rest =>
      if entry.fd = openFd then do
        let current ← (FileDescriptorInfo.tryFrom world openFd).mapErr .fileDescriptorInfoFailure
        if entry.info = current then auditItems world entries rest
        else .err (.registryStateMismatch entry.fd entry.info current)
      else .err (.registryOrderMismatch entry.fd openFd)
  | entry :: _, [] => .err (.fileDescriptorAbsent entry.fd entry.info)
  | [], .ok openFd :: _ => do
      let info ← (FileDescriptorInfo.tryFrom world openFd).mapErr .fileDescriptorInfoFailure
      .err (.fileDescriptorUnexpected openFd info)
  | _, .error error :: _ => .err (.procFs error)

theorem auditItems_ok (world : World) (entries : List FileDescriptorEntry) (listing : List RawFd) :
    auditItems world entries (listing.map .ok) = auditEach world entries listing := by
  induction entries generalizing listing with
  | nil => cases listing <;> rfl
  | cons entry entries ih =>
      cases listing with
      | nil => rfl
      | cons openFd rest => simp only [List.map_cons, auditItems, auditEach, ih]

/-- An audit over the very names the kernel gives is the audit over the open numbers. -/
theorem audit_eq (opened : procFdIterator w = (.ok w.fds.numbers, w'))
    (listing : Listing w dirFd names) :
    registry.audit w = (auditItems w' registry.live (ProcFdIterator.items dirFd names), w') := by
  rw [listing.items_eq, auditItems_ok]
  have first : (procFdIterator.mapErr fun error => AuditError.procFs (.inaccessibleFdDir error)) w =
      (.ok w.fds.numbers, w') := by
    simp only [Prog.mapErr, opened]
    rfl
  exact Prog.bind_of_ok first _

/-- The entry is that of the open number, and its info is the current one. -/
def Agrees (world : World) (entry : FileDescriptorEntry) (fd : RawFd) : Prop :=
  entry.fd = fd ∧ FileDescriptorInfo.tryFrom world fd = .ok entry.info

theorem forall₂_agrees_iff {entries : List FileDescriptorEntry} {fds : List RawFd} :
    List.Forall₂ (Agrees w) entries fds ↔ entries.map byFd = fds ∧
      ∀ entry ∈ entries, FileDescriptorInfo.tryFrom w entry.fd = .ok entry.info := by
  induction entries generalizing fds with
  | nil =>
      rw [List.forall₂_nil_left_iff]
      simp [eq_comm]
  | cons entry entries ih =>
      cases fds with
      | nil => simp
      | cons fd rest =>
          rw [List.forall₂_cons, ih, List.map_cons, List.cons.injEq, List.forall_mem_cons]
          constructor
          · rintro ⟨⟨rfl, current⟩, numbers, others⟩
            exact ⟨⟨rfl, numbers⟩, current, others⟩
          · rintro ⟨⟨rfl, numbers⟩, current, others⟩
            exact ⟨⟨rfl, current⟩, numbers, others⟩

/-- An audit passes exactly when the live entries and the descriptors that are open beside
the directory agree one by one. -/
theorem audit_exact (opened : procFdIterator w = (.ok w.fds.numbers, w'))
    (listing : Listing w dirFd names) :
    registry.audit w = (auditItems w' registry.live (ProcFdIterator.items dirFd names), w') ∧
      ((registry.audit w).1 = .ok () ↔ List.Forall₂ (Agrees w') registry.live w.fds.numbers) := by
  have run := @audit_eq registry _ _ _ _ opened listing
  refine ⟨run, ?_⟩
  rw [run, listing.items_eq, auditItems_ok, auditEach_ok_iff, forall₂_agrees_iff]

/-- The directory of a process with the standard descriptors and one more. -/
def tidyNames : List Bytes := ["0", ".", "1", "2", "3", "..", "5"].map fun name =>
    name.toUTF8.data.toList

theorem audit_exact_tidy :
    let registry := (registerNew (booted tidy, tidy)).2.1
    let after := tidy.note .opendir none
    registry.audit tidy = (auditItems after registry.live (ProcFdIterator.items 3 tidyNames), after) ∧
      ((registry.audit tidy).1 = .ok () ↔
        List.Forall₂ (Agrees after) registry.live tidy.fds.numbers) :=
  audit_exact rfl ⟨by decide, .null, _, rfl, by decide +kernel⟩

end FileDescriptorRegistry
end Zygote
