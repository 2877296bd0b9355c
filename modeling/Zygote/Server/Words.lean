import Zygote.Server.Interest

/-!
# The words of the interest set

Which 64-bit words are read as a descriptor with a tag, and which of them were made from one.
-/
namespace Zygote
open Effect

namespace EpollData
variable {value : BitVec 64} {data : EpollData}

/-- The descriptor is a `c_int`. -/
def Fits (data : EpollData) : Prop := -0x80000000 ≤ data.fd ∧ data.fd < 0x80000000

/-- The byte of a word the tag is read from. -/
def tagByte (value : BitVec 64) : BitVec 8 := (value >>> 32).setWidth 8

theorem fits_toInt (value : BitVec 64) (tag : EpollTag) : Fits ⟨(value.setWidth 32).toInt, tag⟩ := by
  have low := BitVec.le_toInt (value.setWidth 32)
  have high := BitVec.toInt_lt (x := value.setWidth 32)
  exact ⟨low, high⟩

theorem tryFrom_of_tag {tag : EpollTag} (read : tagByte value = BitVec.ofNat 8 tag.code) :
    tryFrom value = .ok ⟨(value.setWidth 32).toInt, tag⟩ := by
  have code : ((value >>> 32).setWidth 8).toInt = (BitVec.ofNat 8 tag.code).toInt := congrArg _ read
  unfold tryFrom
  cases tag <;> rw [code] <;> rfl

theorem tryFrom_of_no_tag (none : ∀ tag : EpollTag, tagByte value ≠ BitVec.ofNat 8 tag.code) :
    tryFrom value = .err (.invalidEpollData value) := by
  have apart : ∀ tag : EpollTag, ((value >>> 32).setWidth 8).toInt ≠ (tag.code : Int) := by
    intro tag same
    refine none tag (BitVec.eq_of_toInt_eq ?_)
    rw [tagByte, same]
    cases tag <;> rfl
  unfold tryFrom
  split
  · next zero => exact absurd zero (apart .client)
  · next one => exact absurd one (apart .server)
  · next two => exact absurd two (apart .signal)
  · rfl

theorem tryFrom_eq_ok : tryFrom value = .ok data ↔
    (value.setWidth 32).toInt = data.fd ∧ tagByte value = BitVec.ofNat 8 data.tag.code := by
  constructor
  · intro decoded
    by_cases read : ∃ tag : EpollTag, tagByte value = BitVec.ofNat 8 tag.code
    · obtain ⟨tag, read⟩ := read
      rw [tryFrom_of_tag read] at decoded
      cases decoded
      exact ⟨rfl, read⟩
    · rw [tryFrom_of_no_tag (not_exists.mp read)] at decoded
      cases decoded
  · rintro ⟨fd, read⟩
    rw [tryFrom_of_tag read, fd]

/-- A word is the code of its two halves, and the upper one holds the tag alone. -/
theorem eq_toU64_iff (fits : data.Fits) : value = data.toU64 ↔
    (value.setWidth 32).toInt = data.fd ∧ value >>> 32 = BitVec.ofNat 64 data.tag.code := by
  have low : (data.toU64.setWidth 32).toInt = data.fd := by
    rw [toU64_lower, BitVec.toInt_ofInt]
    apply Int.bmod_eq_of_le
    · exact fits.1
    · exact fits.2
  constructor
  · rintro rfl
    exact ⟨low, data.toU64_upper⟩
  · rintro ⟨fd, tag⟩
    have lower : value.setWidth 32 = data.toU64.setWidth 32 :=
      BitVec.eq_of_toInt_eq (fd.trans low.symm)
    apply BitVec.eq_of_getLsbD_eq
    intro i inside
    by_cases half : i < 32
    · have same := congrArg (fun x => x.getLsbD i) lower
      simpa [half] using same
    · have same := congrArg (fun x => x.getLsbD (i - 32)) (tag.trans data.toU64_upper.symm)
      simpa [BitVec.getLsbD_ushiftRight, show 32 + (i - 32) = i by omega] using same

/-- The tag alone, or the tag with something above it. -/
theorem upper_iff {tag : EpollTag} : value >>> 32 = BitVec.ofNat 64 tag.code ↔
    tagByte value = BitVec.ofNat 8 tag.code ∧ value >>> 40 = 0 := by
  have code : tag.code < 3 := by cases tag <;> decide
  rw [tagByte, ← BitVec.toNat_inj, ← BitVec.toNat_inj, ← BitVec.toNat_inj]
  simp only [BitVec.toNat_ushiftRight, BitVec.toNat_setWidth, BitVec.toNat_ofNat,
    Nat.shiftRight_eq_div_pow,
    show (0 : BitVec 64).toNat = 0 from rfl]
  omega

/-- The word is read as what it was made from, and as nothing when it was made from nothing. -/
def ReadExactly (value : BitVec 64) : Prop :=
  (∀ data : EpollData, data.Fits → (tryFrom value = .ok data ↔ value = data.toU64)) ∧
    ((∀ data : EpollData, data.Fits → value ≠ data.toU64) →
      tryFrom value = .err (.invalidEpollData value))

/-- What is above the tag is not looked at: a word is read exactly when there is nothing, or
when the tag is none. -/
theorem tryFrom_exact_iff (value : BitVec 64) : ReadExactly value ↔
    value >>> 40 = 0 ∨ ∀ tag : EpollTag, tagByte value ≠ BitVec.ofNat 8 tag.code := by
  constructor
  · rintro ⟨exact, -⟩
    by_cases read : ∃ tag : EpollTag, tagByte value = BitVec.ofNat 8 tag.code
    · obtain ⟨tag, read⟩ := read
      have fits := fits_toInt value tag
      have made := (exact _ fits).mp (tryFrom_of_tag read)
      exact .inl (upper_iff.mp ((eq_toU64_iff fits).mp made).2).2
    · exact .inr (not_exists.mp read)
  · rintro (clear | none)
    · refine ⟨fun data fits => ?_, fun unmade => tryFrom_of_no_tag fun tag read => ?_⟩
      · rw [tryFrom_eq_ok, eq_toU64_iff fits, upper_iff]
        simp only [clear, and_true]
      · have fits := fits_toInt value tag
        exact unmade _ fits ((eq_toU64_iff fits).mpr ⟨rfl, upper_iff.mpr ⟨read, clear⟩⟩)
    · refine ⟨fun data fits => ?_, fun _ => tryFrom_of_no_tag none⟩
      rw [tryFrom_eq_ok, eq_toU64_iff fits, upper_iff]
      simp only [none, and_false, false_and]

/-- A bit above the tag of descriptor 5, which a client has. -/
theorem tryFrom_not_exact : ¬∀ value, ReadExactly value := by
  intro claim
  have made := ((claim 0x10000000005).1 ⟨5, .client⟩ ⟨by decide, by decide⟩).mp (by decide)
  exact absurd made (by decide)

end EpollData
end Zygote
