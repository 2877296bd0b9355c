import Mathlib.Algebra.Group.Nat.Defs
import Mathlib.Tactic.Common

/-!
# Little-endian words

Numbers as rows of bytes, the lowest byte first, and rows of 32-bit words without anything between them.
-/
namespace LittleEndian

/-- The number a row of bytes stands for. -/
def value : List UInt8 → Nat
  | [] => 0
  | byte :: rest => byte.toNat + 256 * value rest

/-- So many bytes of a number, from the lowest. -/
def bytes : Nat → Nat → List UInt8
  | 0, _ => []
  | count + 1, n => UInt8.ofNat n :: bytes count (n / 256)

/-- As much of a number is read as was written. -/
theorem value_bytes (count n : Nat) : value (bytes count n) = n % 256 ^ count := by
  induction count generalizing n with
  | zero => rw [Nat.pow_zero, Nat.mod_one, bytes, value]
  | succ count ih =>
      have low : (UInt8.ofNat n).toNat = n % 256 := UInt8.toNat_ofNat'
      rw [bytes, value, ih, low, Nat.pow_succ', Nat.mod_mul]

theorem value_lt (row : List UInt8) : value row < 256 ^ row.length := by
  induction row with
  | nil => exact Nat.one_pos
  | cons byte rest ih =>
      have low := byte.toNat_lt
      rw [value, List.length_cons, Nat.pow_succ]
      omega

theorem bytes_value (row : List UInt8) : bytes row.length (value row) = row := by
  induction row with
  | nil => rfl
  | cons byte rest ih =>
      have low := byte.toNat_lt
      have high : (byte.toNat + 256 * value rest) / 256 = value rest := by omega
      have first : UInt8.ofNat (byte.toNat + 256 * value rest) = byte := by
        apply UInt8.toNat_inj.mp
        rw [UInt8.toNat_ofNat']
        omega
      rw [value, List.length_cons, bytes, high, ih, first]

section words

def word (w : BitVec 32) : List UInt8 := bytes 4 w.toNat

def words (row : List (BitVec 32)) : List UInt8 := row.flatMap word

/-- A row of bytes that is no row of words is not read. -/
def readWords : List UInt8 → Option (List (BitVec 32))
  | [] => some []
  | a :: b :: c :: d :: rest => (readWords rest).map (BitVec.ofNat 32 (value [a, b, c, d]) :: ·)
  | _ => none

theorem words_cons (w : BitVec 32) (row : List (BitVec 32)) : words (w :: row) = word w ++ words row :=
  rfl

/-- A word is four bytes, and they stand for it. -/
theorem word_eq (w : BitVec 32) : ∃ a b c d, word w = [a, b, c, d] ∧
    BitVec.ofNat 32 (value [a, b, c, d]) = w := by
  have written : value (word w) = w.toNat % 256 ^ 4 := value_bytes 4 w.toNat
  have whole : BitVec.ofNat 32 (value (word w)) = w := by
    apply BitVec.eq_of_toNat_eq
    rw [BitVec.toNat_ofNat, written]
    have fits := w.isLt
    omega
  exact ⟨_, _, _, _, rfl, whole⟩

theorem word_value (a b c d : UInt8) : word (BitVec.ofNat 32 (value [a, b, c, d])) = [a, b, c, d] := by
  have bound : value [a, b, c, d] < 256 ^ 4 := value_lt [a, b, c, d]
  have fits : (BitVec.ofNat 32 (value [a, b, c, d])).toNat = value [a, b, c, d] := by
    rw [BitVec.toNat_ofNat]
    omega
  rw [word, fits]
  exact bytes_value [a, b, c, d]

theorem readWords_words (row : List (BitVec 32)) : readWords (words row) = some row := by
  induction row with
  | nil => rfl
  | cons w row ih =>
      obtain ⟨a, b, c, d, written, read⟩ := word_eq w
      rw [words_cons, written, List.cons_append, List.cons_append, List.cons_append,
        List.singleton_append,
        readWords, ih, read, Option.map_some]

/-- What is read is what was written. -/
theorem words_of_readWords {bytes : List UInt8} {row : List (BitVec 32)}
    (read : readWords bytes = some row) :
    bytes = words row := by
  induction bytes using readWords.induct generalizing row with
  | case1 =>
      cases read
      rfl
  | case2 a b c d rest ih =>
      rw [readWords] at read
      obtain ⟨others, more, rfl⟩ := Option.map_eq_some_iff.mp read
      rw [words_cons, word_value, ← ih more]
      rfl
  | case3 bytes empty short =>
      rw [readWords] at read
      · cases read
      · exact empty
      · exact short

end words
end LittleEndian
