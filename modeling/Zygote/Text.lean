import Mathlib.Tactic.Common

/-!
# Text

The string functions of the standard library the program calls, on lists of
characters: lossy decoding, splitting, integer parsing and the parent of a path.
-/
namespace Text

section decode

def replacement : Char := '\uFFFD'

def isContinuation (b : UInt8) : Bool := 0x80 ≤ b && b ≤ 0xBF

/-- Is the second byte allowed behind this first byte of a longer sequence? -/
def secondAllowed (first second : UInt8) : Bool :=
  if first = 0xE0 then 0xA0 ≤ second && second ≤ 0xBF
  else if first = 0xED then 0x80 ≤ second && second ≤ 0x9F
  else if first = 0xF0 then 0x90 ≤ second && second ≤ 0xBF
  else if first = 0xF4 then 0x80 ≤ second && second ≤ 0x8F
  else isContinuation second

/-- The length a first byte announces, 0 when it cannot start a sequence. -/
def announced (b : UInt8) : Nat :=
  if b < 0x80 then 1
  else if 0xC2 ≤ b && b ≤ 0xDF then 2
  else if 0xE0 ≤ b && b ≤ 0xEF then 3
  else if 0xF0 ≤ b && b ≤ 0xF4 then 4
  else 0

/-- The character of a sequence: the payload of the first byte, then six bits each. -/
def assemble (head : Nat) (rest : List UInt8) : Char :=
  .ofNat (rest.foldl (fun n b => n * 64 + (b.toNat - 0x80)) head)

/-- `String::from_utf8_lossy`: every maximal piece of an ill-formed sequence becomes one
replacement character. -/
def fromUtf8Lossy : List UInt8 → List Char
  | [] => []
  | b :: rest =>
    match announced b, rest with
    | 1, rest => .ofNat b.toNat :: fromUtf8Lossy rest
    | 2, c :: rest =>
        if isContinuation c then assemble (b.toNat - 0xC0) [c] :: fromUtf8Lossy rest
        else replacement :: fromUtf8Lossy (c :: rest)
    | 3, c :: d :: rest =>
        if secondAllowed b c then
          if isContinuation d then assemble (b.toNat - 0xE0) [c, d] :: fromUtf8Lossy rest
          else replacement :: fromUtf8Lossy (d :: rest)
        else replacement :: fromUtf8Lossy (c :: d :: rest)
    | 3, [c] =>
        if secondAllowed b c then [replacement] else replacement :: fromUtf8Lossy [c]
    | 4, c :: d :: e :: rest =>
        if secondAllowed b c then
          if isContinuation d then
            if isContinuation e then assemble (b.toNat - 0xF0) [c, d, e] :: fromUtf8Lossy rest
            else replacement :: fromUtf8Lossy (e :: rest)
          else replacement :: fromUtf8Lossy (d :: e :: rest)
        else replacement :: fromUtf8Lossy (c :: d :: e :: rest)
    | 4, [c, d] =>
        if secondAllowed b c then
          if isContinuation d then [replacement] else replacement :: fromUtf8Lossy [d]
        else replacement :: fromUtf8Lossy [c, d]
    | 4, [c] =>
        if secondAllowed b c then [replacement] else replacement :: fromUtf8Lossy [c]
    | _, rest => replacement :: fromUtf8Lossy rest

def ascii (text : List Char) : List UInt8 := text.map fun c => UInt8.ofNat c.toNat

theorem ascii_append (s t : List Char) : ascii (s ++ t) = ascii s ++ ascii t := List.map_append

theorem ascii_lt {c : Char} (low : c.toNat < 128) : UInt8.ofNat c.toNat < 0x80 := by
  rw [UInt8.lt_iff_toNat_lt, UInt8.toNat_ofNat']
  exact Nat.lt_of_le_of_lt (Nat.mod_le _ _) low

theorem announced_of_ascii {b : UInt8} (low : b < 0x80) : announced b = 1 := if_pos low

theorem not_isContinuation {b : UInt8} (low : b < 0x80) : isContinuation b = false := by
  simp [isContinuation, UInt8.le_iff_toNat_le, UInt8.lt_iff_toNat_lt] at low ⊢
  omega

theorem not_secondAllowed (first : UInt8) {b : UInt8} (low : b < 0x80) :
    secondAllowed first b = false := by
  have plain := not_isContinuation low
  have low' : b.toNat < 128 := low
  simp only [secondAllowed, UInt8.le_iff_toNat_le]
  split_ifs
  · simp; omega
  · simp; omega
  · simp; omega
  · simp; omega
  · exact plain

theorem fromUtf8Lossy_cons {b : UInt8} (low : b < 0x80) (rest : List UInt8) :
    fromUtf8Lossy (b :: rest) = .ofNat b.toNat :: fromUtf8Lossy rest := by
  simp only [fromUtf8Lossy, announced_of_ascii low]

theorem announced_le (b : UInt8) : announced b ≤ 4 := by
  unfold announced
  split_ifs <;> decide

/-- An ASCII character is not taken into an ill-formed sequence before it. -/
theorem fromUtf8Lossy_append (bytes : List UInt8) {b : UInt8} (low : b < 0x80) (rest : List UInt8) :
    fromUtf8Lossy (bytes ++ b :: rest) = fromUtf8Lossy bytes ++ fromUtf8Lossy (b :: rest) := by
  have plain := not_isContinuation low
  have apart := fun first => not_secondAllowed first low
  fun_induction fromUtf8Lossy bytes with
  | case17 =>
      -- a sequence of four that ends after its second byte
      cases rest <;> simp_all [fromUtf8Lossy]
  | case18 => cases rest <;> simp_all [fromUtf8Lossy]
  | case19 first bytes one two three shortThree four shortFour shorterFour ih =>
      -- no byte starts a sequence here, or it is the last
      have length := announced_le first
      obtain zero | one' | two' | three' | four' : announced first = 0 ∨ announced first = 1 ∨
          announced first = 2 ∨ announced first = 3 ∨ announced first = 4 := by omega
      · simp [fromUtf8Lossy, zero, ih]
      · exact absurd one' one
      · cases bytes with
        | nil => simp [fromUtf8Lossy, two', plain]
        | cons c bytes => exact absurd rfl (two c bytes two')
      · rcases bytes with _ | ⟨c, _ | ⟨d, bytes⟩⟩
        · cases rest <;> simp [fromUtf8Lossy, three', apart]
        · exact absurd rfl (shortThree c three')
        · exact absurd rfl (three c d bytes three')
      · rcases bytes with _ | ⟨c, _ | ⟨d, _ | ⟨e, bytes⟩⟩⟩
        · rcases rest with _ | ⟨c, _ | ⟨d, rest⟩⟩ <;> simp [fromUtf8Lossy, four', apart]
        · exact absurd rfl (shorterFour c four')
        · exact absurd rfl (shortFour c d four')
        · exact absurd rfl (four c d e bytes four')
  | _ => simp_all [fromUtf8Lossy]

/-- ASCII text is decoded as it is, whatever follows it. -/
theorem fromUtf8Lossy_ascii_append {text : List Char} (low : ∀ c ∈ text, c.toNat < 128)
    (rest : List UInt8) : fromUtf8Lossy (ascii text ++ rest) = text ++ fromUtf8Lossy rest := by
  induction text with
  | nil => rfl
  | cons c text ih =>
      obtain ⟨here, later⟩ := List.forall_mem_cons.mp low
      have value : (UInt8.ofNat c.toNat).toNat = c.toNat := by
        rw [UInt8.toNat_ofNat']
        omega
      have byte := ascii_lt here
      simp only [ascii, List.map_cons, List.cons_append, fromUtf8Lossy_cons byte, value,
        Char.ofNat_toNat]
      exact congrArg (c :: ·) (ih later)

theorem fromUtf8Lossy_between {before after : List Char} (bytes : List UInt8)
    (low : ∀ c ∈ before ++ after, c.toNat < 128) :
    fromUtf8Lossy (ascii before ++ bytes ++ ascii after) = before ++ fromUtf8Lossy bytes ++ after := by
  obtain ⟨lowBefore, lowAfter⟩ := List.forall_mem_append.mp low
  rw [List.append_assoc, fromUtf8Lossy_ascii_append lowBefore, List.append_assoc]
  congr 1
  have decoded := fromUtf8Lossy_ascii_append lowAfter []
  rw [List.append_nil] at decoded
  cases after with
  | nil => simp [ascii]
  | cons c after =>
      have here := lowAfter c List.mem_cons_self
      have byte := ascii_lt here
      simp only [ascii, List.map_cons] at decoded ⊢
      rw [fromUtf8Lossy_append bytes byte, decoded]
      simp [fromUtf8Lossy]

end decode

section split

/-- The parts around the first occurrence of a separator (`split_once`). -/
def splitOnce (separator : List Char) : List Char → Option (List Char × List Char)
  | [] => if separator = [] then some ([], []) else none
  | c :: rest =>
      if separator.isPrefixOf (c :: rest) then some ([], (c :: rest).drop separator.length)
      else (splitOnce separator rest).map fun p => (c :: p.1, p.2)

/-- The parts around the last occurrence (`rsplit_once`). -/
def rsplitOnce (separator text : List Char) : Option (List Char × List Char) :=
  (splitOnce separator.reverse text.reverse).map fun p => (p.2.reverse, p.1.reverse)

def isWhiteSpace (c : Char) : Bool :=
  (0x09 ≤ c.toNat && c.toNat ≤ 0x0D) || (0x2000 ≤ c.toNat && c.toNat ≤ 0x200A) ||
    [0x20, 0x85, 0xA0, 0x1680, 0x2028, 0x2029, 0x202F, 0x205F, 0x3000].contains c.toNat

/-- `split_whitespace`: the maximal pieces without white space. The piece that is being
read is kept apart. -/
def splitWhitespace (piece : List Char) : List Char → List (List Char)
  | [] => if piece = [] then [] else [piece]
  | c :: rest =>
      if isWhiteSpace c then
        if piece = [] then splitWhitespace [] rest else piece :: splitWhitespace [] rest
      else splitWhitespace (piece ++ [c]) rest

variable {before after : List Char} {a b : Char}

/-- The separator is found where its first character first occurs. -/
theorem splitOnce_of_head (separator : List Char) (absent : a ∉ before) :
    splitOnce (a :: separator) (before ++ a :: separator ++ after) = some (before, after) := by
  induction before with
  | nil => simp [splitOnce]
  | cons c before ih =>
      obtain ⟨other, absent⟩ := List.ne_and_not_mem_of_not_mem_cons absent
      simp only [List.cons_append, splitOnce, List.isPrefixOf, beq_eq_false_iff_ne.mpr other,
        Bool.false_and, Bool.false_eq_true, if_false]
      rw [ih absent]
      rfl

/-- A separator of two characters is found where the second one first occurs. -/
theorem splitOnce_of_second (apart : a ≠ b) (absent : b ∉ before) :
    splitOnce [a, b] (before ++ [a, b] ++ after) = some (before, after) := by
  induction before with
  | nil => simp [splitOnce]
  | cons c before ih =>
      obtain ⟨other, absent⟩ := List.ne_and_not_mem_of_not_mem_cons absent
      have miss : [a, b].isPrefixOf (c :: (before ++ [a, b] ++ after)) = false := by
        cases before with
        | nil => simp [List.isPrefixOf, Ne.symm apart]
        | cons d before =>
            have second := (List.ne_and_not_mem_of_not_mem_cons absent).1
            simp [List.isPrefixOf, second]
      simp only [List.cons_append, splitOnce] at ih ⊢
      rw [miss, ih absent]
      rfl

theorem rsplitOnce_of_first (apart : a ≠ b) (absent : a ∉ after) :
    rsplitOnce [a, b] (before ++ [a, b] ++ after) = some (before, after) := by
  have found := @splitOnce_of_second after.reverse before.reverse b a (Ne.symm apart)
    (mt List.mem_reverse.mp absent)
  have reversed : (before ++ [a, b] ++ after).reverse =
      after.reverse ++ [b, a] ++ before.reverse := by simp
  rw [rsplitOnce, reversed, show [a, b].reverse = [b, a] from rfl, found]
  simp

theorem splitWhitespace_cons {word : List Char} (piece : List Char) {space : Char}
    (solid : ∀ c ∈ word, isWhiteSpace c = false) (full : piece ++ word ≠ [])
    (gap : isWhiteSpace space = true) (rest : List Char) :
    splitWhitespace piece (word ++ space :: rest) = (piece ++ word) :: splitWhitespace [] rest := by
  induction word generalizing piece with
  | nil =>
      rw [List.append_nil] at full ⊢
      simp [splitWhitespace, gap, full]
  | cons c word ih =>
      obtain ⟨here, later⟩ := List.forall_mem_cons.mp solid
      rw [List.cons_append, splitWhitespace, here, if_neg (by decide), ih (piece ++ [c]) later (by simp)]
      simp

theorem splitWhitespace_last {word : List Char} (piece : List Char)
    (solid : ∀ c ∈ word, isWhiteSpace c = false) (full : piece ++ word ≠ []) :
    splitWhitespace piece word = [piece ++ word] := by
  induction word generalizing piece with
  | nil =>
      rw [List.append_nil] at full ⊢
      simp [splitWhitespace, full]
  | cons c word ih =>
      obtain ⟨here, later⟩ := List.forall_mem_cons.mp solid
      rw [splitWhitespace, here, if_neg (by decide), ih (piece ++ [c]) later (by simp)]
      simp

end split

section parse

def digit (c : Char) : Option Nat :=
  if '0' ≤ c ∧ c ≤ '9' then some (c.toNat - '0'.toNat) else none

/-- The value of a sequence of at least one digit. -/
def parseDigits : List Char → Option Nat
  | [] => none
  | digits => digits.foldlM (fun n c => (digit c).map (n * 10 + ·)) 0

/-- `parse` for an unsigned type with the given bound; a plus sign is allowed. -/
def parseUnsigned (bound : Nat) (text : List Char) : Option Nat :=
  let digits := match text with
    | '+' :: rest => rest
    | text => text
  match parseDigits digits with
  | some n => if n < bound then some n else none
  | none => none

/-- `parse` for a signed type; the bound is that of the positive values. -/
def parseSigned (bound : Nat) : List Char → Option Int
  | '-' :: rest =>
      match parseDigits rest with
      | some n => if n ≤ bound then some (-(n : Int)) else none
      | none => none
  | text => (parseUnsigned bound text).map Int.ofNat

theorem digit_of_isDigit {c : Char} (h : c.isDigit = true) : digit c = some (c.toNat - '0'.toNat) := by
  simp only [Char.isDigit, Bool.and_eq_true, decide_eq_true_eq] at h
  exact if_pos h

theorem parseDigits_eq {digits : List Char} (nonempty : digits ≠ [])
    (all : ∀ c ∈ digits, c.isDigit = true) :
    parseDigits digits = some (Nat.ofDigitChars 10 digits 0) := by
  have run : ∀ (l : List Char) (n : Nat), (∀ c ∈ l, c.isDigit = true) →
      l.foldlM (fun n c => (digit c).map (n * 10 + ·)) n = some (Nat.ofDigitChars 10 l n) := by
    intro l
    induction l with
    | nil => intro n _; rw [Nat.ofDigitChars_nil]; rfl
    | cons c rest ih =>
        intro n all
        obtain ⟨here, later⟩ := List.forall_mem_cons.mp all
        rw [List.foldlM_cons, digit_of_isDigit here, Nat.ofDigitChars_cons, Nat.mul_comm 10 n]
        exact ih _ later
  cases digits with
  | nil => exact absurd rfl nonempty
  | cons c rest => exact run (c :: rest) 0 all

theorem parseUnsigned_toDigits {bound n : Nat} (inside : n < bound) :
    parseUnsigned bound (Nat.toDigits 10 n) = some n := by
  have all : ∀ c ∈ Nat.toDigits 10 n, c.isDigit = true :=
    fun c mem => Nat.isDigit_of_mem_toDigits (by decide) (by decide) mem
  have parsed := parseDigits_eq Nat.toDigits_ne_nil all
  rw [Nat.ofDigitChars_ten_toDigits] at parsed
  have digits : (match Nat.toDigits 10 n with
      | '+' :: rest => rest
      | text => text) = Nat.toDigits 10 n := by
    split
    · next rest same => exact absurd (all '+' (same ▸ List.mem_cons_self)) (by decide)
    · rfl
  simp only [parseUnsigned, digits, parsed, inside, if_true]

theorem parseSigned_toDigits {bound n : Nat} (inside : n < bound) :
    parseSigned bound (Nat.toDigits 10 n) = some (n : Int) := by
  have all : ∀ c ∈ Nat.toDigits 10 n, c.isDigit = true :=
    fun c mem => Nat.isDigit_of_mem_toDigits (by decide) (by decide) mem
  have unsigned := parseUnsigned_toDigits inside
  cases digits : Nat.toDigits 10 n with
  | nil => exact absurd digits Nat.toDigits_ne_nil
  | cons c rest =>
      rw [digits] at unsigned all
      have minus : c ≠ '-' := by
        rintro rfl
        exact absurd (all '-' List.mem_cons_self) (by decide)
      rw [parseSigned, unsigned]
      · rfl
      · rintro _ same
        exact minus (List.cons.inj same).1

end parse

section path

/-- Drop the separators and the `.` components at the end of a path, which is given in
reverse. A `.` that stands alone is kept. -/
def trimEnd : List Char → List Char
  | '/' :: rest => trimEnd rest
  | '.' :: '/' :: rest => trimEnd rest
  | path => path

/-- `Path::parent`: nothing for the empty path and for the root. -/
def parent (path : List Char) : Option (List Char) :=
  match trimEnd path.reverse with
  | [] => none
  | body =>
    match trimEnd (body.dropWhile (· ≠ '/')) with
    | [] => some (if path.head? = some '/' then ['/'] else [])
    | upper => some upper.reverse

end path
end Text
