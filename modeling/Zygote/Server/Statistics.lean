import Zygote.Server.Handlers

/-!
# The statistics of a process

A line of `/proc/self/stat` holds a name that may contain whatever the parser looks for. The
fields are found from the last end of a name, and must then be all there.
-/
namespace Zygote
open Effect Text

/-- A decimal number as the kernel prints it. -/
def numeral (n : Int) : List Char :=
  if n < 0 then '-' :: Nat.toDigits 10 n.natAbs else Nat.toDigits 10 n.natAbs

section characters
variable {c : Char}

/-- A character between the sign and the last letter. It separates nothing. -/
def Plain (c : Char) : Prop := 45 ≤ c.toNat ∧ c.toNat ≤ 122

theorem Plain.low (plain : Plain c) : c.toNat < 128 := Nat.lt_of_le_of_lt plain.2 (by decide)

theorem Plain.not_isWhiteSpace (plain : Plain c) : isWhiteSpace c = false := by
  obtain ⟨low, high⟩ := plain
  simp [isWhiteSpace]
  omega

theorem Plain.ne {d : Char} (plain : Plain c) (outside : d.toNat < 45) : d ≠ c := by
  rintro rfl
  exact absurd plain.1 (by omega)

theorem plain_of_isDigit (digit : c.isDigit = true) : Plain c := by
  simp only [Char.isDigit, Bool.and_eq_true, decide_eq_true_eq, UInt32.le_iff_toNat_le] at digit
  have low : 48 ≤ c.toNat := digit.1
  have high : c.toNat ≤ 57 := digit.2
  exact ⟨by omega, by omega⟩

theorem plain_of_isAlpha (letter : c.isAlpha = true) : Plain c := by
  change (decide (65 ≤ c.val ∧ c.val ≤ 90) || (decide (97 ≤ c.val) && decide (c.val ≤ 122))) = true
    at letter
  simp only [Bool.or_eq_true, Bool.and_eq_true, decide_eq_true_eq, UInt32.le_iff_toNat_le] at letter
  have inside : 65 ≤ c.toNat ∧ c.toNat ≤ 90 ∨ 97 ≤ c.toNat ∧ c.toNat ≤ 122 := letter
  exact ⟨by omega, by omega⟩

theorem plain_of_mem_toDigits {n : Nat} (mem : c ∈ Nat.toDigits 10 n) : Plain c :=
  plain_of_isDigit (Nat.isDigit_of_mem_toDigits (by decide) (by decide) mem)

theorem plain_of_mem_numeral {n : Int} (mem : c ∈ numeral n) : Plain c := by
  unfold numeral at mem
  split at mem
  · rcases List.mem_cons.mp mem with rfl | digit
    · exact ⟨by decide, by decide⟩
    · exact plain_of_mem_toDigits digit
  · exact plain_of_mem_toDigits mem

theorem numeral_ne_nil (n : Int) : numeral n ≠ [] := by
  unfold numeral
  split
  · exact List.cons_ne_nil _ _
  · exact Nat.toDigits_ne_nil

/-- The part of a line behind the name. -/
def printed (state : Char) (fields : List Int) : List Char :=
  state :: fields.flatMap fun n => ' ' :: numeral n

/-- The line may end with the newline the kernel puts there, or without. -/
def Ending (text : List Char) : Prop := text = [] ∨ text = ['\n']

theorem splitWhitespace_fields {fields : List Int} {word ending : List Char}
    (plain : ∀ c ∈ word, Plain c) (full : word ≠ []) (ends : Ending ending) :
    splitWhitespace [] (word ++ (fields.flatMap fun n => ' ' :: numeral n) ++ ending) =
      word :: fields.map numeral := by
  have solid : ∀ c ∈ word, isWhiteSpace c = false := fun c mem => (plain c mem).not_isWhiteSpace
  induction fields generalizing word with
  | nil =>
      rcases ends with rfl | rfl
      · simpa using splitWhitespace_last [] solid full
      · simpa [splitWhitespace] using splitWhitespace_cons [] solid full (by decide) []
  | cons n fields ih =>
      have later := @ih (numeral n) (fun c mem => plain_of_mem_numeral mem) (numeral_ne_nil n)
        fun c mem => (plain_of_mem_numeral mem).not_isWhiteSpace
      have first := splitWhitespace_cons [] solid full (show isWhiteSpace ' ' = true by decide)
        (numeral n ++ (fields.flatMap fun n => ' ' :: numeral n) ++ ending)
      rw [later] at first
      simpa using first

end characters

namespace ProcStat

/-- A line of `/proc/self/stat`: the number of the process, its name, its state and the
fields from the fourth on. -/
structure Line where
  pid : Nat
  name : Bytes
  state : Char
  fields : List Int
  letter : state.isAlpha = true
  count : fields.length = 49

namespace Line
variable {line : Line}

def text (line : Line) : Bytes :=
  ascii (Nat.toDigits 10 line.pid ++ " (".toList) ++ line.name ++
    ascii (") ".toList ++ printed line.state line.fields)

/-- The fields are counted from 1, the pid being the first and the state the third. -/
def field (line : Line) (k : Nat) : Int := line.fields.getD (k - 4) 0

/-- The reported fields are in the range of their types. -/
structure InRange (line : Line) : Prop where
  pid : line.pid < UInt32.size
  pgrp : 0 ≤ line.field 5 ∧ line.field 5 < UInt32.size
  counter : ∀ k ∈ [10, 11, 12, 13, 14, 15, 20, 23, 24],
    0 ≤ line.field k ∧ line.field k < UInt64.size

/-- The statistics are what the line says. -/
structure Reads (line : Line) (stat : ProcStat) : Prop where
  pid : stat.pid.toNat = line.pid
  pgrp : stat.pgrp.toNat = line.field 5
  minflt : stat.minflt.toNat = line.field 10
  cminflt : stat.cminflt.toNat = line.field 11
  majflt : stat.majflt.toNat = line.field 12
  cmajflt : stat.cmajflt.toNat = line.field 13
  utime : stat.utime.toNat = line.field 14
  stime : stat.stime.toNat = line.field 15
  numThreads : stat.numThreads.toNat = line.field 20
  vsize : stat.vsize.toNat = line.field 23
  rss : stat.rss.toNat = line.field 24

end Line

theorem field_numeral {bound : Nat} {n : Int} (range : 0 ≤ n ∧ n < bound) :
    field bound (numeral n) = .ok n.toNat := by
  have below : n.natAbs < bound := by omega
  have same : n.natAbs = n.toNat := by omega
  rw [field, numeral, if_neg (not_lt.mpr range.1), parseUnsigned_toDigits below, same]
  rfl

theorem field32_numeral {n : Int} (range : 0 ≤ n ∧ n < UInt32.size) :
    ∃ value, field32 (numeral n) = .ok value ∧ value.toNat = n := by
  refine ⟨.ofNat n.toNat, ?_, ?_⟩
  · rw [field32, field_numeral range]
    rfl
  · rw [UInt32.toNat_ofNat_of_lt' (by omega)]
    omega

theorem field64_numeral {n : Int} (range : 0 ≤ n ∧ n < UInt64.size) :
    ∃ value, field64 (numeral n) = .ok value ∧ value.toNat = n := by
  refine ⟨.ofNat n.toNat, ?_, ?_⟩
  · rw [field64, field_numeral range]
    rfl
  · rw [UInt64.toNat_ofNat_of_lt' (by omega)]
    omega

/-- The fields that are reported, from the words behind the name. -/
def readFields (pidStr : List Char) (rest : List (List Char)) : Outcome ProcFsError ProcStat := do
  let pid ← field32 pidStr
  let pgrp ← field32 (rest.getD 2 [])
  let minflt ← field64 (rest.getD 7 [])
  let cminflt ← field64 (rest.getD 8 [])
  let majflt ← field64 (rest.getD 9 [])
  let cmajflt ← field64 (rest.getD 10 [])
  let utime ← field64 (rest.getD 11 [])
  let stime ← field64 (rest.getD 12 [])
  let numThreads ← field64 (rest.getD 17 [])
  let vsize ← field64 (rest.getD 20 [])
  let rss ← field64 (rest.getD 21 [])
  .ok { pid, pgrp, minflt, cminflt, majflt, cmajflt, utime, stime, numThreads, vsize, rss }

/-- With the text split at both ends of the name, the number of words decides. -/
theorem parse_of_split {text textLeft textRight pidStr name : List Char}
    (right : rsplitOnce ") ".toList text = some (textLeft, textRight))
    (left : splitOnce " (".toList textLeft = some (pidStr, name)) :
    parse text =
      if procStatNumEntries < (splitWhitespace [] textRight).length then
        .panic "ArrayVec: capacity exceeded in extend/from_iter"
      else if (splitWhitespace [] textRight).length ≠ procStatNumEntries - 2 then
        .panic "assertion `left == right` failed"
      else readFields pidStr (splitWhitespace [] textRight) := by
  simp only [parse, right, left, Outcome.ofOption, Outcome.bind_ok]
  rfl

namespace Line
variable {line : Line} {ending : List Char}

theorem plain_printed (line : Line) {c : Char} (mem : c ∈ printed line.state line.fields) :
    c = ' ' ∨ Plain c := by
  rcases List.mem_cons.mp mem with rfl | mem
  · exact .inr (plain_of_isAlpha line.letter)
  · obtain ⟨n, -, mem⟩ := List.mem_flatMap.mp mem
    exact (List.mem_cons.mp mem).imp_right plain_of_mem_numeral

/-- The words behind the name are the state and the fields. -/
theorem words (line : Line) (ends : Ending ending) :
    splitWhitespace [] (printed line.state line.fields ++ ending) =
      [line.state] :: line.fields.map numeral :=
  @splitWhitespace_fields line.fields [line.state] ending
    (List.forall_mem_singleton.mpr (plain_of_isAlpha line.letter)) (List.cons_ne_nil _ _) ends

theorem entry (line : Line) {k : Nat} (low : 4 ≤ k) (high : k ≤ 52) :
    ([line.state] :: line.fields.map numeral).getD (k - 3) [] = numeral (line.field k) := by
  obtain ⟨i, rfl⟩ := Nat.exists_eq_add_of_le' low
  have bound : i < line.fields.length := by
    rw [line.count]
    omega
  simp [field, List.getD_eq_getElem?_getD, bound]

theorem readFields_words (range : line.InRange) :
    ∃ stat, readFields (Nat.toDigits 10 line.pid) ([line.state] :: line.fields.map numeral) = .ok stat ∧
      line.Reads stat := by
  have pidStr : numeral line.pid = Nat.toDigits 10 line.pid := if_neg (by omega)
  obtain ⟨pid, readPid, pidIs⟩ := @field32_numeral line.pid ⟨by omega, by exact_mod_cast range.pid⟩
  rw [pidStr] at readPid
  have counter : ∀ k, 4 ≤ k → k ≤ 52 → k ∈ [10, 11, 12, 13, 14, 15, 20, 23, 24] →
      ∃ value, field64 (([line.state] :: line.fields.map numeral).getD (k - 3) []) = .ok value ∧
        value.toNat = line.field k :=
    fun k low high reported => (line.entry low high).symm ▸ field64_numeral (range.counter k reported)
  obtain ⟨pgrp, readPgrp, pgrpIs⟩ : ∃ value,
      field32 (([line.state] :: line.fields.map numeral).getD (5 - 3) []) = .ok value ∧
        value.toNat = line.field 5 :=
    (line.entry (k := 5) (by decide) (by decide)).symm ▸ field32_numeral range.pgrp
  obtain ⟨minflt, readMinflt, minfltIs⟩ := counter 10 (by decide) (by decide) (by decide)
  obtain ⟨cminflt, readCminflt, cminfltIs⟩ := counter 11 (by decide) (by decide) (by decide)
  obtain ⟨majflt, readMajflt, majfltIs⟩ := counter 12 (by decide) (by decide) (by decide)
  obtain ⟨cmajflt, readCmajflt, cmajfltIs⟩ := counter 13 (by decide) (by decide) (by decide)
  obtain ⟨utime, readUtime, utimeIs⟩ := counter 14 (by decide) (by decide) (by decide)
  obtain ⟨stime, readStime, stimeIs⟩ := counter 15 (by decide) (by decide) (by decide)
  obtain ⟨numThreads, readThreads, threadsIs⟩ := counter 20 (by decide) (by decide) (by decide)
  obtain ⟨vsize, readVsize, vsizeIs⟩ := counter 23 (by decide) (by decide) (by decide)
  obtain ⟨rss, readRss, rssIs⟩ := counter 24 (by decide) (by decide) (by decide)
  refine ⟨⟨pid, pgrp, minflt, cminflt, majflt, cmajflt, utime, stime, numThreads, vsize, rss⟩, ?_,
    by exact_mod_cast pidIs, pgrpIs, minfltIs, cminfltIs, majfltIs, cmajfltIs, utimeIs, stimeIs,
    threadsIs, vsizeIs, rssIs⟩
  exact Outcome.bind_eq_ok.mpr ⟨pid, readPid, Outcome.bind_eq_ok.mpr ⟨pgrp, readPgrp,
    Outcome.bind_eq_ok.mpr ⟨minflt, readMinflt, Outcome.bind_eq_ok.mpr ⟨cminflt, readCminflt,
    Outcome.bind_eq_ok.mpr ⟨majflt, readMajflt, Outcome.bind_eq_ok.mpr ⟨cmajflt, readCmajflt,
    Outcome.bind_eq_ok.mpr ⟨utime, readUtime, Outcome.bind_eq_ok.mpr ⟨stime, readStime,
    Outcome.bind_eq_ok.mpr ⟨numThreads, readThreads, Outcome.bind_eq_ok.mpr ⟨vsize, readVsize,
    Outcome.bind_eq_ok.mpr ⟨rss, readRss, rfl⟩⟩⟩⟩⟩⟩⟩⟩⟩⟩⟩

/-- Whatever the name is, its end is where the last parenthesis with a blank is, and its
beginning where the first is. -/
theorem parse_decoded (range : line.InRange) (name : List Char) (ends : Ending ending) :
    ∃ stat, parse (Nat.toDigits 10 line.pid ++ " (".toList ++ name ++ ") ".toList ++
      (printed line.state line.fields ++ ending)) = .ok stat ∧ line.Reads stat := by
  have behind : ')' ∉ printed line.state line.fields ++ ending := by
    intro mem
    rcases List.mem_append.mp mem with mem | mem
    · rcases line.plain_printed mem with blank | plain
      · exact absurd blank (by decide)
      · exact absurd plain (by unfold Plain; decide)
    · rcases ends with rfl | rfl
      · cases mem
      · exact absurd mem (by decide)
  have before : ' ' ∉ Nat.toDigits 10 line.pid := fun mem =>
    absurd (plain_of_mem_toDigits mem) (by unfold Plain; decide)
  have right : rsplitOnce ") ".toList (Nat.toDigits 10 line.pid ++ " (".toList ++ name ++
      ") ".toList ++ (printed line.state line.fields ++ ending)) =
      some (Nat.toDigits 10 line.pid ++ " (".toList ++ name,
        printed line.state line.fields ++ ending) := rsplitOnce_of_first (by decide) behind
  have left : splitOnce " (".toList (Nat.toDigits 10 line.pid ++ " (".toList ++ name) =
      some (Nat.toDigits 10 line.pid, name) := splitOnce_of_head ['('] before
  have length : ([line.state] :: line.fields.map numeral).length = procStatNumEntries - 2 := by
    simp [line.count, procStatNumEntries]
  rw [parse_of_split right left, line.words ends, length, if_neg (by decide), if_neg (not_not.mpr rfl)]
  exact readFields_words range

theorem fromUtf8Lossy_text (line : Line) (ends : Ending ending) :
    fromUtf8Lossy (line.text ++ ascii ending) = Nat.toDigits 10 line.pid ++ " (".toList ++
      fromUtf8Lossy line.name ++ ") ".toList ++ (printed line.state line.fields ++ ending) := by
  have low : ∀ c ∈ (Nat.toDigits 10 line.pid ++ " (".toList) ++
      (") ".toList ++ printed line.state line.fields ++ ending), c.toNat < 128 := by
    intro c mem
    simp only [List.mem_append, or_assoc] at mem
    rcases mem with pid | opening | closing | behind | last
    · exact (plain_of_mem_toDigits pid).low
    · rw [show " (".toList = [' ', '('] from rfl] at opening
      rcases List.mem_pair.mp opening with rfl | rfl
      · decide
      · decide
    · rw [show ") ".toList = [')', ' '] from rfl] at closing
      rcases List.mem_pair.mp closing with rfl | rfl
      · decide
      · decide
    · rcases line.plain_printed behind with rfl | plain
      · decide
      · exact plain.low
    · rcases ends with rfl | rfl
      · cases last
      · rw [List.mem_singleton.mp last]
        decide
  have decoded := fromUtf8Lossy_between line.name low
  rw [ascii_append _ ending] at decoded
  simpa only [text, List.append_assoc] using decoded

end Line

variable {w w' : World} {bytes : Bytes}

theorem readProcStat_ok {capacity : Nat} (h : readProcStat capacity w = (.ok bytes, w')) :
    bytes = (w.env.procStat w.clock).take capacity := by
  obtain ⟨-, made, tables, act, -⟩ := attempt_ok_iff.mp h
  split at act
  · cases act
    rfl
  · cases act

theorem get_of_read (h : readProcStat procStatBufferSize w = (.ok bytes, w')) :
    (get w).1 = parse (fromUtf8Lossy bytes) := by
  rw [get, Prog.bind_of_ok (Prog.mapErr_eq_ok.mpr h)]
  rfl

/-- A line that fits the buffer is read as what it says, whatever the name of the process. -/
theorem get_reads (line : Line) (range : line.InRange)
    (fits : line.text.length ≤ procStatBufferSize) {ending : List Char} (ends : Ending ending)
    (content : w.env.procStat w.clock = line.text ++ ascii ending)
    (readable : (readProcStat procStatBufferSize w).1.isOk = true) :
    ∃ stat, (get w).1 = .ok stat ∧ line.Reads stat := by
  obtain ⟨bytes, value⟩ := Outcome.isOk_iff.mp readable
  have read : readProcStat procStatBufferSize w =
      (.ok bytes, (readProcStat procStatBufferSize w).2) := Prod.ext value rfl
  obtain ⟨kept, keeps, cut⟩ : ∃ kept, Ending kept ∧ bytes = line.text ++ ascii kept := by
    rw [readProcStat_ok read, content, List.take_append, List.take_of_length_le fits]
    rcases ends with rfl | rfl
    · exact ⟨[], .inl rfl, by simp [ascii]⟩
    · cases room : procStatBufferSize - line.text.length with
      | zero => exact ⟨[], .inl rfl, rfl⟩
      | succ n => exact ⟨['\n'], .inr rfl, by simp [ascii]⟩
  rw [get_of_read read, cut, line.fromUtf8Lossy_text keeps]
  exact Line.parse_decoded range _ keeps

/-- A name with both ends of a name in it, and with a byte that is no text. -/
def deceptive : Line where
  pid := 100
  name := ascii "a) S 1 (b".toList ++ [0xFF]
  state := 'R'
  fields := List.replicate 49 7
  letter := rfl
  count := rfl

def deceived : World :=
  .boot { Env.calm with procStat _ := deceptive.text ++ ascii ['\n'] } stdio

theorem get_reads_deceptive : ∃ stat, (get deceived).1 = .ok stat ∧ deceptive.Reads stat :=
  get_reads deceptive ⟨by decide, by decide, by decide⟩ (by decide +kernel) (.inr rfl) rfl rfl

/-- A statistics file is answered with what it says or with an error about its form. -/
def Answers (o : Outcome ProcFsError ProcStat) : Prop :=
  (∃ stat, o = .ok stat) ∨ ∃ text, o = .err (.unexpectedProcStatFormat text)

/-- What is split at both ends of a name has the expected number of words behind it. -/
def Complete (text : List Char) : Prop :=
  ∀ textLeft textRight pidStr name, rsplitOnce ") ".toList text = some (textLeft, textRight) →
    splitOnce " (".toList textLeft = some (pidStr, name) →
    (splitWhitespace [] textRight).length = procStatNumEntries - 2

theorem Answers.bind {α : Type} {o : Outcome ProcFsError α} {f : α → Outcome ProcFsError ProcStat}
    (first : o.isOk = true ∨ ∃ text, o = .err (.unexpectedProcStatFormat text))
    (rest : ∀ a, Answers (f a)) : Answers (o >>= f) := by
  rcases first with ok | ⟨text, rfl⟩
  · obtain ⟨a, rfl⟩ := Outcome.isOk_iff.mp ok
    exact rest a
  · exact .inr ⟨text, rfl⟩

theorem field_answers (bound : Nat) (text : List Char) :
    (field bound text).isOk = true ∨ ∃ text',
      field bound text = .err (.unexpectedProcStatFormat text') := by
  unfold field
  cases parseUnsigned bound text with
  | none => exact .inr ⟨_, rfl⟩
  | some n => exact .inl rfl

theorem field32_answers (text : List Char) :
    (field32 text).isOk = true ∨ ∃ text', field32 text = .err (.unexpectedProcStatFormat text') := by
  unfold field32
  rcases field_answers UInt32.size text with ok | ⟨text', err⟩
  · obtain ⟨n, value⟩ := Outcome.isOk_iff.mp ok
    exact .inl (by rw [value]; rfl)
  · exact .inr ⟨text', by rw [err]; rfl⟩

theorem field64_answers (text : List Char) :
    (field64 text).isOk = true ∨ ∃ text', field64 text = .err (.unexpectedProcStatFormat text') := by
  unfold field64
  rcases field_answers UInt64.size text with ok | ⟨text', err⟩
  · obtain ⟨n, value⟩ := Outcome.isOk_iff.mp ok
    exact .inl (by rw [value]; rfl)
  · exact .inr ⟨text', by rw [err]; rfl⟩

theorem readFields_answers (pidStr : List Char) (rest : List (List Char)) :
    Answers (readFields pidStr rest) := by
  refine .bind (field32_answers _) fun _ => ?_
  refine .bind (field32_answers _) fun _ => ?_
  refine .bind (field64_answers _) fun _ => ?_
  refine .bind (field64_answers _) fun _ => ?_
  refine .bind (field64_answers _) fun _ => ?_
  refine .bind (field64_answers _) fun _ => ?_
  refine .bind (field64_answers _) fun _ => ?_
  refine .bind (field64_answers _) fun _ => ?_
  refine .bind (field64_answers _) fun _ => ?_
  refine .bind (field64_answers _) fun _ => ?_
  refine .bind (field64_answers _) fun _ => ?_
  exact .inl ⟨_, rfl⟩

theorem parse_answers_iff (text : List Char) : Answers (parse text) ↔ Complete text := by
  cases right : rsplitOnce ") ".toList text with
  | none =>
      refine iff_of_true (.inr ⟨String.ofList text, ?_⟩) ?_
      · simp only [parse, right, Outcome.ofOption, Outcome.bind_err]
      · intro textLeft textRight pidStr name found
        rw [right] at found
        cases found
  | some sides =>
      obtain ⟨textLeft, textRight⟩ := sides
      cases left : splitOnce " (".toList textLeft with
      | none =>
          refine iff_of_true (.inr ⟨String.ofList text, ?_⟩) ?_
          · simp only [parse, right, left, Outcome.ofOption, Outcome.bind_ok, Outcome.bind_err]
          · intro textLeft' textRight' pidStr name found opened
            rw [right] at found
            cases found
            rw [left] at opened
            cases opened
      | some sides =>
          obtain ⟨pidStr, name⟩ := sides
          have complete : Complete text ↔
              (splitWhitespace [] textRight).length = procStatNumEntries - 2 := by
            constructor
            · exact fun complete => complete textLeft textRight pidStr name right left
            · intro length textLeft' textRight' pidStr' name' found _
              rw [right] at found
              cases found
              exact length
          rw [complete, parse_of_split right left]
          split
          · next many =>
            refine iff_of_false ?_ (by omega)
            rintro (⟨stat, ok⟩ | ⟨text, err⟩)
            · cases ok
            · cases err
          · split
            · next other =>
              refine iff_of_false ?_ other
              rintro (⟨stat, ok⟩ | ⟨text, err⟩)
              · cases ok
              · cases err
            · next length => exact iff_of_true (readFields_answers _ _) (not_not.mp length)

theorem get_answers_iff (read : readProcStat procStatBufferSize w = (.ok bytes, w')) :
    Answers (get w).1 ↔ Complete (fromUtf8Lossy bytes) := by
  rw [get_of_read read]
  exact parse_answers_iff _

end ProcStat

namespace Server
open ProcStat
variable {s : Process} {w' : World} {bytes : Bytes}

theorem doing_isPanic {α : Type} {deed : World → α → Deed} {p : Prog World Errno α} {w : World} :
    (doing deed p w).1.isPanic = (p w).1.isPanic := by
  unfold doing
  split <;> next run => rw [run]

theorem sendMessage_returns (fd : RawFd) (message : Message) : Prog.Returns (sendMessage fd message) :=
  fun _ => doing_isPanic.trans attempt_not_panic

/-- A request for the statistics panics where reading them does. -/
theorem handleMessageStat_isPanic (fd : RawFd) (s : Process) :
    (handleMessageStat fd s).1.isPanic = (get s.world).1.isPanic := by
  have asked : (((ServerM.sys get).mapErr (ClientError.statRead fd)) s).1.isPanic =
      (get s.world).1.isPanic := Outcome.mapErr_isPanic
  rw [← asked, handleMessageStat, Prog.bind_apply]
  split
  · next proc t run =>
    have answered : ∀ message : Message, Prog.Returns (do
        (ServerM.sys (sendMessage fd message)).mapErr (ClientError.statResponse fd)
        pure LoopControl.continue : ServerM ClientError (LoopControl ServerControl)) :=
      fun message => .bind (.mapErr _ fun s => sendMessage_returns fd message s.world) fun _ => .pure _
    rw [answered, run]
    rfl
  · next run => rw [run]; rfl
  · next run => rw [run]; rfl

/-- Of the ways a file can be malformed, the number of its fields is the one that ends the
process. -/
theorem handleMessageStat_answers_iff
    (read : readProcStat procStatBufferSize s.world = (.ok bytes, w')) (fd : RawFd) :
    Answers (get s.world).1 ∧ (handleMessageStat fd s).1.isPanic = false ↔
      Complete (fromUtf8Lossy bytes) := by
  rw [handleMessageStat_isPanic, ← get_answers_iff read, and_iff_left_of_imp]
  rintro (⟨stat, ok⟩ | ⟨text, err⟩)
  · rw [ok]
    rfl
  · rw [err]
    rfl

/-- A server that has just been made, where the statistics file has the given contents. -/
def reading (content : Bytes) : Outcome ServerError Server × World :=
  Server.new false (.turtle none none) (.boot { Env.calm with procStat _ := content } stdio)

def reader (content : Bytes) (made : (reading content).1.isOk = true) : Process :=
  ⟨(reading content).1.get made, (reading content).2⟩

theorem handleMessageStat_answers_deceptive :
    let s := reader deceptive.text (by decide +kernel)
    Answers (get s.world).1 ∧ (handleMessageStat 6 s).1.isPanic = false ↔
      Complete (fromUtf8Lossy (deceptive.text.take procStatBufferSize)) :=
  handleMessageStat_answers_iff rfl 6

/-- The file ends behind the state of the process. -/
theorem handleMessageStat_not_answers :
    ¬∀ (s : Process) (bytes : Bytes) (w' : World) (fd : RawFd),
      readProcStat procStatBufferSize s.world = (.ok bytes, w') →
      Answers (get s.world).1 ∧ (handleMessageStat fd s).1.isPanic = false := by
  intro claim
  have survives := claim (reader (ascii "100 (zygote) S".toList) (by decide +kernel)) _ _ 6 rfl
  exact absurd survives.2 (by decide +kernel)

end Server
end Zygote
