import Zygote.Sys

/-!
# The name of a process

Where the C runtime has left the arguments, and how a child writes its name over them. An
address counts the bytes of the memory from its start.
-/
namespace Zygote
open Effect

structure CStr where
  bytes : Bytes
  free : 0 ∉ bytes
  deriving DecidableEq

/-- `CString::new` refuses bytes with a null among them. -/
def CStr.new (bytes : Bytes) : Option CStr := if free : 0 ∉ bytes then some ⟨bytes, free⟩ else none

def taskCommLen : Nat := 16

/-- The memory the arguments of the program are in. -/
structure ArgumentRegion where
  argv0 : Nat
  capacity : Nat
  deriving DecidableEq, Repr

/-- What a process is called: in its arguments, and in the name of its thread. -/
structure Naming where
  memory : Bytes
  arg : Option ArgumentRegion := none
  comm : Bytes := []
  deriving DecidableEq, Repr

namespace Naming
variable {ε : Type}

/-- `count_bytes` of the C string at an address. There is none without a null byte behind it. -/
def countBytes (memory : Bytes) (address : Nat) : Option Nat := (memory.drop address).findIdx? (· == 0)

/-- Overwrite the memory from an address on. Other memory is not there to be written to. -/
def write (address : Nat) (bytes : Bytes) : Prog Naming ε Unit := fun s =>
  if address + bytes.length ≤ s.memory.length then
    (.ok (), { s with memory := s.memory.take address ++
      (bytes ++ s.memory.drop (address + bytes.length)) })
  else (.panic "segmentation fault", s)

/-- Store where the arguments are. The subtraction of the addresses wraps around. -/
def argsInitializer (argv : List Nat) : Prog Naming ε Unit :=
  match argv.head?, argv.getLast? with
  | some first, some last => do
      let naming ← Prog.read
      match countBytes naming.memory last with
      | none => Prog.panic "segmentation fault"
      | some count =>
          let capacity := (last + (count + 1) + (0x10000000000000000 - first)) % 0x10000000000000000
          if capacity = 0 then Prog.panic "assertion failed: capacity > 0"
          else if first = 0 then Prog.panic "assertion failed: !argv_first_ptr.is_null()"
          else Prog.modify fun s => { s with arg := some ⟨first, capacity⟩ }
  | _, _ => Prog.panic "assertion failed: argc > 0"

/-- The buffer is longer than what is copied to it by at least the null byte. -/
def prctlSetName (name : Bytes) : Prog Naming ε Unit :=
  let copyLen := min name.length (taskCommLen - 1)
  Prog.modify fun s => { s with comm := name.take copyLen ++ List.replicate (taskCommLen - copyLen) 0 }

/-- Rename the process. The thread has room for the end of the name only, the arguments for its
beginning; what is left of them is cleared. -/
def setNewProcessName (newName : CStr) : Prog Naming ε Unit := do
  let startIdx := newName.bytes.length - (taskCommLen - 1)
  prctlSetName (newName.bytes.drop startIdx)
  let naming ← Prog.read
  match naming.arg with
  | none => pure ()
  | some arg => do
      let lenToCopy := min newName.bytes.length (arg.capacity - 1)
      write arg.argv0 (newName.bytes.take lenToCopy)
      write (arg.argv0 + lenToCopy) (List.replicate (arg.capacity - lenToCopy) 0)

def setNewProcessNames : List CStr → Prog Naming ε Unit
  | [] => pure ()
  | name :: rest => do
      setNewProcessName name
      setNewProcessNames rest

section layout

def layout (args : List CStr) : Bytes := args.flatMap fun arg => arg.bytes ++ [0]

def addresses (base : Nat) : List CStr → List Nat
  | [] => []
  | arg :: rest => base :: addresses (base + (arg.bytes.length + 1)) rest

def titled (capacity : Nat) (name : CStr) : Bytes :=
  name.bytes.take (capacity - 1) ++ List.replicate (capacity - min name.bytes.length (capacity - 1)) 0

def commOf (name : CStr) : Bytes :=
  name.bytes.drop (name.bytes.length - 15) ++ List.replicate (16 - min name.bytes.length 15) 0

end layout

section initializer
variable {before after : Bytes} {args : List CStr}

theorem countBytes_cstr (before after : Bytes) (text : CStr) :
    countBytes (before ++ (text.bytes ++ [0] ++ after)) before.length = some text.bytes.length := by
  have free : ∀ byte ∈ text.bytes, (byte == 0) = false := by
    intro byte mem
    simp only [beq_eq_false_iff_ne, ne_eq]
    rintro rfl
    exact text.free mem
  unfold countBytes
  rw [List.drop_left, List.append_assoc, List.findIdx?_append, List.findIdx?_eq_none_iff.mpr free]
  simp [List.findIdx?_cons]

theorem layout_cons (arg : CStr) (rest : List CStr) : layout (arg :: rest) = arg.bytes ++ [0] ++
    layout rest := rfl

theorem length_layout_cons (arg : CStr) (rest : List CStr) :
    (layout (arg :: rest)).length = arg.bytes.length + 1 + (layout rest).length := by
  simp only [layout_cons, List.length_append, List.length_singleton]

theorem last_address (nonempty : args ≠ []) : ∃ last count,
    (addresses before.length args).getLast? = some last ∧
      countBytes (before ++ (layout args ++ after)) last = some count ∧
      last + (count + 1) = before.length + (layout args).length := by
  induction args generalizing before with
  | nil => exact absurd rfl nonempty
  | cons arg rest ih =>
      by_cases alone : rest = []
      · subst alone
        refine ⟨before.length, arg.bytes.length, rfl, ?_, ?_⟩
        · have whole : layout [arg] = arg.bytes ++ [0] := List.append_nil _
          rw [whole]
          exact countBytes_cstr before after arg
        · rw [length_layout_cons]
          rfl
      · obtain ⟨last, count, address, counted, ends⟩ := @ih (before ++ (arg.bytes ++ [0])) alone
        have moved : (before ++ (arg.bytes ++ [0])).length =
          before.length + (arg.bytes.length + 1) := by simp
        rw [moved] at address ends
        refine ⟨last, count, ?_, ?_, ?_⟩
        · rw [addresses, List.getLast?_cons, address]
          rfl
        · rw [layout_cons, List.append_assoc (arg.bytes ++ [0]), ← List.append_assoc before]
          exact counted
        · rw [length_layout_cons]
          omega

theorem argsInitializer_finds (comm : Bytes) (started : before ≠ []) (nonempty : args ≠ [])
    (fits : (before ++ (layout args ++ after)).length < 0x10000000000000000) :
    (argsInitializer (addresses before.length args) : Prog Naming ε Unit)
        ⟨before ++ (layout args ++ after), none, comm⟩ =
      (.ok (),
        ⟨before ++ (layout args ++ after), some ⟨before.length, (layout args).length⟩, comm⟩) := by
  obtain ⟨last, count, address, counted, ends⟩ := @last_address before after args nonempty
  obtain ⟨arg, rest, rfl⟩ := List.exists_cons_of_ne_nil nonempty
  have inside : (layout (arg :: rest)).length < 0x10000000000000000 := by
    simp only [List.length_append] at fits
    omega
  have capacity : (last + (count + 1) + (0x10000000000000000 - before.length)) % 0x10000000000000000 =
      (layout (arg :: rest)).length := by
    have low : before.length < 0x10000000000000000 := by
      simp only [List.length_append] at fits
      omega
    rw [ends, show before.length + (layout (arg :: rest)).length +
      (0x10000000000000000 - before.length) =
      (layout (arg :: rest)).length + 0x10000000000000000 by
      omega, Nat.add_mod_right, Nat.mod_eq_of_lt inside]
  have positive : (layout (arg :: rest)).length ≠ 0 := by
    rw [length_layout_cons]
    omega
  have low : before.length ≠ 0 := fun empty => started (List.length_eq_zero_iff.mp empty)
  have read : ∀ s : Naming, (Prog.read : Prog Naming ε Naming) s = (.ok s, s) := fun _ => rfl
  unfold argsInitializer
  rw [address, show (addresses before.length (arg :: rest)).head? = some before.length from rfl]
  dsimp only
  rw [Prog.bind_of_ok (read _), counted]
  dsimp only
  rw [capacity, if_neg positive, if_neg low]
  rfl

end initializer

section rename
variable {before region after : Bytes}

theorem write_between {old new : Bytes} (same : new.length = old.length) (arg : Option ArgumentRegion)
    (comm : Bytes) : (write before.length new : Prog Naming ε Unit)
      ⟨before ++ (old ++ after), arg, comm⟩ =
      (.ok (), ⟨before ++ (new ++ after), arg, comm⟩) := by
  have inside : before.length + new.length ≤ (before ++ (old ++ after)).length := by
    simp only [List.length_append]
    omega
  have behind : (before ++ (old ++ after)).drop (before.length + new.length) = after := by
    rw [same, ← List.drop_drop, List.drop_left, List.drop_left]
  unfold write
  rw [if_pos inside, List.take_left, behind]

theorem length_titled {capacity : Nat} (positive : 0 < capacity) (name : CStr) :
    (titled capacity name).length = capacity := by
  simp only [titled, List.length_append, List.length_take, List.length_replicate]
  omega

theorem prctlSetName_end (name : CStr) (s : Naming) :
    (prctlSetName (name.bytes.drop (name.bytes.length - (taskCommLen - 1))) : Prog Naming ε Unit) s =
      (.ok (), { s with comm := commOf name }) := by
  have short : (name.bytes.drop (name.bytes.length - 15)).length = min name.bytes.length 15 := by
    rw [List.length_drop]
    omega
  unfold prctlSetName
  dsimp only [taskCommLen, Nat.reduceSub]
  rw [short, min_eq_left (Nat.min_le_right _ _), List.take_of_length_le (le_of_eq short)]
  rfl

theorem setNewProcessName_titles (name : CStr) (nonempty : region ≠ []) (comm : Bytes) :
    (setNewProcessName name : Prog Naming ε Unit)
        ⟨before ++ (region ++ after), some ⟨before.length, region.length⟩, comm⟩ =
      (.ok (), ⟨before ++ (titled region.length name ++ after), some ⟨before.length, region.length⟩,
        commOf name⟩) := by
  have positive : 0 < region.length := List.length_pos_of_ne_nil nonempty
  have read : ∀ s : Naming, (Prog.read : Prog Naming ε Naming) s = (.ok s, s) := fun _ => rfl
  obtain ⟨copied, hcopied⟩ : ∃ copied, copied = min name.bytes.length (region.length - 1) := ⟨_, rfl⟩
  have copy : (name.bytes.take copied).length = (region.take copied).length := by
    simp only [List.length_take]
    omega
  have clear : (List.replicate (region.length - copied) (0 : UInt8)).length =
    (region.drop copied).length := by
    simp only [List.length_replicate, List.length_drop]
  have first := @write_between ε before (region.drop copied ++ after) _ _ copy
    (some ⟨before.length, region.length⟩) (commOf name)
  have second := @write_between ε (before ++ name.bytes.take copied) after _ _ clear
    (some ⟨before.length, region.length⟩) (commOf name)
  have written : (before ++ name.bytes.take copied).length = before.length + copied := by
    rw [List.length_append, List.length_take]
    omega
  have whole : region.take copied ++ (region.drop copied ++ after) = region ++ after := by
    rw [← List.append_assoc, List.take_append_drop]
  rw [whole] at first
  rw [written, List.append_assoc, List.append_assoc] at second
  have kept : name.bytes.take copied = name.bytes.take (region.length - 1) := by
    refine List.take_eq_take_iff.mpr ?_
    omega
  unfold setNewProcessName
  rw [Prog.bind_of_ok (prctlSetName_end name _), Prog.bind_of_ok (read _)]
  dsimp only
  rw [← hcopied, Prog.bind_of_ok first, second, kept, titled, ← hcopied, List.append_assoc]

end rename

section title
variable {before after : Bytes} {args : List CStr}

/-- Renaming again and again leaves the last name, without a trace of those before it. -/
theorem setNewProcessNames_titles {region : Bytes} (names : List CStr) (last : CStr)
    (nonempty : region ≠ [])
    (comm : Bytes) : (setNewProcessNames (names ++ [last]) : Prog Naming ε Unit)
        ⟨before ++ (region ++ after), some ⟨before.length, region.length⟩, comm⟩ =
      (.ok (), ⟨before ++ (titled region.length last ++ after), some ⟨before.length, region.length⟩,
        commOf last⟩) := by
  induction names generalizing region comm with
  | nil =>
      rw [List.nil_append, setNewProcessNames,
        Prog.bind_of_ok (setNewProcessName_titles last nonempty comm)]
      rfl
  | cons name rest ih =>
      have positive : 0 < region.length := List.length_pos_of_ne_nil nonempty
      have same := length_titled positive name
      have longer : 0 < (titled region.length name).length := positive.trans_eq same.symm
      have renamed := @ih (titled region.length name) (List.ne_nil_of_length_pos longer) (commOf name)
      rw [same] at renamed
      rw [List.cons_append, setNewProcessNames,
        Prog.bind_of_ok (setNewProcessName_titles name nonempty comm), renamed]

/-- However a process was started, and however often it was renamed: its arguments read as the last
name, as far as there is room for it, and nothing around them has changed. -/
theorem names_titled (comm : Bytes) (names : List CStr) (last : CStr) (started : before ≠ [])
    (nonempty : args ≠ []) (fits : (before ++ (layout args ++ after)).length < 0x10000000000000000) :
    ∃ title : CStr, title.bytes = last.bytes.take ((layout args).length - 1) ∧
      (do
          argsInitializer (addresses before.length args)
          setNewProcessNames (names ++ [last]) : Prog Naming ε Unit)
        ⟨before ++ (layout args ++ after), none, comm⟩ =
        (.ok (), ⟨before ++ (title.bytes ++
          List.replicate ((layout args).length - title.bytes.length) 0 ++ after),
          some ⟨before.length, (layout args).length⟩, commOf last⟩) := by
  have free : 0 ∉ last.bytes.take ((layout args).length - 1) :=
    fun mem => last.free (List.mem_of_mem_take mem)
  have filled : layout args ≠ [] := by
    obtain ⟨arg, rest, rfl⟩ := List.exists_cons_of_ne_nil nonempty
    simp [layout_cons]
  refine ⟨⟨_, free⟩, rfl, ?_⟩
  rw [Prog.bind_of_ok (argsInitializer_finds comm started nonempty fits),
    setNewProcessNames_titles names last filled comm, titled, List.length_take, Nat.min_comm]

def zygoteArguments : List CStr :=
  [⟨"zygote".toUTF8.data.toList, by decide⟩, ⟨"3".toUTF8.data.toList, by decide⟩]
def childName : CStr := ⟨"zygote-child".toUTF8.data.toList, by decide⟩
def appName : CStr := ⟨"org.app".toUTF8.data.toList, by decide⟩

theorem names_titled_app : ∃ title : CStr, title.bytes = "org.app".toUTF8.data.toList ∧
    (do argsInitializer (addresses 1 zygoteArguments); setNewProcessNames ([childName] ++ [appName]) :
      Prog Naming Empty Unit) ⟨[1] ++ (layout zygoteArguments ++ [2]), none, []⟩ =
        (.ok (), ⟨[1] ++ (title.bytes ++ List.replicate (9 - title.bytes.length) 0 ++ [2]),
          some ⟨1, 9⟩, commOf appName⟩) := by
  have size : (layout zygoteArguments).length = 9 := by decide
  have titled := @names_titled Empty [1] [2] zygoteArguments [] [childName] appName
    (by decide) (by decide)
    (by decide)
  rw [size] at titled
  exact titled

end title
end Naming
end Zygote
