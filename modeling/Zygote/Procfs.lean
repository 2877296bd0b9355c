import Zygote.FileDescriptors.Info
import Zygote.Sockets

/-!
# The proc file system

`ProcStat::get` reads `/proc/self/stat` into a buffer and picks its fields by their
position behind the command name. `ProcFdIterator` goes through the names in
`/proc/self/fd`.
-/
namespace Zygote
open Effect

/-- Information gathered from `/proc/self/stat`. -/
structure ProcStat where
  pid : UInt32
  pgrp : UInt32
  minflt : UInt64
  cminflt : UInt64
  majflt : UInt64
  cmajflt : UInt64
  utime : UInt64
  stime : UInt64
  numThreads : UInt64
  vsize : UInt64
  rss : UInt64
  deriving DecidableEq, Repr

namespace ProcStat

def procStatBufferSize : Nat := 512
def procStatNumEntries : Nat := 52

/-- An integer field; the error carries its text. -/
def field (bound : Nat) (text : List Char) : Outcome ProcFsError Nat :=
  Outcome.ofOption (.unexpectedProcStatFormat (String.ofList text)) (Text.parseUnsigned bound text)

def field32 (text : List Char) : Outcome ProcFsError UInt32 := UInt32.ofNat <$> field UInt32.size text
def field64 (text : List Char) : Outcome ProcFsError UInt64 := UInt64.ofNat <$> field UInt64.size text

/-- The fields behind the command name must be all there: the collection has room for
two more than are expected, and the assertion wants exactly those. -/
def parse (text : List Char) : Outcome ProcFsError ProcStat := do
  let unexpected : ProcFsError := .unexpectedProcStatFormat (String.ofList text)
  let (textLeft, textRight) ← Outcome.ofOption unexpected (Text.rsplitOnce ") ".toList text)
  let (pidStr, _) ← Outcome.ofOption unexpected (Text.splitOnce " (".toList textLeft)
  let rest := Text.splitWhitespace [] textRight
  if procStatNumEntries < rest.length then .panic "ArrayVec: capacity exceeded in extend/from_iter"
  else if rest.length ≠ procStatNumEntries - 2 then .panic "assertion `left == right` failed"
  else
    let entry (i : Nat) : List Char := rest.getD i []
    let pid ← field32 pidStr
    let pgrp ← field32 (entry 2)
    let minflt ← field64 (entry 7)
    let cminflt ← field64 (entry 8)
    let majflt ← field64 (entry 9)
    let cmajflt ← field64 (entry 10)
    let utime ← field64 (entry 11)
    let stime ← field64 (entry 12)
    let numThreads ← field64 (entry 17)
    let vsize ← field64 (entry 20)
    let rss ← field64 (entry 21)
    .ok { pid, pgrp, minflt, cminflt, majflt, cmajflt, utime, stime, numThreads, vsize, rss }

def get : Prog World ProcFsError ProcStat := do
  let bytes ← (readProcStat procStatBufferSize).mapErr .inaccessibleProcStat
  Prog.lift (parse (Text.fromUtf8Lossy bytes))

end ProcStat

namespace ProcFdIterator

/-- Does the name begin with an ASCII digit? -/
def startsWithDigit (dirEntry : Bytes) : Bool := dirEntry.head?.any fun c => 48 ≤ c && c ≤ 57

/-- The number a name stands for. Other names are passed over, and so is the number the
directory itself is open under. -/
def nextFd (dirFd : RawFd) (dirEntry : Bytes) : Except ProcFsError (Option RawFd) :=
  if !startsWithDigit dirEntry then .ok none
  else
    match String.fromUTF8? dirEntry.toByteArray with
    | none => .error .utf8
    | some text =>
      match Text.parseSigned 0x80000000 text.toList with
      | none => .error .invalidProcEntry
      | some openFd => .ok (if dirFd ≠ openFd then some openFd else none)

/-- `Result::transpose` -/
def transpose : Except ProcFsError (Option RawFd) → Option (Except ProcFsError RawFd)
  | .ok none => none
  | .ok (some fd) => some (.ok fd)
  | .error error => some (.error error)

/-- The items of the iterator over the names `readdir` gives. -/
def items (dirFd : RawFd) (dirEntries : List Bytes) : List (Except ProcFsError RawFd) :=
  dirEntries.filterMap fun dirEntry => transpose (nextFd dirFd dirEntry)

end ProcFdIterator
end Zygote
