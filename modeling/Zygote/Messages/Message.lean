import Zygote.ArrayVec
import Zygote.Effect
import Zygote.Messages.Inner

/-!
# Messages and their decoding

The helper types of the protocol and the code the derive macros generate for them. The
fields of a message are computed in the order they are declared in, and the first one
that panics or fails decides.
-/
namespace Zygote
open Effect

def gidVectorSize : Nat := 32
def rlimitVectorSize : Nat := 16
def messageArgBufferMax : Nat := 32
def messageBufferSize : Nat := 2048

abbrev CapabilityFlags := BitVec 64

/-- The capabilities 0 to 40 are known. -/
def CapabilityFlags.all : CapabilityFlags := 0x1FFFFFFFFFF

def CapabilityFlags.fromBitsTruncate (bits : UInt64) : CapabilityFlags :=
  bits.toBitVec &&& CapabilityFlags.all

/-- Parameters common to all spawn operations. -/
structure SpawnParamsCommon where
  selinuxFlags : Option UInt64
  noNewPrivs : Option Bool
  uid : Option Int32
  gid : Option Int32
  processName : Option String
  priorityInitial : Option Int32
  priorityFinal : Option Int32
  capEffective : Option CapabilityFlags
  capPermitted : Option CapabilityFlags
  capInheritable : Option CapabilityFlags
  capBound : Option CapabilityFlags
  seInfo : Option String
  secondaryGroups : ArrayVec UInt32 gidVectorSize
  rlimits : ArrayVec Inner.RLimitData rlimitVectorSize
  deriving DecidableEq

/-- Species-specific spawn data. -/
inductive SpawnPayload where
  | androidNative (preloadingCmd : Option (List UInt8)) (package : String) (startSeq : Int64)
      (targetSdkVersion : Int32) (runtimeFlags : UInt32) (topApp : Bool)
  | androidNativeSubspecies (targetSdkVersion : Int32) (runtimeFlags : UInt32)
      (libraryPath libraryDirs permittedLibraryPaths : String) (shared : Bool)
      (zipPath nativeSharedLibPath : String) (preloadFunc : Option String)
      (uidGidMin uidGidMax : UInt32)
  | libApp (path : String) (args : ArrayVec String messageArgBufferMax)
  | mock (name : String)
  deriving DecidableEq

/-- Messages used in the server protocol. -/
inductive Message where
  | ackResponse
  | exit
  | identityQuery
  | identityQueryResponse (name species arch : String)
  | spawn (common : SpawnParamsCommon) (payload : SpawnPayload)
  | spawnSubspecies (common : SpawnParamsCommon) (socketPath : String) (payload : SpawnPayload)
  | spawnResponse (pid : Int32)
  | stat
  | statResponse (pid pgrp : UInt32)
      (minflt cminflt majflt cmajflt utime stime numThreads vsize rss : UInt64)
  deriving DecidableEq

inductive MessageError where
  | invalidFlatBuffer
  | unknownVariant (name : String) (tag : UInt8)
  deriving DecidableEq, Repr

namespace Message

def getSpawnParams : Message → Option SpawnParamsCommon
  | .spawn common _ | .spawnSubspecies common _ _ => some common
  | _ => none

def getSpawnPayload : Message → Option SpawnPayload
  | .spawn _ payload | .spawnSubspecies _ _ payload => some payload
  | _ => none

end Message

section unmarshal

/-- `collect` into a vector of fixed capacity. -/
def collectArrayVec {α : Type} {capacity : Nat} (l : List α) :
    Outcome MessageError (ArrayVec α capacity) :=
  match ArrayVec.collect l with
  | some v => .ok v
  | none => .panic "ArrayVec: capacity exceeded in extend/from_iter"

/-- The bit pattern of all ones stands for an absent set. -/
def unmarshalCapabilityFlags (cap : UInt64) : Option CapabilityFlags :=
  if cap = -1 then none else some (CapabilityFlags.fromBitsTruncate cap)

def unmarshalLibappArgs (args : List String) :
    Outcome MessageError (ArrayVec String messageArgBufferMax) := collectArrayVec args

def unmarshalRlimits (rlimits : List Inner.RLimitData) :
    Outcome MessageError (ArrayVec Inner.RLimitData rlimitVectorSize) := collectArrayVec rlimits

def unmarshalSecondaryGroups : Option (List UInt32) →
    Outcome MessageError (ArrayVec UInt32 gidVectorSize)
  | some groups => collectArrayVec groups
  | none => .ok .empty

def unmarshalPreloadingCmd : Option (List UInt8) → Option (List UInt8)
  | some (byte :: rest) => some (byte :: rest)
  | _ => none

/-- A scalar outside the valid range of its field is absent. -/
def validRange {α : Type} (range : α → Bool) (value : α) : Option α :=
  if range value then some value else none

def SpawnParamsCommon.fromTable (source : Inner.SpawnCommon) :
    Outcome MessageError SpawnParamsCommon := do
  let secondaryGroups ← unmarshalSecondaryGroups source.secondaryGroups
  let rlimits ← unmarshalRlimits source.rlimits
  .ok {
    selinuxFlags := validRange (fun _ => true) source.selinuxFlags
    noNewPrivs := validRange (fun _ => true) source.noNewPrivs
    uid := validRange (1 ≤ ·) source.uid
    gid := validRange (1 ≤ ·) source.gid
    processName := source.processName
    priorityInitial := validRange (fun p => -20 ≤ p && p < 20) source.priorityInitial
    priorityFinal := validRange (fun p => -20 ≤ p && p < 20) source.priorityFinal
    capEffective := unmarshalCapabilityFlags source.capEffective
    capPermitted := unmarshalCapabilityFlags source.capPermitted
    capInheritable := unmarshalCapabilityFlags source.capInheritable
    capBound := unmarshalCapabilityFlags source.capBound
    seInfo := source.seInfo
    secondaryGroups, rlimits }

/-- `from_spawn` and `from_spawn_subspecies`: the code is the same for both sources. -/
def SpawnPayload.fromUnion : Inner.SpawnPayload → Outcome MessageError SpawnPayload
  | .spawnAndroidNative t =>
      .ok (.androidNative (unmarshalPreloadingCmd t.preloadingCmd) t.package t.startSeq
        t.targetSdkVersion t.runtimeFlags t.topApp)
  | .spawnSubspeciesAndroidNative t =>
      .ok (.androidNativeSubspecies t.targetSdkVersion t.runtimeFlags t.libraryPath t.libraryDirs
        t.permittedLibraryPaths t.shared t.zipPath t.nativeSharedLibPath t.preloadFunc t.uidGidMin
        t.uidGidMax)
  | .spawnLibApp t => do
      let args ← unmarshalLibappArgs t.args
      .ok (.libApp t.path args)
  | .spawnMock t => .ok (.mock t.name)
  | .other tag _ => .err (.unknownVariant "SpawnPayload" tag)

/-- A field marked as a table is expected, though the schema does not require it. -/
def commonFromTable : Option Inner.SpawnCommon → Outcome MessageError SpawnParamsCommon
  | some table => SpawnParamsCommon.fromTable table
  | none => .panic "Missing table in flatbuffer"

def Message.fromParcel (parcel : Inner.Parcel) : Outcome MessageError Message :=
  match parcel.message with
  | .ack => .ok .ackResponse
  | .exit => .ok .exit
  | .identityQuery => .ok .identityQuery
  | .identityQueryResponse t => .ok (.identityQueryResponse t.name t.species t.arch)
  | .spawn t => do
      let common ← commonFromTable t.common
      let payload ← SpawnPayload.fromUnion t.payload
      .ok (.spawn common payload)
  | .spawnSubspecies t => do
      let common ← commonFromTable t.common
      let payload ← SpawnPayload.fromUnion t.payload
      .ok (.spawnSubspecies common t.socketPath payload)
  | .spawnResponse t => .ok (.spawnResponse t.pid)
  | .stat => .ok .stat
  | .statResponse t =>
      .ok (.statResponse t.pid t.pgrp t.minflt t.cminflt t.majflt t.cmajflt t.utime t.stime
        t.numThreads t.vsize t.rss)
  | .other tag _ => .err (.unknownVariant "Message" tag)

/-- Decode a buffer. `root` is the verifier's `root::<Parcel>`: it reads a parcel or
rejects the buffer. -/
def Message.tryFromParcel (root : List UInt8 → Option Inner.Parcel) (buffer : List UInt8) :
    Outcome MessageError Message :=
  match root buffer with
  | none => .err .invalidFlatBuffer
  | some parcel => Message.fromParcel parcel

end unmarshal

section marshal

def marshalCapabilityFlags : Option CapabilityFlags → UInt64
  | some cap => ⟨cap⟩
  | none => -1

def marshalString : Option String → Option String
  | some name => some name
  | none => some ""

def SpawnParamsCommon.marshal (p : SpawnParamsCommon) : Inner.SpawnCommon where
  selinuxFlags := p.selinuxFlags.getD 0
  noNewPrivs := p.noNewPrivs.getD false
  uid := p.uid.getD (-1)
  gid := p.gid.getD (-1)
  processName := marshalString p.processName
  priorityInitial := p.priorityInitial.getD Int32.maxValue
  priorityFinal := p.priorityFinal.getD Int32.maxValue
  capEffective := marshalCapabilityFlags p.capEffective
  capPermitted := marshalCapabilityFlags p.capPermitted
  capInheritable := marshalCapabilityFlags p.capInheritable
  capBound := marshalCapabilityFlags p.capBound
  seInfo := marshalString p.seInfo
  secondaryGroups := some p.secondaryGroups.toList
  rlimits := p.rlimits.toList

def SpawnPayload.marshal : SpawnPayload → Inner.SpawnPayload
  | .androidNative preloadingCmd package startSeq targetSdkVersion runtimeFlags topApp =>
      .spawnAndroidNative ⟨some (preloadingCmd.getD []), package, startSeq, targetSdkVersion,
        runtimeFlags, topApp⟩
  | .androidNativeSubspecies targetSdkVersion runtimeFlags libraryPath libraryDirs
      permittedLibraryPaths shared zipPath nativeSharedLibPath preloadFunc uidGidMin uidGidMax =>
      .spawnSubspeciesAndroidNative ⟨targetSdkVersion, runtimeFlags, libraryPath, libraryDirs,
        permittedLibraryPaths, shared, zipPath, nativeSharedLibPath, some (preloadFunc.getD ""),
        uidGidMin, uidGidMax⟩
  | .libApp path args => .spawnLibApp ⟨path, args.toList⟩
  | .mock name => .spawnMock ⟨name⟩

def Message.marshal : Message → Inner.Message
  | .ackResponse => .ack
  | .exit => .exit
  | .identityQuery => .identityQuery
  | .identityQueryResponse name species arch => .identityQueryResponse ⟨name, species, arch⟩
  | .spawn common payload => .spawn ⟨some common.marshal, payload.marshal⟩
  | .spawnSubspecies common socketPath payload =>
      .spawnSubspecies ⟨some common.marshal, socketPath, payload.marshal⟩
  | .spawnResponse pid => .spawnResponse ⟨pid⟩
  | .stat => .stat
  | .statResponse pid pgrp minflt cminflt majflt cmajflt utime stime numThreads vsize rss =>
      .statResponse ⟨pid, pgrp, minflt, cminflt, majflt, cmajflt, utime, stime, numThreads, vsize,
        rss⟩

def Message.toParcel (message : Message) : Inner.Parcel := ⟨message.marshal⟩

end marshal

namespace SpawnParamsCommon

/-- The elements of a list without their repetitions, in order of first occurrence. -/
def unique {α : Type} [DecidableEq α] : List α → List α
  | [] => []
  | a :: rest => a :: (unique rest).filter (· ≠ a)

/-- Take optional arguments from `other` if they are missing. The combined lists are
collected into the same capacities. -/
def or (self other : SpawnParamsCommon) : Outcome MessageError SpawnParamsCommon := do
  let secondaryGroups ←
    collectArrayVec (unique (self.secondaryGroups.toList ++ other.secondaryGroups.toList))
  let rlimits ← collectArrayVec (self.rlimits.toList ++ other.rlimits.toList)
  .ok {
    selinuxFlags := self.selinuxFlags.or other.selinuxFlags
    noNewPrivs := self.noNewPrivs.or other.noNewPrivs
    uid := self.uid.or other.uid
    gid := self.gid.or other.gid
    processName := self.processName.or other.processName
    priorityInitial := self.priorityInitial.or other.priorityInitial
    priorityFinal := self.priorityFinal.or other.priorityFinal
    capEffective := self.capEffective.or other.capEffective
    capPermitted := self.capPermitted.or other.capPermitted
    capInheritable := self.capInheritable.or other.capInheritable
    capBound := self.capBound.or other.capBound
    seInfo := self.seInfo.or other.seInfo
    secondaryGroups, rlimits }

end SpawnParamsCommon
end Zygote
