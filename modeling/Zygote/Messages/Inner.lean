import Mathlib.Tactic.Common

/-!
# Verified parcels

The tables of `schemas/messages.fbs` as the verifier lets them through: a required
field is a value, an optional string, vector or table may be absent, and a scalar that
was left out has its schema default. A union carries the table its tag announces, or
a tag the schema does not have.
-/
namespace Zygote.Inner

structure RLimitData where
  resource : UInt32
  hard : UInt64
  soft : UInt64
  deriving DecidableEq, Repr

structure IdentityQueryResponse where
  name : String
  species : String
  arch : String
  deriving DecidableEq, Repr

structure SpawnAndroidNative where
  preloadingCmd : Option (List UInt8)
  package : String
  startSeq : Int64
  targetSdkVersion : Int32
  runtimeFlags : UInt32
  topApp : Bool
  deriving DecidableEq, Repr

structure SpawnSubspeciesAndroidNative where
  targetSdkVersion : Int32
  runtimeFlags : UInt32
  libraryPath : String
  libraryDirs : String
  permittedLibraryPaths : String
  shared : Bool
  zipPath : String
  nativeSharedLibPath : String
  preloadFunc : Option String
  uidGidMin : UInt32
  uidGidMax : UInt32
  deriving DecidableEq, Repr

structure SpawnMock where
  name : String
  deriving DecidableEq, Repr

structure SpawnLibApp where
  path : String
  args : List String
  deriving DecidableEq, Repr

inductive SpawnPayload where
  | spawnAndroidNative (table : SpawnAndroidNative)
  | spawnSubspeciesAndroidNative (table : SpawnSubspeciesAndroidNative)
  | spawnLibApp (table : SpawnLibApp)
  | spawnMock (table : SpawnMock)
  | other (tag : UInt8) (unknown : tag = 0 ∨ 4 < tag)
  deriving DecidableEq, Repr

structure SpawnCommon where
  selinuxFlags : UInt64
  noNewPrivs : Bool
  uid : Int32
  gid : Int32
  processName : Option String
  priorityInitial : Int32
  priorityFinal : Int32
  capEffective : UInt64
  capPermitted : UInt64
  capInheritable : UInt64
  capBound : UInt64
  seInfo : Option String
  secondaryGroups : Option (List UInt32)
  rlimits : List RLimitData
  deriving DecidableEq, Repr

structure Spawn where
  common : Option SpawnCommon
  payload : SpawnPayload
  deriving DecidableEq, Repr

structure SpawnSubspecies where
  common : Option SpawnCommon
  socketPath : String
  payload : SpawnPayload
  deriving DecidableEq, Repr

structure SpawnResponse where
  pid : Int32
  deriving DecidableEq, Repr

structure StatResponse where
  pid : UInt32
  pgrp : UInt32
  minflt : UInt64
  cminflt : UInt64
  majflt : UInt64
  cmajflt : UInt64
  utime : UInt64
  stime : UInt64
  numThreads : UInt64
  vsize : UInt64
  rss : UInt64
  deriving DecidableEq, Repr

inductive Message where
  | ack
  | exit
  | identityQuery
  | identityQueryResponse (table : IdentityQueryResponse)
  | spawn (table : Spawn)
  | spawnSubspecies (table : SpawnSubspecies)
  | spawnResponse (table : SpawnResponse)
  | stat
  | statResponse (table : StatResponse)
  | other (tag : UInt8) (unknown : tag = 0 ∨ 9 < tag)
  deriving DecidableEq, Repr

/-- The root table. A parcel without a message has the tag 0. -/
structure Parcel where
  message : Message
  deriving DecidableEq, Repr

end Zygote.Inner
