import Zygote.Messages.RoundTrip

/-!
# The way of a payload

Whatever the parameters beside it, a payload is packed and unpacked field by field. What
comes back is what was sent but for the two optional fields, which are packed as values.
-/
namespace Zygote
open Effect

namespace SpawnPayload

/-- What was sent comes back; only an empty preloading command may come back as none. -/
inductive Returned : SpawnPayload → SpawnPayload → Prop
  | same (payload : SpawnPayload) : Returned payload payload
  | emptied (package : String) (startSeq : Int64) (targetSdkVersion : Int32)
      (runtimeFlags : UInt32) (topApp : Bool) :
      Returned (.androidNative (some []) package startSeq targetSdkVersion runtimeFlags topApp)
        (.androidNative none package startSeq targetSdkVersion runtimeFlags topApp)

/-- A payload of the kind that has a preload function says which. -/
def NamesPreloadFunc : SpawnPayload → Prop
  | .androidNativeSubspecies _ _ _ _ _ _ _ _ preloadFunc _ _ => preloadFunc.isSome
  | _ => True

theorem filled_returned_iff (payload : SpawnPayload) :
    payload.Returned payload.filled ↔ payload.NamesPreloadFunc := by
  cases payload with
  | androidNative preloadingCmd package startSeq targetSdkVersion runtimeFlags topApp =>
      refine iff_of_true ?_ trivial
      match preloadingCmd with
      | none => exact .same _
      | some [] => exact .emptied ..
      | some (byte :: rest) => exact .same _
  | androidNativeSubspecies targetSdkVersion runtimeFlags libraryPath libraryDirs
      permittedLibraryPaths shared zipPath nativeSharedLibPath preloadFunc uidGidMin uidGidMax =>
      cases preloadFunc with
      | some name => exact iff_of_true (.same _) rfl
      | none =>
          refine iff_of_false ?_ (by simp [NamesPreloadFunc])
          intro returned
          cases returned
  | libApp | mock => exact iff_of_true (.same _) trivial

end SpawnPayload

/-- The lists of packed parameters fit again, so unpacking them cannot fail. -/
theorem SpawnParamsCommon.fromTable_marshal_ok (p : SpawnParamsCommon) :
    ∃ p', fromTable p.marshal = .ok p' := by
  simp only [fromTable, marshal, unmarshalSecondaryGroups, unmarshalRlimits, collectArrayVec_toList,
    Outcome.bind_ok]
  exact ⟨_, rfl⟩

/-- Every message that carries a payload is decoded again, and carries what decoding makes
of that payload. -/
theorem Message.fromParcel_payload {message : Message} {payload : SpawnPayload}
    (carried : message.getSpawnPayload = some payload) :
    ∃ decoded, fromParcel message.toParcel = .ok decoded ∧
      decoded.getSpawnPayload = some payload.filled := by
  cases message with
  | spawn common _ =>
      cases carried
      obtain ⟨common', unpacked⟩ := common.fromTable_marshal_ok
      refine ⟨.spawn common' payload.filled, ?_, rfl⟩
      simp only [fromParcel, toParcel, marshal, commonFromTable, unpacked,
        SpawnPayload.fromUnion_marshal, Outcome.bind_ok]
  | spawnSubspecies common socketPath _ =>
      cases carried
      obtain ⟨common', unpacked⟩ := common.fromTable_marshal_ok
      refine ⟨.spawnSubspecies common' socketPath payload.filled, ?_, rfl⟩
      simp only [fromParcel, toParcel, marshal, commonFromTable, unpacked,
        SpawnPayload.fromUnion_marshal, Outcome.bind_ok]
  | ackResponse | exit | identityQuery | identityQueryResponse | spawnResponse | stat
    | statResponse => cases carried

/-- A payload survives the way in a message exactly when it is not one whose preload
function is absent: that comes back as the empty name. -/
theorem payload_returned_iff {root : List UInt8 → Option Inner.Parcel}
    {finishedData : Inner.Parcel → List UInt8} {message : Message} {payload : SpawnPayload}
    (carried : message.getSpawnPayload = some payload)
    (reads : root (finishedData message.toParcel) = some message.toParcel) :
    (∃ decoded got, Message.tryFromParcel root (finishedData message.toParcel) = .ok decoded ∧
        decoded.getSpawnPayload = some got ∧ payload.Returned got) ↔
      payload.NamesPreloadFunc := by
  obtain ⟨decoded, unpacked, kept⟩ := Message.fromParcel_payload carried
  have read : Message.tryFromParcel root (finishedData message.toParcel) = .ok decoded := by
    simp only [Message.tryFromParcel, reads, unpacked]
  rw [← SpawnPayload.filled_returned_iff]
  constructor
  · rintro ⟨other, got, run, carries, returned⟩
    rw [read] at run
    cases run
    rw [kept] at carries
    cases carries
    exact returned
  · intro returned
    exact ⟨decoded, payload.filled, read, kept, returned⟩

theorem payload_returned_native :
    (∃ decoded got, Message.tryFromParcel rootNative nativeSpawnData = .ok decoded ∧
        decoded.getSpawnPayload = some got ∧ nativePayload.Returned got) ↔
      nativePayload.NamesPreloadFunc :=
  @payload_returned_iff rootNative (fun _ => nativeSpawnData) nativeSpawn nativePayload rfl
    rootNative_finished

/-- A payload without a preload function, as empty as it can be. -/
def bareSubspecies : SpawnPayload := .androidNativeSubspecies 0 0 "" "" "" false "" "" none 0 0

/-- Its finished data in a `Spawn` message with no parameter set. -/
def bareSubspeciesData : List UInt8 :=
  [16, 0, 0, 0, 0, 0, 0, 0, 8, 0, 14, 0, 7, 0, 8, 0, 8, 0, 0, 0, 0, 0, 0, 5, 16, 0, 0, 0, 0, 0,
   10, 0, 18, 0, 8, 0, 7, 0, 12, 0, 10, 0, 0, 0, 0, 0, 0, 2, 140, 0, 0, 0, 28, 0, 0, 0, 0, 0, 22,
   0, 28, 0, 0, 0, 0, 0, 4, 0, 8, 0, 12, 0, 0, 0, 16, 0, 20, 0, 24, 0, 22, 0, 0, 0, 64, 0, 0, 0,
   52, 0, 0, 0, 40, 0, 0, 0, 28, 0, 0, 0, 16, 0, 0, 0, 4, 0, 0, 0, 0, 0, 0, 0, 0, 0, 0, 0, 0, 0,
   0, 0, 0, 0, 0, 0, 0, 0, 0, 0, 0, 0, 0, 0, 0, 0, 0, 0, 0, 0, 0, 0, 0, 0, 0, 0, 0, 0, 0, 0, 0, 0,
   0, 0, 0, 0, 0, 0, 32, 0, 72, 0, 0, 0, 0, 0, 4, 0, 8, 0, 12, 0, 16, 0, 20, 0, 36, 0, 44, 0, 52,
   0, 60, 0, 24, 0, 28, 0, 32, 0, 32, 0, 0, 0, 255, 255, 255, 255, 255, 255, 255, 255, 80, 0, 0,
   0, 255, 255, 255, 127, 255, 255, 255, 127, 60, 0, 0, 0, 52, 0, 0, 0, 40, 0, 0, 0, 255, 255,
   255, 255, 255, 255, 255, 255, 255, 255, 255, 255, 255, 255, 255, 255, 255, 255, 255, 255, 255,
   255, 255, 255, 255, 255, 255, 255, 255, 255, 255, 255, 0, 0, 0, 0, 0, 0, 0, 0, 0, 0, 0, 0, 0,
   0, 0, 0, 0, 0, 0, 0, 0, 0, 0, 0, 0, 0, 0, 0, 0, 0, 0, 0]

theorem payload_not_returned : ¬∀ (root : List UInt8 → Option Inner.Parcel)
    (finishedData : Inner.Parcel → List UInt8) (message decoded : Message)
    (payload got : SpawnPayload), message.getSpawnPayload = some payload →
    root (finishedData message.toParcel) = some message.toParcel →
    Message.tryFromParcel root (finishedData message.toParcel) = .ok decoded →
    decoded.getSpawnPayload = some got → payload.Returned got := by
  intro claim
  let root : List UInt8 → Option Inner.Parcel := fun buffer =>
    if buffer = bareSubspeciesData then some (Message.spawn .unset bareSubspecies).toParcel else none
  have reads : root bareSubspeciesData = some (Message.spawn .unset bareSubspecies).toParcel :=
    if_pos rfl
  have decoded : Message.tryFromParcel root bareSubspeciesData =
      .ok (.spawn SpawnParamsCommon.unset.filled bareSubspecies.filled) := by
    simp only [Message.tryFromParcel, reads]
    rfl
  have returned := claim root (fun _ => bareSubspeciesData) (.spawn .unset bareSubspecies) _
    bareSubspecies bareSubspecies.filled rfl reads decoded rfl
  cases returned

end Zygote
