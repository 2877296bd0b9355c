import Zygote.Messages.Message

/-!
# Encoding and decoding again

An absent field is encoded as a value. For most fields it is one that decoding takes for
an absent field; for the others decoding finds a value that was never set. `filled` is what
decoding makes of an encoded message.
-/
namespace Zygote
open Effect

/-- All capabilities of the set are known ones. -/
def CapabilityFlags.Known (cap : CapabilityFlags) : Prop := cap &&& CapabilityFlags.all = cap

section fields

theorem validRange_all {α : Type} (a : α) : validRange (fun _ => true) a = some a := rfl

/-- A value outside the range stands for absence, as long as what is present is inside. -/
theorem validRange_getD {α : Type} {range : α → Bool} {value : Option α} {absent : α}
    (outside : range absent = false) (inside : ∀ a, value = some a → range a = true) :
    validRange range (value.getD absent) = value := by
  cases value with
  | none => simp [validRange, outside]
  | some a => simp [validRange, inside a rfl]

theorem validRange_eq_some {α : Type} {range : α → Bool} {value a : α}
    (h : validRange range value = some a) : range a = true := by
  unfold validRange at h
  split at h
  · next inside => cases h; exact inside
  · cases h

/-- The word of all ones is no set of known capabilities. -/
theorem CapabilityFlags.Known.ne_absent {cap : CapabilityFlags} (known : cap.Known) :
    (⟨cap⟩ : UInt64) ≠ -1 := by
  intro ones
  have all : cap = BitVec.allOnes 64 := congrArg UInt64.toBitVec ones
  rw [all] at known
  exact absurd known (by unfold CapabilityFlags.Known; decide)

theorem unmarshalCapabilityFlags_marshal {cap : Option CapabilityFlags}
    (known : ∀ c, cap = some c → c.Known) :
    unmarshalCapabilityFlags (marshalCapabilityFlags cap) = cap := by
  cases cap with
  | none => rfl
  | some c =>
      have kept : CapabilityFlags.fromBitsTruncate ⟨c⟩ = c := known c rfl
      simp only [marshalCapabilityFlags, unmarshalCapabilityFlags, if_neg (known c rfl).ne_absent,
        kept]

theorem marshalString_eq (s : Option String) : marshalString s = some (s.getD "") := by
  cases s <;> rfl

/-- A decoded set holds known capabilities only. -/
theorem unmarshalCapabilityFlags_known {word : UInt64} {cap : CapabilityFlags}
    (h : unmarshalCapabilityFlags word = some cap) : cap.Known := by
  unfold unmarshalCapabilityFlags at h
  split at h
  · cases h
  · cases h
    rw [CapabilityFlags.Known, CapabilityFlags.fromBitsTruncate, BitVec.and_assoc, BitVec.and_self]

theorem collectArrayVec_toList {α : Type} {capacity : Nat} (v : ArrayVec α capacity) :
    (collectArrayVec v.toList : Outcome MessageError (ArrayVec α capacity)) = .ok v := by
  have collected : ArrayVec.collect v.toList = some v := dif_pos v.fits
  simp only [collectArrayVec, collected]

end fields

namespace SpawnParamsCommon

/-- What is present is in the valid range of its field. -/
structure InRange (p : SpawnParamsCommon) : Prop where
  uid : ∀ v, p.uid = some v → 1 ≤ v
  gid : ∀ v, p.gid = some v → 1 ≤ v
  priorityInitial : ∀ v, p.priorityInitial = some v → -20 ≤ v ∧ v < 20
  priorityFinal : ∀ v, p.priorityFinal = some v → -20 ≤ v ∧ v < 20
  capEffective : ∀ cap, p.capEffective = some cap → cap.Known
  capPermitted : ∀ cap, p.capPermitted = some cap → cap.Known
  capInheritable : ∀ cap, p.capInheritable = some cap → cap.Known
  capBound : ∀ cap, p.capBound = some cap → cap.Known

/-- The fields whose encoding of absence decodes to a value have that value. -/
def filled (p : SpawnParamsCommon) : SpawnParamsCommon :=
  { p with
    selinuxFlags := some (p.selinuxFlags.getD 0)
    noNewPrivs := some (p.noNewPrivs.getD false)
    processName := some (p.processName.getD "")
    seInfo := some (p.seInfo.getD "") }

theorem fromTable_marshal {p : SpawnParamsCommon} (range : p.InRange) :
    fromTable p.marshal = .ok p.filled := by
  have uid : validRange (1 ≤ ·) (p.uid.getD (-1)) = p.uid :=
    validRange_getD rfl fun v hv => decide_eq_true (range.uid v hv)
  have gid : validRange (1 ≤ ·) (p.gid.getD (-1)) = p.gid :=
    validRange_getD rfl fun v hv => decide_eq_true (range.gid v hv)
  have initial : validRange (fun q => -20 ≤ q && q < 20) (p.priorityInitial.getD Int32.maxValue) =
      p.priorityInitial :=
    validRange_getD rfl fun v hv => by simpa using range.priorityInitial v hv
  have final : validRange (fun q => -20 ≤ q && q < 20) (p.priorityFinal.getD Int32.maxValue) =
      p.priorityFinal :=
    validRange_getD rfl fun v hv => by simpa using range.priorityFinal v hv
  simp only [fromTable, marshal, unmarshalSecondaryGroups, unmarshalRlimits, collectArrayVec_toList,
    Outcome.bind_ok, validRange_all, uid, gid, initial, final, marshalString_eq,
    unmarshalCapabilityFlags_marshal range.capEffective,
    unmarshalCapabilityFlags_marshal range.capPermitted,
    unmarshalCapabilityFlags_marshal range.capInheritable,
    unmarshalCapabilityFlags_marshal range.capBound, filled]

/-- Whatever the table says, what is decoded from it is in range. -/
theorem fromTable_inRange {table : Inner.SpawnCommon} {p : SpawnParamsCommon}
    (h : fromTable table = .ok p) : p.InRange := by
  obtain ⟨secondaryGroups, -, rest⟩ := Outcome.bind_eq_ok.mp h
  obtain ⟨rlimits, -, built⟩ := Outcome.bind_eq_ok.mp rest
  cases built
  refine ⟨fun v hv => ?_, fun v hv => ?_, fun v hv => ?_, fun v hv => ?_,
    fun _ => unmarshalCapabilityFlags_known, fun _ => unmarshalCapabilityFlags_known,
    fun _ => unmarshalCapabilityFlags_known, fun _ => unmarshalCapabilityFlags_known⟩
  · exact of_decide_eq_true (@validRange_eq_some _ (1 ≤ ·) table.uid v hv)
  · exact of_decide_eq_true (@validRange_eq_some _ (1 ≤ ·) table.gid v hv)
  · simpa using @validRange_eq_some _ (fun p => -20 ≤ p && p < 20) table.priorityInitial v hv
  · simpa using @validRange_eq_some _ (fun p => -20 ≤ p && p < 20) table.priorityFinal v hv

end SpawnParamsCommon

namespace SpawnPayload

/-- An empty preloading command decodes to none, and an absent preload function to the
empty one. -/
def filled : SpawnPayload → SpawnPayload
  | .androidNative preloadingCmd package startSeq targetSdkVersion runtimeFlags topApp =>
      .androidNative (unmarshalPreloadingCmd (some (preloadingCmd.getD []))) package startSeq
        targetSdkVersion runtimeFlags topApp
  | .androidNativeSubspecies targetSdkVersion runtimeFlags libraryPath libraryDirs
      permittedLibraryPaths shared zipPath nativeSharedLibPath preloadFunc uidGidMin uidGidMax =>
      .androidNativeSubspecies targetSdkVersion runtimeFlags libraryPath libraryDirs
        permittedLibraryPaths shared zipPath nativeSharedLibPath (some (preloadFunc.getD ""))
        uidGidMin uidGidMax
  | payload => payload

theorem fromUnion_marshal (payload : SpawnPayload) : fromUnion payload.marshal = .ok payload.filled := by
  cases payload with
  | androidNative | androidNativeSubspecies | mock => rfl
  | libApp path args =>
      simp only [marshal, fromUnion, unmarshalLibappArgs, collectArrayVec_toList, Outcome.bind_ok,
        filled]

end SpawnPayload

namespace Message

/-- Every spawn parameter that is set is in its valid range. -/
def InRange (message : Message) : Prop := ∀ p, message.getSpawnParams = some p → p.InRange

def filled : Message → Message
  | .spawn common payload => .spawn common.filled payload.filled
  | .spawnSubspecies common socketPath payload =>
      .spawnSubspecies common.filled socketPath payload.filled
  | message => message

theorem fromParcel_toParcel {message : Message} (range : message.InRange) :
    fromParcel message.toParcel = .ok message.filled := by
  cases message with
  | ackResponse | exit | identityQuery | identityQueryResponse | spawnResponse | stat
    | statResponse => rfl
  | spawn common payload =>
      simp only [fromParcel, toParcel, marshal, commonFromTable,
        SpawnParamsCommon.fromTable_marshal (range common rfl), SpawnPayload.fromUnion_marshal,
        Outcome.bind_ok, filled]
  | spawnSubspecies common socketPath payload =>
      simp only [fromParcel, toParcel, marshal, commonFromTable,
        SpawnParamsCommon.fromTable_marshal (range common rfl), SpawnPayload.fromUnion_marshal,
        Outcome.bind_ok, filled]

theorem getSpawnParams_filled {message : Message} {p : SpawnParamsCommon}
    (carried : message.getSpawnParams = some p) :
    message.filled.getSpawnParams = some p.filled := by
  cases message with
  | spawn | spawnSubspecies => cases carried; rfl
  | ackResponse | exit | identityQuery | identityQueryResponse | spawnResponse | stat
    | statResponse => cases carried

theorem fromParcel_inRange {parcel : Inner.Parcel} {message : Message}
    (h : fromParcel parcel = .ok message) : message.InRange := by
  intro p carried
  unfold fromParcel at h
  split at h
  case h_5 | h_6 =>
    obtain ⟨common, decoded, rest⟩ := Outcome.bind_eq_ok.mp h
    obtain ⟨payload, -, built⟩ := Outcome.bind_eq_ok.mp rest
    cases built
    cases carried
    unfold commonFromTable at decoded
    split at decoded
    · exact SpawnParamsCommon.fromTable_inRange decoded
    · cases decoded
  all_goals cases h
  all_goals cases carried

theorem tryFromParcel_inRange {root : List UInt8 → Option Inner.Parcel} {buffer : List UInt8}
    {message : Message} (h : tryFromParcel root buffer = .ok message) : message.InRange := by
  unfold tryFromParcel at h
  split at h
  · cases h
  · exact fromParcel_inRange h

/-- Decoding what was finished, wherever the buffer is read back as the parcel it was
built from. -/
theorem tryFromParcel_finished {root : List UInt8 → Option Inner.Parcel}
    {finishedData : Inner.Parcel → List UInt8} {message : Message} (range : message.InRange)
    (reads : root (finishedData message.toParcel) = some message.toParcel) :
    tryFromParcel root (finishedData message.toParcel) = .ok message.filled := by
  simp only [tryFromParcel, reads]
  exact fromParcel_toParcel range

end Message

section roundtrip

/-- In range, and with the fields set whose absence cannot be told from a value. -/
structure SpawnParamsCommon.Canonical (p : SpawnParamsCommon) : Prop extends p.InRange where
  selinuxFlags : p.selinuxFlags.isSome
  noNewPrivs : p.noNewPrivs.isSome
  processName : p.processName.isSome
  seInfo : p.seInfo.isSome

def SpawnPayload.Canonical : SpawnPayload → Prop
  | .androidNative preloadingCmd _ _ _ _ _ => preloadingCmd ≠ some []
  | .androidNativeSubspecies _ _ _ _ _ _ _ _ preloadFunc _ _ => preloadFunc.isSome
  | _ => True

def Message.Canonical : Message → Prop
  | .spawn common payload | .spawnSubspecies common _ payload =>
      common.Canonical ∧ payload.Canonical
  | _ => True

theorem some_getD {α : Type} {value : Option α} (present : value.isSome) (absent : α) :
    some (value.getD absent) = value := by
  cases value with
  | none => cases present
  | some a => rfl

theorem SpawnParamsCommon.Canonical.filled_eq {p : SpawnParamsCommon} (canonical : p.Canonical) :
    p.filled = p := by
  simp only [filled, some_getD canonical.selinuxFlags, some_getD canonical.noNewPrivs,
    some_getD canonical.processName, some_getD canonical.seInfo]

theorem SpawnPayload.Canonical.filled_eq {payload : SpawnPayload} (canonical : payload.Canonical) :
    payload.filled = payload := by
  cases payload with
  | androidNative preloadingCmd =>
      match preloadingCmd, canonical with
      | none, _ => rfl
      | some [], canonical => exact absurd rfl canonical
      | some (byte :: rest), _ => rfl
  | androidNativeSubspecies => simp only [filled, some_getD canonical]
  | libApp | mock => rfl

theorem Message.Canonical.inRange {message : Message} (canonical : message.Canonical) :
    message.InRange := by
  intro p carried
  cases message with
  | spawn | spawnSubspecies => cases carried; exact canonical.1.toInRange
  | ackResponse | exit | identityQuery | identityQueryResponse | spawnResponse | stat
    | statResponse => cases carried

theorem Message.Canonical.filled_eq {message : Message} (canonical : message.Canonical) :
    message.filled = message := by
  cases message with
  | spawn | spawnSubspecies => simp only [filled, canonical.1.filled_eq, canonical.2.filled_eq]
  | ackResponse | exit | identityQuery | identityQueryResponse | spawnResponse | stat
    | statResponse => rfl

/-- A canonical message survives the round trip. -/
theorem tryFromParcel_toParcel {root : List UInt8 → Option Inner.Parcel}
    {finishedData : Inner.Parcel → List UInt8} {message : Message} (canonical : message.Canonical)
    (reads : root (finishedData message.toParcel) = some message.toParcel) :
    Message.tryFromParcel root (finishedData message.toParcel) = .ok message := by
  rw [Message.tryFromParcel_finished canonical.inRange reads, canonical.filled_eq]

/-- A `Spawn` message with no parameter set and the payload `Mock { name: "" }`. -/
def SpawnParamsCommon.unset : SpawnParamsCommon where
  selinuxFlags := none
  noNewPrivs := none
  uid := none
  gid := none
  processName := none
  priorityInitial := none
  priorityFinal := none
  capEffective := none
  capPermitted := none
  capInheritable := none
  capBound := none
  seInfo := none
  secondaryGroups := .empty
  rlimits := .empty

def unsetSpawn : Message := .spawn .unset (.mock "")

/-- The finished data of that message, which is also that of its filled form. -/
def unsetSpawnData : List UInt8 :=
  [12, 0, 0, 0, 8, 0, 14, 0, 7, 0, 8, 0, 8, 0, 0, 0, 0, 0, 0, 5, 16, 0, 0, 0, 0, 0, 10, 0, 18, 0,
   8, 0, 7, 0, 12, 0, 10, 0, 0, 0, 0, 0, 0, 4, 64, 0, 0, 0, 12, 0, 0, 0, 0, 0, 6, 0, 8, 0, 4, 0,
   6, 0, 0, 0, 4, 0, 0, 0, 0, 0, 0, 0, 0, 0, 0, 0, 32, 0, 72, 0, 0, 0, 0, 0, 4, 0, 8, 0, 12, 0,
   16, 0, 20, 0, 36, 0, 44, 0, 52, 0, 60, 0, 24, 0, 28, 0, 32, 0, 32, 0, 0, 0,
   255, 255, 255, 255, 255, 255, 255, 255, 80, 0, 0, 0, 255, 255, 255, 127, 255, 255, 255, 127,
   60, 0, 0, 0, 52, 0, 0, 0, 40, 0, 0, 0, 255, 255, 255, 255, 255, 255, 255, 255,
   255, 255, 255, 255, 255, 255, 255, 255, 255, 255, 255, 255, 255, 255, 255, 255,
   255, 255, 255, 255, 255, 255, 255, 255, 0, 0, 0, 0, 0, 0, 0, 0, 0, 0, 0, 0, 0, 0, 0, 0,
   0, 0, 0, 0, 0, 0, 0, 0, 0, 0, 0, 0, 0, 0, 0, 0]

def rootUnset (buffer : List UInt8) : Option Inner.Parcel :=
  if buffer = unsetSpawnData then some unsetSpawn.toParcel else none

theorem rootUnset_finished : rootUnset unsetSpawnData = some unsetSpawn.toParcel := if_pos rfl

theorem SpawnParamsCommon.unset_inRange : SpawnParamsCommon.unset.InRange := by
  constructor <;> exact fun _ absent => nomatch absent

theorem decoded_unset : Message.tryFromParcel rootUnset unsetSpawnData = .ok unsetSpawn.filled := by
  have inRange : unsetSpawn.InRange := by
    intro p carried
    cases carried
    exact SpawnParamsCommon.unset_inRange
  exact @Message.tryFromParcel_finished rootUnset (fun _ => unsetSpawnData) _ inRange rootUnset_finished

def appGroups : ArrayVec UInt32 gidVectorSize := ⟨[3003, 9997], by decide⟩

/-- The parameters of an application. Some are left to the server. -/
def nativeParams : SpawnParamsCommon :=
  { SpawnParamsCommon.unset with
    selinuxFlags := some 1
    noNewPrivs := some true
    uid := some 10000
    processName := some "org.app"
    priorityFinal := some (-4)
    capEffective := some 4
    capPermitted := some 4
    capInheritable := some 0
    seInfo := some "default"
    secondaryGroups := appGroups
    rlimits := ⟨[⟨7, 4096, 1024⟩], by decide⟩ }

def nativePayload : SpawnPayload := .androidNative (some [1, 2, 3]) "org.app" 7 35 0 true

def nativeSpawn : Message := .spawn nativeParams nativePayload

/-- The finished data of that message. -/
def nativeSpawnData : List UInt8 :=
  [12, 0, 0, 0, 8, 0, 14, 0, 7, 0, 8, 0, 8, 0, 0, 0, 0, 0, 0, 5, 16, 0, 0, 0, 0, 0, 10, 0, 16, 0,
   8, 0, 7, 0, 12, 0, 10, 0, 0, 0, 0, 0, 0, 1, 108, 0, 0, 0, 20, 0, 0, 0, 16, 0, 32, 0, 8, 0, 12,
   0, 20, 0, 16, 0, 0, 0, 7, 0, 16, 0, 0, 0, 0, 0, 0, 1, 36, 0, 0, 0, 20, 0, 0, 0, 35, 0, 0, 0, 7,
   0, 0, 0, 0, 0, 0, 0, 0, 0, 0, 0, 7, 0, 0, 0, 111, 114, 103, 46, 97, 112, 112, 0, 3, 0, 0, 0, 1,
   2, 3, 0, 32, 0, 76, 0, 40, 0, 7, 0, 8, 0, 12, 0, 16, 0, 20, 0, 24, 0, 48, 0, 56, 0, 0, 0, 64, 0,
   28, 0, 32, 0, 36, 0, 32, 0, 0, 0, 0, 0, 0, 1, 16, 39, 0, 0, 255, 255, 255, 255, 116, 0, 0, 0,
   255, 255, 255, 127, 252, 255, 255, 255, 92, 0, 0, 0, 76, 0, 0, 0, 40, 0, 0, 0, 1, 0, 0, 0, 0, 0,
   0, 0, 4, 0, 0, 0, 0, 0, 0, 0, 4, 0, 0, 0, 0, 0, 0, 0, 255, 255, 255, 255, 255, 255, 255, 255, 0,
   0, 0, 0, 1, 0, 0, 0, 7, 0, 0, 0, 0, 0, 0, 0, 0, 16, 0, 0, 0, 0, 0, 0, 0, 4, 0, 0, 0, 0, 0, 0, 0,
   0, 0, 0, 2, 0, 0, 0, 187, 11, 0, 0, 13, 39, 0, 0, 7, 0, 0, 0, 100, 101, 102, 97, 117, 108, 116,
   0, 7, 0, 0, 0, 111, 114, 103, 46, 97, 112, 112, 0]

def rootNative (buffer : List UInt8) : Option Inner.Parcel :=
  if buffer = nativeSpawnData then some nativeSpawn.toParcel else none

theorem rootNative_finished : rootNative nativeSpawnData = some nativeSpawn.toParcel := if_pos rfl

theorem nativeParams_inRange : nativeParams.InRange where
  uid := by rintro _ ⟨⟩; decide
  gid := nofun
  priorityInitial := nofun
  priorityFinal := by rintro _ ⟨⟩; decide
  capEffective := by rintro _ ⟨⟩; unfold CapabilityFlags.Known; decide
  capPermitted := by rintro _ ⟨⟩; unfold CapabilityFlags.Known; decide
  capInheritable := by rintro _ ⟨⟩; unfold CapabilityFlags.Known; decide
  capBound := nofun

theorem decoded_native : Message.tryFromParcel rootNative nativeSpawnData = .ok nativeSpawn := by
  have inRange : nativeSpawn.InRange := by
    rintro p ⟨⟩
    exact nativeParams_inRange
  exact @Message.tryFromParcel_finished rootNative
    (fun _ => nativeSpawnData) _ inRange rootNative_finished

theorem tryFromParcel_toParcel_native :
    Message.tryFromParcel rootNative nativeSpawnData = .ok nativeSpawn :=
  @tryFromParcel_toParcel rootNative (fun _ => nativeSpawnData) nativeSpawn
    ⟨⟨nativeParams_inRange, rfl, rfl, rfl, rfl⟩, nofun⟩ rootNative_finished

/-- What a client can give. -/
def appSpawnParams : SpawnParamsCommon :=
  { SpawnParamsCommon.unset with
    uid := some 10000
    gid := some 10000
    processName := some "org.app"
    priorityInitial := some (-2)
    priorityFinal := some 5
    seInfo := some "default"
    secondaryGroups := appGroups }

def appSpawn : Message := .spawn appSpawnParams (.mock "app")

/-- The finished data of that message. -/
def appSpawnData : List UInt8 :=
  [12, 0, 0, 0, 8, 0, 14, 0, 7, 0, 8, 0, 8, 0, 0, 0, 0, 0, 0, 5, 16, 0, 0, 0, 0, 0, 10, 0, 18, 0,
   8, 0, 7, 0, 12, 0, 10, 0, 0, 0, 0, 0, 0, 4, 64, 0, 0, 0, 12, 0, 0, 0, 0, 0, 6, 0, 8, 0, 4, 0, 6,
   0, 0, 0, 4, 0, 0, 0, 3, 0, 0, 0, 97, 112, 112, 0, 32, 0, 72, 0, 0, 0, 0, 0, 4, 0, 8, 0, 12, 0,
   16, 0, 20, 0, 36, 0, 44, 0, 52, 0, 60, 0, 24, 0, 28, 0, 32, 0, 32, 0, 0, 0, 16, 39, 0, 0, 16,
   39, 0, 0, 92, 0, 0, 0, 254, 255, 255, 255, 5, 0, 0, 0, 68, 0, 0, 0, 52, 0, 0, 0, 40, 0, 0, 0,
   255, 255, 255, 255, 255, 255, 255, 255, 255, 255, 255, 255, 255, 255, 255, 255, 255, 255, 255,
   255, 255, 255, 255, 255, 255, 255, 255, 255, 255, 255, 255, 255, 0, 0, 0, 0, 0, 0, 0, 0, 0, 0,
   0, 0, 2, 0, 0, 0, 187, 11, 0, 0, 13, 39, 0, 0, 7, 0, 0, 0, 100, 101, 102, 97, 117, 108, 116, 0,
   7, 0, 0, 0, 111, 114, 103, 46, 97, 112, 112, 0]

def rootApp (buffer : List UInt8) : Option Inner.Parcel :=
  if buffer.take appSpawnData.length = appSpawnData then some appSpawn.toParcel else none

end roundtrip

section merge

/-- Merging goes field by field; only the lists can overflow. -/
theorem SpawnParamsCommon.or_eq_ok {p q r : SpawnParamsCommon} (merged : p.or q = .ok r) :
    r = { r with
      selinuxFlags := p.selinuxFlags.or q.selinuxFlags
      noNewPrivs := p.noNewPrivs.or q.noNewPrivs
      uid := p.uid.or q.uid
      gid := p.gid.or q.gid
      processName := p.processName.or q.processName
      seInfo := p.seInfo.or q.seInfo } := by
  obtain ⟨secondaryGroups, -, rest⟩ := Outcome.bind_eq_ok.mp merged
  obtain ⟨rlimits, -, built⟩ := Outcome.bind_eq_ok.mp rest
  cases built
  rfl

/-- Filling is invisible to a merge exactly when the other side would have said the same. -/
theorem or_some_getD {α : Type} {value other : Option α} {absent : α} :
    (some (value.getD absent)).or other = value.or other ↔
      value.isSome ∨ other = some absent := by
  cases value with
  | some a => simp
  | none => simp [eq_comm]

/-- The merge of what is decoded is the merge of what was sent but for the four fields. -/
theorem SpawnParamsCommon.filled_or {p q r : SpawnParamsCommon} (merged : p.or q = .ok r) :
    p.filled.or q = .ok { r with
      selinuxFlags := (some (p.selinuxFlags.getD 0)).or q.selinuxFlags
      noNewPrivs := (some (p.noNewPrivs.getD false)).or q.noNewPrivs
      processName := (some (p.processName.getD "")).or q.processName
      seInfo := (some (p.seInfo.getD "")).or q.seInfo } := by
  obtain ⟨secondaryGroups, groups, rest⟩ := Outcome.bind_eq_ok.mp merged
  obtain ⟨rlimits, limits, built⟩ := Outcome.bind_eq_ok.mp rest
  cases built
  exact Outcome.bind_eq_ok.mpr ⟨secondaryGroups, groups, Outcome.bind_eq_ok.mpr ⟨rlimits, limits, rfl⟩⟩

/-- Each of the four fields is set, or has the default its absence is encoded as. -/
def SpawnParamsCommon.AbsenceAgrees (p q : SpawnParamsCommon) : Prop :=
  (p.selinuxFlags.isSome ∨ q.selinuxFlags = some 0) ∧
    (p.noNewPrivs.isSome ∨ q.noNewPrivs = some false) ∧
    (p.processName.isSome ∨ q.processName = some "") ∧
    (p.seInfo.isSome ∨ q.seInfo = some "")

/-- A client's parameters, sent to the server and merged with its defaults there, are what
merging them directly gives exactly when absence means the same on both ways. -/
theorem sent_or_eq_iff {root : List UInt8 → Option Inner.Parcel}
    {finishedData : Inner.Parcel → List UInt8} {message : Message} {p q : SpawnParamsCommon}
    (carried : message.getSpawnParams = some p) (range : p.InRange)
    (reads : root (finishedData message.toParcel) = some message.toParcel)
    (fits : (p.or q).isOk) :
    ∃ decoded p', Message.tryFromParcel root (finishedData message.toParcel) = .ok decoded ∧
      decoded.getSpawnParams = some p' ∧
      (p'.or q = p.or q ↔ p.AbsenceAgrees q) := by
  obtain ⟨r, merged⟩ := Outcome.isOk_iff.mp fits
  have inRange : message.InRange := by
    intro p' carried'
    rw [carried] at carried'
    cases carried'
    exact range
  refine ⟨message.filled, p.filled, Message.tryFromParcel_finished inRange reads,
    Message.getSpawnParams_filled carried, ?_⟩
  rw [SpawnParamsCommon.filled_or merged, merged, Outcome.ok.injEq, SpawnParamsCommon.AbsenceAgrees,
    ← or_some_getD, ← or_some_getD, ← or_some_getD, ← or_some_getD]
  have fields := SpawnParamsCommon.or_eq_ok merged
  constructor
  · intro same
    rw [fields] at same
    simp only [SpawnParamsCommon.mk.injEq] at same
    exact ⟨same.1, same.2.1, same.2.2.2.2.1, same.2.2.2.2.2.2.2.2.2.2.2.1⟩
  · rintro ⟨selinuxFlags, noNewPrivs, processName, seInfo⟩
    rw [fields]
    simp only [selinuxFlags, noNewPrivs, processName, seInfo]

/-- A server whose processes have a group and a name, and are bound by no capability. -/
def groupDefaults : SpawnParamsCommon :=
  { SpawnParamsCommon.unset with gid := some 10000, processName := some "zygote", capBound := some 0 }

theorem sent_or_eq_iff_native :
    ∃ decoded p', Message.tryFromParcel rootNative nativeSpawnData = .ok decoded ∧
      decoded.getSpawnParams = some p' ∧
      (p'.or groupDefaults = nativeParams.or groupDefaults ↔ nativeParams.AbsenceAgrees groupDefaults) :=
  @sent_or_eq_iff rootNative (fun _ => nativeSpawnData) nativeSpawn nativeParams groupDefaults rfl
    nativeParams_inRange rootNative_finished rfl

theorem sent_or_ne : ¬∀ (root : List UInt8 → Option Inner.Parcel)
    (finishedData : Inner.Parcel → List UInt8) (message decoded : Message)
    (p q p' : SpawnParamsCommon), message.getSpawnParams = some p → p.InRange →
    root (finishedData message.toParcel) = some message.toParcel → (p.or q).isOk →
    Message.tryFromParcel root (finishedData message.toParcel) = .ok decoded →
    decoded.getSpawnParams = some p' → p'.or q = p.or q := by
  intro claim
  have same := claim rootUnset (fun _ => unsetSpawnData) unsetSpawn unsetSpawn.filled .unset
    { SpawnParamsCommon.unset with processName := some "app" } SpawnParamsCommon.unset.filled rfl
    SpawnParamsCommon.unset_inRange rootUnset_finished rfl decoded_unset rfl
  have names : (Outcome.ok (some "") : Outcome MessageError (Option String)) = .ok (some "app") :=
    congrArg (fun merged => merged.bind fun r => .ok r.processName) same
  revert names
  decide

end merge
end Zygote
