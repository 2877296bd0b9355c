import Zygote.Messages.Message

/-!
# When decoding panics

The verifier lets through vectors of any length and tables that are absent. The decoder
collects the vectors into arrays of fixed capacity and expects the table.
-/
namespace Zygote
open Effect

namespace Inner

/-- The vectors fit the arrays they are collected into. -/
def SpawnCommon.Fits (common : SpawnCommon) : Prop :=
  (∀ groups, common.secondaryGroups = some groups → groups.length ≤ gidVectorSize) ∧
    common.rlimits.length ≤ rlimitVectorSize

def SpawnPayload.Fits : SpawnPayload → Prop
  | .spawnLibApp table => table.args.length ≤ messageArgBufferMax
  | _ => True

/-- The two spawn messages need their common parameters, and room for every vector; the
payload is only looked at after the common parameters. -/
def Message.Fits : Message → Prop
  | .spawn ⟨common, payload⟩ | .spawnSubspecies ⟨common, _, payload⟩ =>
      (∃ table, common = some table ∧ table.Fits) ∧ payload.Fits
  | _ => True

end Inner

theorem collectArrayVec_not_panic {α : Type} {capacity : Nat} {l : List α} :
    (collectArrayVec l : Outcome MessageError (ArrayVec α capacity)).isPanic = false ↔
      l.length ≤ capacity := by
  unfold collectArrayVec
  split
  · next v collected =>
    rw [← ArrayVec.collect_eq_some.mp collected]
    simp [v.fits]
  · next overfull =>
    have := ArrayVec.collect_eq_none.mp overfull
    simp only [Outcome.isPanic_panic, Bool.true_eq_false, false_iff]
    omega

theorem unmarshalSecondaryGroups_not_panic {groups : Option (List UInt32)} :
    (unmarshalSecondaryGroups groups).isPanic = false ↔
      ∀ l, groups = some l → l.length ≤ gidVectorSize := by
  cases groups with
  | none => simp [unmarshalSecondaryGroups]
  | some l => simp [unmarshalSecondaryGroups, collectArrayVec_not_panic]

/-- Collecting the groups has no other way to fail than to panic. -/
theorem unmarshalSecondaryGroups_ok {groups : Option (List UInt32)}
    (h : (unmarshalSecondaryGroups groups).isPanic = false) :
    ∃ v, unmarshalSecondaryGroups groups = .ok v := by
  cases groups with
  | none => exact ⟨.empty, rfl⟩
  | some l =>
      simp only [unmarshalSecondaryGroups, collectArrayVec] at h ⊢
      split
      · next v _ => exact ⟨v, rfl⟩
      · next overfull => simp [overfull] at h

theorem fromTable_not_panic {table : Inner.SpawnCommon} :
    (SpawnParamsCommon.fromTable table).isPanic = false ↔ table.Fits := by
  unfold SpawnParamsCommon.fromTable Inner.SpawnCommon.Fits
  rw [Outcome.bind_isPanic, ← unmarshalSecondaryGroups_not_panic]
  refine and_congr_right fun groups => ?_
  obtain ⟨v, hv⟩ := unmarshalSecondaryGroups_ok groups
  simp [hv, Outcome.bind_isPanic, unmarshalRlimits, collectArrayVec_not_panic]

theorem fromUnion_not_panic {payload : Inner.SpawnPayload} :
    (SpawnPayload.fromUnion payload).isPanic = false ↔ payload.Fits := by
  cases payload with
  | spawnLibApp table =>
      simp [SpawnPayload.fromUnion, Inner.SpawnPayload.Fits, unmarshalLibappArgs,
        Outcome.bind_isPanic, collectArrayVec_not_panic]
  | spawnAndroidNative table => simp [SpawnPayload.fromUnion, Inner.SpawnPayload.Fits]
  | spawnSubspeciesAndroidNative table => simp [SpawnPayload.fromUnion, Inner.SpawnPayload.Fits]
  | spawnMock table => simp [SpawnPayload.fromUnion, Inner.SpawnPayload.Fits]
  | other tag unknown => simp [SpawnPayload.fromUnion, Inner.SpawnPayload.Fits]

/-- Decoding the common parameters never errs, so a payload is looked at exactly when
they did not panic. -/
theorem commonFromTable_ok {common : Option Inner.SpawnCommon}
    (h : (commonFromTable common).isPanic = false) : ∃ p, commonFromTable common = .ok p := by
  cases common with
  | none => simp [commonFromTable] at h
  | some table =>
      obtain ⟨groups, rlimits⟩ := fromTable_not_panic.mp h
      obtain ⟨v, hv⟩ := unmarshalSecondaryGroups_ok (unmarshalSecondaryGroups_not_panic.mpr groups)
      have collected : unmarshalRlimits table.rlimits = .ok ⟨table.rlimits, rlimits⟩ := by
        simp [unmarshalRlimits, collectArrayVec, ArrayVec.collect, rlimits]
      exact ⟨_, Outcome.bind_eq_ok.mpr ⟨v, hv, Outcome.bind_eq_ok.mpr ⟨_, collected, rfl⟩⟩⟩

theorem commonFromTable_not_panic {common : Option Inner.SpawnCommon} :
    (commonFromTable common).isPanic = false ↔ ∃ table, common = some table ∧ table.Fits := by
  cases common with
  | none => simp [commonFromTable]
  | some table => simp [commonFromTable, fromTable_not_panic]

/-- The two parts of a spawn message, whatever is made of them. -/
theorem spawnParts_not_panic {common : Option Inner.SpawnCommon} {payload : Inner.SpawnPayload}
    {build : SpawnParamsCommon → SpawnPayload → Message} :
    (do let c ← commonFromTable common
        let p ← SpawnPayload.fromUnion payload
        .ok (build c p) : Outcome MessageError Message).isPanic = false ↔
      (∃ table, common = some table ∧ table.Fits) ∧ payload.Fits := by
  rw [Outcome.bind_isPanic, ← commonFromTable_not_panic, ← fromUnion_not_panic]
  refine and_congr_right fun decoded => ?_
  obtain ⟨p, hp⟩ := commonFromTable_ok decoded
  simp [hp, Outcome.bind_isPanic]

theorem fromParcel_not_panic {parcel : Inner.Parcel} :
    (Message.fromParcel parcel).isPanic = false ↔ parcel.message.Fits := by
  unfold Message.fromParcel
  cases parcel.message with
  | spawn table => exact spawnParts_not_panic
  | spawnSubspecies table => exact spawnParts_not_panic
  | ack | exit | identityQuery | stat => simp [Inner.Message.Fits]
  | identityQueryResponse table | spawnResponse table | statResponse table =>
      simp [Inner.Message.Fits]
  | other tag unknown => simp [Inner.Message.Fits]

/-- Decoding a buffer returns, with a message or an error, exactly when what the verifier
reads in it has its common parameters and fits the arrays. -/
theorem tryFromParcel_not_panic_iff (root : List UInt8 → Option Inner.Parcel)
    (buffer : List UInt8) : (Message.tryFromParcel root buffer).isPanic = false ↔
      ∀ parcel, root buffer = some parcel → parcel.message.Fits := by
  unfold Message.tryFromParcel
  cases root buffer with
  | none => simp
  | some parcel => simp [fromParcel_not_panic]

/-- A finished buffer: `Spawn` with the payload `SpawnMock { name: "" }` and no common
parameters. -/
def spawnWithoutCommon : List UInt8 :=
  [12, 0, 0, 0, 8, 0, 12, 0, 8, 0, 4, 0, 8, 0, 0, 0, 20, 0, 0, 0, 5, 0, 0, 0,
   10, 0, 12, 0, 0, 0, 8, 0, 4, 0, 0, 0, 12, 0, 0, 0, 16, 0, 0, 0, 4, 0, 0, 0,
   6, 0, 8, 0, 4, 0, 0, 0, 8, 0, 0, 0, 4, 0, 0, 0, 0, 0, 0, 0, 0, 0, 0, 0]

/-- What the verifier reads in it: the schema does not require the common parameters. -/
def rootWithoutCommon (buffer : List UInt8) : Option Inner.Parcel :=
  if buffer = spawnWithoutCommon then some ⟨.spawn ⟨none, .spawnMock ⟨""⟩⟩⟩ else none

theorem tryFromParcel_panics :
    ¬∀ (root : List UInt8 → Option Inner.Parcel) (buffer : List UInt8),
      (Message.tryFromParcel root buffer).isPanic = false := by
  intro claim
  have returns := claim rootWithoutCommon spawnWithoutCommon
  revert returns
  decide

end Zygote
