import Zygote.Client
import Zygote.Server.Thunks
import Zygote.Species.AndroidNative
import Zygote.Species.LibApp

/-!
# Launching without a server

`zygote_launch` packs its options into a message, unpacks it again and goes on as the species. Nobody has
forked it, and it becomes nobody else.
-/
namespace Zygote
open Effect Child

/-- The greeting of a mock process goes nowhere. -/
def Mock.gestate (_ : SpawnParamsCommon) : SpawnPayload → ChildM Fate
  | .mock _ => pure (.exited 0)
  | _ => Prog.panic "Invalid spawn payload for species mock"

def Mock.callbacks : Callbacks where
  gatherReinitializationData := pure .mock
  reInitializePrologue _ _ _ := pure ()
  setSeccompFilters _ _ := pure ()
  reInitializeEpilogue _ _ := pure ()
  speciate _ := pure ()
  gestate := Mock.gestate

/-- The species a payload is for, in a process that was not spawned by `exec`. -/
def SpawnPayloadParser.toSpecies : SpawnPayloadParser → Callbacks
  | .androidNative .. | .androidNativeSubspecies .. => AndroidNative.callbacks false
  | .libApp .. => LibApp.callbacks
  | .mock .. => Mock.callbacks

/-- The options of `zygote_launch`. -/
structure Launch extends SpawnCommonParser where
  payload : SpawnPayloadParser

namespace Launch

def toSpawnParams (self : Launch) : Outcome MessageError SpawnParamsCommon := do
  let secondaryGroups ← collectArrayVec self.secondaryGroups
  .ok {
    selinuxFlags := self.selinuxFlags
    noNewPrivs := none
    uid := self.uid
    gid := self.gid
    processName := self.processName
    priorityInitial := self.priorityInitial.map Priority.value
    priorityFinal := self.priorityFinal.map Priority.value
    capEffective := none
    capPermitted := none
    capInheritable := none
    capBound := none
    seInfo := self.seInfo
    secondaryGroups
    rlimits := .empty }

def toSpawnMessage (self : Launch) : Outcome MessageError Message := do
  let common ← self.toSpawnParams
  let payload ← self.payload.toSpawnPayload
  .ok (.spawn common payload)

def tryToParcel (finishedData : Inner.Parcel → Bytes) (self : Launch) : Outcome MessageError Bytes := do
  let message ← self.toSpawnMessage
  .ok (finishedData message.toParcel)

/-- The message is copied into a buffer of fixed size, and must not be longer. -/
def main (self : Launch) : Prog Child MessageError Fate := do
  let child ← Prog.read
  let finished ← Prog.lift (self.tryToParcel child.world.env.finishedData)
  if messageBufferSize < finished.length then Prog.panic "range end index out of range for slice"
  else do
    let messageBuffer := finished ++ List.replicate (messageBufferSize - finished.length) 0
    let spawnMessage ← Prog.lift (Message.tryFromParcel child.world.env.root messageBuffer)
    match spawnMessage.getSpawnParams, spawnMessage.getSpawnPayload with
    | some params, some payload => (self.payload.toSpecies.gestate params payload).mapErr Empty.elim
    | _, _ => Prog.panic "called `Option::unwrap()` on a `None` value"

section message
variable {self : Launch} {common : SpawnParamsCommon} {payload : SpawnPayload}

/-- The options are those of a `Spawn` command, and so is the message. -/
theorem toSpawnMessage_eq (self : Launch) :
    self.toSpawnMessage = (MessageParser.spawn self.toSpawnCommonParser self.payload).toMessage := rfl

theorem tryToParcel_eq (finishedData : Inner.Parcel → Bytes) (self : Launch) :
    self.tryToParcel finishedData =
    (MessageParser.spawn self.toSpawnCommonParser self.payload).tryToParcel finishedData := rfl

theorem toSpawnMessage_ok {message : Message} (built : self.toSpawnMessage = .ok message) :
    ∃ common payload, self.toSpawnParams = .ok common ∧ self.payload.toSpawnPayload = .ok payload ∧
      message = .spawn common payload := by
  obtain ⟨common, params, rest⟩ := Outcome.bind_eq_ok.mp built
  obtain ⟨payload, given, rest⟩ := Outcome.bind_eq_ok.mp rest
  cases rest
  exact ⟨common, payload, params, given, rfl⟩

theorem collectArrayVec_cases {α : Type} {capacity : Nat} (l : List α) :
    (∃ v, (collectArrayVec l : Outcome MessageError (ArrayVec α capacity)) = .ok v) ∨
      ∃ reason, (collectArrayVec l : Outcome MessageError (ArrayVec α capacity)) = .panic reason := by
  unfold collectArrayVec
  cases (ArrayVec.collect l : Option (ArrayVec α capacity)) with
  | some v => exact .inl ⟨v, rfl⟩
  | none => exact .inr ⟨_, rfl⟩

theorem toSpawnPayload_cases (parser : SpawnPayloadParser) :
    (∃ payload, parser.toSpawnPayload = .ok payload) ∨ ∃ reason,
      parser.toSpawnPayload = .panic reason := by
  cases parser with
  | androidNative | androidNativeSubspecies | mock => exact .inl ⟨_, rfl⟩
  | libApp path args =>
      rw [SpawnPayloadParser.toSpawnPayload]
      rcases collectArrayVec_cases args with ⟨v, collected⟩ | ⟨reason, full⟩
      · exact .inl ⟨.libApp path v, by rw [collected]; rfl⟩
      · exact .inr ⟨reason, by rw [full]; rfl⟩

/-- The options are packed, or there are too many of them. -/
theorem tryToParcel_cases (finishedData : Inner.Parcel → Bytes) (self : Launch) :
    (∃ finished, self.tryToParcel finishedData = .ok finished) ∨
      ∃ reason, self.tryToParcel finishedData = .panic reason := by
  unfold tryToParcel toSpawnMessage toSpawnParams
  rcases collectArrayVec_cases self.secondaryGroups with ⟨groups, collected⟩ | ⟨reason, full⟩
  · rcases toSpawnPayload_cases self.payload with ⟨payload, given⟩ | ⟨reason, full⟩
    · exact .inl ⟨_, by rw [collected, given]; rfl⟩
    · exact .inr ⟨reason, by rw [collected, full]; rfl⟩
  · exact .inr ⟨reason, by rw [full]; rfl⟩

end message
section main
variable {self other : Launch} {c c' : Child} {root : Bytes → Option Inner.Parcel}
  {finishedData : Inner.Parcel → Bytes} {fate : Fate} {params params' : SpawnParamsCommon}
  {payload : SpawnPayload}

/-- There is room for the groups and arguments, and for the message. -/
def Fits (finishedData : Inner.Parcel → Bytes) (self : Launch) : Prop :=
  ∃ finished, self.tryToParcel finishedData = .ok finished ∧ finished.length ≤ messageBufferSize

/-- The library reads back what it has written for these options. -/
def Readable (root : Bytes → Option Inner.Parcel) (finishedData : Inner.Parcel → Bytes)
    (self : Launch) : Prop :=
  ∀ message, self.toSpawnMessage = .ok message →
    FinishedBuffer root (finishedData message.toParcel) message.toParcel

/-- The buffer of a message that fits is read as the message that was packed. -/
theorem Readable.decoded (readable : Readable root finishedData self) (fits : self.Fits finishedData) :
    ∃ finished common payload params, self.tryToParcel finishedData = .ok finished ∧
      finished.length ≤ messageBufferSize ∧ self.toSpawnParams = .ok common ∧
      self.payload.toSpawnPayload = .ok payload ∧
      SpawnParamsCommon.fromTable common.marshal = .ok params ∧
      Message.tryFromParcel root (finished ++ List.replicate (messageBufferSize - finished.length) 0) =
        .ok (.spawn params payload.filled) := by
  obtain ⟨finished, packed, short⟩ := fits
  obtain ⟨message, built, data⟩ := Outcome.bind_eq_ok.mp packed
  have known := readable message built
  obtain ⟨common, payload, given, asked, rfl⟩ := toSpawnMessage_ok built
  cases data
  obtain ⟨params, unpacked⟩ := common.fromTable_marshal_ok
  refine ⟨_, common, payload, params, packed, short, given, asked, unpacked, ?_⟩
  rw [Message.tryFromParcel, known.trailing, known.reads]
  simp only [Message.fromParcel, Message.toParcel, Message.marshal, commonFromTable, unpacked,
    SpawnPayload.fromUnion_marshal, Outcome.bind_ok]

/-- A launch that fits goes on as the species of its payload, with what comes back of the message. -/
theorem main_of_fits (readable : Readable c.world.env.root c.world.env.finishedData self)
    (fits : self.Fits c.world.env.finishedData) :
    ∃ finished common payload params, self.tryToParcel c.world.env.finishedData = .ok finished ∧
      self.toSpawnParams = .ok common ∧ self.payload.toSpawnPayload = .ok payload ∧
      SpawnParamsCommon.fromTable common.marshal = .ok params ∧
      Message.tryFromParcel c.world.env.root (received messageBufferSize finished).2 =
        .ok (.spawn params payload.filled) ∧
      self.main c = ((self.payload.toSpecies.gestate params payload.filled).mapErr Empty.elim :
        Prog Child MessageError Fate) c := by
  obtain ⟨finished, common, payload, params, packed, short, given, asked, unpacked, decoded⟩ :=
    readable.decoded fits
  refine ⟨finished, common, payload, params, packed, given, asked, unpacked, ?_, ?_⟩
  · rw [received_of_fits short]
    exact decoded
  · have lifted : (Prog.lift (self.tryToParcel c.world.env.finishedData) : Prog Child
      MessageError Bytes) c =
        (.ok finished, c) := Prod.ext packed rfl
    have message : (Prog.lift (Message.tryFromParcel c.world.env.root
        (finished ++ List.replicate (messageBufferSize - finished.length) 0)) :
          Prog Child MessageError Message) c = (.ok (.spawn params payload.filled), c) := Prod.ext decoded rfl
    unfold main
    rw [Prog.bind_of_ok (show (Prog.read : Prog Child MessageError Child) c = (.ok c, c) from rfl),
      Prog.bind_of_ok lifted, if_neg (Nat.not_lt.mpr short)]
    exact Prog.bind_of_ok message _

/-- What does not fit ends the process before it has done anything. -/
theorem main_of_not_fits (unfit : ¬self.Fits c.world.env.finishedData) :
    ∃ reason, self.main c = (.panic reason, c) := by
  unfold main
  rw [Prog.bind_of_ok (show (Prog.read : Prog Child MessageError Child) c = (.ok c, c) from rfl),
    Prog.bind_apply]
  unfold Prog.lift
  rcases tryToParcel_cases c.world.env.finishedData self with ⟨finished, packed⟩ | ⟨reason, full⟩
  · have long : messageBufferSize < finished.length :=
      Nat.lt_of_not_le fun short => unfit ⟨finished, packed, short⟩
    rw [packed]
    dsimp only
    rw [if_pos long]
    exact ⟨_, rfl⟩
  · rw [full]
    exact ⟨reason, rfl⟩

/-- The launcher starts what a child of a server starts for the same options: the application is the
same, and its parameters are those that the child's were merged from. -/
theorem agrees_with_served {s t u : Process} {thunk : Thunk} {d : Child} {finished : Bytes}
    (h : Server.Served s)
    (spawned : Server.serveOnce s = (.ok (.break (some thunk)), t))
    (dropped : Server.drop false t = (.ok (), u))
    (child : d.world = u.world) (root : c.world.env.root = s.world.env.root)
    (readable : Readable c.world.env.root c.world.env.finishedData self)
    (packed : (MessageParser.spawn self.toSpawnCommonParser self.payload).tryToParcel
      c.world.env.finishedData =
      .ok finished)
    (sent : thunk.spawnMessage = (received messageBufferSize finished).2) :
    ∃ params payload, s.server.species.isSpawnPayloadType payload = true ∧
      params.or t.server.spawnParams = .ok thunk.spawnParams ∧
      self.main c = ((self.payload.toSpecies.gestate params payload).mapErr Empty.elim :
        Prog Child MessageError Fate) c ∧
      ∀ exec species data,
        thunk.run exec species data d =
          Child.specialize exec species data thunk.spawnParams payload d := by
  obtain ⟨params, payload, decoded, accepted, merged, runs⟩ :=
    Server.run_of_served h spawned dropped child
  rw [sent, ← root] at decoded
  have fits : self.Fits c.world.env.finishedData := by
    refine ⟨finished, packed, Nat.le_of_not_lt fun long => ?_⟩
    obtain ⟨message, built, data⟩ := Outcome.bind_eq_ok.mp packed
    cases data
    rw [(readable message built).tryFromParcel_exceeds long] at decoded
    cases decoded
  obtain ⟨finished', -, sentPayload, params', packed', -, -, -, decoded', goes⟩ :=
    main_of_fits readable fits
  obtain rfl : finished = finished' := Outcome.ok.inj (packed.symm.trans packed')
  rw [decoded] at decoded'
  cases decoded'
  exact ⟨params, _, accepted, merged, goes, runs⟩

/-- A mock process with most of the options, for which a server has been asked too. -/
def optioned : Launch := ⟨appOptions, .mock "app"⟩

def optionedThunk : Thunk :=
  ⟨appSpawnParams.filled, appSpawnData ++ List.replicate (messageBufferSize - appSpawnData.length) 0⟩

def optionedEnv : Env := { Server.spawningEnv with finishedData := fun _ => appSpawnData }

def optionedChild : Child := ⟨.boot optionedEnv stdio, ⟨[], none, []⟩, [], .calm⟩

theorem app_finished : FinishedBuffer rootApp appSpawnData appSpawn.toParcel := by
  refine ⟨?_, fun rest => ?_, fun n short _ => ?_⟩
  · rw [rootApp, List.take_length, if_pos rfl]
  · rw [rootApp, rootApp, List.take_left, List.take_length]
  · refine if_neg fun same => ?_
    have long := congrArg List.length same
    rw [List.length_take, List.length_take] at long
    omega

theorem optioned_readable : Readable optionedEnv.root optionedEnv.finishedData optioned := by
  intro message built
  obtain rfl : appSpawn = message := Outcome.ok.inj built
  simp only [optionedEnv, Server.spawningEnv]
  exact app_finished

theorem optioned_packed : (MessageParser.spawn optioned.toSpawnCommonParser optioned.payload).tryToParcel
    optionedEnv.finishedData = .ok appSpawnData := by
  rw [optionedEnv]
  rfl

theorem optionedThunk_sent : optionedThunk.spawnMessage = (received messageBufferSize appSpawnData).2 :=
  (received_of_fits (by decide +kernel)).symm

theorem agrees_with_served_optioned : ∃ params payload,
    Server.asked.server.species.isSpawnPayloadType payload = true ∧
    params.or Server.spawned.server.spawnParams = .ok optionedThunk.spawnParams ∧
    optioned.main optionedChild =
      ((optioned.payload.toSpecies.gestate params payload).mapErr Empty.elim :
        Prog Child MessageError Fate) optionedChild ∧
    ∀ exec species data, optionedThunk.run exec species data Server.freedChild =
      Child.specialize exec species data optionedThunk.spawnParams payload Server.freedChild := by
  have run : Server.serveOnce Server.asked = (.ok (.break (some optionedThunk)), Server.spawned) :=
    Prod.ext (by decide +kernel) (by rw [Server.spawned])
  have dropped : Server.drop false Server.spawned = (.ok (), Server.freed) :=
    Prod.ext (by decide +kernel) (by rw [Server.freed])
  have child : Server.freedChild.world = Server.freed.world := by rw [Server.freedChild]
  have env : optionedChild.world.env.root = Server.asked.world.env.root := by
    have started : Server.new false (.turtle none none) (.boot Server.spawningEnv stdio) =
        (.ok ((Server.started Server.spawningEnv).1.get (by decide)),
          (Server.started Server.spawningEnv).2) :=
      Prod.ext (Outcome.eq_ok_get _ (by decide)) rfl
    have kept := (@Server.new_does (fun _ => True) (fun _ _ => trivial) _ _ _ _ _ started).env
    rw [Server.asked, (Server.serveOnce_ages _).env]
    dsimp only
    rw [kept]
    simp only [optionedChild, World.boot, optionedEnv]
  exact agrees_with_served Server.asked_served run dropped child env optioned_readable optioned_packed
    optionedThunk_sent

/-- Of the parameters a species looks at the last priority alone. -/
theorem gestate_congr (parser : SpawnPayloadParser)
    (same : params.priorityFinal = params'.priorityFinal) :
    parser.toSpecies.gestate params payload = parser.toSpecies.gestate params' payload := by
  have prioritized : LibApp.setFinalPriority params = LibApp.setFinalPriority params' := by
    rw [LibApp.setFinalPriority, LibApp.setFinalPriority, same]
  cases parser with
  | androidNative | androidNativeSubspecies | mock => rfl
  | libApp =>
      cases payload with
      | androidNative | androidNativeSubspecies | mock => rfl
      | libApp path args =>
          show LibApp.enterLibrary params path args.toList = LibApp.enterLibrary params' path args.toList
          rw [LibApp.enterLibrary, LibApp.enterLibrary, prioritized]

theorem priorityFinal_returned {common : SpawnParamsCommon}
    (given : ∀ v, common.priorityFinal = some v → -20 ≤ v ∧ v < 20)
    (unpacked : SpawnParamsCommon.fromTable common.marshal = .ok params) :
    params.priorityFinal = common.priorityFinal := by
  obtain ⟨groups, -, rest⟩ := Outcome.bind_eq_ok.mp unpacked
  obtain ⟨rlimits, -, rest⟩ := Outcome.bind_eq_ok.mp rest
  cases rest
  have final : validRange (fun q => -20 ≤ q && q < 20) (common.priorityFinal.getD Int32.maxValue) =
      common.priorityFinal :=
    validRange_getD rfl fun v hv => by simpa using given v hv
  exact final

theorem toSpawnParams_priorityFinal {common : SpawnParamsCommon}
    (given : self.toSpawnParams = .ok common) :
    common.priorityFinal = self.priorityFinal.map Priority.value ∧
      ∀ v, common.priorityFinal = some v → -20 ≤ v ∧ v < 20 := by
  obtain ⟨groups, -, rest⟩ := Outcome.bind_eq_ok.mp given
  cases rest
  refine ⟨rfl, fun v chosen => ?_⟩
  obtain ⟨priority, -, rfl⟩ := Option.map_eq_some_iff.mp chosen
  exact priority.range

/-- Two launches of the same payload with the same last priority are the same, whatever users,
groups, names and SELinux contexts their options ask for. -/
theorem main_congr (readable : Readable c.world.env.root c.world.env.finishedData self)
    (readable' : Readable c.world.env.root c.world.env.finishedData other)
    (fits : self.Fits c.world.env.finishedData) (fits' : other.Fits c.world.env.finishedData)
    (payload : self.payload = other.payload) (priority : self.priorityFinal = other.priorityFinal) :
    self.main c = other.main c := by
  obtain ⟨-, common, sent, params, -, given, asked, unpacked, -, goes⟩ := main_of_fits readable fits
  obtain ⟨-, common', sent', params', -, given', asked', unpacked', -, goes'⟩ :=
    main_of_fits readable' fits'
  obtain ⟨chosen, range⟩ := toSpawnParams_priorityFinal given
  obtain ⟨chosen', range'⟩ := toSpawnParams_priorityFinal given'
  have same : params.priorityFinal = params'.priorityFinal := by
    rw [priorityFinal_returned range unpacked, priorityFinal_returned range' unpacked', chosen,
      chosen', priority]
  have carried : sent = sent' := by
    rw [payload, asked'] at asked
    exact (Outcome.ok.inj asked).symm
  rw [goes, goes', payload, carried, gestate_congr other.payload same]

/-- A mock process without a name, and without any other option. -/
def plain : Launch := ⟨⟨none, none, none, none, none, none, [], none⟩, .mock ""⟩

/-- The same process, asked to be another user. -/
def elevated : Launch := ⟨⟨none, some 10000, none, none, none, none, [], none⟩, .mock ""⟩

def elevatedSpawn : Message := .spawn { SpawnParamsCommon.unset with uid := some 10000 } (.mock "")

/-- The user stands behind the 112th byte. -/
def elevatedData : Bytes := unsetSpawnData.take 112 ++ ([16, 39, 0, 0] ++ unsetSpawnData.drop 116)

/-- A library that knows two messages. -/
theorem rootOf_or {first second : Bytes} {parcel parcel' : Inner.Parcel} (apart : ¬first <+: second)
    (apart' : ¬second <+: first) :
    FinishedBuffer (fun b => (rootOf first parcel b).or (rootOf second parcel' b)) first parcel ∧
      FinishedBuffer (fun b => (rootOf first parcel b).or (rootOf second parcel' b)) second parcel' := by
  have left := rootOf_finished first parcel
  have right := rootOf_finished second parcel'
  have absent : ∀ {one other b : Bytes} {p : Inner.Parcel}, ¬one <+: other → ¬other <+: one →
    other <+: b →
      rootOf one p b = none := fun no no' within => if_neg fun also =>
    (List.prefix_or_prefix_of_prefix also within).elim no no'
  have shorter : ∀ {one other : Bytes} {p : Inner.Parcel} (n : Nat), ¬one <+: other →
      rootOf one p (other.take n) = none := fun n no => if_neg fun within =>
    no (within.trans (List.take_prefix n _))
  refine ⟨⟨?_, fun rest => ?_, fun n short by4 => ?_⟩, ⟨?_, fun rest => ?_, fun n short by4 => ?_⟩⟩
  · rw [left.reads, Option.some_or]
  · rw [left.trailing, left.reads, Option.some_or, Option.some_or]
  · rw [left.truncated n short by4, shorter n apart', Option.none_or]
  · rw [right.reads, absent apart apart' (List.prefix_refl _), Option.none_or]
  · rw [right.trailing, absent apart apart' (List.prefix_append _ _),
      absent apart apart' (List.prefix_refl _)]
  · rw [right.truncated n short by4, shorter n apart, Option.none_or]

def pairEnv : Env := { Env.calm with
  root := fun b => (rootOf unsetSpawnData unsetSpawn.toParcel b).or
    (rootOf elevatedData elevatedSpawn.toParcel b)
  finishedData := fun parcel => if parcel = unsetSpawn.toParcel then unsetSpawnData else elevatedData }

def pairChild : Child := ⟨.boot pairEnv stdio, ⟨[], none, []⟩, [], .calm⟩

theorem pair_readable : Readable pairEnv.root pairEnv.finishedData plain ∧
    Readable pairEnv.root pairEnv.finishedData elevated := by
  obtain ⟨first, second⟩ := @rootOf_or unsetSpawnData elevatedData unsetSpawn.toParcel
    elevatedSpawn.toParcel
    (by decide +kernel) (by decide +kernel)
  have other : elevatedSpawn.toParcel ≠ unsetSpawn.toParcel := by decide
  constructor
  · intro message built
    obtain rfl : unsetSpawn = message := Outcome.ok.inj built
    simp only [pairEnv, if_true]
    exact first
  · intro message built
    obtain rfl : elevatedSpawn = message := Outcome.ok.inj built
    simp only [pairEnv, if_neg other]
    exact second

theorem pair_fits : plain.Fits pairEnv.finishedData ∧ elevated.Fits pairEnv.finishedData := by
  have other : elevatedSpawn.toParcel ≠ unsetSpawn.toParcel := by decide
  have built : elevated.toSpawnMessage = .ok elevatedSpawn := rfl
  have built' : plain.toSpawnMessage = .ok unsetSpawn := rfl
  refine ⟨⟨unsetSpawnData, ?_, by decide +kernel⟩, ⟨elevatedData, ?_, by decide +kernel⟩⟩
  · rw [tryToParcel, built', Outcome.bind_ok]
    simp only [pairEnv, if_true]
  · rw [tryToParcel, built, Outcome.bind_ok]
    simp only [pairEnv, if_neg other]

theorem main_congr_pair : plain.main pairChild = elevated.main pairChild :=
  @main_congr plain elevated pairChild pair_readable.1 pair_readable.2 pair_fits.1 pair_fits.2 rfl rfl

end main

section own
open Prog (Within)

/-- The libraries are asked with the credentials at the start, and those stay. -/
abbrev Own (c c' : Child) : Prop :=
  ∃ calls, c'.calls = c.calls ++ madeWith c.world.task calls ∧ c'.world.task = c.world.task

end own

end Launch
end Zygote
