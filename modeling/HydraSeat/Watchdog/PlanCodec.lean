import HydraSeat.Watchdog.RollbackRegistry

/-!
# Plan frames have one spelling

A frame is accepted exactly when it is what its header and payload are
written as, and a plan payload exactly when it is what a valid plan is
written as.
-/

namespace HydraSeat.Watchdog

open Foundation List RollbackActionKind RollbackRegistry WatchdogMessageType

variable {manifest : RollbackPlanManifest} {plan : UInt64 × RollbackPlanManifest}
variable (frame : DecodedWatchdogFrame)

theorem readFrameHeader_reads : Reads readFrameHeader writeFrameHeader := by
  unfold writeFrameHeader
  simp only [append_assoc]
  apply ReadsOnly.reads
  refine .any readU32_reads fun magic => ?_
  refine .any readU16_reads fun version => ?_
  refine .any readU16_reads fun type => ?_
  refine .any readU32_reads fun payloadBytes => ?_
  refine .any readU32_reads fun reserved => ?_
  refine .last readU64_reads fun sequence => ?_
  exact .built fun value => by cases value; grind

theorem readLease_reads : Reads readLease encodeLeasePayload := by
  unfold encodeLeasePayload
  simp only [append_assoc]
  apply ReadsOnly.reads
  refine .any (readArray_reads 16) fun sessionId => ?_
  refine .any readU64_reads fun generation => ?_
  refine .last readU32_reads fun timeoutMilliseconds => ?_
  exact .built fun value => by cases value; grind

theorem readManifestPrefix_reads : Reads readManifestPrefix writeManifestPrefix := by
  unfold writeManifestPrefix
  simp only [append_assoc]
  apply ReadsOnly.reads
  refine .any readLease_reads fun lease => ?_
  refine .any readU32_reads fun rollbackTimeoutMilliseconds => ?_
  refine .any readU16_reads fun actionCount => ?_
  refine .last readU16_reads fun reserved => ?_
  exact .built fun value => by cases value; grind

theorem RollbackActionKind.value_ofValue (value : UInt16) : (ofValue value).value = value := by
  unfold ofValue
  grind [value]

theorem RollbackActionKind.ofValue_value {kind : RollbackActionKind}
    (known : isKnownRollbackActionKind kind = true) :
    ofValue kind.value = kind := by
  cases kind with
  | unknown value => cases known
  | _ => rfl

def Named (action : RollbackActionDescriptor) : Prop := ofValue action.kind.value = action.kind

theorem readWireAction_readsOnly :
    ReadsOnly readWireAction (fun wire => Named wire.action) writeWireAction := by
  unfold writeWireAction Named
  simp only [append_assoc]
  refine .any readU32_reads fun actionId => ?_
  refine .any readU16_reads fun kindValue => ?_
  refine .any readU16_reads fun actionReserved => ?_
  refine .any readU32_reads fun ordinal => ?_
  refine .any readU32_reads fun timeout => ?_
  refine .any readU64_reads fun generation => ?_
  refine .any readU64_reads fun resourceId => ?_
  refine .any readU32_reads fun processId => ?_
  refine .any readU32_reads fun processReserved => ?_
  refine .last readU64_reads fun creationTime => ?_
  exact .built fun value => by
    obtain ⟨⟨_, _, _, _, _, _, _, _⟩, _, _⟩ := value
    grind [value_ofValue]

theorem readActions_eq_ok_iff (count : Nat) (bytes : List UInt8)
    (actions : List RollbackActionDescriptor) (rest : List UInt8) :
    readActions count bytes = .ok (actions, rest) ↔
      (actions.length = count ∧ ∀ action ∈ actions, Named action) ∧
        bytes = writeMany (fun action => writeWireAction { action }) actions ++ rest := by
  induction count generalizing bytes actions with
  | zero =>
    rw [readActions, length_eq_zero_iff]
    constructor
    · intro read
      cases read
      simp [writeMany]
    · rintro ⟨⟨empty, _⟩, same⟩
      rw [empty] at same ⊢
      rw [same]
      rfl
  | succ count ih =>
    rw [readActions]
    constructor
    · intro read
      cases first : readWireAction bytes with
      | none =>
        rw [first] at read
        cases read
      | some found =>
        obtain ⟨wire, middle⟩ := found
        obtain ⟨named, split⟩ := (readWireAction_readsOnly bytes wire middle).mp first
        rw [first] at read
        dsimp only at read
        obtain ⟨reserved, continued⟩ := (except_check_eq_ok_iff _ _ _ _).mp read
        rw [not_or, not_not, not_not] at reserved
        cases later : readActions count middle with
        | error text =>
          rw [later] at continued
          cases continued
        | ok found =>
          obtain ⟨tail, after⟩ := found
          rw [later] at continued
          cases continued
          obtain ⟨⟨length, namedTail⟩, splitTail⟩ := (ih middle tail).mp later
          have plain : wire = { action := wire.action } := by
            cases wire
            simpa using reserved
          refine ⟨⟨congrArg Nat.succ length, ?_⟩, ?_⟩
          · intro action member
            cases mem_cons.mp member with
            | inl head =>
              rw [head]
              exact named
            | inr inTail => exact namedTail action inTail
          · rw [split, splitTail, writeMany_cons, append_assoc, ← plain]
    · rintro ⟨⟨length, named⟩, split⟩
      cases actions with
      | nil => cases length
      | cons action tail =>
        have read :
            readWireAction bytes =
              some ({ action },
                writeMany (fun action => writeWireAction { action }) tail ++ rest) := by
          apply (readWireAction_readsOnly _ _ _).mpr
          refine ⟨named action mem_cons_self, ?_⟩
          rw [split, writeMany_cons, append_assoc]
        have readTail := (ih _ tail).mpr
          ⟨⟨Nat.succ.inj length, fun other member =>
            named other (mem_cons_of_mem action member)⟩, rfl⟩
        rw [read]
        dsimp only
        rw [if_neg (by simp), readTail]

theorem WatchdogMessageType.ofValue?_eq_some_iff (value : UInt16) (type : WatchdogMessageType) :
    ofValue? value = some type ↔ value = type.value := by
  constructor
  · intro named
    unfold ofValue? at named
    grind [value]
  · intro named
    rw [named]
    cases type <;> rfl

/-- The values of a frame that have a spelling. -/
def FrameFits : Prop := frame.sequence ≠ 0 ∧ frame.payload.length ≤ kWatchdogMaxPayloadBytes

def writeFrame : List UInt8 :=
  writeFrameHeader
    { magic := kWatchdogProtocolMagic, version := kWatchdogProtocolVersion, type := frame.type.value
      payloadBytes := UInt32.ofNat frame.payload.length, reserved := 0
      sequence := frame.sequence } ++ frame.payload

theorem encodeWatchdogFrame_eq {frame : DecodedWatchdogFrame} (fits : FrameFits frame) :
    encodeWatchdogFrame frame.type frame.sequence frame.payload = writeFrame frame := by
  unfold encodeWatchdogFrame
  rw [if_neg]
  · rfl
  · rw [not_or]
    exact ⟨fits.1, Nat.not_lt.mpr fits.2⟩

theorem writeFrame_length :
    (writeFrame frame).length = kWatchdogFrameHeaderBytes + frame.payload.length := by
  rw [writeFrame, length_append, writeFrameHeader_length]

theorem decodeWatchdogFrame_spells : Spells decodeWatchdogFrame FrameFits writeFrame := by
  intro bytes frame
  unfold decodeWatchdogFrame
  rw [except_check_eq_ok_iff]
  constructor
  · intro ⟨_, decoded⟩
    cases read : readFrameHeader bytes with
    | none =>
      rw [read] at decoded
      cases decoded
    | some found =>
      obtain ⟨header, payload⟩ := found
      have split := (readFrameHeader_reads bytes header payload).mp read
      rw [read] at decoded
      simp only [except_check_eq_ok_iff, not_or, not_not] at decoded
      obtain ⟨magic, version, ⟨reserved, sequence⟩, ⟨bounded, length⟩, typed⟩ := decoded
      cases named : ofValue? header.type with
      | none =>
        rw [named] at typed
        cases typed
      | some type =>
        rw [named] at typed
        cases typed
        have value := (ofValue?_eq_some_iff _ _).mp named
        have same :
            header =
              { magic := kWatchdogProtocolMagic, version := kWatchdogProtocolVersion
                type := type.value, payloadBytes := UInt32.ofNat payload.length, reserved := 0
                sequence := header.sequence } := by
          rw [← length, UInt32.ofNat_toNat, ← value, ← magic, ← version, ← reserved]
        rw [length, not_lt] at bounded
        refine ⟨⟨sequence, bounded⟩, ?_⟩
        rw [split, writeFrame]
        exact congrArg (writeFrameHeader · ++ payload) same
  · intro ⟨⟨sequence, bounded⟩, split⟩
    have small : frame.payload.length < 2 ^ 32 := by
      unfold kWatchdogMaxPayloadBytes at bounded
      omega
    have length : (UInt32.ofNat frame.payload.length).toNat = frame.payload.length :=
      UInt32.toNat_ofNat_of_lt' small
    have named := (ofValue?_eq_some_iff frame.type.value frame.type).mpr rfl
    have read := readFrameHeader_reads.read_write
      { magic := kWatchdogProtocolMagic, version := kWatchdogProtocolVersion
        type := frame.type.value, payloadBytes := UInt32.ofNat frame.payload.length, reserved := 0
        sequence := frame.sequence } frame.payload
    constructor
    · rw [split, writeFrame_length, kWatchdogMaxFrameBytes]
      omega
    · rw [split, writeFrame, read]
      simp [sequence, length, bounded, named]

def planPayload (manifest : RollbackPlanManifest) : List UInt8 :=
  writeManifestPrefix
      { lease := manifest.lease, rollbackTimeoutMilliseconds := manifest.rollbackTimeoutMilliseconds
        actionCount := UInt16.ofNat manifest.actions.length, reserved := 0 } ++
    writeMany (fun action => writeWireAction { action }) manifest.actions

theorem planPayload_length (manifest : RollbackPlanManifest) :
    (planPayload manifest).length =
      kManifestPrefixBytes + manifest.actions.length * kActionBytes := by
  have each (action : RollbackActionDescriptor) :
      (writeWireAction { action }).length = kActionBytes := by
    simp [writeWireAction, kActionBytes]
  rw [planPayload, length_append, writeMany_length each]
  simp [writeManifestPrefix, encodeLeasePayload, kManifestPrefixBytes]

theorem validPlan_nonempty (valid : validateRollbackPlan manifest = .ok ()) :
    manifest.actions ≠ [] := by
  intro empty
  unfold validateRollbackPlan at valid
  simp only [except_check_eq_ok_iff, empty] at valid
  simp at valid

theorem decodeRegisterPlan_eq_ok_iff (manifest : RollbackPlanManifest) :
    decodeRegisterPlan frame = .ok manifest ↔
      validateRollbackPlan manifest = .ok () ∧ frame.type = .registerPlan ∧
        frame.payload = planPayload manifest := by
  unfold decodeRegisterPlan
  simp only [except_check_eq_ok_iff, not_not, not_lt]
  constructor
  · intro ⟨typed, _, decoded⟩
    cases read : readManifestPrefix frame.payload with
    | none =>
      rw [read] at decoded
      cases decoded
    | some found =>
      obtain ⟨header, payload⟩ := found
      have split := (readManifestPrefix_reads _ _ _).mp read
      rw [read] at decoded
      simp only [except_check_eq_ok_iff, not_or, not_not] at decoded
      obtain ⟨⟨reserved, _, _⟩, _, continued⟩ := decoded
      cases listed : readActions header.actionCount.toNat payload with
      | error text =>
        rw [listed] at continued
        cases continued
      | ok found =>
        obtain ⟨actions, rest⟩ := found
        obtain ⟨⟨length, _⟩, splitActions⟩ := (readActions_eq_ok_iff _ _ _ _).mp listed
        rw [listed] at continued
        simp only [except_check_eq_ok_iff, not_not] at continued
        obtain ⟨noRest, validated⟩ := continued
        cases valid :
            validateRollbackPlan ⟨header.lease, header.rollbackTimeoutMilliseconds, actions⟩ with
        | error text =>
          rw [valid] at validated
          cases validated
        | ok done =>
          rw [valid] at validated
          cases validated
          have counted : UInt16.ofNat actions.length = header.actionCount := by
            rw [length, UInt16.ofNat_toNat]
          have front :
              (⟨header.lease, header.rollbackTimeoutMilliseconds,
                UInt16.ofNat actions.length, 0⟩ : ManifestPrefix) =
                header := by
            rw [counted, ← reserved]
          refine ⟨valid, typed, ?_⟩
          rw [split, splitActions, noRest, append_nil, planPayload, front]
  · intro ⟨valid, typed, payload⟩
    have sound := validPlan valid
    have nonempty := length_pos_iff.mpr (validPlan_nonempty valid)
    have bounded := sound.actionCount
    have small : manifest.actions.length < UInt16.size := by
      unfold kWatchdogMaxRollbackActions at bounded
      simp only [UInt16.size]
      omega
    have counted : (UInt16.ofNat manifest.actions.length).toNat = manifest.actions.length :=
      UInt16.toNat_ofNat_of_lt' small
    have nonzero : UInt16.ofNat manifest.actions.length ≠ 0 := by
      intro zero
      rw [zero] at counted
      exact absurd counted (Nat.ne_of_lt nonempty)
    have length := planPayload_length manifest
    have named (action : RollbackActionDescriptor)
        (member : action ∈ manifest.actions) : Named action :=
      ofValue_value (sound.actions action member).known
    have front :
        readManifestPrefix frame.payload =
          some
            ({ lease := manifest.lease
               rollbackTimeoutMilliseconds := manifest.rollbackTimeoutMilliseconds
               actionCount := UInt16.ofNat manifest.actions.length, reserved := 0 },
              writeMany (fun action => writeWireAction { action }) manifest.actions) := by
      rw [payload, planPayload]
      exact readManifestPrefix_reads.read_write _ _
    have listed :
        readActions manifest.actions.length
            (writeMany (fun action => writeWireAction { action }) manifest.actions) =
          .ok (manifest.actions, []) := by
      apply (readActions_eq_ok_iff _ _ _ _).mpr
      exact ⟨⟨rfl, named⟩, (append_nil _).symm⟩
    refine ⟨typed, ?_, ?_⟩
    · rw [payload, length]
      omega
    rw [front]
    dsimp only
    rw [if_neg (by simp [nonzero, counted, bounded]), counted,
      if_neg (by rw [payload, length]; simp), listed]
    simp [valid]

/-- The codec of a whole plan frame, with its sequence number. -/
def decodePlanFrame (bytes : List UInt8) : Except String (UInt64 × RollbackPlanManifest) := do
  let frame ← decodeWatchdogFrame bytes
  let manifest ← decodeRegisterPlan frame
  return (frame.sequence, manifest)

def encodePlanFrame (plan : UInt64 × RollbackPlanManifest) : List UInt8 :=
  encodeRegisterPlan plan.1 plan.2

def ValidPlanFrame (plan : UInt64 × RollbackPlanManifest) : Prop :=
  plan.1 ≠ 0 ∧ validateRollbackPlan plan.2 = .ok ()

theorem planPayload_fits (valid : validateRollbackPlan manifest = .ok ()) :
    (planPayload manifest).length ≤ kWatchdogMaxPayloadBytes := by
  have bounded := (validPlan valid).actionCount
  unfold kWatchdogMaxRollbackActions at bounded
  rw [planPayload_length]
  simp only [kManifestPrefixBytes, kActionBytes, kWatchdogMaxPayloadBytes]
  omega

def planFrame (plan : UInt64 × RollbackPlanManifest) : DecodedWatchdogFrame where
  type := .registerPlan
  sequence := plan.1
  payload := planPayload plan.2

theorem planFrame_fits (valid : ValidPlanFrame plan) : FrameFits (planFrame plan) :=
  ⟨valid.1, planPayload_fits valid.2⟩

theorem encodePlanFrame_eq (valid : ValidPlanFrame plan) :
    encodePlanFrame plan = writeFrame (planFrame plan) := by
  have written := encodeWatchdogFrame_eq (planFrame_fits valid)
  unfold encodePlanFrame encodeRegisterPlan
  rw [valid.2]
  exact written

theorem encodePlanFrame_length (valid : ValidPlanFrame plan) :
    (encodePlanFrame plan).length ≤ kWatchdogMaxFrameBytes := by
  have fits := planPayload_fits valid.2
  rw [encodePlanFrame_eq valid, writeFrame_length, kWatchdogMaxFrameBytes]
  exact Nat.add_le_add_left fits _

theorem decodePlanFrame_spells : Spells decodePlanFrame ValidPlanFrame encodePlanFrame := by
  intro bytes plan
  constructor
  · intro decoded
    obtain ⟨frame, framed, continued⟩ := except_bind_eq_ok decoded
    obtain ⟨manifest, listed, returned⟩ := except_bind_eq_ok continued
    cases returned
    obtain ⟨fits, split⟩ := (decodeWatchdogFrame_spells _ _).mp framed
    obtain ⟨valid, typed, payload⟩ := (decodeRegisterPlan_eq_ok_iff _ _).mp listed
    have same : frame = planFrame (frame.sequence, manifest) := by
      cases frame
      simp only at typed payload
      rw [typed, payload]
      rfl
    have accepted : ValidPlanFrame (frame.sequence, manifest) := ⟨fits.1, valid⟩
    refine ⟨accepted, ?_⟩
    rw [encodePlanFrame_eq accepted, ← same]
    exact split
  · intro ⟨valid, split⟩
    have framed : decodeWatchdogFrame bytes = .ok (planFrame plan) := by
      apply (decodeWatchdogFrame_spells _ _).mpr
      refine ⟨planFrame_fits valid, ?_⟩
      rw [split, encodePlanFrame_eq valid]
    have listed : decodeRegisterPlan (planFrame plan) = .ok plan.2 :=
      (decodeRegisterPlan_eq_ok_iff _ _).mpr ⟨valid.2, rfl, rfl⟩
    unfold decodePlanFrame
    rw [framed]
    change (decodeRegisterPlan (planFrame plan) >>= _) = _
    rw [listed]
    rfl

end HydraSeat.Watchdog
