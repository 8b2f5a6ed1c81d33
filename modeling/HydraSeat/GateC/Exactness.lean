import HydraSeat.GateC.CodecLaws
import HydraSeat.GateC.ProbeLaws

/-!
# The Gate C codecs are inverse

Every message fits its frame, so each codec is the frame around the writing
of its message.
-/

namespace HydraSeat.GateC

open Foundation List

theorem writeGamepad_length (value : NormalizedXInputGamepad) :
    (writeGamepad value).length = 12 := by
  unfold writeGamepad
  simp only [length_append, writeU8_length, writeU16_length, writeI16_length]

theorem writeCapabilities_length (value : NormalizedXInputCapabilities) :
    (writeCapabilities value).length = 24 := by
  unfold writeCapabilities
  simp only [length_append, writeU8_length, writeU16_length,
    writeBool_length, writePadding_length, writeGamepad_length]

theorem writeBattery_length (value : NormalizedXInputBattery) :
    (writeBattery value).length = 4 := by
  unfold writeBattery
  simp only [length_append, writeU8_length, writeBool_length]

theorem writeSource_length (source : ControllerSourceIdentity) :
    (writeSource source).length = 12 := by
  unfold writeSource
  simp only [length_append, writeU8_length, writeU64_length, writePadding_length]

theorem writeMapping_length (mapping : VirtualXInputMapping) :
    (writeMapping mapping).length = 28 := by
  unfold writeMapping
  simp only [length_append, writeU64_length, writeSource_length]

theorem writeHello_length (message : HelloMessage) : (writeHello message).length = 36 := by
  unfold writeHello
  simp only [length_append, writeU16_length, writeU32_length,
    writeU64_length, writeArray_length, writePadding_length]

theorem writeHelloAck_length (message : HelloAckMessage) : (writeHelloAck message).length = 20 := by
  unfold writeHelloAck
  simp only [length_append, writeBool_length, writeU32_length, writeU64_length, writePadding_length]

theorem writeInputEvent_length (message : InputEventMessage) :
    (writeInputEvent message).length = 32 := by
  unfold writeInputEvent
  simp only [length_append, writeBool_length, writeU8_length,
    writeU16_length, writeU32_length, writeU64_length, writeI16_length,
    writeI32_length, writePadding_length]

theorem writeControlState_length (message : ControlStateMessage) :
    (writeControlState message).length = 28 := by
  unfold writeControlState
  simp only [length_append, writeBool_length, writeI32_length, writePadding_length]

theorem writeQuerySnapshot_length (message : QuerySnapshotMessage) :
    (writeQuerySnapshot message).length = 4 := by
  unfold writeQuerySnapshot
  simp only [length_append, writeU16_length, writePadding_length]

theorem writeStateSnapshot_length (message : StateSnapshotMessage) :
    (writeStateSnapshot message).length = 120 := by
  unfold writeStateSnapshot
  simp only [length_append, writeBool_length, writeU8_length,
    writeU16_length, writeU32_length, writeU64_length, writeI32_length,
    writeI64_length, writeArray_length, writePadding_length]

theorem writeControllerUpdate_length (message : ControllerUpdateMessage) :
    (writeControllerUpdate message).length = 68 := by
  unfold writeControllerUpdate
  simp only [length_append, writeU8_length, writeU32_length,
    writeU64_length, writePadding_length, writeSource_length,
    writeGamepad_length, writeCapabilities_length, writeBattery_length]

theorem writeControllerQuery_length (message : ControllerQueryMessage) :
    (writeControllerQuery message).length = 32 := by
  unfold writeControllerQuery
  simp only [length_append, writeU8_length, writeU16_length,
    writeU32_length, writeU64_length, writePadding_length]

theorem writeControllerSnapshot_length (message : ControllerSnapshotMessage) :
    (writeControllerSnapshot message).length = 208 := by
  unfold writeControllerSnapshot
  simp only [length_append, writeBool_length, writeU8_length,
    writeU16_length, writeU32_length, writeU64_length,
    writePadding_length, writeSource_length, writeMapping_length,
    writeGamepad_length, writeCapabilities_length, writeBattery_length]

theorem encodeProbeComparison_fits {comparison : ProbeComparison}
    (valid : validateProbeComparison comparison = .ok ()) :
    (encodeProbeComparison comparison).length ≤ kMaximumPayloadBytes := by
  rw [encodeProbeComparison_eq valid, probe_length]
  decide

/-- A message without fields to validate is valid as it is. -/
def AlwaysValid {Message : Type} (_ : UInt64 × Message) : Prop := True

structure GateCCodecsExact : Prop where
  hello :
    RoundTrip (fun sent => validateHello sent.2 = .ok ())
      (fun sent => encodeHello sent.1 sent.2) (decodeFramed decodeHello)
  helloAck :
    RoundTrip AlwaysValid (fun sent => encodeHelloAck sent.1 sent.2) (decodeFramed decodeHelloAck)
  inputEvent :
    RoundTrip (fun sent => validateInputEvent sent.2 = .ok ())
      (fun sent => encodeInputEvent sent.1 sent.2)
      (decodeFramed decodeInputEvent)
  controlState :
    RoundTrip (fun sent => validateControlState sent.2 = .ok ())
      (fun sent => encodeControlState sent.1 sent.2)
      (decodeFramed decodeControlState)
  querySnapshot :
    RoundTrip (fun sent => validateQuerySnapshot sent.2 = .ok ())
      (fun sent => encodeQuerySnapshot sent.1 sent.2)
      (decodeFramed decodeQuerySnapshot)
  stateSnapshot :
    RoundTrip (fun sent => validateStateSnapshot sent.2 = .ok ())
      (fun sent => encodeStateSnapshot sent.1 sent.2)
      (decodeFramed decodeStateSnapshot)
  shutdown : RoundTrip AlwaysValid (fun sent => encodeShutdown sent.1) (decodeFramed decodeShutdown)
  error : RoundTrip AlwaysValid (fun sent => encodeError sent.1 sent.2) (decodeFramed decodeError)
  probeSnapshot :
    RoundTrip (fun comparison => validateProbeComparison comparison = .ok ())
      encodeProbeComparison decodeProbeComparison
  probeSnapshot_framed :
    ∀ sequence comparison,
      validateProbeComparison comparison = .ok () →
        decodeFrame (encodeFrame .probeSnapshot sequence (encodeProbeComparison comparison)) =
          .ok ⟨.probeSnapshot, sequence, encodeProbeComparison comparison⟩
  probeSnapshot_unframed :
    ∀ bytes frame comparison,
      decodeFrame bytes = .ok frame → frame.type = .probeSnapshot →
        decodeProbeComparison frame.payload = .ok comparison →
          encodeFrame .probeSnapshot frame.sequence (encodeProbeComparison comparison) = bytes
  controllerUpdate :
    RoundTrip (fun sent => validateControllerUpdateMessage sent.2 = .ok ())
      (fun sent => encodeControllerUpdate sent.1 sent.2)
      (decodeFramed decodeControllerUpdate)
  controllerQuery :
    RoundTrip (fun sent => validateControllerQueryMessage sent.2 = .ok ())
      (fun sent => encodeControllerQuery sent.1 sent.2)
      (decodeFramed decodeControllerQuery)
  controllerSnapshot :
    RoundTrip (fun sent => Slotted sent.2 ∧ validateControllerSnapshot sent.2 = .ok ())
      (fun sent => encodeControllerSnapshot sent.1 sent.2)
      (decodeFramed decodeControllerSnapshot)
  frame :
    RoundTrip FrameFits (fun frame => encodeFrame frame.type frame.sequence frame.payload)
      decodeFrame

section Codecs

variable {Message : Type} {read : Scanner Message}
  {validate : Message → Except String Unit} {type : MessageType}
  {writes : Message → List UInt8}

theorem message_roundTrip {bytes : Nat} (scans : Scans read (fun _ => True) writes)
    (length : ∀ message, (writes message).length = bytes)
    (fits : bytes ≤ kMaximumPayloadBytes) :
    RoundTrip (fun sent => validate sent.2 = .ok ())
      (fun sent => encodeFrame type sent.1 (writes sent.2))
      (decodeFramed (decodeMessage read validate type)) := by
  have spells :
      Spells (decodeFramed (decodeMessage read validate type))
        (fun sent => True ∧ validate sent.2 = .ok ())
        (fun sent => encodeFrame type sent.1 (writes sent.2)) :=
    decodeMessage_spells scans fun message => (length message).trans_le fits
  simpa only [true_and] using spells.roundTrip

theorem anyMessage_roundTrip {bytes : Nat} (scans : Scans read (fun _ => True) writes)
    (length : ∀ message, (writes message).length = bytes)
    (fits : bytes ≤ kMaximumPayloadBytes) :
    RoundTrip AlwaysValid (fun sent => encodeFrame type sent.1 (writes sent.2))
      (decodeFramed (decodeMessage read anyMessage type)) := by
  have roundTrip :
      RoundTrip (fun sent => anyMessage sent.2 = .ok ())
        (fun sent => encodeFrame type sent.1 (writes sent.2))
        (decodeFramed (decodeMessage read anyMessage type)) :=
    message_roundTrip scans length fits
  exact
    { decode_valid := fun _ _ _ => trivial
      decode_encode := fun sent _ => roundTrip.decode_encode sent rfl
      encode_decode := roundTrip.encode_decode }

end Codecs

theorem gateCCodecs_exact : GateCCodecsExact where
  hello := message_roundTrip readHello_scans writeHello_length (by decide)
  helloAck := anyMessage_roundTrip readHelloAck_scans writeHelloAck_length (by decide)
  inputEvent := message_roundTrip readInputEvent_scans writeInputEvent_length (by decide)
  controlState := message_roundTrip readControlState_scans writeControlState_length (by decide)
  querySnapshot := message_roundTrip readQuerySnapshot_scans writeQuerySnapshot_length (by decide)
  stateSnapshot := message_roundTrip readStateSnapshot_scans writeStateSnapshot_length (by decide)
  shutdown := anyMessage_roundTrip nothing_scans (fun _ => rfl) (Nat.zero_le _)
  error := anyMessage_roundTrip readError_scans
    (fun message => writeU32_length message.errorCode) (by decide)
  probeSnapshot := decodeProbeComparison_spells.roundTrip
  probeSnapshot_framed := by
    intro sequence comparison valid
    exact (decodeFrame_spells _ _).mpr ⟨encodeProbeComparison_fits valid, rfl⟩
  probeSnapshot_unframed := by
    intro bytes frame comparison framed typed decoded
    obtain ⟨_, payload⟩ := (decodeProbeComparison_spells _ _).mp decoded
    obtain ⟨_, split⟩ := (decodeFrame_spells _ _).mp framed
    rw [split, ← typed, ← payload]
  controllerUpdate := message_roundTrip readControllerUpdate_scans
    writeControllerUpdate_length (by decide)
  controllerQuery := message_roundTrip readControllerQuery_scans
    writeControllerQuery_length (by decide)
  controllerSnapshot :=
    (decodeMessage_spells readControllerSnapshot_scans fun message =>
      (writeControllerSnapshot_length message).trans_le (by decide)).roundTrip
  frame := decodeFrame_spells.roundTrip

/-- The capability word of an acknowledgement is not looked at. -/
def undefinedCapabilityAck : HelloAckMessage where
  accepted := true
  serverProcessId := 4
  grantedCapabilities := (1 : UInt64) <<< 63

/-- A frame with a flag that no capability has is accepted. -/
theorem undefinedCapability_accepted :
    decodeFramed decodeHelloAck (encodeHelloAck 1 undefinedCapabilityAck) =
        .ok (1, undefinedCapabilityAck) ∧
      undefinedCapabilityAck.grantedCapabilities ≠ 0 ∧
      ∀ capability,
        testCapabilityBits capability &&& undefinedCapabilityAck.grantedCapabilities = 0 := by
  have roundTrip :
      RoundTrip AlwaysValid (fun sent => encodeHelloAck sent.1 sent.2)
        (decodeFramed decodeHelloAck) :=
    anyMessage_roundTrip readHelloAck_scans writeHelloAck_length (by decide)
  refine ⟨roundTrip.decode_encode (1, undefinedCapabilityAck) trivial, by decide, ?_⟩
  intro capability
  cases capability <;> decide

end HydraSeat.GateC
