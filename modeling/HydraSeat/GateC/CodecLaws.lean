import HydraSeat.GateC.ControllerMessages

/-!
# The laws of the Gate C codecs

A frame is accepted exactly when it is what its type, sequence and payload
are written as; a payload is scanned into a message exactly when it is what
the message is written as.
-/

namespace HydraSeat.GateC

open Foundation hiding readU8 readU16 readU32 readU64 readArray
open PayloadReader InputKind KeyTransition List MessageType VirtualXInputResult

theorem MessageType.ofValue?_eq_some_iff (value : UInt16) (type : MessageType) :
    ofValue? value = some type ↔ value = type.value := by
  constructor
  · intro named
    unfold ofValue? at named
    by_cases last : value = 12
    · rw [last] at named ⊢
      cases named
      rfl
    by_cases query : value = 11
    · rw [query] at named ⊢
      cases named
      rfl
    by_cases update : value = 10
    · rw [update] at named ⊢
      cases named
      rfl
    · rw [if_neg update, if_neg query, if_neg last] at named
      grind [value]
  · intro named
    rw [named]
    cases type <;> rfl

theorem readFrameHeader_scans : Scans readFrameHeader (fun _ => True) writeFrameHeader := by
  unfold writeFrameHeader
  simp only [append_assoc]
  refine .any scanU32_scans fun magic => ?_
  refine .any scanU16_scans fun version => ?_
  refine .any scanU16_scans fun rawType => ?_
  refine .any scanU32_scans fun payloadSize => ?_
  refine .last scanU64_scans fun sequence => ?_
  exact .built fun value => by cases value; grind

theorem writeFrameHeader_length (header : FrameHeader) :
    (writeFrameHeader header).length = kFrameHeaderBytes := by
  simp [writeFrameHeader, kFrameHeaderBytes]

def FrameFits (frame : DecodedFrame) : Prop := frame.payload.length ≤ kMaximumPayloadBytes

def frameHeader (frame : DecodedFrame) : FrameHeader where
  magic := kProtocolMagic
  version := kProtocolVersion
  rawType := frame.type.value
  payloadSize := UInt32.ofNat frame.payload.length
  sequence := frame.sequence

theorem encodeFrame_eq {frame : DecodedFrame} (fits : FrameFits frame) :
    encodeFrame frame.type frame.sequence frame.payload =
      writeFrameHeader (frameHeader frame) ++ frame.payload := by
  unfold encodeFrame
  rw [if_neg (Nat.not_lt.mpr fits)]
  rfl

theorem decodeFrame_spells :
    Spells decodeFrame FrameFits
      (fun frame => encodeFrame frame.type frame.sequence frame.payload) := by
  intro bytes frame
  unfold decodeFrame
  simp only [except_check_eq_ok_iff, not_lt]
  constructor
  · intro ⟨_, _, decoded⟩
    cases scanned : readFrameHeader bytes with
    | error text =>
      rw [scanned] at decoded
      cases decoded
    | ok found =>
      obtain ⟨header, payload⟩ := found
      obtain ⟨_, split⟩ := (readFrameHeader_scans _ _ _).mp scanned
      rw [scanned] at decoded
      simp only [except_check_eq_ok_iff, not_not] at decoded
      obtain ⟨magic, version, decoded⟩ := decoded
      cases named : ofValue? header.rawType with
      | none =>
        rw [named] at decoded
        cases decoded
      | some type =>
        rw [named] at decoded
        simp only [except_check_eq_ok_iff, not_lt, not_not] at decoded
        obtain ⟨bounded, length, returned⟩ := decoded
        cases returned
        have value := (ofValue?_eq_some_iff _ _).mp named
        have measured : header.payloadSize.toNat = payload.length := by
          rw [split, length_append, writeFrameHeader_length] at length
          omega
        have same : header = frameHeader ⟨type, header.sequence, payload⟩ := by
          unfold frameHeader
          rw [← measured, UInt32.ofNat_toNat, ← value, ← magic, ← version]
        have fits : FrameFits ⟨type, header.sequence, payload⟩ := by
          rw [measured] at bounded
          exact bounded
        refine ⟨fits, ?_⟩
        rw [encodeFrame_eq fits, ← same]
        exact split
  · intro ⟨fits, split⟩
    have bounded := fits
    unfold FrameFits kMaximumPayloadBytes at bounded
    have small : frame.payload.length < 2 ^ 32 := by
      omega
    have measured : (UInt32.ofNat frame.payload.length).toNat = frame.payload.length :=
      UInt32.toNat_ofNat_of_lt' small
    have length : bytes.length = kFrameHeaderBytes + frame.payload.length := by
      rw [split, encodeFrame_eq fits, length_append, writeFrameHeader_length]
    have scanned : readFrameHeader bytes = .ok (frameHeader frame, frame.payload) := by
      apply (readFrameHeader_scans _ _ _).mpr
      rw [split, encodeFrame_eq fits]
      exact ⟨trivial, rfl⟩
    have named := (ofValue?_eq_some_iff frame.type.value frame.type).mpr rfl
    refine ⟨by omega, ?_, ?_⟩
    · rw [length, kMaximumFrameBytes]
      exact Nat.add_le_add_left fits _
    · rw [scanned]
      simp only [frameHeader, named, measured]
      rw [if_neg (not_not.mpr rfl), if_neg (not_not.mpr rfl),
        if_neg (Nat.not_lt.mpr fits), if_neg (not_not.mpr length)]

/-- Both levels of a decoder: the frame, and the message in it. -/
def decodeFramed {Message : Type} (decode : DecodedFrame → Except String Message)
    (bytes : List UInt8) : Except String (UInt64 × Message) := do
  let frame ← decodeFrame bytes
  let message ← decode frame
  return (frame.sequence, message)

section Messages

variable {Message : Type} {read : Scanner Message}
  {validate : Message → Except String Unit} {type : MessageType}
  {accepts : Message → Prop} {writes : Message → List UInt8}

theorem finishDecode_eq_ok_iff (frame : DecodedFrame) (unread : List UInt8) :
    finishDecode frame type unread = .ok () ↔ frame.type = type ∧ unread = [] := by
  unfold finishDecode
  rw [except_check_eq_ok_iff, except_check_eq_ok_iff, not_not, not_not]
  simp

theorem decodeMessage_eq_ok_iff (scans : Scans read accepts writes) (frame : DecodedFrame)
    (message : Message) :
    decodeMessage read validate type frame = .ok message ↔
      (accepts message ∧ validate message = .ok ()) ∧
        frame.type = type ∧ frame.payload = writes message := by
  constructor
  · intro decoded
    obtain ⟨⟨found, unread⟩, scanned, decoded⟩ := except_bind_eq_ok decoded
    obtain ⟨_, valid, decoded⟩ := except_bind_eq_ok decoded
    obtain ⟨_, finished, returned⟩ := except_bind_eq_ok decoded
    cases returned
    obtain ⟨accepted, split⟩ := (scans _ _ _).mp scanned
    obtain ⟨typed, empty⟩ := (finishDecode_eq_ok_iff _ _).mp finished
    rw [empty, append_nil] at split
    exact ⟨⟨accepted, valid⟩, typed, split⟩
  · intro ⟨⟨accepted, valid⟩, typed, payload⟩
    have scanned : read frame.payload = .ok (message, []) := by
      apply (scans _ _ _).mpr
      rw [payload, append_nil]
      exact ⟨accepted, rfl⟩
    have finished := (finishDecode_eq_ok_iff frame []).mpr ⟨typed, rfl⟩
    unfold decodeMessage
    rw [scanned]
    change (validate message >>= _) = _
    rw [valid]
    change (finishDecode frame type [] >>= _) = _
    rw [finished]
    rfl

theorem decodeMessage_spells (scans : Scans read accepts writes)
    (fits : ∀ message, (writes message).length ≤ kMaximumPayloadBytes) :
    Spells (decodeFramed (decodeMessage read validate type))
      (fun sent => accepts sent.2 ∧ validate sent.2 = .ok ())
      (fun sent => encodeFrame type sent.1 (writes sent.2)) := by
  intro bytes ⟨sequence, message⟩
  constructor
  · intro decoded
    obtain ⟨frame, framed, decoded⟩ := except_bind_eq_ok decoded
    obtain ⟨found, listed, returned⟩ := except_bind_eq_ok decoded
    cases returned
    obtain ⟨valid, typed, payload⟩ := (decodeMessage_eq_ok_iff scans _ _).mp listed
    obtain ⟨_, split⟩ := (decodeFrame_spells _ _).mp framed
    dsimp only at split
    rw [typed, payload] at split
    exact ⟨valid, split⟩
  · intro ⟨valid, split⟩
    have framed : decodeFrame bytes = .ok ⟨type, sequence, writes message⟩ :=
      (decodeFrame_spells _ _).mpr ⟨fits message, split⟩
    have listed : decodeMessage read validate type ⟨type, sequence, writes message⟩ = .ok message :=
      (decodeMessage_eq_ok_iff scans _ _).mpr ⟨valid, rfl, rfl⟩
    unfold decodeFramed
    rw [framed]
    change (decodeMessage read validate type _ >>= _) = _
    rw [listed]
    rfl

end Messages

theorem readGamepad_scans : Scans readGamepad (fun _ => True) writeGamepad := by
  unfold writeGamepad
  simp only [append_assoc]
  refine .any scanU16_scans fun buttons => ?_
  refine .any scanU8_scans fun leftTrigger => ?_
  refine .any scanU8_scans fun rightTrigger => ?_
  refine .any scanI16_scans fun thumbLX => ?_
  refine .any scanI16_scans fun thumbLY => ?_
  refine .any scanI16_scans fun thumbRX => ?_
  refine .last scanI16_scans fun thumbRY => ?_
  exact .built fun value => by cases value; grind

theorem readCapabilities_scans : Scans readCapabilities (fun _ => True) writeCapabilities := by
  unfold writeCapabilities
  simp only [append_assoc]
  refine .any scanU8_scans fun type => ?_
  refine .any scanU8_scans fun subtype => ?_
  refine .any scanU16_scans fun flags => ?_
  refine .any readGamepad_scans fun gamepad => ?_
  refine .any scanBool_scans fun vibrationSupported => ?_
  refine .skip (scanPadding_scans 3) ?_
  refine .any scanU16_scans fun leftMotorMaximum => ?_
  refine .last scanU16_scans fun rightMotorMaximum => ?_
  exact .built fun value => by
    obtain ⟨⟨_⟩, _, _, _, _, _, _⟩ := value
    grind

theorem readBattery_scans : Scans readBattery (fun _ => True) writeBattery := by
  unfold writeBattery
  simp only [append_assoc]
  refine .any scanBool_scans fun available => ?_
  refine .any scanU8_scans fun deviceType => ?_
  refine .any scanU8_scans fun batteryType => ?_
  refine .last scanU8_scans fun batteryLevel => ?_
  exact .built fun value => by
    obtain ⟨_, ⟨_⟩, ⟨_⟩, ⟨_⟩⟩ := value
    grind

theorem readSource_scans : Scans readSource (fun _ => True) writeSource := by
  unfold writeSource
  simp only [append_assoc]
  refine .any scanU8_scans fun kind => ?_
  refine .any scanU8_scans fun runtimeXInputSlotHint => ?_
  refine .skip (scanPadding_scans 2) ?_
  refine .last scanU64_scans fun sourceKey => ?_
  exact .built fun value => by
    obtain ⟨⟨_⟩, _, _⟩ := value
    grind

theorem readMapping_scans (logicalSlot : UInt8) :
    Scans (readMapping logicalSlot) (fun mapping => mapping.logicalSlot = logicalSlot)
      writeMapping := by
  unfold writeMapping
  simp only [append_assoc]
  refine .any readSource_scans fun source => ?_
  refine .any scanU64_scans fun sourceGeneration => ?_
  refine .last scanU64_scans fun mappingGeneration => ?_
  exact .built fun value => by cases value; grind

theorem readHello_scans : Scans readHello (fun _ => True) writeHello := by
  unfold writeHello
  simp only [append_assoc]
  refine .any (scanArray_scans 16) fun token => ?_
  refine .any scanU32_scans fun seatId => ?_
  refine .any scanU32_scans fun processId => ?_
  refine .any scanU16_scans fun architectureBits => ?_
  refine .skip (scanPadding_scans 2) ?_
  refine .last scanU64_scans fun targetWindow => ?_
  exact .built fun value => by cases value; grind

theorem readHelloAck_scans : Scans readHelloAck (fun _ => True) writeHelloAck := by
  unfold writeHelloAck
  simp only [append_assoc]
  refine .any scanBool_scans fun accepted => ?_
  refine .skip (scanPadding_scans 3) ?_
  refine .any scanU32_scans fun serverProcessId => ?_
  refine .any scanU64_scans fun grantedCapabilities => ?_
  refine .last scanU32_scans fun errorCode => ?_
  exact .built fun value => by cases value; grind

theorem InputKind.ofValue?_eq_some_iff (value : UInt8) (kind : InputKind) :
    ofValue? value = some kind ↔ kind.value = value := by
  unfold ofValue?
  cases kind <;> grind [value]

theorem KeyTransition.ofValue?_eq_some_iff (value : UInt8) (transition : KeyTransition) :
    ofValue? value = some transition ↔ transition.value = value := by
  unfold ofValue?
  cases transition <;> grind [value]

theorem readInputEvent_scans : Scans readInputEvent (fun _ => True) writeInputEvent := by
  unfold writeInputEvent
  simp only [append_assoc]
  refine .any scanU8_scans fun rawKind => ?_
  refine .any scanU8_scans fun rawTransition => ?_
  refine .any scanBool_scans fun isTouchpad => ?_
  refine .skip (scanPadding_scans 1) ?_
  refine .any scanU64_scans fun timestampMicros => ?_
  refine .any scanU32_scans fun vkey => ?_
  refine .any scanU16_scans fun scanCode => ?_
  refine .any scanU16_scans fun keyboardFlags => ?_
  refine .any scanI32_scans fun deltaX => ?_
  refine .any scanI32_scans fun deltaY => ?_
  refine .any scanU16_scans fun mouseButtonFlags => ?_
  refine .last scanI16_scans fun wheelDelta => ?_
  refine .concluded fun value => ?_
  have kinds := InputKind.ofValue?_eq_some_iff rawKind
  have transitions := KeyTransition.ofValue?_eq_some_iff rawTransition
  cases kind : InputKind.ofValue? rawKind with
  | none =>
    have unnamed := kinds value.kind
    rw [kind] at unnamed
    grind
  | some known =>
    cases transition : KeyTransition.ofValue? rawTransition with
    | none =>
      have unnamed := transitions value.keyTransition
      rw [transition] at unnamed
      grind
    | some moved =>
      have sameKind := kinds value.kind
      have sameTransition := transitions value.keyTransition
      rw [kind] at sameKind
      rw [transition] at sameTransition
      cases value
      grind

theorem readControlState_scans : Scans readControlState (fun _ => True) writeControlState := by
  unfold writeControlState
  simp only [append_assoc]
  refine .any scanI32_scans fun cursorX => ?_
  refine .any scanI32_scans fun cursorY => ?_
  refine .any scanBool_scans fun clipEnabled => ?_
  refine .any scanBool_scans fun virtualForeground => ?_
  refine .any scanBool_scans fun virtualCapture => ?_
  refine .skip (scanPadding_scans 1) ?_
  refine .any scanI32_scans fun clipLeft => ?_
  refine .any scanI32_scans fun clipTop => ?_
  refine .any scanI32_scans fun clipRight => ?_
  refine .last scanI32_scans fun clipBottom => ?_
  exact .built fun value => by cases value; grind

theorem readQuerySnapshot_scans : Scans readQuerySnapshot (fun _ => True) writeQuerySnapshot := by
  unfold writeQuerySnapshot
  refine .any scanU16_scans fun probeVkey => ?_
  refine .padded (scanPadding_scans 2) ?_
  exact .built fun value => by cases value; grind

theorem readStateSnapshot_scans : Scans readStateSnapshot (fun _ => True) writeStateSnapshot := by
  unfold writeStateSnapshot
  simp only [append_assoc]
  refine .any scanU64_scans fun lastAppliedSequence => ?_
  refine .any (scanArray_scans 32) fun keyDownBits => ?_
  refine .any (scanArray_scans 32) fun keyPressedEdgeBits => ?_
  refine .any scanU32_scans fun mouseButtonsDown => ?_
  refine .any scanI64_scans fun wheelAccumulator => ?_
  refine .any scanU16_scans fun probeVkey => ?_
  refine .any scanU16_scans fun asyncKeyStateValue => ?_
  refine .any scanU8_scans fun keyboardStateByte => ?_
  refine .skip (scanPadding_scans 3) ?_
  refine .any scanI32_scans fun cursorX => ?_
  refine .any scanI32_scans fun cursorY => ?_
  refine .any scanBool_scans fun clipEnabled => ?_
  refine .any scanBool_scans fun virtualForeground => ?_
  refine .any scanBool_scans fun virtualCapture => ?_
  refine .skip (scanPadding_scans 1) ?_
  refine .any scanI32_scans fun clipLeft => ?_
  refine .any scanI32_scans fun clipTop => ?_
  refine .any scanI32_scans fun clipRight => ?_
  refine .last scanI32_scans fun clipBottom => ?_
  exact .built fun value => by cases value; grind

theorem readError_scans : Scans readError (fun _ => True) writeError := by
  refine .last scanU32_scans fun errorCode => ?_
  exact .built fun value => by cases value; grind

theorem nothing_scans : Scans (pure ()) (fun _ => True) (fun _ => []) := .built fun _ => by simp

theorem readControllerUpdate_scans :
    Scans readControllerUpdate (fun _ => True) writeControllerUpdate := by
  unfold writeControllerUpdate
  simp only [append_assoc]
  refine .any scanU32_scans fun seatId => ?_
  refine .any scanU8_scans fun kind => ?_
  refine .any scanU8_scans fun logicalSlot => ?_
  refine .skip (scanPadding_scans 2) ?_
  refine .any readSource_scans fun source => ?_
  refine .any scanU64_scans fun sourceGeneration => ?_
  refine .any readGamepad_scans fun gamepad => ?_
  refine .any readCapabilities_scans fun capabilities => ?_
  refine .last readBattery_scans fun battery => ?_
  exact .built fun value => by
    obtain ⟨_, ⟨_⟩, _, _, _, _, _, _⟩ := value
    grind

theorem readControllerQuery_scans :
    Scans readControllerQuery (fun _ => True) writeControllerQuery := by
  unfold writeControllerQuery
  simp only [append_assoc]
  refine .any scanU32_scans fun seatId => ?_
  refine .any scanU8_scans fun kind => ?_
  refine .any scanU8_scans fun logicalSlot => ?_
  refine .skip (scanPadding_scans 2) ?_
  refine .any scanU64_scans fun expectedMappingGeneration => ?_
  refine .any scanU64_scans fun expectedSourceGeneration => ?_
  refine .any scanU16_scans fun leftMotor => ?_
  refine .any scanU16_scans fun rightMotor => ?_
  refine .padded (scanPadding_scans 4) ?_
  exact .built fun value => by
    obtain ⟨_, ⟨_⟩, _, _, _, _, _⟩ := value
    grind

/-- The mappings of a snapshot name the slot of the snapshot. -/
structure Slotted (message : ControllerSnapshotMessage) : Prop where
  state : message.state.mapping.logicalSlot = message.logicalSlot
  capabilities : message.capabilities.mapping.logicalSlot = message.logicalSlot
  battery : message.battery.mapping.logicalSlot = message.logicalSlot
  vibration : message.vibration.logicalSlot = message.logicalSlot

theorem VirtualXInputResult.ofValue?_eq_some_iff (value : UInt32) (result : VirtualXInputResult) :
    ofValue? value = some result ↔ result.value = value := by
  constructor
  · intro named
    unfold ofValue? at named
    by_cases last : value = 11
    · rw [last] at named ⊢
      cases named
      rfl
    by_cases invalid : value = 10
    · rw [invalid] at named ⊢
      cases named
      rfl
    by_cases mismatch : value = 9
    · rw [mismatch] at named ⊢
      cases named
      rfl
    · rw [if_neg mismatch, if_neg invalid, if_neg last] at named
      grind [value]
  · intro named
    rw [← named]
    cases result <;> rfl

theorem readControllerSnapshot_scans :
    Scans readControllerSnapshot Slotted writeControllerSnapshot := by
  unfold writeControllerSnapshot
  simp only [append_assoc]
  refine .any scanU32_scans fun seatId => ?_
  refine .any scanU8_scans fun logicalSlot => ?_
  refine .skip (scanPadding_scans 3) ?_
  refine .any scanU32_scans fun stateResult => ?_
  refine .any scanU32_scans fun capabilitiesResult => ?_
  refine .any scanU32_scans fun batteryResult => ?_
  refine .any scanU32_scans fun vibrationResult => ?_
  refine .field (readMapping_scans logicalSlot) ?_ fun stateMapping stateSlot => ?_
  · intro value ⟨_, _, _, _, slot, _, slotted⟩
    rw [slotted.state, slot]
  refine .any scanBool_scans fun connected => ?_
  refine .skip (scanPadding_scans 3) ?_
  refine .any scanU32_scans fun packetNumber => ?_
  refine .any readGamepad_scans fun gamepad => ?_
  refine .field (readMapping_scans logicalSlot) ?_ fun capabilitiesMapping capabilitiesSlot => ?_
  · intro value ⟨_, _, _, _, _, _, _, _, slot, _, slotted⟩
    rw [slotted.capabilities, slot]
  refine .any readCapabilities_scans fun capabilities => ?_
  refine .field (readMapping_scans logicalSlot) ?_ fun batteryMapping batterySlot => ?_
  · intro value ⟨_, _, _, _, _, _, _, _, _, _, slot, _, slotted⟩
    rw [slotted.battery, slot]
  refine .any readBattery_scans fun battery => ?_
  refine .any readSource_scans fun source => ?_
  refine .any scanU64_scans fun sourceGeneration => ?_
  refine .any scanU64_scans fun mappingGeneration => ?_
  refine .any scanU64_scans fun commandSequence => ?_
  refine .any scanU64_scans fun routeCount => ?_
  refine .any scanU16_scans fun leftMotor => ?_
  refine .any scanU16_scans fun rightMotor => ?_
  refine .padded (scanPadding_scans 4) ?_
  refine .concluded fun value => ?_
  have named := VirtualXInputResult.ofValue?_eq_some_iff
  constructor
  · intro made
    split at made
    next state capable charged routed stateName capableName chargedName routedName =>
      cases made
      exact ⟨rfl, rfl, rfl, rfl, rfl, rfl, rfl, rfl, rfl, rfl, rfl, rfl,
        rfl, rfl, rfl, (named _ _).mp routedName,
        (named _ _).mp chargedName, (named _ _).mp capableName,
        (named _ _).mp stateName, rfl, rfl,
        ⟨stateSlot, capabilitiesSlot, batterySlot, rfl⟩⟩
    · cases made
  · intro ⟨sameRight, sameLeft, sameRoutes, sameCommand, sameMapping,
      sameGeneration, sameSource, sameBattery, sameBatteryMapping,
      sameCapabilities, sameCapabilitiesMapping, sameGamepad, samePacket,
      sameConnected, sameStateMapping, routed, charged, capable, state,
      sameSlot, sameSeat, slotted⟩
    rw [(named _ _).mpr state, (named _ _).mpr capable,
      (named _ _).mpr charged, (named _ _).mpr routed]
    have vibrationSlot := slotted.vibration
    obtain ⟨_, _, _, _, _, _, ⟨_, _, _, _⟩, ⟨_, _⟩, ⟨_, _⟩, ⟨_, _, _, _, _, _, _, _⟩⟩ := value
    dsimp only at *
    subst_vars
    rfl

end HydraSeat.GateC
