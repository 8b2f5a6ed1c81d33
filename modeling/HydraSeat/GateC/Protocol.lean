import HydraSeat.GateC.Wire
import HydraSeat.GateC.XInput

/-!
# The Gate C protocol

A decoder reads the whole payload, validates the message and only then asks
whether the frame has the expected type and no more bytes.
-/

namespace HydraSeat.GateC

open Foundation hiding readU8 readU16 readU32 readU64 readArray

def kProtocolMagic : UInt32 := 0x31434748

def kProtocolVersion : UInt16 := 1

def kFrameHeaderBytes : Nat := 20

def kMaximumPayloadBytes : Nat := 4096

def kMaximumFrameBytes : Nat := kFrameHeaderBytes + kMaximumPayloadBytes

abbrev SessionToken := Vector UInt8 16

inductive MessageType where
  | hello | helloAck | inputEvent | controlState | querySnapshot | stateSnapshot | shutdown | error
  | probeSnapshot | controllerUpdate | controllerQuery | controllerSnapshot
  deriving DecidableEq

namespace MessageType

def value : MessageType → UInt16
  | .hello => 1
  | .helloAck => 2
  | .inputEvent => 3
  | .controlState => 4
  | .querySnapshot => 5
  | .stateSnapshot => 6
  | .shutdown => 7
  | .error => 8
  | .probeSnapshot => 9
  | .controllerUpdate => 10
  | .controllerQuery => 11
  | .controllerSnapshot => 12

/-- Nothing outside the known types has a name. -/
def ofValue? (value : UInt16) : Option MessageType :=
  if value = 1 then some .hello
  else if value = 2 then some .helloAck
  else if value = 3 then some .inputEvent
  else if value = 4 then some .controlState
  else if value = 5 then some .querySnapshot
  else if value = 6 then some .stateSnapshot
  else if value = 7 then some .shutdown
  else if value = 8 then some .error
  else if value = 9 then some .probeSnapshot
  else if value = 10 then some .controllerUpdate
  else if value = 11 then some .controllerQuery
  else if value = 12 then some .controllerSnapshot
  else none

end MessageType

inductive TestCapability where
  | none | virtualKeyboardState | virtualMouseState | virtualCursorState | virtualFocusState
  | snapshotQuery | apiProbeBaselineSnapshot | pollingApiShim | cursorFocusApiShim | rawInputApiShim
  | virtualXInputState

def testCapabilityBits : TestCapability → UInt64
  | .none => 0
  | .virtualKeyboardState => (1 : UInt64) <<< 0
  | .virtualMouseState => (1 : UInt64) <<< 1
  | .virtualCursorState => (1 : UInt64) <<< 2
  | .virtualFocusState => (1 : UInt64) <<< 3
  | .snapshotQuery => (1 : UInt64) <<< 4
  | .apiProbeBaselineSnapshot => (1 : UInt64) <<< 5
  | .pollingApiShim => (1 : UInt64) <<< 6
  | .cursorFocusApiShim => (1 : UInt64) <<< 7
  | .rawInputApiShim => (1 : UInt64) <<< 8
  | .virtualXInputState => (1 : UInt64) <<< 9

structure DecodedFrame where
  type : MessageType := .error
  sequence : UInt64 := 0
  payload : List UInt8 := []

structure HelloMessage where
  token : SessionToken := Vector.replicate 16 0
  (seatId processId : UInt32 := 0)
  architectureBits : UInt16 := 0
  targetWindow : UInt64 := 0

structure HelloAckMessage where
  accepted : Bool := false
  serverProcessId : UInt32 := 0
  grantedCapabilities : UInt64 := 0
  errorCode : UInt32 := 0

inductive InputKind where
  | keyboard | mouse
  deriving DecidableEq

namespace InputKind

def value : InputKind → UInt8
  | .keyboard => 1
  | .mouse => 2

def ofValue? (value : UInt8) : Option InputKind :=
  if value = 1 then some .keyboard
  else if value = 2 then some .mouse
  else none

end InputKind

inductive KeyTransition where
  | none | down | up
  deriving DecidableEq

namespace KeyTransition

def value : KeyTransition → UInt8
  | .none => 0
  | .down => 1
  | .up => 2

def ofValue? (value : UInt8) : Option KeyTransition :=
  if value = 0 then some .none
  else if value = 1 then some .down
  else if value = 2 then some .up
  else Option.none

end KeyTransition

structure InputEventMessage where
  kind : InputKind := .keyboard
  keyTransition : KeyTransition := .none
  isTouchpad : Bool := false
  timestampMicros : UInt64 := 0
  vkey : UInt32 := 0
  (scanCode keyboardFlags : UInt16 := 0)
  (deltaX deltaY : Int32 := 0)
  mouseButtonFlags : UInt16 := 0
  wheelDelta : Int16 := 0
  deriving DecidableEq

structure ControlStateMessage where
  (cursorX cursorY : Int32 := 0)
  (clipEnabled virtualForeground virtualCapture : Bool := false)
  (clipLeft clipTop clipRight clipBottom : Int32 := 0)
  deriving DecidableEq

structure QuerySnapshotMessage where
  probeVkey : UInt16 := 0xffff

structure StateSnapshotMessage where
  lastAppliedSequence : UInt64 := 0
  (keyDownBits keyPressedEdgeBits : Vector UInt8 32 := Vector.replicate 32 0)
  mouseButtonsDown : UInt32 := 0
  wheelAccumulator : Int64 := 0
  probeVkey : UInt16 := 0xffff
  asyncKeyStateValue : UInt16 := 0
  keyboardStateByte : UInt8 := 0
  (cursorX cursorY : Int32 := 0)
  (clipEnabled virtualForeground virtualCapture : Bool := false)
  (clipLeft clipTop clipRight clipBottom : Int32 := 0)

structure ErrorMessage where
  errorCode : UInt32 := 0

structure ControllerUpdateKind where
  value : UInt8
  deriving DecidableEq

namespace ControllerUpdateKind

def map : ControllerUpdateKind := ⟨1⟩

def unmap : ControllerUpdateKind := ⟨2⟩

def state : ControllerUpdateKind := ⟨3⟩

def capabilities : ControllerUpdateKind := ⟨4⟩

def battery : ControllerUpdateKind := ⟨5⟩

def disconnect : ControllerUpdateKind := ⟨6⟩

end ControllerUpdateKind

structure ControllerUpdateMessage where
  seatId : UInt32 := 0
  kind : ControllerUpdateKind := .map
  logicalSlot : UInt8 := 0
  source : ControllerSourceIdentity := {}
  sourceGeneration : UInt64 := 0
  gamepad : NormalizedXInputGamepad := {}
  capabilities : NormalizedXInputCapabilities := {}
  battery : NormalizedXInputBattery := {}

structure ControllerQueryKind where
  value : UInt8
  deriving DecidableEq

namespace ControllerQueryKind

def snapshot : ControllerQueryKind := ⟨1⟩

def vibration : ControllerQueryKind := ⟨2⟩

end ControllerQueryKind

structure ControllerQueryMessage where
  seatId : UInt32 := 0
  kind : ControllerQueryKind := .snapshot
  logicalSlot : UInt8 := 0
  (expectedMappingGeneration expectedSourceGeneration : UInt64 := 0)
  (leftMotor rightMotor : UInt16 := 0)

structure ControllerSnapshotMessage where
  seatId : UInt32 := 0
  logicalSlot : UInt8 := 0
  (stateResult capabilitiesResult batteryResult vibrationResult : VirtualXInputResult := .notMapped)
  state : VirtualXInputState := {}
  capabilities : VirtualXInputCapabilities := {}
  battery : VirtualXInputBattery := {}
  vibration : VirtualXInputVibrationRoute := {}

namespace PayloadReader

def truncated : String := "payload is truncated"

def readU8 : Scanner UInt8 := scanU8 truncated

def readBool : Scanner Bool := scanBool truncated

def readU16 : Scanner UInt16 := scanU16 truncated

def readI16 : Scanner Int16 := scanI16 truncated

def readU32 : Scanner UInt32 := scanU32 truncated

def readI32 : Scanner Int32 := scanI32 truncated

def readU64 : Scanner UInt64 := scanU64 truncated

def readI64 : Scanner Int64 := scanI64 truncated

def readArray (size : Nat) : Scanner (Vector UInt8 size) := scanArray truncated size

def readPadding (bytes : Nat) : Scanner Unit := scanPadding truncated bytes

end PayloadReader

open PayloadReader

structure FrameHeader where
  magic : UInt32
  (version rawType : UInt16)
  payloadSize : UInt32
  sequence : UInt64

def writeFrameHeader (header : FrameHeader) : List UInt8 :=
  writeU32 header.magic ++ writeU16 header.version ++
    writeU16 header.rawType ++ writeU32 header.payloadSize ++
    writeU64 header.sequence

def readFrameHeader : Scanner FrameHeader := do
  let magic ← readU32
  let version ← readU16
  let rawType ← readU16
  let payloadSize ← readU32
  let sequence ← readU64
  return { magic, version, rawType, payloadSize, sequence }

/-- An empty result is the encoder's refusal. -/
def encodeFrame (type : MessageType) (sequence : UInt64) (payload : List UInt8) : List UInt8 :=
  if payload.length > kMaximumPayloadBytes then []
  else
    writeFrameHeader
      { magic := kProtocolMagic, version := kProtocolVersion, rawType := type.value
        payloadSize := UInt32.ofNat payload.length, sequence := sequence } ++ payload

def decodeFrame (bytes : List UInt8) : Except String DecodedFrame :=
  if bytes.length < kFrameHeaderBytes then .error "frame header is truncated"
  else if bytes.length > kMaximumFrameBytes then .error "frame exceeds maximum size"
  else
    match readFrameHeader bytes with
    | .error text => .error text
    | .ok (header, payload) =>
      if header.magic ≠ kProtocolMagic then .error "protocol magic mismatch"
      else if header.version ≠ kProtocolVersion then .error "unsupported protocol version"
      else
        match MessageType.ofValue? header.rawType with
        | none => .error "unknown message type"
        | some type =>
          if header.payloadSize.toNat > kMaximumPayloadBytes then
            .error "payload exceeds maximum size"
          else if bytes.length ≠ kFrameHeaderBytes + header.payloadSize.toNat then
            .error "frame size does not match payload size"
          else .ok ⟨type, header.sequence, payload⟩

def finishDecode (frame : DecodedFrame) (expected : MessageType)
    (unread : List UInt8) : Except String Unit :=
  if frame.type ≠ expected then .error "unexpected message type"
  else if unread ≠ [] then .error "payload contains trailing bytes"
  else .ok ()

/-- What the decoders of the messages have in common. -/
def decodeMessage {Message : Type}
    (read : Scanner Message) (validate : Message → Except String Unit)
    (expected : MessageType) (frame : DecodedFrame) :
    Except String Message := do
  let (message, unread) ← read frame.payload
  validate message
  finishDecode frame expected unread
  return message

def writeGamepad (value : NormalizedXInputGamepad) : List UInt8 :=
  writeU16 value.buttons ++ writeU8 value.leftTrigger ++
    writeU8 value.rightTrigger ++ writeI16 value.thumbLX ++
    writeI16 value.thumbLY ++ writeI16 value.thumbRX ++
    writeI16 value.thumbRY

def readGamepad : Scanner NormalizedXInputGamepad := do
  let buttons ← readU16
  let leftTrigger ← readU8
  let rightTrigger ← readU8
  let thumbLX ← readI16
  let thumbLY ← readI16
  let thumbRX ← readI16
  let thumbRY ← readI16
  return { buttons, leftTrigger, rightTrigger, thumbLX, thumbLY, thumbRX,
           thumbRY }

def writeCapabilities (value : NormalizedXInputCapabilities) : List UInt8 :=
  writeU8 value.type.value ++ writeU8 value.subtype ++
    writeU16 value.flags ++ writeGamepad value.gamepad ++
    writeBool value.vibrationSupported ++ writePadding 3 ++
    writeU16 value.leftMotorMaximum ++ writeU16 value.rightMotorMaximum

def readCapabilities : Scanner NormalizedXInputCapabilities := do
  let type ← readU8
  let subtype ← readU8
  let flags ← readU16
  let gamepad ← readGamepad
  let vibrationSupported ← readBool
  readPadding 3
  let leftMotorMaximum ← readU16
  let rightMotorMaximum ← readU16
  return { type := ⟨type⟩, subtype, flags, gamepad, vibrationSupported,
           leftMotorMaximum, rightMotorMaximum }

def writeBattery (value : NormalizedXInputBattery) : List UInt8 :=
  writeBool value.available ++ writeU8 value.deviceType.value ++
    writeU8 value.batteryType.value ++ writeU8 value.batteryLevel.value

def readBattery : Scanner NormalizedXInputBattery := do
  let available ← readBool
  let deviceType ← readU8
  let batteryType ← readU8
  let batteryLevel ← readU8
  return { available, deviceType := ⟨deviceType⟩,
           batteryType := ⟨batteryType⟩, batteryLevel := ⟨batteryLevel⟩ }

def writeSource (source : ControllerSourceIdentity) : List UInt8 :=
  writeU8 source.kind.value ++ writeU8 source.runtimeXInputSlotHint ++
    writePadding 2 ++ writeU64 source.sourceKey

def readSource : Scanner ControllerSourceIdentity := do
  let kind ← readU8
  let runtimeXInputSlotHint ← readU8
  readPadding 2
  let sourceKey ← readU64
  return { kind := ⟨kind⟩, runtimeXInputSlotHint, sourceKey }

def writeMapping (mapping : VirtualXInputMapping) : List UInt8 :=
  writeSource mapping.source ++ writeU64 mapping.sourceGeneration ++
    writeU64 mapping.mappingGeneration

/-- The slot of a mapping stands in the message, not in the mapping. -/
def readMapping (logicalSlot : UInt8) : Scanner VirtualXInputMapping := do
  let source ← readSource
  let sourceGeneration ← readU64
  let mappingGeneration ← readU64
  return { logicalSlot, source, sourceGeneration, mappingGeneration }

def writeHello (message : HelloMessage) : List UInt8 :=
  writeArray message.token ++ writeU32 message.seatId ++
    writeU32 message.processId ++ writeU16 message.architectureBits ++
    writePadding 2 ++ writeU64 message.targetWindow

def encodeHello (sequence : UInt64) (message : HelloMessage) : List UInt8 :=
  encodeFrame .hello sequence (writeHello message)

def readHello : Scanner HelloMessage := do
  let token ← readArray 16
  let seatId ← readU32
  let processId ← readU32
  let architectureBits ← readU16
  readPadding 2
  let targetWindow ← readU64
  return { token, seatId, processId, architectureBits, targetWindow }

def validateHello (message : HelloMessage) : Except String Unit :=
  if message.architectureBits ≠ 32 ∧ message.architectureBits ≠ 64 then
    .error "architecture must be 32 or 64 bits"
  else .ok ()

def decodeHello : DecodedFrame → Except String HelloMessage :=
  decodeMessage readHello validateHello .hello

def writeHelloAck (message : HelloAckMessage) : List UInt8 :=
  writeBool message.accepted ++ writePadding 3 ++ writeU32 message.serverProcessId ++
    writeU64 message.grantedCapabilities ++ writeU32 message.errorCode

def encodeHelloAck (sequence : UInt64) (message : HelloAckMessage) : List UInt8 :=
  encodeFrame .helloAck sequence (writeHelloAck message)

def readHelloAck : Scanner HelloAckMessage := do
  let accepted ← readBool
  readPadding 3
  let serverProcessId ← readU32
  let grantedCapabilities ← readU64
  let errorCode ← readU32
  return { accepted, serverProcessId, grantedCapabilities, errorCode }

/-- The message has no field to validate. -/
def anyMessage {Message : Type} (_ : Message) : Except String Unit := .ok ()

def decodeHelloAck : DecodedFrame → Except String HelloAckMessage :=
  decodeMessage readHelloAck anyMessage .helloAck

def writeInputEvent (message : InputEventMessage) : List UInt8 :=
  writeU8 message.kind.value ++ writeU8 message.keyTransition.value ++
    writeBool message.isTouchpad ++ writePadding 1 ++
    writeU64 message.timestampMicros ++ writeU32 message.vkey ++
    writeU16 message.scanCode ++ writeU16 message.keyboardFlags ++
    writeI32 message.deltaX ++ writeI32 message.deltaY ++
    writeU16 message.mouseButtonFlags ++ writeI16 message.wheelDelta

def encodeInputEvent (sequence : UInt64) (message : InputEventMessage) : List UInt8 :=
  encodeFrame .inputEvent sequence (writeInputEvent message)

/-- The raw kind and transition are looked at after the last field. -/
def readInputEvent : Scanner InputEventMessage := do
  let rawKind ← readU8
  let rawTransition ← readU8
  let isTouchpad ← readBool
  readPadding 1
  let timestampMicros ← readU64
  let vkey ← readU32
  let scanCode ← readU16
  let keyboardFlags ← readU16
  let deltaX ← readI32
  let deltaY ← readI32
  let mouseButtonFlags ← readU16
  let wheelDelta ← readI16
  conclude
    (match InputKind.ofValue? rawKind with
    | none => .error "unknown input kind"
    | some kind =>
      match KeyTransition.ofValue? rawTransition with
      | none => .error "unknown key transition"
      | some keyTransition =>
        .ok
          { kind, keyTransition, isTouchpad, timestampMicros, vkey,
            scanCode, keyboardFlags, deltaX, deltaY,
            mouseButtonFlags, wheelDelta })

def validateInputEvent (message : InputEventMessage) : Except String Unit :=
  if message.kind = .keyboard then
    if message.vkey ≥ 256 then .error "keyboard virtual key is out of range"
    else if message.keyTransition ≠ .down ∧ message.keyTransition ≠ .up then
      .error "keyboard event requires a down/up transition"
    else .ok ()
  else if message.keyTransition ≠ .none then .error "mouse event must not contain a key transition"
  else .ok ()

def decodeInputEvent : DecodedFrame → Except String InputEventMessage :=
  decodeMessage readInputEvent validateInputEvent .inputEvent

def writeControlState (message : ControlStateMessage) : List UInt8 :=
  writeI32 message.cursorX ++ writeI32 message.cursorY ++ writeBool message.clipEnabled ++
    writeBool message.virtualForeground ++
    writeBool message.virtualCapture ++ writePadding 1 ++
    writeI32 message.clipLeft ++ writeI32 message.clipTop ++
    writeI32 message.clipRight ++ writeI32 message.clipBottom

def encodeControlState (sequence : UInt64) (message : ControlStateMessage) : List UInt8 :=
  encodeFrame .controlState sequence (writeControlState message)

def readControlState : Scanner ControlStateMessage := do
  let cursorX ← readI32
  let cursorY ← readI32
  let clipEnabled ← readBool
  let virtualForeground ← readBool
  let virtualCapture ← readBool
  readPadding 1
  let clipLeft ← readI32
  let clipTop ← readI32
  let clipRight ← readI32
  let clipBottom ← readI32
  return { cursorX, cursorY, clipEnabled, virtualForeground,
           virtualCapture, clipLeft, clipTop, clipRight, clipBottom }

def validateControlState (message : ControlStateMessage) : Except String Unit :=
  if message.clipEnabled ∧
      (message.clipRight ≤ message.clipLeft ∨ message.clipBottom ≤ message.clipTop) then
    .error "clip rectangle is invalid"
  else .ok ()

def decodeControlState : DecodedFrame → Except String ControlStateMessage :=
  decodeMessage readControlState validateControlState .controlState

def writeQuerySnapshot (message : QuerySnapshotMessage) : List UInt8 :=
  writeU16 message.probeVkey ++ writePadding 2

def encodeQuerySnapshot (sequence : UInt64) (message : QuerySnapshotMessage) : List UInt8 :=
  encodeFrame .querySnapshot sequence (writeQuerySnapshot message)

def readQuerySnapshot : Scanner QuerySnapshotMessage := do
  let probeVkey ← readU16
  readPadding 2
  return { probeVkey }

def probeVkeyOutOfRange (probeVkey : UInt16) : Bool := probeVkey != 0xffff && probeVkey ≥ 256

def validateQuerySnapshot (message : QuerySnapshotMessage) : Except String Unit :=
  if probeVkeyOutOfRange message.probeVkey then .error "snapshot probe virtual key is out of range"
  else .ok ()

def decodeQuerySnapshot : DecodedFrame → Except String QuerySnapshotMessage :=
  decodeMessage readQuerySnapshot validateQuerySnapshot .querySnapshot

def writeStateSnapshot (message : StateSnapshotMessage) : List UInt8 :=
  writeU64 message.lastAppliedSequence ++ writeArray message.keyDownBits ++
    writeArray message.keyPressedEdgeBits ++
    writeU32 message.mouseButtonsDown ++
    writeI64 message.wheelAccumulator ++ writeU16 message.probeVkey ++
    writeU16 message.asyncKeyStateValue ++
    writeU8 message.keyboardStateByte ++ writePadding 3 ++
    writeI32 message.cursorX ++ writeI32 message.cursorY ++
    writeBool message.clipEnabled ++
    writeBool message.virtualForeground ++
    writeBool message.virtualCapture ++ writePadding 1 ++
    writeI32 message.clipLeft ++ writeI32 message.clipTop ++
    writeI32 message.clipRight ++ writeI32 message.clipBottom

def encodeStateSnapshot (sequence : UInt64) (message : StateSnapshotMessage) : List UInt8 :=
  encodeFrame .stateSnapshot sequence (writeStateSnapshot message)

def readStateSnapshot : Scanner StateSnapshotMessage := do
  let lastAppliedSequence ← readU64
  let keyDownBits ← readArray 32
  let keyPressedEdgeBits ← readArray 32
  let mouseButtonsDown ← readU32
  let wheelAccumulator ← readI64
  let probeVkey ← readU16
  let asyncKeyStateValue ← readU16
  let keyboardStateByte ← readU8
  readPadding 3
  let cursorX ← readI32
  let cursorY ← readI32
  let clipEnabled ← readBool
  let virtualForeground ← readBool
  let virtualCapture ← readBool
  readPadding 1
  let clipLeft ← readI32
  let clipTop ← readI32
  let clipRight ← readI32
  let clipBottom ← readI32
  return { lastAppliedSequence, keyDownBits, keyPressedEdgeBits,
           mouseButtonsDown, wheelAccumulator, probeVkey,
           asyncKeyStateValue, keyboardStateByte, cursorX, cursorY,
           clipEnabled, virtualForeground, virtualCapture, clipLeft,
           clipTop, clipRight, clipBottom }

def validateStateSnapshot (message : StateSnapshotMessage) : Except String Unit :=
  if probeVkeyOutOfRange message.probeVkey then .error "snapshot probe virtual key is out of range"
  else if message.clipEnabled ∧
      (message.clipRight ≤ message.clipLeft ∨ message.clipBottom ≤ message.clipTop) then
    .error "snapshot clip rectangle is invalid"
  else .ok ()

def decodeStateSnapshot : DecodedFrame → Except String StateSnapshotMessage :=
  decodeMessage readStateSnapshot validateStateSnapshot .stateSnapshot

def encodeShutdown (sequence : UInt64) : List UInt8 := encodeFrame .shutdown sequence []

def decodeShutdown : DecodedFrame → Except String Unit :=
  decodeMessage (pure ()) anyMessage .shutdown

def writeError (message : ErrorMessage) : List UInt8 := writeU32 message.errorCode

def encodeError (sequence : UInt64) (message : ErrorMessage) : List UInt8 :=
  encodeFrame .error sequence (writeError message)

def readError : Scanner ErrorMessage := do
  let errorCode ← readU32
  return { errorCode }

def decodeError : DecodedFrame → Except String ErrorMessage :=
  decodeMessage readError anyMessage .error

end HydraSeat.GateC
