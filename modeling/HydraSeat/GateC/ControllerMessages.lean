import HydraSeat.GateC.Protocol

/-!
# The controller messages of Gate C

An update, a query or a snapshot of one logical slot.  Their validators
compare fields with each other, so most of the payload is canonical.
-/

namespace HydraSeat.GateC

open Foundation hiding readU8 readU16 readU32 readU64 readArray
open PayloadReader ControllerUpdateKind VirtualXInputResult

variable (message : ControllerUpdateMessage)

def zeroGamepad (value : NormalizedXInputGamepad) : Bool := value == {}

def canonicalEmptyMapping (mapping : VirtualXInputMapping) (logicalSlot : UInt8) : Bool :=
  mapping == { logicalSlot }

def validSnapshotMapping (mapping : VirtualXInputMapping) : Bool :=
  validControllerSourceIdentity mapping.source &&
    mapping.sourceGeneration != 0 && mapping.mappingGeneration != 0

def writeControllerUpdate : List UInt8 :=
  writeU32 message.seatId ++ writeU8 message.kind.value ++
    writeU8 message.logicalSlot ++ writePadding 2 ++
    writeSource message.source ++ writeU64 message.sourceGeneration ++
    writeGamepad message.gamepad ++
    writeCapabilities message.capabilities ++
    writeBattery message.battery

def encodeControllerUpdate (sequence : UInt64) (message : ControllerUpdateMessage) : List UInt8 :=
  encodeFrame .controllerUpdate sequence (writeControllerUpdate message)

def readControllerUpdate : Scanner ControllerUpdateMessage := do
  let seatId ← readU32
  let kind ← readU8
  let logicalSlot ← readU8
  readPadding 2
  let source ← readSource
  let sourceGeneration ← readU64
  let gamepad ← readGamepad
  let capabilities ← readCapabilities
  let battery ← readBattery
  return { seatId, kind := ⟨kind⟩, logicalSlot, source, sourceGeneration,
           gamepad, capabilities, battery }

/-- The switch over the kind, which is one of the six. -/
def validateControllerUpdateData : Except String Unit :=
  if message.kind = .map ∨ message.kind = .disconnect then
    if !zeroGamepad message.gamepad ∨ message.capabilities ≠ {} ∨ message.battery ≠ {} then
      .error "controller mapping/disconnect contains state data"
    else .ok ()
  else if message.kind = .unmap then
    if !zeroGamepad message.gamepad ∨ message.capabilities ≠ {} ∨ message.battery ≠ {} then
      .error "controller unmap contains state data"
    else .ok ()
  else if message.kind = .state then
    if message.capabilities ≠ {} ∨ message.battery ≠ {} then
      .error "controller state contains unrelated metadata"
    else .ok ()
  else if message.kind = .capabilities then
    if !zeroGamepad message.gamepad ∨ !validXInputCapabilities message.capabilities ∨
        message.battery ≠ {} then
      .error "controller capabilities payload is invalid"
    else .ok ()
  else if !zeroGamepad message.gamepad ∨ message.capabilities ≠ {} ∨
      !validXInputBattery message.battery then
    .error "controller battery payload is invalid"
  else .ok ()

def validateControllerUpdateMessage : Except String Unit :=
  if message.seatId = 0 then .error "controller Seat ID is zero"
  else if message.logicalSlot ≥ kVirtualXInputSlotCount then
    .error "controller logical slot is out of range"
  else if message.kind.value < map.value ∨ message.kind.value > disconnect.value then
    .error "unknown controller update kind"
  else if message.kind ≠ .unmap ∧
      (!validControllerSourceIdentity message.source ∨ message.sourceGeneration = 0) then
    .error "controller source identity or generation is invalid"
  else if message.kind = .unmap ∧ (message.source ≠ {} ∨ message.sourceGeneration ≠ 0) then
    .error "controller unmap contains a source identity"
  else validateControllerUpdateData message

def decodeControllerUpdate : DecodedFrame → Except String ControllerUpdateMessage :=
  decodeMessage readControllerUpdate validateControllerUpdateMessage .controllerUpdate

def writeControllerQuery (message : ControllerQueryMessage) : List UInt8 :=
  writeU32 message.seatId ++ writeU8 message.kind.value ++
    writeU8 message.logicalSlot ++ writePadding 2 ++
    writeU64 message.expectedMappingGeneration ++
    writeU64 message.expectedSourceGeneration ++
    writeU16 message.leftMotor ++ writeU16 message.rightMotor ++
    writePadding 4

def encodeControllerQuery (sequence : UInt64) (message : ControllerQueryMessage) : List UInt8 :=
  encodeFrame .controllerQuery sequence (writeControllerQuery message)

def readControllerQuery : Scanner ControllerQueryMessage := do
  let seatId ← readU32
  let kind ← readU8
  let logicalSlot ← readU8
  readPadding 2
  let expectedMappingGeneration ← readU64
  let expectedSourceGeneration ← readU64
  let leftMotor ← readU16
  let rightMotor ← readU16
  readPadding 4
  return { seatId, kind := ⟨kind⟩, logicalSlot,
           expectedMappingGeneration, expectedSourceGeneration, leftMotor,
           rightMotor }

def validateControllerQueryMessage (message : ControllerQueryMessage) : Except String Unit :=
  if message.seatId = 0 then .error "controller Seat ID is zero"
  else if message.logicalSlot ≥ kVirtualXInputSlotCount then
    .error "controller logical slot is out of range"
  else if message.kind = .snapshot then
    if message.expectedMappingGeneration ≠ 0 ∨ message.expectedSourceGeneration ≠ 0 ∨
        message.leftMotor ≠ 0 ∨ message.rightMotor ≠ 0 then
      .error "controller snapshot query contains vibration data"
    else .ok ()
  else if message.kind ≠ .vibration then .error "unknown controller query kind"
  else if message.expectedMappingGeneration = 0 ∨ message.expectedSourceGeneration = 0 then
    .error "controller vibration generation is zero"
  else .ok ()

def decodeControllerQuery : DecodedFrame → Except String ControllerQueryMessage :=
  decodeMessage readControllerQuery validateControllerQueryMessage .controllerQuery

def writeControllerSnapshot (message : ControllerSnapshotMessage) : List UInt8 :=
  writeU32 message.seatId ++ writeU8 message.logicalSlot ++
    writePadding 3 ++ writeU32 message.stateResult.value ++
    writeU32 message.capabilitiesResult.value ++
    writeU32 message.batteryResult.value ++
    writeU32 message.vibrationResult.value ++
    writeMapping message.state.mapping ++
    writeBool message.state.connected ++ writePadding 3 ++
    writeU32 message.state.packetNumber ++
    writeGamepad message.state.gamepad ++
    writeMapping message.capabilities.mapping ++
    writeCapabilities message.capabilities.capabilities ++
    writeMapping message.battery.mapping ++
    writeBattery message.battery.battery ++
    writeSource message.vibration.source ++
    writeU64 message.vibration.sourceGeneration ++
    writeU64 message.vibration.mappingGeneration ++
    writeU64 message.vibration.commandSequence ++
    writeU64 message.vibration.routeCount ++
    writeU16 message.vibration.leftMotor ++
    writeU16 message.vibration.rightMotor ++ writePadding 4

def encodeControllerSnapshot (sequence : UInt64) (message : ControllerSnapshotMessage) :
    List UInt8 :=
  encodeFrame .controllerSnapshot sequence (writeControllerSnapshot message)

/-- The raw results are looked at after the last field. -/
def readControllerSnapshot : Scanner ControllerSnapshotMessage := do
  let seatId ← readU32
  let logicalSlot ← readU8
  readPadding 3
  let stateResult ← readU32
  let capabilitiesResult ← readU32
  let batteryResult ← readU32
  let vibrationResult ← readU32
  let stateMapping ← readMapping logicalSlot
  let connected ← readBool
  readPadding 3
  let packetNumber ← readU32
  let gamepad ← readGamepad
  let capabilitiesMapping ← readMapping logicalSlot
  let capabilities ← readCapabilities
  let batteryMapping ← readMapping logicalSlot
  let battery ← readBattery
  let source ← readSource
  let sourceGeneration ← readU64
  let mappingGeneration ← readU64
  let commandSequence ← readU64
  let routeCount ← readU64
  let leftMotor ← readU16
  let rightMotor ← readU16
  readPadding 4
  conclude
    (match ofValue? stateResult, ofValue? capabilitiesResult, ofValue? batteryResult,
        ofValue? vibrationResult with
    | some stateResult, some capabilitiesResult, some batteryResult, some vibrationResult =>
      .ok
        { seatId, logicalSlot, stateResult, capabilitiesResult,
          batteryResult, vibrationResult
          state :=
            { mapping := stateMapping, connected, packetNumber,
              gamepad }
          capabilities :=
            { mapping := capabilitiesMapping, capabilities }
          battery := { mapping := batteryMapping, battery }
          vibration :=
            { logicalSlot, source, sourceGeneration,
              mappingGeneration, commandSequence, routeCount,
              leftMotor, rightMotor } }
    | _, _, _, _ => .error "unknown controller result")

def validateSnapshotState (message : ControllerSnapshotMessage) : Except String Unit :=
  match message.stateResult with
  | .success =>
    if !message.state.connected ∨ !validSnapshotMapping message.state.mapping then
      .error "connected controller snapshot state is invalid"
    else .ok ()
  | .disconnected =>
    if message.state.connected ∨ !zeroGamepad message.state.gamepad ∨
        !validSnapshotMapping message.state.mapping then
      .error "disconnected controller snapshot state is invalid"
    else .ok ()
  | .notMapped =>
    if message.state.connected ∨ message.state.packetNumber ≠ 0 ∨
        !zeroGamepad message.state.gamepad ∨
        !canonicalEmptyMapping message.state.mapping message.logicalSlot then
      .error "not-mapped controller snapshot state is not empty"
    else .ok ()
  | _ => .error "controller snapshot has an invalid state result"

def validateSnapshotCapabilities (message : ControllerSnapshotMessage) : Except String Unit :=
  if message.capabilitiesResult = .success then
    if message.stateResult ≠ .success ∨ !validXInputCapabilities message.capabilities.capabilities ∨
        message.capabilities.mapping ≠ message.state.mapping then
      .error "controller snapshot capabilities are inconsistent"
    else .ok ()
  else if !canonicalEmptyMapping message.capabilities.mapping message.logicalSlot ∨
      message.capabilities.capabilities ≠ {} then
    .error "failed controller capabilities retain metadata"
  else .ok ()

def validateSnapshotBattery (message : ControllerSnapshotMessage) : Except String Unit :=
  if message.batteryResult = .success then
    if message.stateResult ≠ .success ∨ !validXInputBattery message.battery.battery ∨
        message.battery.mapping ≠ message.state.mapping then
      .error "controller snapshot battery is inconsistent"
    else .ok ()
  else if !canonicalEmptyMapping message.battery.mapping message.logicalSlot ∨
      message.battery.battery ≠ {} then
    .error "failed controller battery retains metadata"
  else .ok ()

def validateSnapshotVibration (message : ControllerSnapshotMessage) : Except String Unit :=
  if message.vibrationResult = .success ∧
      (message.stateResult ≠ .success ∨ !validControllerSourceIdentity message.vibration.source ∨
        message.vibration.sourceGeneration = 0 ∨
        message.vibration.mappingGeneration = 0 ∨
        message.vibration.commandSequence = 0 ∨
        message.vibration.routeCount = 0 ∨
        (message.stateResult = .success ∧
          (message.vibration.source ≠ message.state.mapping.source ∨
            message.vibration.sourceGeneration ≠ message.state.mapping.sourceGeneration ∨
            message.vibration.mappingGeneration ≠ message.state.mapping.mappingGeneration))) then
    .error "controller snapshot vibration route is inconsistent"
  else if message.vibrationResult ≠ .success ∧
      (validControllerSourceIdentity message.vibration.source ∨
        message.vibration.sourceGeneration ≠ 0 ∨
        message.vibration.mappingGeneration ≠ 0 ∨
        message.vibration.commandSequence ≠ 0 ∨
        message.vibration.routeCount ≠ 0 ∨
        message.vibration.leftMotor ≠ 0 ∨
        message.vibration.rightMotor ≠ 0) then
    .error "failed controller vibration retains a route"
  else .ok ()

def validateControllerSnapshot (message : ControllerSnapshotMessage) : Except String Unit := do
  if message.seatId = 0 ∨ message.logicalSlot ≥ kVirtualXInputSlotCount then
    .error "controller snapshot authority or slot is invalid"
  validateSnapshotState message
  validateSnapshotCapabilities message
  validateSnapshotBattery message
  validateSnapshotVibration message

def decodeControllerSnapshot : DecodedFrame → Except String ControllerSnapshotMessage :=
  decodeMessage readControllerSnapshot validateControllerSnapshot .controllerSnapshot

end HydraSeat.GateC
