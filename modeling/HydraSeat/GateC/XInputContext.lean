import HydraSeat.GateC.XInput
import Mathlib.Logic.Function.Basic

/-!
# The virtual controllers of one adapter

`VirtualXInputContext` owns four logical slots.  Every operation takes its
mutex, so each is one step here, and the reads leave the context alone.
-/

namespace HydraSeat.GateC

def sameControllerSourceIdentity (left right : ControllerSourceIdentity) : Bool :=
  left.kind == right.kind && left.sourceKey == right.sourceKey

def nextXInputPacketNumber (current : UInt32) : UInt32 := current + 1

structure VirtualXInputVibrationRequest where
  logicalSlot : UInt8 := 0
  (leftMotor rightMotor : UInt16 := 0)
  (expectedMappingGeneration expectedSourceGeneration : UInt64 := 0)

structure VirtualXInputSlot where
  (mapped connected requiresNewGeneration capabilitiesAvailable batteryAvailable : Bool := false)
  mapping : VirtualXInputMapping := {}
  packetNumber : UInt32 := 0
  gamepad : NormalizedXInputGamepad := {}
  capabilities : NormalizedXInputCapabilities := {}
  battery : NormalizedXInputBattery := {}
  vibration : VirtualXInputVibrationRoute := {}

abbrev SlotIndex : Type := Fin kVirtualXInputSlotCount.toNat

structure VirtualXInputContext where
  slots : SlotIndex → VirtualXInputSlot := fun _ => {}
  lastAppliedSequence : UInt64 := 0

def maximumGeneration : UInt64 := 0xffffffffffffffff

/-- The slot of a number that `validLogicalSlot` accepts. -/
def slotIndex? (logicalSlot : UInt8) : Option SlotIndex :=
  if valid : logicalSlot < kVirtualXInputSlotCount then some ⟨logicalSlot.toNat, valid⟩
  else none

namespace VirtualXInputSlot

variable (slot : VirtualXInputSlot)

def clearConnectionState : VirtualXInputSlot :=
  { slot with
    connected := false, capabilitiesAvailable := false, batteryAvailable := false, gamepad := {}
    capabilities := {}, battery := {}, vibration := {} }

/-- The slot is mapped to a source of the given identity. -/
def carries (source : ControllerSourceIdentity) : Bool :=
  slot.mapped && sameControllerSourceIdentity slot.mapping.source source

def validateGeneration (generation : UInt64) (allowNewGeneration : Bool) : VirtualXInputResult :=
  if generation = 0 then .invalidArgument
  else if generation < slot.mapping.sourceGeneration ||
      (generation == slot.mapping.sourceGeneration && slot.requiresNewGeneration) then
    .staleGeneration
  else if !allowNewGeneration && generation != slot.mapping.sourceGeneration then .staleGeneration
  else .success

/-- What `mapLogicalSlot` leaves in a slot that it maps anew. -/
def remapped (logicalSlot : UInt8) (source : ControllerSourceIdentity)
    (sourceGeneration mappingGeneration : UInt64) : VirtualXInputSlot where
  mapped := true
  mapping := { logicalSlot, source, sourceGeneration, mappingGeneration }

/-- What `unmapLogicalSlot` leaves in a slot. -/
def tombstone (logicalSlot : UInt8) (mappingGeneration : UInt64) : VirtualXInputSlot where
  mapping := { logicalSlot, mappingGeneration }

/-- The writes of `applySourceState`. -/
def withState (sourceGeneration : UInt64) (gamepad : NormalizedXInputGamepad) : VirtualXInputSlot :=
  let generationChanged := sourceGeneration != slot.mapping.sourceGeneration
  let current :=
    if generationChanged then
      { slot.clearConnectionState with
        mapping := { slot.mapping with sourceGeneration }, requiresNewGeneration := false }
    else slot
  let changed := generationChanged || !current.connected || current.gamepad != gamepad
  { current with
    connected := true, requiresNewGeneration := false, gamepad
    packetNumber :=
      if changed then nextXInputPacketNumber current.packetNumber
      else current.packetNumber }

/-- The writes of `applySourceSnapshot`. -/
def withSnapshot (source : ControllerSourceIdentity)
    (sourceGeneration : UInt64) (gamepad : NormalizedXInputGamepad)
    (capabilities : Option NormalizedXInputCapabilities)
    (battery : Option NormalizedXInputBattery) : VirtualXInputSlot :=
  let routingChanged := slot.mapping.source != source
  let generationChanged := sourceGeneration != slot.mapping.sourceGeneration
  let stateChanged := routingChanged || generationChanged || !slot.connected ||
    slot.gamepad != gamepad
  let current :=
    if routingChanged || generationChanged then slot.clearConnectionState
    else slot
  let mappingGeneration :=
    if routingChanged then current.mapping.mappingGeneration + 1
    else current.mapping.mappingGeneration
  let vibrating :=
    match capabilities with
    | some reported => reported.vibrationSupported
    | none => false
  { current with
    connected := true, requiresNewGeneration := false
    mapping :=
      { current.mapping with
        source := if routingChanged then source else current.mapping.source
        sourceGeneration
        mappingGeneration }
    gamepad, capabilities := capabilities.getD {}, capabilitiesAvailable := capabilities.isSome
    battery := battery.getD {}, batteryAvailable := battery.isSome
    vibration := if vibrating then current.vibration else {}
    packetNumber :=
      if stateChanged then nextXInputPacketNumber current.packetNumber
      else current.packetNumber }

/-- The writes of `disconnectSource`. -/
def withoutConnection : VirtualXInputSlot :=
  let current := slot.clearConnectionState
  { current with
    requiresNewGeneration := true, packetNumber := nextXInputPacketNumber current.packetNumber }

/-- The route that `routeVibration` hands out and remembers. -/
def vibrationRoute (sequence : UInt64) (request : VirtualXInputVibrationRequest) :
    VirtualXInputVibrationRoute where
  logicalSlot := request.logicalSlot
  source := slot.mapping.source
  sourceGeneration := slot.mapping.sourceGeneration
  mappingGeneration := slot.mapping.mappingGeneration
  commandSequence := sequence
  routeCount := slot.vibration.routeCount + 1
  leftMotor := request.leftMotor
  rightMotor := request.rightMotor

end VirtualXInputSlot

namespace VirtualXInputContext

open VirtualXInputSlot

variable (self : VirtualXInputContext)

def findSource (source : ControllerSourceIdentity) : Option SlotIndex :=
  (List.finRange kVirtualXInputSlotCount.toNat).find? fun index => (self.slots index).carries source

def sequenceAccepted (sequence : UInt64) : Bool :=
  sequence != 0 && self.lastAppliedSequence < sequence

def commit (index : SlotIndex) (slot : VirtualXInputSlot) (sequence : UInt64) :
    VirtualXInputContext where
  slots := Function.update self.slots index slot
  lastAppliedSequence := sequence

/-- The end of `mapLogicalSlot`, for a mapping that is not there yet. -/
def remapSlot (sequence : UInt64) (logicalSlot : UInt8)
    (index : SlotIndex) (source : ControllerSourceIdentity)
    (sourceGeneration : UInt64) :
    VirtualXInputResult × VirtualXInputContext :=
  let slot := self.slots index
  if slot.mapping.mappingGeneration = maximumGeneration then (.generationOverflow, self)
  else
    let nextMappingGeneration := slot.mapping.mappingGeneration + 1
    (.success, self.commit index
      (remapped logicalSlot source sourceGeneration nextMappingGeneration) sequence)

def mapLogicalSlot (sequence : UInt64) (logicalSlot : UInt8) (source : ControllerSourceIdentity)
    (sourceGeneration : UInt64) :
    VirtualXInputResult × VirtualXInputContext :=
  match slotIndex? logicalSlot with
  | none => (.invalidLogicalSlot, self)
  | some index =>
    if !validControllerSourceIdentity source || sourceGeneration == 0 then (.invalidSource, self)
    else if !self.sequenceAccepted sequence then (.staleSequence, self)
    else if (List.finRange kVirtualXInputSlotCount.toNat).any
        fun other => other != index && (self.slots other).carries source
        then
      (.duplicateSource, self)
    else
      let slot := self.slots index
      if slot.carries source then
        let generationResult := slot.validateGeneration sourceGeneration true
        if generationResult ≠ .success then (generationResult, self)
        else if slot.mapping.source = source ∧ slot.mapping.sourceGeneration = sourceGeneration then
          (.success, { self with lastAppliedSequence := sequence })
        else self.remapSlot sequence logicalSlot index source sourceGeneration
      else self.remapSlot sequence logicalSlot index source sourceGeneration

def unmapLogicalSlot (sequence : UInt64)
    (logicalSlot : UInt8) : VirtualXInputResult × VirtualXInputContext :=
  match slotIndex? logicalSlot with
  | none => (.invalidLogicalSlot, self)
  | some index =>
    if !self.sequenceAccepted sequence then (.staleSequence, self)
    else
      let slot := self.slots index
      if slot.mapping.mappingGeneration = maximumGeneration then (.generationOverflow, self)
      else
        let tombstoneGeneration := slot.mapping.mappingGeneration + 1
        (.success, self.commit index (tombstone logicalSlot tombstoneGeneration) sequence)

def applySourceState (sequence : UInt64)
    (source : ControllerSourceIdentity) (sourceGeneration : UInt64)
    (gamepad : NormalizedXInputGamepad) :
    VirtualXInputResult × VirtualXInputContext :=
  if !validControllerSourceIdentity source then (.invalidSource, self)
  else if !self.sequenceAccepted sequence then (.staleSequence, self)
  else
    match self.findSource source with
    | none => (.notMapped, self)
    | some index =>
      let slot := self.slots index
      if slot.mapping.source ≠ source then (.invalidState, self)
      else
        let generationResult := slot.validateGeneration sourceGeneration true
        if generationResult ≠ .success then (generationResult, self)
        else (.success, self.commit index (slot.withState sourceGeneration gamepad) sequence)

def applySourceSnapshot (sequence : UInt64)
    (source : ControllerSourceIdentity) (sourceGeneration : UInt64)
    (gamepad : NormalizedXInputGamepad)
    (capabilities : Option NormalizedXInputCapabilities)
    (battery : Option NormalizedXInputBattery) :
    VirtualXInputResult × VirtualXInputContext :=
  if !validControllerSourceIdentity source then (.invalidSource, self)
  else if capabilities.any (!validXInputCapabilities ·) || battery.any (!validXInputBattery ·) then
    (.invalidState, self)
  else if !self.sequenceAccepted sequence then (.staleSequence, self)
  else
    match self.findSource source with
    | none => (.notMapped, self)
    | some index =>
      let slot := self.slots index
      let generationResult := slot.validateGeneration sourceGeneration true
      if generationResult ≠ .success then (generationResult, self)
      else if slot.mapping.source ≠ source ∧ slot.mapping.mappingGeneration = maximumGeneration then
        (.generationOverflow, self)
      else
        (.success, self.commit index
          (slot.withSnapshot source sourceGeneration gamepad capabilities battery) sequence)

def applySourceCapabilities (sequence : UInt64)
    (source : ControllerSourceIdentity) (sourceGeneration : UInt64)
    (capabilities : NormalizedXInputCapabilities) :
    VirtualXInputResult × VirtualXInputContext :=
  if !validControllerSourceIdentity source then (.invalidSource, self)
  else if !validXInputCapabilities capabilities then (.invalidState, self)
  else if !self.sequenceAccepted sequence then (.staleSequence, self)
  else
    match self.findSource source with
    | none => (.notMapped, self)
    | some index =>
      let slot := self.slots index
      if slot.mapping.source ≠ source then (.invalidState, self)
      else
        let generationResult := slot.validateGeneration sourceGeneration false
        if generationResult ≠ .success then (generationResult, self)
        else if !slot.connected then (.disconnected, self)
        else
          (.success, self.commit index { slot with capabilities, capabilitiesAvailable := true }
            sequence)

def applySourceBattery (sequence : UInt64)
    (source : ControllerSourceIdentity) (sourceGeneration : UInt64)
    (battery : NormalizedXInputBattery) :
    VirtualXInputResult × VirtualXInputContext :=
  if !validControllerSourceIdentity source then (.invalidSource, self)
  else if !validXInputBattery battery then (.invalidState, self)
  else if !self.sequenceAccepted sequence then (.staleSequence, self)
  else
    match self.findSource source with
    | none => (.notMapped, self)
    | some index =>
      let slot := self.slots index
      if slot.mapping.source ≠ source then (.invalidState, self)
      else
        let generationResult := slot.validateGeneration sourceGeneration false
        if generationResult ≠ .success then (generationResult, self)
        else if !slot.connected then (.disconnected, self)
        else (.success, self.commit index { slot with battery, batteryAvailable := true } sequence)

def disconnectSource (sequence : UInt64)
    (source : ControllerSourceIdentity) (sourceGeneration : UInt64) :
    VirtualXInputResult × VirtualXInputContext :=
  if !validControllerSourceIdentity source then (.invalidSource, self)
  else if !self.sequenceAccepted sequence then (.staleSequence, self)
  else
    match self.findSource source with
    | none => (.notMapped, self)
    | some index =>
      let slot := self.slots index
      let generationResult := slot.validateGeneration sourceGeneration false
      if generationResult ≠ .success then (generationResult, self)
      else if !slot.connected then (.disconnected, self)
      else (.success, self.commit index slot.withoutConnection sequence)

def routeVibration (sequence : UInt64) (request : VirtualXInputVibrationRequest) :
    VirtualXInputResult × VirtualXInputVibrationRoute × VirtualXInputContext :=
  match slotIndex? request.logicalSlot with
  | none => (.invalidLogicalSlot, {}, self)
  | some index =>
    let slot := self.slots index
    if !self.sequenceAccepted sequence then (.staleSequence, {}, self)
    else if !slot.mapped then (.notMapped, {}, self)
    else if !slot.connected then (.disconnected, {}, self)
    else if request.expectedMappingGeneration ≠ slot.mapping.mappingGeneration then
      (.mappingGenerationMismatch, {}, self)
    else if request.expectedSourceGeneration ≠ slot.mapping.sourceGeneration then
      (.staleGeneration, {}, self)
    else if !slot.capabilitiesAvailable || !slot.capabilities.vibrationSupported then
      (.invalidState, {}, self)
    else if slot.vibration.routeCount = maximumGeneration then (.generationOverflow, {}, self)
    else
      let route := slot.vibrationRoute sequence request
      (.success, route, self.commit index { slot with vibration := route } sequence)

def getState (logicalSlot : UInt8) : VirtualXInputResult × VirtualXInputState :=
  match slotIndex? logicalSlot with
  | none => (.invalidLogicalSlot, {})
  | some index =>
    let slot := self.slots index
    if !slot.mapped then (.notMapped, {})
    else
      let state : VirtualXInputState :=
        { mapping := slot.mapping, packetNumber := slot.packetNumber }
      if !slot.connected then (.disconnected, state)
      else (.success, { state with connected := true, gamepad := slot.gamepad })

inductive Operation where
  | mapLogicalSlot (sequence : UInt64) (logicalSlot : UInt8)
      (source : ControllerSourceIdentity) (sourceGeneration : UInt64)
  | unmapLogicalSlot (sequence : UInt64) (logicalSlot : UInt8)
  | applySourceState (sequence : UInt64)
      (source : ControllerSourceIdentity) (sourceGeneration : UInt64)
      (gamepad : NormalizedXInputGamepad)
  | applySourceSnapshot (sequence : UInt64)
      (source : ControllerSourceIdentity) (sourceGeneration : UInt64)
      (gamepad : NormalizedXInputGamepad)
      (capabilities : Option NormalizedXInputCapabilities)
      (battery : Option NormalizedXInputBattery)
  | applySourceCapabilities (sequence : UInt64)
      (source : ControllerSourceIdentity) (sourceGeneration : UInt64)
      (capabilities : NormalizedXInputCapabilities)
  | applySourceBattery (sequence : UInt64)
      (source : ControllerSourceIdentity) (sourceGeneration : UInt64)
      (battery : NormalizedXInputBattery)
  | disconnectSource (sequence : UInt64)
      (source : ControllerSourceIdentity) (sourceGeneration : UInt64)
  | routeVibration (sequence : UInt64) (request : VirtualXInputVibrationRequest)

def Operation.sequence : Operation → UInt64
  | .mapLogicalSlot sequence _ _ _ => sequence
  | .unmapLogicalSlot sequence _ => sequence
  | .applySourceState sequence _ _ _ => sequence
  | .applySourceSnapshot sequence _ _ _ _ _ => sequence
  | .applySourceCapabilities sequence _ _ _ => sequence
  | .applySourceBattery sequence _ _ _ => sequence
  | .disconnectSource sequence _ _ => sequence
  | .routeVibration sequence _ => sequence

def perform : Operation → VirtualXInputResult × VirtualXInputContext
  | .mapLogicalSlot sequence logicalSlot source sourceGeneration =>
    self.mapLogicalSlot sequence logicalSlot source sourceGeneration
  | .unmapLogicalSlot sequence logicalSlot => self.unmapLogicalSlot sequence logicalSlot
  | .applySourceState sequence source sourceGeneration gamepad =>
    self.applySourceState sequence source sourceGeneration gamepad
  | .applySourceSnapshot sequence source sourceGeneration gamepad capabilities battery =>
    self.applySourceSnapshot sequence source sourceGeneration gamepad capabilities battery
  | .applySourceCapabilities sequence source sourceGeneration capabilities =>
    self.applySourceCapabilities sequence source sourceGeneration capabilities
  | .applySourceBattery sequence source sourceGeneration battery =>
    self.applySourceBattery sequence source sourceGeneration battery
  | .disconnectSource sequence source sourceGeneration =>
    self.disconnectSource sequence source sourceGeneration
  | .routeVibration sequence request =>
    let (result, _, updated) := self.routeVibration sequence request
    (result, updated)

def step (operation : Operation) : VirtualXInputContext := (self.perform operation).2

end VirtualXInputContext

end HydraSeat.GateC
