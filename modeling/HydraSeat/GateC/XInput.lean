import Mathlib.Data.Nat.Notation

/-!
# Normalized controllers

An enumeration that a decoder casts from a raw byte holds any byte, as the
source's enumerations with a fixed underlying type do.  The validators say
which bytes have a name.
-/

namespace HydraSeat.GateC

def kVirtualXInputSlotCount : UInt8 := 4

def kNoRuntimeXInputSlot : UInt8 := 0xff

structure ControllerSourceKind where
  value : UInt8
  deriving DecidableEq

namespace ControllerSourceKind

def synthetic : ControllerSourceKind := ⟨1⟩

def profileSelected : ControllerSourceKind := ⟨2⟩

end ControllerSourceKind

structure ControllerSourceIdentity where
  kind : ControllerSourceKind := .synthetic
  runtimeXInputSlotHint : UInt8 := kNoRuntimeXInputSlot
  sourceKey : UInt64 := 0
  deriving DecidableEq

structure NormalizedXInputGamepad where
  buttons : UInt16 := 0
  (leftTrigger rightTrigger : UInt8 := 0)
  (thumbLX thumbLY thumbRX thumbRY : Int16 := 0)
  deriving DecidableEq

structure XInputCapabilityType where
  value : UInt8
  deriving DecidableEq

def XInputCapabilityType.gamepad : XInputCapabilityType := ⟨1⟩

structure NormalizedXInputCapabilities where
  type : XInputCapabilityType := .gamepad
  subtype : UInt8 := 0
  flags : UInt16 := 0
  gamepad : NormalizedXInputGamepad := {}
  vibrationSupported : Bool := false
  (leftMotorMaximum rightMotorMaximum : UInt16 := 0)
  deriving DecidableEq

structure XInputBatteryDeviceType where
  value : UInt8
  deriving DecidableEq

namespace XInputBatteryDeviceType

def gamepad : XInputBatteryDeviceType := ⟨0⟩

def headset : XInputBatteryDeviceType := ⟨1⟩

end XInputBatteryDeviceType

structure XInputBatteryType where
  value : UInt8
  deriving DecidableEq

namespace XInputBatteryType

def disconnected : XInputBatteryType := ⟨0⟩

def wired : XInputBatteryType := ⟨1⟩

def alkaline : XInputBatteryType := ⟨2⟩

def nimh : XInputBatteryType := ⟨3⟩

def unknown : XInputBatteryType := ⟨0xff⟩

end XInputBatteryType

structure XInputBatteryLevel where
  value : UInt8
  deriving DecidableEq

namespace XInputBatteryLevel

def empty : XInputBatteryLevel := ⟨0⟩

def low : XInputBatteryLevel := ⟨1⟩

def medium : XInputBatteryLevel := ⟨2⟩

def full : XInputBatteryLevel := ⟨3⟩

end XInputBatteryLevel

structure NormalizedXInputBattery where
  available : Bool := false
  deviceType : XInputBatteryDeviceType := .gamepad
  batteryType : XInputBatteryType := .disconnected
  batteryLevel : XInputBatteryLevel := .empty
  deriving DecidableEq

structure VirtualXInputMapping where
  logicalSlot : UInt8 := 0
  source : ControllerSourceIdentity := {}
  (sourceGeneration mappingGeneration : UInt64 := 0)
  deriving DecidableEq

structure VirtualXInputState where
  mapping : VirtualXInputMapping := {}
  connected : Bool := false
  packetNumber : UInt32 := 0
  gamepad : NormalizedXInputGamepad := {}
  deriving DecidableEq

structure VirtualXInputCapabilities where
  mapping : VirtualXInputMapping := {}
  capabilities : NormalizedXInputCapabilities := {}

structure VirtualXInputBattery where
  mapping : VirtualXInputMapping := {}
  battery : NormalizedXInputBattery := {}

structure VirtualXInputVibrationRoute where
  logicalSlot : UInt8 := 0
  source : ControllerSourceIdentity := {}
  (sourceGeneration mappingGeneration commandSequence routeCount : UInt64 := 0)
  (leftMotor rightMotor : UInt16 := 0)

inductive VirtualXInputResult where
  | success | invalidArgument | invalidLogicalSlot | invalidSource | duplicateSource | notMapped
  | disconnected | staleSequence | staleGeneration | mappingGenerationMismatch | invalidState
  | generationOverflow
  deriving DecidableEq

namespace VirtualXInputResult

def value : VirtualXInputResult → UInt32
  | .success => 0
  | .invalidArgument => 1
  | .invalidLogicalSlot => 2
  | .invalidSource => 3
  | .duplicateSource => 4
  | .notMapped => 5
  | .disconnected => 6
  | .staleSequence => 7
  | .staleGeneration => 8
  | .mappingGenerationMismatch => 9
  | .invalidState => 10
  | .generationOverflow => 11

/-- Nothing above the last result has a name. -/
def ofValue? (value : UInt32) : Option VirtualXInputResult :=
  if value = 0 then some .success
  else if value = 1 then some .invalidArgument
  else if value = 2 then some .invalidLogicalSlot
  else if value = 3 then some .invalidSource
  else if value = 4 then some .duplicateSource
  else if value = 5 then some .notMapped
  else if value = 6 then some .disconnected
  else if value = 7 then some .staleSequence
  else if value = 8 then some .staleGeneration
  else if value = 9 then some .mappingGenerationMismatch
  else if value = 10 then some .invalidState
  else if value = 11 then some .generationOverflow
  else none

end VirtualXInputResult

def validSourceKind (kind : ControllerSourceKind) : Bool :=
  kind == .synthetic || kind == .profileSelected

def validRuntimeSlot (slot : UInt8) : Bool :=
  slot < kVirtualXInputSlotCount || slot == kNoRuntimeXInputSlot

def validControllerSourceIdentity (source : ControllerSourceIdentity) : Bool :=
  validSourceKind source.kind && source.sourceKey != 0 &&
    validRuntimeSlot source.runtimeXInputSlotHint

def validXInputCapabilities (capabilities : NormalizedXInputCapabilities) : Bool :=
  if capabilities.type ≠ .gamepad then false
  else if !capabilities.vibrationSupported then
    capabilities.leftMotorMaximum == 0 && capabilities.rightMotorMaximum == 0
  else capabilities.leftMotorMaximum != 0 || capabilities.rightMotorMaximum != 0

def validXInputBattery (battery : NormalizedXInputBattery) : Bool :=
  let device := battery.deviceType.value
  let type := battery.batteryType.value
  let level := battery.batteryLevel.value
  if device > XInputBatteryDeviceType.headset.value ||
      (type > XInputBatteryType.nimh.value && type != XInputBatteryType.unknown.value) ||
      level > XInputBatteryLevel.full.value then
    false
  else if !battery.available then
    battery.deviceType == .gamepad && battery.batteryType == .disconnected &&
      battery.batteryLevel == .empty
  else battery.batteryType != .disconnected

end HydraSeat.GateC
