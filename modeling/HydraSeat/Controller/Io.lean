import HydraSeat.Controller.Inventory

namespace HydraSeat.Controller

variable (native : NativeXInput) (binding : SeatBinding) (inventory : InventorySnapshot)
variable (mapping : VirtualXInputMapping)

inductive IoStatus where
  | ok | invalidBinding | unsupportedApi | disconnected | platformUnavailable | nativeFailure
  | staleBinding
  deriving DecidableEq

structure GamepadState where
  packetNumber : UInt32 := 0
  buttons : UInt16 := 0
  (leftTrigger rightTrigger : UInt8 := 0)
  (thumbLX thumbLY thumbRX thumbRY : Int16 := 0)
  deriving DecidableEq

structure PollResult where
  status : IoStatus := .invalidBinding
  state : Option GamepadState := none
  deriving DecidableEq

def errorSuccess : UInt32 := 0

def errorDeviceNotConnected : UInt32 := 1167

/-- The answers of the two native XInput calls at one moment. -/
structure NativeXInput where
  getState : UInt8 → UInt32 × GamepadState
  setState : UInt8 → UInt16 → UInt16 → UInt32

/-- A native call that left the process. -/
inductive NativeCall where
  | getState (slot : UInt8)
  | setState (slot : UInt8) (leftMotor rightMotor : UInt16)

/-- `validXInputBinding`, which answers with the slot. -/
def validXInputBinding : Option UInt8 :=
  if binding.api ≠ .xInput then none
  else
    match binding.runtimeXInputSlot with
    | none => none
    | some slot =>
      if slot ≥ kXInputSlotCount then none
      else if binding.runtimeKey = xinputRuntimeKey slot then some slot
      else none

def pollBoundController : PollResult × List NativeCall :=
  if binding.api ≠ .xInput then (⟨.unsupportedApi, none⟩, [])
  else
    match validXInputBinding binding with
    | none => (⟨.invalidBinding, none⟩, [])
    | some slot =>
      if !bindingMatchesInventory binding inventory then (⟨.staleBinding, none⟩, [])
      else
        let (result, state) := native.getState slot
        if result = errorDeviceNotConnected then (⟨.disconnected, none⟩, [.getState slot])
        else if result ≠ errorSuccess then (⟨.nativeFailure, none⟩, [.getState slot])
        else (⟨.ok, some state⟩, [.getState slot])

def setBoundControllerVibration (leftMotor rightMotor : UInt16) : IoStatus × List NativeCall :=
  if binding.api ≠ .xInput then (.unsupportedApi, [])
  else
    match validXInputBinding binding with
    | none => (.invalidBinding, [])
    | some slot =>
      if !bindingMatchesInventory binding inventory then (.staleBinding, [])
      else
        let (connected, _) := native.getState slot
        if connected = errorDeviceNotConnected then (.disconnected, [.getState slot])
        else if connected ≠ errorSuccess then (.nativeFailure, [.getState slot])
        else
          let result := native.setState slot leftMotor rightMotor
          let calls := [.getState slot, .setState slot leftMotor rightMotor]
          if result = errorDeviceNotConnected then (.disconnected, calls)
          else if result ≠ errorSuccess then (.nativeFailure, calls)
          else (.ok, calls)

def kSeatLogicalXInputSlot : UInt8 := 0

structure VirtualXInputMapping where
  seatId : UInt32 := 0
  activationGeneration : UInt64 := 0
  source : SeatBinding := {}
  deriving DecidableEq

def VirtualXInputMapping.valid : Bool :=
  (mapping.seatId == 1 || mapping.seatId == 2) && mapping.activationGeneration != 0 &&
    mapping.source.seatId == mapping.seatId &&
    mapping.source.api == .xInput &&
    mapping.source.runtimeXInputSlot.any (· < kXInputSlotCount) &&
    mapping.source.sourceGeneration != 0 &&
    !mapping.source.runtimeKey.isEmpty

def pollVirtualXInput (logicalSlot : UInt8) (inventory : InventorySnapshot) :
    PollResult × List NativeCall :=
  if !mapping.valid then (⟨.invalidBinding, none⟩, [])
  else if logicalSlot ≠ kSeatLogicalXInputSlot then (⟨.disconnected, none⟩, [])
  else pollBoundController native mapping.source inventory

def setVirtualXInputVibration (logicalSlot : UInt8) (inventory : InventorySnapshot)
    (lowFrequencyMotor highFrequencyMotor : UInt16) :
    IoStatus × List NativeCall :=
  if !mapping.valid then (.invalidBinding, [])
  else if logicalSlot ≠ kSeatLogicalXInputSlot then (.disconnected, [])
  else
    setBoundControllerVibration native mapping.source inventory lowFrequencyMotor highFrequencyMotor

/-- The stored binding passes the check that `pollBoundController` and
`setBoundControllerVibration` answer with `InvalidBinding`. -/
def reachesRuntimeSource : Bool := binding.api != .xInput || (validXInputBinding binding).isSome

theorem pollBoundController_invalid_iff :
    pollBoundController native binding inventory = (⟨.invalidBinding, none⟩, []) ↔
      reachesRuntimeSource binding = false := by
  unfold pollBoundController reachesRuntimeSource
  by_cases api : binding.api = .xInput
  · cases slot : validXInputBinding binding with
    | none => simp [api]
    | some slot =>
      simp only [api, ne_eq, not_true_eq_false, if_false]
      constructor
      · intro equality
        exfalso
        split at equality
        · simp at equality
        · split at equality
          · simp at equality
          · split at equality <;> simp at equality
      · intro impossible
        simp at impossible
  · simp [api]

theorem setBoundControllerVibration_invalid_iff (leftMotor rightMotor : UInt16) :
    setBoundControllerVibration native binding inventory leftMotor rightMotor =
        (.invalidBinding, []) ↔
      reachesRuntimeSource binding = false := by
  unfold setBoundControllerVibration reachesRuntimeSource
  by_cases api : binding.api = .xInput
  · cases slot : validXInputBinding binding with
    | none => simp [api]
    | some slot =>
      simp only [api, ne_eq, not_true_eq_false, if_false]
      constructor
      · intro equality
        exfalso
        split at equality
        · simp at equality
        split at equality
        · simp at equality
        split at equality
        · simp at equality
        · split at equality
          · simp at equality
          · split at equality <;> simp at equality
      · intro impossible
        simp at impossible
  · simp [api]

end HydraSeat.Controller
