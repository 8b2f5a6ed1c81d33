import HydraSeat.GateC.XInputLaw

/-!
# Vibration of a virtual controller

A slot answers with its last vibration route as long as it keeps one.  A
snapshot of the source drops the route of a controller that cannot vibrate; a
report of its capabilities alone keeps it.
-/

namespace HydraSeat.GateC

open Foundation

namespace VirtualXInputContext

open VirtualXInputSlot Function

section Reads

variable (self : VirtualXInputContext) (logicalSlot : UInt8)

end Reads

structure Routes (slot : VirtualXInputSlot) (route : VirtualXInputVibrationRoute) : Prop where
  connected : slot.connected = true
  capable : slot.capabilitiesAvailable = true
  supported : slot.capabilities.vibrationSupported = true
  source : route.source = slot.mapping.source
  sourceGeneration : route.sourceGeneration = slot.mapping.sourceGeneration
  mappingGeneration : route.mappingGeneration = slot.mapping.mappingGeneration

/-- A slot that keeps a route can vibrate. -/
def KeptRoute (slot : VirtualXInputSlot) : Prop :=
  slot.vibration.routeCount ≠ 0 → Routes slot slot.vibration

variable {self : VirtualXInputContext} {operation : Operation} {index : SlotIndex}
  {slot : VirtualXInputSlot}

theorem keptRoute_of_none (none : slot.vibration = {}) : KeptRoute slot := by
  intro routed
  rw [none] at routed
  exact absurd rfl routed

theorem KeptRoute.withState (kept : KeptRoute slot) (sourceGeneration : UInt64)
    (gamepad : NormalizedXInputGamepad) : KeptRoute (slot.withState sourceGeneration gamepad) := by
  by_cases same : sourceGeneration = slot.mapping.sourceGeneration
  · intro routed
    obtain ⟨_, capable, supported, source, generation, mapping⟩ := kept (by
      simpa [VirtualXInputSlot.withState, same] using routed)
    constructor <;> simp [VirtualXInputSlot.withState, *]
  · exact keptRoute_of_none (by simp [VirtualXInputSlot.withState, same, clearConnectionState])

theorem KeptRoute.withSnapshot (kept : KeptRoute slot) (source : ControllerSourceIdentity)
    (sourceGeneration : UInt64) (gamepad : NormalizedXInputGamepad)
    (capabilities : Option NormalizedXInputCapabilities)
    (battery : Option NormalizedXInputBattery) :
    KeptRoute (slot.withSnapshot source sourceGeneration gamepad capabilities battery) := by
  by_cases same : slot.mapping.source = source ∧ sourceGeneration = slot.mapping.sourceGeneration
  · obtain ⟨routed, current⟩ := same
    cases capabilities with
    | none => exact keptRoute_of_none (by simp [VirtualXInputSlot.withSnapshot])
    | some reported =>
      cases vibrating : reported.vibrationSupported with
      | false => exact keptRoute_of_none (by simp [VirtualXInputSlot.withSnapshot, vibrating])
      | true =>
        intro kept'
        obtain ⟨_, _, _, sameSource, generation, mapping⟩ := kept (by
          simpa [VirtualXInputSlot.withSnapshot, routed, current, vibrating] using kept')
        constructor <;> simp [VirtualXInputSlot.withSnapshot, *]
  · rw [not_and_or] at same
    apply keptRoute_of_none
    rcases same with routed | renewed
    · simp [VirtualXInputSlot.withSnapshot, routed, clearConnectionState]
    · simp [VirtualXInputSlot.withSnapshot, renewed, clearConnectionState]

section Reports

variable (slot : VirtualXInputSlot) (source : ControllerSourceIdentity)
  (sourceGeneration : UInt64) (gamepad : NormalizedXInputGamepad)
  (capabilities : NormalizedXInputCapabilities) (battery : NormalizedXInputBattery)

variable {slot source sourceGeneration gamepad capabilities battery}
  {sequence second third : UInt64}

/-- The source of a slot has reported its state at this generation. -/
structure Reporting (self : VirtualXInputContext) (index : SlotIndex)
    (source : ControllerSourceIdentity) (sourceGeneration : UInt64) : Prop where
  found : self.findSource source = some index
  routed : (self.slots index).mapping.source = source
  current : (self.slots index).mapping.sourceGeneration = sourceGeneration
  settled : (self.slots index).requiresNewGeneration = false
  connected : (self.slots index).connected = true

end Reports

end VirtualXInputContext

end HydraSeat.GateC
