import HydraSeat.GateC.XInputLaw

/-!
# Packet numbers

A game polls `getState` and looks at the gamepad only when the packet number
has moved.  Source updates and disconnections advance the number; a slot
that is mapped anew or unmapped starts over at zero.
-/

namespace HydraSeat.GateC

open Foundation

namespace VirtualXInputContext

open VirtualXInputSlot VirtualXInputContext

/-- What `getState` answers, without the packet number. -/
def visibleState (self : VirtualXInputContext) (logicalSlot : UInt8) :
    VirtualXInputResult × VirtualXInputState :=
  let (result, state) := self.getState logicalSlot
  (result, { state with packetNumber := 0 })

/-- How often a run changes the visible state of a slot. -/
def visibleChanges (logicalSlot : UInt8) (self : VirtualXInputContext) : List Operation → Nat
  | [] => 0
  | operation :: operations =>
    let next := self.step operation
    let later := visibleChanges logicalSlot next operations
    if next.visibleState logicalSlot = self.visibleState logicalSlot then later
    else later + 1

/-- Successful reads in the run with equal packet numbers show equal
gamepads. -/
def PacketsDistinguish (logicalSlot : UInt8) (operations : List Operation) : Prop :=
  ∀ earlier later,
    earlier <+: operations →
      later <+: operations → let first := (runFrom step {} earlier).getState logicalSlot
        let second := (runFrom step {} later).getState logicalSlot
        first.1 = .success →
          second.1 = .success →
            first.2.packetNumber = second.2.packetNumber → first.2.gamepad = second.2.gamepad

inductive Rebuilds (self : VirtualXInputContext) : Operation → SlotIndex → Prop
  | mapped {sequence sourceGeneration : UInt64} {logicalSlot : UInt8}
      {source : ControllerSourceIdentity} {index : SlotIndex}
      (maps : self.Maps sequence logicalSlot source sourceGeneration index) :
      Rebuilds self (.mapLogicalSlot sequence logicalSlot source sourceGeneration) index
  | unmapped {sequence : UInt64} {logicalSlot : UInt8} {index : SlotIndex}
      (unmaps : self.Unmaps sequence logicalSlot index) :
      Rebuilds self (.unmapLogicalSlot sequence logicalSlot) index

/-- The operation rebuilds the slot only while its packet number is still
zero. -/
def KeepsPackets (logicalSlot : UInt8) (self : VirtualXInputContext)
    (operation : Operation) : Prop :=
  ∀ index, slotIndex? logicalSlot = some index →
    Rebuilds self operation index → (self.slots index).packetNumber = 0

theorem visibleChanges_append (logicalSlot : UInt8) (self : VirtualXInputContext)
    (first second : List Operation) :
    visibleChanges logicalSlot self (first ++ second) =
      visibleChanges logicalSlot self first +
        visibleChanges logicalSlot (runFrom step self first) second := by
  induction first generalizing self with
  | nil => exact (Nat.zero_add _).symm
  | cons operation operations ih =>
    simp only [List.cons_append, visibleChanges, runFrom_cons, ih]
    split
    · rfl
    · omega

section Read

variable {self : VirtualXInputContext} {logicalSlot : UInt8} {index : SlotIndex}

theorem getState_of_success (named : slotIndex? logicalSlot = some index)
    (read : (self.getState logicalSlot).1 = .success) :
    (self.slots index).connected = true ∧
      (self.getState logicalSlot).2.packetNumber = (self.slots index).packetNumber ∧
      (self.getState logicalSlot).2.gamepad = (self.slots index).gamepad := by
  unfold getState at read ⊢
  simp only [named] at read ⊢
  cases mapped : (self.slots index).mapped with
  | false => simp [mapped] at read
  | true =>
    cases connected : (self.slots index).connected with
    | false => simp [mapped, connected] at read
    | true => simp

theorem slotIndex_of_success (read : (self.getState logicalSlot).1 = .success) :
    ∃ index, slotIndex? logicalSlot = some index := by
  cases named : slotIndex? logicalSlot with
  | none => simp [getState, named] at read
  | some index => exact ⟨index, rfl⟩

end Read

variable {logicalSlot : UInt8} {index : SlotIndex} {slot : VirtualXInputSlot} {rebuilds : Prop}
  {self : VirtualXInputContext} {operation : Operation}

/-- What a successful read of the slot shows besides its packet number. -/
structure SameVisible (before after : VirtualXInputSlot) : Prop where
  connected : after.connected = before.connected
  mapping : after.mapping = before.mapping
  gamepad : after.connected = true → after.gamepad = before.gamepad

theorem sameVisible_of_visibleState {before after : VirtualXInputContext}
    (named : slotIndex? logicalSlot = some index)
    (mappedBefore : (before.slots index).mapped = true)
    (mappedAfter : (after.slots index).mapped = true)
    (same : after.visibleState logicalSlot = before.visibleState logicalSlot) :
    SameVisible (before.slots index) (after.slots index) := by
  unfold visibleState getState at same
  simp only [named, mappedBefore, mappedAfter, Bool.not_true, Bool.false_eq_true, if_false] at same
  cases connectedBefore : (before.slots index).connected with
  | false =>
    cases connectedAfter : (after.slots index).connected with
    | false =>
      simp only [connectedBefore, connectedAfter, Bool.not_false,
        if_true, Prod.mk.injEq, VirtualXInputState.mk.injEq,
        true_and, and_true] at same
      exact ⟨connectedAfter.trans connectedBefore.symm, same,
        fun connected => absurd (connectedAfter.symm.trans connected) nofun⟩
    | true => simp [connectedBefore, connectedAfter] at same
  | true =>
    cases connectedAfter : (after.slots index).connected with
    | false => simp [connectedBefore, connectedAfter] at same
    | true =>
      simp only [connectedBefore, connectedAfter, Bool.not_true,
        Bool.false_eq_true, if_false, Prod.mk.injEq,
        VirtualXInputState.mk.injEq, true_and] at same
      exact ⟨connectedAfter.trans connectedBefore.symm, same.1, fun _ => same.2⟩

/-- What an operation does to the packet number of a slot. -/
inductive PacketStep (rebuilds : Prop) (before after : VirtualXInputSlot) : Prop
  | still (packet : after.packetNumber = before.packetNumber)
      (connected : after.connected = before.connected)
      (gamepad : after.gamepad = before.gamepad)
  | advanced (packet : after.packetNumber = nextXInputPacketNumber before.packetNumber)
      (mappedBefore : before.mapped = true)
      (mappedAfter : after.mapped = true)
      (visible : ¬ SameVisible before after)
  | restarted (packet : after.packetNumber = 0)
      (connected : after.connected = false) (because : rebuilds)

theorem carries_mapped {source : ControllerSourceIdentity}
    (carried : slot.carries source = true) : slot.mapped = true :=
  ((carries_iff slot source).mp carried).1

theorem withState_packet (slot : VirtualXInputSlot)
    (mapped : slot.mapped = true) (sourceGeneration : UInt64)
    (gamepad : NormalizedXInputGamepad) :
    PacketStep rebuilds slot (slot.withState sourceGeneration gamepad) := by
  by_cases same :
      sourceGeneration = slot.mapping.sourceGeneration ∧
        slot.connected = true ∧ slot.gamepad = gamepad
  · obtain ⟨generation, connected, gamepadKept⟩ := same
    apply PacketStep.still
    · simp [withState, generation, connected, gamepadKept]
    · simp [withState, connected]
    · simp [withState, gamepadKept]
  · apply PacketStep.advanced
    · by_cases generation : sourceGeneration = slot.mapping.sourceGeneration
      · have moved : slot.connected = true → slot.gamepad ≠ gamepad :=
          fun connected gamepadKept => same ⟨generation, connected, gamepadKept⟩
        cases connected : slot.connected with
        | false => simp [withState, generation, connected]
        | true => simp [withState, generation, connected, moved connected]
      · simp [withState, generation, clearConnectionState]
    · exact mapped
    · rw [withState_mapped]
      exact mapped
    · intro visible
      have generation := congrArg (·.sourceGeneration) visible.mapping
      rw [withState_mapping] at generation
      have connected := visible.connected.symm
      have gamepadKept := visible.gamepad rfl
      exact same ⟨generation, connected, gamepadKept.symm⟩

theorem withSnapshot_packet (slot : VirtualXInputSlot)
    (mapped : slot.mapped = true) (source : ControllerSourceIdentity)
    (sourceGeneration : UInt64) (gamepad : NormalizedXInputGamepad)
    (capabilities : Option NormalizedXInputCapabilities)
    (battery : Option NormalizedXInputBattery) :
    PacketStep rebuilds slot
      (slot.withSnapshot source sourceGeneration gamepad capabilities battery) := by
  by_cases same :
      slot.mapping.source = source ∧ sourceGeneration = slot.mapping.sourceGeneration ∧
        slot.connected = true ∧ slot.gamepad = gamepad
  · obtain ⟨routed, generation, connected, gamepadKept⟩ := same
    apply PacketStep.still
    · simp [withSnapshot, routed, generation, connected, gamepadKept]
    · simp [withSnapshot, connected]
    · simp [withSnapshot, gamepadKept]
  · apply PacketStep.advanced
    · by_cases kept :
          slot.mapping.source = source ∧ sourceGeneration = slot.mapping.sourceGeneration
      · obtain ⟨routed, generation⟩ := kept
        have moved : slot.connected = true → slot.gamepad ≠ gamepad :=
          fun connected gamepadKept => same ⟨routed, generation, connected, gamepadKept⟩
        cases connected : slot.connected with
        | false => simp [withSnapshot, routed, generation, connected]
        | true => simp [withSnapshot, routed, generation, connected, moved connected]
      · by_cases routed : slot.mapping.source = source
        · have generation : ¬ sourceGeneration = slot.mapping.sourceGeneration :=
            fun current => kept ⟨routed, current⟩
          simp [withSnapshot, routed, generation, clearConnectionState]
        · simp [withSnapshot, routed, clearConnectionState]
    · exact mapped
    · rw [withSnapshot_mapped]
      exact mapped
    · intro visible
      have routed := congrArg (·.source) visible.mapping
      have generation := congrArg (·.sourceGeneration) visible.mapping
      rw [withSnapshot_mapping] at routed generation
      have connected := visible.connected.symm
      have gamepadKept := visible.gamepad rfl
      exact same ⟨routed.symm, generation, connected, gamepadKept.symm⟩

theorem Change.packet (change : Change self operation index slot) :
    PacketStep (Rebuilds self operation index) (self.slots index) slot := by
  cases change with
  | kept => exact .still rfl rfl rfl
  | mapped _ maps => exact .restarted rfl rfl (.mapped maps)
  | unmapped _ unmaps => exact .restarted rfl rfl (.unmapped unmaps)
  | state _ carried => exact withState_packet _ (carries_mapped carried) _ _
  | snapshot _ carried => exact withSnapshot_packet _ (carries_mapped carried) _ _ _ _ _
  | capabilities | battery => exact .still rfl rfl rfl
  | disconnected _ carried _ connected =>
    have mapped := carries_mapped carried
    refine .advanced rfl mapped mapped ?_
    intro visible
    have stillConnected := visible.connected
    rw [connected] at stillConnected
    cases stillConnected
  | vibrated => exact .still rfl rfl rfl

theorem step_packet (self : VirtualXInputContext) (operation : Operation) (index : SlotIndex) :
    PacketStep (Rebuilds self operation index) (self.slots index)
      ((self.step operation).slots index) := by
  rcases self.step_cases operation with
    ⟨_, same⟩ | ⟨_, _, changed, slot, change, stored⟩
  · rw [same]
    exact .still rfl rfl rfl
  rw [stored]
  by_cases same : index = changed
  · rw [same]
    simp only [commit, Function.update_self]
    exact change.packet
  · simp only [commit, Function.update_of_ne same]
    exact .still rfl rfl rfl

/-- One step keeps the packet number with what a read shows, moves it by
one with a visible change, or leaves it at zero in a disconnected slot. -/
theorem step_packet_cases (named : slotIndex? logicalSlot = some index)
    (keeps : KeepsPackets logicalSlot self operation) :
    let before := self.slots index
    let after := (self.step operation).slots index
    (after.packetNumber = before.packetNumber ∧ after.connected = before.connected ∧
        after.gamepad = before.gamepad) ∨
      (after.packetNumber = before.packetNumber + 1 ∧
        (self.step operation).visibleState logicalSlot ≠ self.visibleState logicalSlot) ∨
      (before.packetNumber = 0 ∧ after.packetNumber = 0 ∧ after.connected = false) := by
  intro before after
  cases self.step_packet operation index with
  | still packet connected gamepad => exact Or.inl ⟨packet, connected, gamepad⟩
  | advanced packet mappedBefore mappedAfter visible =>
    refine Or.inr (Or.inl ⟨packet, ?_⟩)
    intro same
    exact visible (sameVisible_of_visibleState named mappedBefore mappedAfter same)
  | restarted packet connected because =>
    exact Or.inr (Or.inr ⟨keeps index named because, packet, connected⟩)

theorem toNat_add_one_of_lt {packet : UInt32} (room : packet.toNat + 1 < 4294967296) :
    (packet + 1).toNat = packet.toNat + 1 := by
  rw [UInt32.toNat_add, UInt32.toNat_one]
  omega

section Run

variable {logicalSlot : UInt8} {index : SlotIndex}
variable {self : VirtualXInputContext} {operation : Operation}

/-- The packet number counts at most the visible changes, and a connected
slot has counted one. -/
structure Counted (slot : VirtualXInputSlot) (changes : Nat) : Prop where
  bounded : slot.packetNumber.toNat ≤ changes
  started : slot.connected = true → slot.packetNumber ≠ 0

theorem visibleChanges_one
    (visible : (self.step operation).visibleState logicalSlot ≠ self.visibleState logicalSlot) :
    visibleChanges logicalSlot self [operation] = 1 := by
  simp only [visibleChanges, if_neg visible, Nat.zero_add]

section

variable (named : slotIndex? logicalSlot = some index)
include named

theorem step_counted {changes : Nat} (start : Counted (self.slots index) changes)
    (few : changes + visibleChanges logicalSlot self [operation] < 4294967296)
    (keeps : KeepsPackets logicalSlot self operation) :
    Counted ((self.step operation).slots index)
      (changes + visibleChanges logicalSlot self [operation]) := by
  have bounded := start.bounded
  rcases step_packet_cases named keeps with
    ⟨packet, connected, _⟩ | ⟨packet, visible⟩ | ⟨_, packet, connected⟩
  · constructor
    · rw [packet]
      omega
    · rw [packet, connected]
      exact start.started
  · have one := visibleChanges_one visible
    rw [one] at few ⊢
    have next :
        ((self.slots index).packetNumber + 1).toNat = (self.slots index).packetNumber.toNat + 1 :=
      toNat_add_one_of_lt (by omega)
    constructor
    · rw [packet, next]
      omega
    · intro _ zero
      rw [packet] at zero
      rw [zero, UInt32.toNat_zero] at next
      omega
  · constructor
    · rw [packet, UInt32.toNat_zero]
      omega
    · rw [connected]
      nofun

theorem counted_run (operations : List Operation) (self : VirtualXInputContext)
    (changes : Nat) (start : Counted (self.slots index) changes)
    (few : changes + visibleChanges logicalSlot self operations < 4294967296)
    (keeps : Along step (KeepsPackets logicalSlot) self operations) :
    Counted ((runFrom step self operations).slots index)
      (changes + visibleChanges logicalSlot self operations) := by
  induction operations generalizing self changes with
  | nil => exact start
  | cons operation operations ih =>
    have parts := visibleChanges_append logicalSlot self [operation] operations
    rw [List.singleton_append] at parts
    rw [parts, ← Nat.add_assoc] at few ⊢
    have next := step_counted named start (Nat.lt_of_le_of_lt (Nat.le_add_right _ _) few) keeps.1
    exact ih _ _ next few keeps.2

/-- From a slot whose packet number has moved, the packet number goes only
up, and while it is the same a read shows the same gamepad. -/
theorem later_packet (operations : List Operation) (self : VirtualXInputContext)
    (started : (self.slots index).packetNumber ≠ 0)
    (few :
      (self.slots index).packetNumber.toNat + visibleChanges logicalSlot self operations <
        4294967296)
    (keeps : Along step (KeepsPackets logicalSlot) self operations) :
    let before := self.slots index
    let after := (runFrom step self operations).slots index
    before.packetNumber.toNat ≤ after.packetNumber.toNat ∧
      (after.packetNumber = before.packetNumber → after.gamepad = before.gamepad) := by
  induction operations generalizing self with
  | nil => exact ⟨Nat.le_refl _, fun _ => rfl⟩
  | cons operation operations ih =>
    have parts := visibleChanges_append logicalSlot self [operation] operations
    rw [List.singleton_append] at parts
    rw [parts, ← Nat.add_assoc] at few
    change _ + visibleChanges logicalSlot (self.step operation) operations < 4294967296 at few
    rcases step_packet_cases named keeps.1 with
      ⟨packet, _, gamepad⟩ | ⟨packet, visible⟩ | ⟨zero, _⟩
    · have later := ih (self.step operation) (packet ▸ started) (by rw [packet]; omega) keeps.2
      dsimp only at later ⊢
      rw [packet, gamepad] at later
      exact later
    · rw [visibleChanges_one visible] at few
      have next :
          ((self.slots index).packetNumber + 1).toNat = (self.slots index).packetNumber.toNat + 1 :=
        toNat_add_one_of_lt (by omega)
      have nonzero : ((self.step operation).slots index).packetNumber ≠ 0 := by
        intro zero
        rw [packet] at zero
        rw [zero, UInt32.toNat_zero] at next
        omega
      have later := ih (self.step operation) nonzero (by rw [packet, next]; omega) keeps.2
      have up := later.1
      rw [packet, next] at up
      refine ⟨by dsimp only [runFrom_cons]; omega, ?_⟩
      intro same
      dsimp only [runFrom_cons] at same
      rw [same] at up
      omega
    · exact absurd zero started

end

theorem same_gamepad_of_initial {earlier later : List Operation} (isInitial : earlier <+: later)
    (few : visibleChanges logicalSlot {} later < 4294967295)
    (keeps : Along step (KeepsPackets logicalSlot) {} later)
    (first : ((runFrom step {} earlier).getState logicalSlot).1 = .success)
    (second : ((runFrom step {} later).getState logicalSlot).1 = .success)
    (same :
      ((runFrom step {} earlier).getState logicalSlot).2.packetNumber =
        ((runFrom step {} later).getState logicalSlot).2.packetNumber) :
    ((runFrom step {} earlier).getState logicalSlot).2.gamepad =
      ((runFrom step {} later).getState logicalSlot).2.gamepad := by
  obtain ⟨index, named⟩ := slotIndex_of_success first
  obtain ⟨connected, firstPacket, firstGamepad⟩ := getState_of_success named first
  obtain ⟨_, secondPacket, secondGamepad⟩ := getState_of_success named second
  obtain ⟨operations, rfl⟩ := isInitial
  rw [visibleChanges_append] at few
  obtain ⟨keepsEarlier, keepsRest⟩ := (along_append _ _ _).mp keeps
  have counted := counted_run named earlier {} 0 ⟨Nat.le_refl 0, nofun⟩ (by omega) keepsEarlier
  rw [Nat.zero_add] at counted
  have bounded := counted.bounded
  have rest := later_packet named operations _ (counted.started connected) (by omega) keepsRest
  rw [firstPacket, secondPacket, runFrom_append] at same
  rw [firstGamepad, secondGamepad, runFrom_append]
  exact (rest.2 same.symm).symm

end Run

/-- In a run that rebuilds the slot only while its packet number is zero,
the packet number tells the gamepad states apart. -/
theorem along_packetsDistinguish (logicalSlot : UInt8) (operations : List Operation)
    (few : visibleChanges logicalSlot {} operations < 4294967295)
    (keeps : Along step (KeepsPackets logicalSlot) {} operations) :
    PacketsDistinguish logicalSlot operations := by
  have changesOf :
      ∀ initial, initial <+: operations → visibleChanges logicalSlot {} initial < 4294967295 := by
    rintro initial ⟨rest, rfl⟩
    rw [visibleChanges_append] at few
    omega
  intro earlier later earlierInitial laterInitial _ _ first second same
  rcases List.prefix_or_prefix_of_prefix earlierInitial laterInitial with
    before | after
  · exact same_gamepad_of_initial before (changesOf later laterInitial)
      (along_of_initial laterInitial keeps) first second same
  · exact (same_gamepad_of_initial after (changesOf earlier earlierInitial)
      (along_of_initial earlierInitial keeps) second first
      same.symm).symm

section Rerouted

def firstPad : ControllerSourceIdentity where
  sourceKey := 1

def secondPad : ControllerSourceIdentity where
  sourceKey := 2

/-- The slot is given to a second controller, whose first state has the
packet number that the first controller's state had. -/
def reroutedSlot : List Operation :=
  [.mapLogicalSlot 1 0 firstPad 1, .applySourceState 2 firstPad 1 {},
    .mapLogicalSlot 3 0 secondPad 1,
    .applySourceState 4 secondPad 1 { buttons := 1 }]

theorem packetNumber_repeated :
    ¬ ∀ (logicalSlot : UInt8) (operations : List Operation),
      visibleChanges logicalSlot {} operations < 4294967295 →
        PacketsDistinguish logicalSlot operations := by
  intro always
  have sameGamepad := always 0 reroutedSlot (by decide) (reroutedSlot.take 2)
    reroutedSlot (List.take_prefix 2 _) (List.prefix_refl _)
    (by decide) (by decide) (by decide)
  exact absurd sameGamepad (by decide)

/-- A controller that moves, goes away and comes back. -/
def returningPad : List Operation :=
  [.mapLogicalSlot 1 0 firstPad 1, .applySourceState 2 firstPad 1 {},
    .applySourceState 3 firstPad 1 { buttons := 1 },
    .disconnectSource 4 firstPad 1,
    .applySourceState 5 firstPad 2 {}]

theorem returningPad_distinguishes : PacketsDistinguish 0 returningPad := by
  apply along_packetsDistinguish
  · decide
  refine ⟨?_, ?_, ?_, ?_, ?_, trivial⟩
  · intro index _ _
    rfl
  · intro index _ rebuilds
    cases rebuilds
  · intro index _ rebuilds
    cases rebuilds
  · intro index _ rebuilds
    cases rebuilds
  · intro index _ rebuilds
    cases rebuilds

end Rerouted

end VirtualXInputContext

end HydraSeat.GateC
