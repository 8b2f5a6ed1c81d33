import HydraSeat.GateC.Protocol
import Mathlib.Data.List.FinRange
import Mathlib.Logic.Function.Basic

/-!
# Synthetic raw-input handles

A game receives tokens in place of raw-input handles.  A token packs the
slot of the handle table, the generation of the slot and the discriminator
of the context into bit fields, whose widths depend on the architecture of
the game.
-/

namespace HydraSeat.GateC

inductive RawArchitecture where
  | x86 | x64

inductive VirtualRawResult where
  | success | invalidArgument | unsupportedUsage | invalidFlags | invalidTarget | queueFull
  | handleTableFull | unknownToken | staleToken | consumedToken | registrationChanged
  | sessionStopping | bufferTooSmall | unsupportedCommand | malformedPacket | generationExhausted
  | internalFailure | registrationMissing
  deriving DecidableEq

structure RawUsageKey where
  (usagePage usage : UInt16 := 0)
  deriving DecidableEq

def kRawRimInput : UInt32 := 0

def kRawRimInputSink : UInt32 := 1

structure VirtualRawPacket where
  sequence : UInt64 := 0
  seatId : UInt32 := 0
  inputKind : InputKind := .keyboard
  usage : RawUsageKey := {}
  (creationTimestampMicros registrationGeneration targetWindowRuntimeValue : UInt64 := 0)
  deliveryCode : UInt32 := kRawRimInput
  bytes : List UInt8 := []
  syntheticToken : UInt64 := 0

inductive SyntheticRawHandleState where
  | free | allocated | delivered | consumed | expired | retired
  deriving DecidableEq

structure SyntheticRawHandleAllocation where
  result : VirtualRawResult := .internalFailure
  token : UInt64 := 0

/-- The `Slot` of a handle table. -/
structure SyntheticRawHandleSlot where
  state : SyntheticRawHandleState := .free
  generation : UInt32 := 1
  packet : Option VirtualRawPacket := none

namespace SyntheticRawHandleSlot

def releaseSlot (slot : SyntheticRawHandleSlot) (terminal : SyntheticRawHandleState) :
    SyntheticRawHandleSlot :=
  { slot with packet := none, state := terminal }

/-- The handle has been given out and has not ended. -/
def active (slot : SyntheticRawHandleSlot) : Bool :=
  slot.state = .allocated || slot.state = .delivered

end SyntheticRawHandleSlot

def kTokenMarker : UInt64 := 0x5d

def kVirtualRawMaximumHandles : Nat := 128

abbrev RawHandleIndex : Type := Fin kVirtualRawMaximumHandles

def RawArchitecture.discriminatorMask : RawArchitecture → UInt16
  | .x86 => 0x3f
  | .x64 => 0xff

def RawArchitecture.handleBits : RawArchitecture → Nat
  | .x86 => 32
  | .x64 => 64

/-- The discriminator fits its bit field, as the constructor sees to. -/
structure SyntheticRawHandleTable where
  architecture : RawArchitecture
  contextDiscriminator : UInt16
  slots : RawHandleIndex → SyntheticRawHandleSlot := fun _ => {}
  discriminatorFits : contextDiscriminator ≤ architecture.discriminatorMask

namespace SyntheticRawHandleTable

open SyntheticRawHandleSlot

variable (architecture : RawArchitecture) (contextDiscriminator : UInt16)

def initialDiscriminator : UInt16 :=
  let masked := contextDiscriminator &&& architecture.discriminatorMask
  if masked = 0 then 1 else masked

theorem initialDiscriminator_fits :
    initialDiscriminator architecture contextDiscriminator ≤ architecture.discriminatorMask := by
  unfold initialDiscriminator
  dsimp only
  split
  · cases architecture <;> decide
  · rw [UInt16.le_iff_toNat_le, UInt16.toNat_and]
    exact Nat.and_le_right

def create : SyntheticRawHandleTable where
  architecture
  contextDiscriminator := initialDiscriminator architecture contextDiscriminator
  discriminatorFits := initialDiscriminator_fits architecture contextDiscriminator

def maximumGeneration (self : SyntheticRawHandleTable) : UInt64 :=
  match self.architecture with
  | .x86 => 0x7ff
  | .x64 => 0xffff

def setSlot (self : SyntheticRawHandleTable) (index : RawHandleIndex)
    (slot : SyntheticRawHandleSlot) : SyntheticRawHandleTable :=
  { self with slots := Function.update self.slots index slot }

def encode (self : SyntheticRawHandleTable) (slot : RawHandleIndex)
    (generation : UInt32) : UInt64 :=
  let encodedSlot := UInt64.ofNat (slot.val + 1)
  match self.architecture with
  | .x86 =>
    (kTokenMarker <<< 25) ||| (self.contextDiscriminator.toUInt64 <<< 19) |||
      (generation.toUInt64 <<< 8) ||| encodedSlot
  | .x64 =>
    (kTokenMarker <<< 40) ||| (self.contextDiscriminator.toUInt64 <<< 32) |||
      (generation.toUInt64 <<< 16) ||| encodedSlot

/-- The checks of `decode` on the fields of a token. -/
def decodeFields (self : SyntheticRawHandleTable)
    (marker context encodedSlot : UInt64) (generation : UInt32) :
    Except VirtualRawResult (RawHandleIndex × UInt32) :=
  if marker ≠ kTokenMarker ∨ context ≠ self.contextDiscriminator.toUInt64 then .error .unknownToken
  else if valid : 0 < encodedSlot.toNat ∧ encodedSlot.toNat ≤ kVirtualRawMaximumHandles then
    if generation = 0 then .error .unknownToken
    else .ok (⟨encodedSlot.toNat - 1, by omega⟩, generation)
  else .error .unknownToken

def decode (self : SyntheticRawHandleTable) (token : UInt64) :
    Except VirtualRawResult (RawHandleIndex × UInt32) :=
  if token = 0 then .error .unknownToken
  else
    match self.architecture with
    | .x86 =>
      if token > 0xffffffff then .error .unknownToken
      else
        self.decodeFields ((token >>> 25) &&& 0x7f) ((token >>> 19) &&& 0x3f) (token &&& 0xff)
          ((token >>> 8) &&& 0x7ff).toUInt32
    | .x64 =>
      self.decodeFields ((token >>> 40) &&& 0x7f) ((token >>> 32) &&& 0xff) (token &&& 0xffff)
        ((token >>> 16) &&& 0xffff).toUInt32

/-- The loop of `allocate` over the slots that it has not looked at. -/
def allocateFrom (self : SyntheticRawHandleTable) (packet : VirtualRawPacket) :
    List RawHandleIndex → SyntheticRawHandleAllocation × SyntheticRawHandleTable
  | [] => ({ result := .handleTableFull, token := 0 }, self)
  | index :: indices =>
    let slot := self.slots index
    if slot.state = .retired ∨ slot.active then self.allocateFrom packet indices
    else
      let ended := slot.state = .consumed ∨ slot.state = .expired
      if ended ∧ self.maximumGeneration ≤ slot.generation.toUInt64 then
        allocateFrom (self.setSlot index (slot.releaseSlot .retired)) packet indices
      else
        let slot :=
          if ended then
            { slot with generation := slot.generation + 1, state := .free }
          else slot
        if slot.generation = 0 ∨ self.maximumGeneration < slot.generation.toUInt64 then
          allocateFrom (self.setSlot index (slot.releaseSlot .retired)) packet indices
        else
          let token := self.encode index slot.generation
          if token = 0 then
            allocateFrom (self.setSlot index { slot with state := .retired }) packet indices
          else
            ({ result := .success, token },
              self.setSlot index
                { slot with
                  packet := some { packet with syntheticToken := token }, state := .allocated })

def allocate (self : SyntheticRawHandleTable) (packet : VirtualRawPacket) :
    SyntheticRawHandleAllocation × SyntheticRawHandleTable :=
  self.allocateFrom packet (List.finRange kVirtualRawMaximumHandles)

def resolve (self : SyntheticRawHandleTable) (token : UInt64) :
    Except VirtualRawResult VirtualRawPacket :=
  match self.decode token with
  | .error decoded => .error decoded
  | .ok (index, generation) =>
    let slot := self.slots index
    if generation ≠ slot.generation then .error .staleToken
    else if slot.state = .consumed then .error .consumedToken
    else if slot.state = .expired ∨ slot.state = .free ∨ slot.state = .retired then
      .error .staleToken
    else
      match slot.packet with
      | none => .error .staleToken
      | some packet => .ok packet

def markDelivered (self : SyntheticRawHandleTable) (token : UInt64) :
    VirtualRawResult × SyntheticRawHandleTable :=
  match self.decode token with
  | .error decoded => (decoded, self)
  | .ok (index, generation) =>
    let slot := self.slots index
    if generation ≠ slot.generation then (.staleToken, self)
    else if slot.state ≠ .allocated ∨ slot.packet = none then (.staleToken, self)
    else (.success, self.setSlot index { slot with state := .delivered })

def consume (self : SyntheticRawHandleTable) (token : UInt64) :
    VirtualRawResult × SyntheticRawHandleTable :=
  match self.decode token with
  | .error decoded => (decoded, self)
  | .ok (index, generation) =>
    let slot := self.slots index
    if generation ≠ slot.generation then (.staleToken, self)
    else if slot.state = .consumed then (.consumedToken, self)
    else if (slot.state ≠ .allocated ∧ slot.state ≠ .delivered) ∨ slot.packet = none then
      (.staleToken, self)
    else (.success, self.setSlot index (slot.releaseSlot .consumed))

def expire (self : SyntheticRawHandleTable) (token : UInt64) :
    VirtualRawResult × SyntheticRawHandleTable :=
  match self.decode token with
  | .error decoded => (decoded, self)
  | .ok (index, generation) =>
    let slot := self.slots index
    if generation ≠ slot.generation then (.staleToken, self)
    else if slot.state ≠ .allocated ∧ slot.state ≠ .delivered then (.staleToken, self)
    else (.success, self.setSlot index (slot.releaseSlot .expired))

def expireUsage (self : SyntheticRawHandleTable) (key : RawUsageKey) : SyntheticRawHandleTable :=
  let expired (slot : SyntheticRawHandleSlot) : Bool :=
    slot.active && slot.packet.any fun packet => packet.usage == key
  { self with
    slots := fun index =>
      let slot := self.slots index
      if expired slot then slot.releaseSlot .expired else slot }

def reset (self : SyntheticRawHandleTable) : SyntheticRawHandleTable :=
  { self with
    slots := fun index =>
      let slot := self.slots index
      if slot.state = .retired then slot
      else if self.maximumGeneration ≤ slot.generation.toUInt64 then slot.releaseSlot .retired
      else
        { slot with
          generation := slot.generation + 1
          state := .free
          packet := none } }

inductive Operation where
  | allocate (packet : VirtualRawPacket)
  | markDelivered (token : UInt64)
  | consume (token : UInt64)
  | expire (token : UInt64)
  | expireUsage (key : RawUsageKey)
  | reset

def step (self : SyntheticRawHandleTable) : Operation → SyntheticRawHandleTable
  | .allocate packet => (self.allocate packet).2
  | .markDelivered token => (self.markDelivered token).2
  | .consume token => (self.consume token).2
  | .expire token => (self.expire token).2
  | .expireUsage key => self.expireUsage key
  | .reset => self.reset

end SyntheticRawHandleTable

end HydraSeat.GateC
