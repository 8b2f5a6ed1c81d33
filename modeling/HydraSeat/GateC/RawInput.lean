import HydraSeat.GateC.RawHandles

/-!
# Virtual raw input of one game

`VirtualRawInputContext` serialises input events into packets, gives each
one a synthetic handle and queues it until the game reads it with
`GetRawInputData` or `GetRawInputBuffer`.  Every operation takes its mutex,
so each is one step here.
-/

namespace HydraSeat.GateC

open Foundation

def kRawUsagePageGenericDesktop : UInt16 := 0x0001

def kRawUsageMouse : UInt16 := 0x0002

def kRawUsageKeyboard : UInt16 := 0x0006

def kRawTypeMouse : UInt32 := 0

def kRawTypeKeyboard : UInt32 := 1

def kRawRidevRemove : UInt32 := 0x00000001

def kRawRidevInputSink : UInt32 := 0x00000100

def kRawRidevDeviceNotify : UInt32 := 0x00002000

def kRawRidInput : UInt32 := 0x10000003

def kRawRidHeader : UInt32 := 0x10000005

def kRawWmKeyDown : UInt32 := 0x0100

def kRawWmKeyUp : UInt32 := 0x0101

def kRawKeyboardBreak : UInt16 := 0x0001

def kRawMouseWheel : UInt16 := 0x0400

def kVirtualRawMaximumRegistrations : Nat := 2

def kVirtualRawMaximumRegistrationOperations : Nat := 16

def kVirtualRawMaximumPackets : Nat := 128

def kVirtualRawMaximumPayloadBytes : Nat := 64 * 1024

def kVirtualRawBufferAlignment : Nat := 8

structure VirtualRawRegistration where
  key : RawUsageKey := {}
  (requestedFlags observableFlags : UInt32 := 0)
  targetWindowRuntimeValue : UInt64 := 0
  (targetWindowValidatedAtRegistration deviceNotificationRequested : Bool := false)
  generation : UInt64 := 0

structure VirtualRawRegistrationRequest where
  key : RawUsageKey := {}
  flags : UInt32 := 0
  targetWindowRuntimeValue : UInt64 := 0
  targetWindowCurrentProcess : Bool := false

def overwrite (bytes : List UInt8) (offset : Nat) (written : List UInt8) : List UInt8 :=
  bytes.take offset ++ written ++ bytes.drop (offset + written.length)

namespace RawPacket

variable (bytes : List UInt8)

def writeU16 (offset : Nat) (value : UInt16) : List UInt8 :=
  overwrite bytes offset (littleEndian 2 value.toNat)

def writeU32 (offset : Nat) (value : UInt32) : List UInt8 :=
  overwrite bytes offset (littleEndian 4 value.toNat)

def writeU64 (offset : Nat) (value : UInt64) (width : Nat) : List UInt8 :=
  overwrite bytes offset (littleEndian width value.toNat)

def readU32 (offset : Nat) : UInt32 := UInt32.ofNat (spelled ((bytes.drop offset).take 4))

end RawPacket

namespace RawArchitecture

def rawInputHeaderBytes : RawArchitecture → UInt32
  | .x86 => 16
  | .x64 => 24

def rawInputBytes : RawArchitecture → UInt32
  | .x86 => 40
  | .x64 => 48

def pointerBytes : RawArchitecture → Nat
  | .x86 => 4
  | .x64 => 8

/-- The largest `std::size_t` of an adapter of the architecture. -/
def maximumSize : RawArchitecture → Nat
  | .x86 => 0xffffffff
  | .x64 => 0xffffffffffffffff

def addWouldOverflow (architecture : RawArchitecture) (left right : Nat) : Bool :=
  architecture.maximumSize - right < left

def alignedSize (architecture : RawArchitecture) (value : Nat) : Nat :=
  if architecture.addWouldOverflow value (kVirtualRawBufferAlignment - 1)
      then
    0
  else
    (value + kVirtualRawBufferAlignment - 1) / kVirtualRawBufferAlignment *
      kVirtualRawBufferAlignment

end RawArchitecture

def validVirtualRawPacket (packet : VirtualRawPacket) (architecture : RawArchitecture) : Bool :=
  let expectedHeader := architecture.rawInputHeaderBytes.toNat
  let expectedInput := architecture.rawInputBytes.toNat
  if packet.bytes.length ≠ expectedInput ∨ packet.bytes.length < expectedHeader ∨
      kVirtualRawMaximumPayloadBytes < packet.bytes.length then
    false
  else
    let type := RawPacket.readU32 packet.bytes 0
    let size := RawPacket.readU32 packet.bytes 4
    size.toNat = packet.bytes.length ∧
      ((packet.inputKind = .keyboard ∧ type = kRawTypeKeyboard) ∨
        (packet.inputKind = .mouse ∧ type = kRawTypeMouse))

namespace VirtualRawInputQueue

structure SizeRecord where
  token : UInt64 := 0
  bytes : Nat := 0
  deriving DecidableEq

end VirtualRawInputQueue

structure VirtualRawInputQueue where
  tokens : List UInt64 := []
  sizes : List VirtualRawInputQueue.SizeRecord := []
  payloadBytes : Nat := 0
  deriving DecidableEq

namespace VirtualRawInputQueue

variable (self : VirtualRawInputQueue)

def enqueue (token : UInt64) (payloadBytes : Nat) : VirtualRawResult × VirtualRawInputQueue :=
  if token = 0 ∨ payloadBytes = 0 ∨ kVirtualRawMaximumPayloadBytes < payloadBytes then
    (.invalidArgument, self)
  else if kVirtualRawMaximumPackets ≤ self.tokens.length ∨
      kVirtualRawMaximumPayloadBytes - self.payloadBytes < payloadBytes then
    (.queueFull, self)
  else
    (.success,
      { tokens := self.tokens ++ [token], sizes := self.sizes ++ [{ token, bytes := payloadBytes }]
        payloadBytes := self.payloadBytes + payloadBytes })

def erase (token : UInt64) : VirtualRawInputQueue :=
  if token ∈ self.tokens then
    match self.sizes.find? fun record => record.token == token with
    | none => self
    | some sizeFound =>
      { tokens := self.tokens.erase token
        sizes := self.sizes.eraseP fun record => record.token == token
        payloadBytes := self.payloadBytes - sizeFound.bytes }
  else self

def eraseTokens (tokens : List UInt64) : VirtualRawInputQueue := tokens.foldl erase self

end VirtualRawInputQueue

structure VirtualRawDelivery where
  result : VirtualRawResult := .internalFailure
  (token targetWindowRuntimeValue registrationGeneration : UInt64 := 0)
  messageWParam : UInt32 := kRawRimInput

structure VirtualRawDataResult where
  result : VirtualRawResult := .internalFailure
  returnValue : UInt32 := 0xffffffff
  sizeAfter : UInt32 := 0

structure VirtualRawBufferResult where
  result : VirtualRawResult := .internalFailure
  packetCount : UInt32 := 0xffffffff
  sizeAfter : UInt32 := 0

abbrev RegistrationIndex : Type := Fin kVirtualRawMaximumRegistrations

structure VirtualRawInputContext where
  architecture : RawArchitecture
  (seatId processId : UInt32 := 0)
  registrationGeneration : UInt64 := 0
  (configured stopping : Bool := false)
  registrations : RegistrationIndex → Option VirtualRawRegistration := fun _ => none
  handles : SyntheticRawHandleTable
  queue : VirtualRawInputQueue := {}

namespace VirtualRawInputContext

def create (architecture : RawArchitecture) (contextDiscriminator : UInt16) :
    VirtualRawInputContext where
  architecture
  handles := .create architecture contextDiscriminator

def configure (self : VirtualRawInputContext) (seatId processId : UInt32) :
    VirtualRawResult × VirtualRawInputContext :=
  if seatId = 0 ∨ processId = 0 then (.invalidArgument, self)
  else if self.configured ∧ (self.seatId ≠ seatId ∨ self.processId ≠ processId) then
    (.invalidArgument, self)
  else (.success, { self with seatId, processId, configured := true, stopping := false })

def supportedUsage (key : RawUsageKey) : Bool :=
  key.usagePage = kRawUsagePageGenericDesktop &&
    (key.usage = kRawUsageKeyboard || key.usage = kRawUsageMouse)

def usageIndex (key : RawUsageKey) : RegistrationIndex :=
  if key.usage = kRawUsageKeyboard then ⟨0, by decide⟩
  else ⟨1, by decide⟩

def observableFlags (requested : UInt32) : UInt32 := requested &&& ~~~kRawRidevDeviceNotify

/-- The packet of a token, if it resolves to one of the usage. -/
def resolvesTo (self : VirtualRawInputContext) (key : RawUsageKey) (token : UInt64) : Bool :=
  match self.handles.resolve token with
  | .ok packet => packet.usage == key
  | .error _ => false

def expireUsageLocked (self : VirtualRawInputContext) (key : RawUsageKey) :
    VirtualRawInputContext :=
  let expired := self.queue.tokens.filter (self.resolvesTo key)
  let handles := expired.foldl (fun handles token => (handles.expire token).2) self.handles
  { self with queue := self.queue.eraseTokens expired, handles := handles.expireUsage key }

/-- Why `registerDevices` refuses a request, if it does. -/
def requestRefusal (request : VirtualRawRegistrationRequest) : Option VirtualRawResult :=
  let allowed := kRawRidevInputSink ||| kRawRidevDeviceNotify
  if !supportedUsage request.key then some .unsupportedUsage
  else if request.flags &&& kRawRidevRemove ≠ 0 then
    if request.flags ≠ kRawRidevRemove ∨ request.targetWindowRuntimeValue ≠ 0 ∨
        request.targetWindowCurrentProcess then
      some .invalidFlags
    else none
  else if request.flags &&& ~~~allowed ≠ 0 then some .invalidFlags
  else if request.targetWindowRuntimeValue = 0 ∨ !request.targetWindowCurrentProcess then
    some .invalidTarget
  else none

/-- One turn of the loop of `registerDevices` that applies the requests. -/
def applyRequest (self : VirtualRawInputContext)
    (request : VirtualRawRegistrationRequest) : VirtualRawInputContext :=
  let index := usageIndex request.key
  if request.flags &&& kRawRidevRemove ≠ 0 then
    if (self.registrations index).isSome then
      let expired := self.expireUsageLocked request.key
      { expired with
        registrations := Function.update expired.registrations index none
        registrationGeneration := expired.registrationGeneration + 1 }
    else self
  else
    let expired := self.expireUsageLocked request.key
    let registrationGeneration := expired.registrationGeneration + 1
    let registration : VirtualRawRegistration :=
      { key := request.key, requestedFlags := request.flags
        observableFlags := observableFlags request.flags
        targetWindowRuntimeValue := request.targetWindowRuntimeValue
        targetWindowValidatedAtRegistration := true
        deviceNotificationRequested := request.flags &&& kRawRidevDeviceNotify != 0
        generation := registrationGeneration }
    { expired with
      registrations := Function.update expired.registrations index (some registration)
      registrationGeneration }

def registerDevices (self : VirtualRawInputContext)
    (requests : List VirtualRawRegistrationRequest) :
    VirtualRawResult × VirtualRawInputContext :=
  if requests = [] ∨ kVirtualRawMaximumRegistrationOperations < requests.length then
    (.invalidArgument, self)
  else
    match requests.findSome? requestRefusal with
    | some refusal => (refusal, self)
    | none =>
      if !self.configured || self.stopping then
        (if self.stopping then .sessionStopping else .invalidArgument, self)
      else (.success, requests.foldl applyRequest self)

def writeKeyboard (bytes : List UInt8) (payload : Nat) (input : InputEventMessage) : List UInt8 :=
  let makeFlagsMask := ~~~kRawKeyboardBreak
  let keyboardFlags := (input.keyboardFlags &&& makeFlagsMask) |||
    (if input.keyTransition = .up then kRawKeyboardBreak else 0)
  let bytes := RawPacket.writeU16 bytes payload input.scanCode
  let bytes := RawPacket.writeU16 bytes (payload + 2) keyboardFlags
  let bytes := RawPacket.writeU16 bytes (payload + 4) 0
  let bytes := RawPacket.writeU16 bytes (payload + 6) input.vkey.toUInt16
  let bytes := RawPacket.writeU32 bytes (payload + 8)
    (if input.keyTransition = .down then kRawWmKeyDown
    else kRawWmKeyUp)
  RawPacket.writeU32 bytes (payload + 12) 0

/-- The payload of a mouse packet, which moves relatively. -/
def writeMouse (bytes : List UInt8) (payload : Nat) (input : InputEventMessage) : List UInt8 :=
  let buttonFlags := input.mouseButtonFlags ||| (if input.wheelDelta ≠ 0 then kRawMouseWheel else 0)
  let bytes := RawPacket.writeU16 bytes payload 0
  let bytes := RawPacket.writeU16 bytes (payload + 4) buttonFlags
  let bytes := RawPacket.writeU16 bytes (payload + 6) input.wheelDelta.toUInt16
  let bytes := RawPacket.writeU32 bytes (payload + 8) 0
  let bytes := RawPacket.writeU32 bytes (payload + 12) input.deltaX.toUInt32
  let bytes := RawPacket.writeU32 bytes (payload + 16) input.deltaY.toUInt32
  RawPacket.writeU32 bytes (payload + 20) 0

def serializePacket (self : VirtualRawInputContext) (sequence : UInt64)
    (input : InputEventMessage) (registration : VirtualRawRegistration) :
    VirtualRawPacket :=
  let deliveryCode :=
    if registration.requestedFlags &&& kRawRidevInputSink ≠ 0 then kRawRimInputSink
    else kRawRimInput
  let pointerBytes := self.architecture.pointerBytes
  let payload := self.architecture.rawInputHeaderBytes.toNat
  let bytes := List.replicate self.architecture.rawInputBytes.toNat (0 : UInt8)
  let bytes := RawPacket.writeU32 bytes 0
    (if input.kind = .keyboard then kRawTypeKeyboard else kRawTypeMouse)
  let bytes := RawPacket.writeU32 bytes 4 self.architecture.rawInputBytes
  -- The device handle stays null: no physical device stands behind it.
  let bytes := RawPacket.writeU64 bytes 8 0 pointerBytes
  let bytes := RawPacket.writeU64 bytes (8 + pointerBytes) deliveryCode.toUInt64 pointerBytes
  { sequence
    seatId := self.seatId
    inputKind := input.kind
    usage := registration.key
    creationTimestampMicros := input.timestampMicros
    registrationGeneration := registration.generation
    targetWindowRuntimeValue := registration.targetWindowRuntimeValue
    deliveryCode
    bytes :=
      if input.kind = .keyboard then writeKeyboard bytes payload input
      else writeMouse bytes payload input }

/-- The usage under which an input event is registered. -/
def inputUsage (input : InputEventMessage) : RawUsageKey where
  usagePage := kRawUsagePageGenericDesktop
  usage :=
    if input.kind = .keyboard then kRawUsageKeyboard else kRawUsageMouse

def enqueueInput (self : VirtualRawInputContext) (sequence : UInt64) (input : InputEventMessage) :
    VirtualRawDelivery × VirtualRawInputContext :=
  if !self.configured || sequence == 0 then ({ result := .invalidArgument }, self)
  else if self.stopping then ({ result := .sessionStopping }, self)
  else
    match self.registrations (usageIndex (inputUsage input)) with
    | none => ({ result := .registrationMissing }, self)
    | some registration =>
      let packet := self.serializePacket sequence input registration
      if !validVirtualRawPacket packet self.architecture then ({ result := .malformedPacket }, self)
      else
        let (allocation, handles) := self.handles.allocate packet
        if allocation.result ≠ .success then
          ({ result := allocation.result }, { self with handles })
        else
          match handles.resolve allocation.token with
          | .error _ =>
            ({ result := .internalFailure },
              { self with handles := (handles.expire allocation.token).2 })
          | .ok stored =>
            let (queued, queue) := self.queue.enqueue allocation.token stored.bytes.length
            if queued ≠ .success then
              ({ result := queued }, { self with handles := (handles.expire allocation.token).2 })
            else
              ({ result := .success, token := allocation.token
                 targetWindowRuntimeValue := stored.targetWindowRuntimeValue
                 registrationGeneration := stored.registrationGeneration
                 messageWParam := stored.deliveryCode },
                { self with handles, queue })

def registrationCurrent (self : VirtualRawInputContext) (packet : VirtualRawPacket) : Bool :=
  match self.registrations (usageIndex packet.usage) with
  | none => false
  | some registration =>
    registration.generation == packet.registrationGeneration &&
      registration.targetWindowRuntimeValue == packet.targetWindowRuntimeValue

/-- Take the packet of a token out of the queue and expire its handle. -/
def dropToken (self : VirtualRawInputContext) (token : UInt64) : VirtualRawInputContext :=
  { self with queue := self.queue.erase token, handles := (self.handles.expire token).2 }

def completeDelivery (self : VirtualRawInputContext) (token : UInt64)
    (targetCurrentlyValid postSucceeded : Bool) :
    VirtualRawResult × VirtualRawInputContext :=
  match self.handles.resolve token with
  | .error resolved => (resolved, self)
  | .ok packet =>
    if !self.registrationCurrent packet then (.registrationChanged, self.dropToken token)
    else if !targetCurrentlyValid || !postSucceeded then (.invalidTarget, self.dropToken token)
    else
      let (marked, handles) := self.handles.markDelivered token
      (marked, { self with handles })

/-- The answer, the output buffer and the context after `readData`. -/
def readData (self : VirtualRawInputContext) (token : UInt64)
    (command cbSizeHeader : UInt32) (output : List UInt8)
    (sizeQuery : Bool) :
    VirtualRawDataResult × List UInt8 × VirtualRawInputContext :=
  let headerBytes := self.architecture.rawInputHeaderBytes
  if cbSizeHeader ≠ headerBytes then ({ result := .invalidArgument }, output, self)
  else if command ≠ kRawRidHeader ∧ command ≠ kRawRidInput then
    ({ result := .unsupportedCommand }, output, self)
  else
    match self.handles.resolve token with
    | .error resolved => ({ result := resolved }, output, self)
    | .ok packet =>
      if !validVirtualRawPacket packet self.architecture then
        ({ result := .malformedPacket }, output, self)
      else
        let required :=
          if command = kRawRidHeader then headerBytes
          else UInt32.ofNat packet.bytes.length
        if sizeQuery then
          ({ result := .success, returnValue := 0, sizeAfter := required }, output, self)
        else if output.length < required.toNat then
          ({ result := .bufferTooSmall, sizeAfter := required }, output, self)
        else
          let copied := overwrite output 0 (packet.bytes.take required.toNat)
          if command = kRawRidInput then
            let queue := self.queue.erase token
            let (consumed, handles) := self.handles.consume token
            if consumed ≠ .success then
              ({ result := consumed, sizeAfter := required }, copied, { self with queue, handles })
            else
              ({ result := .success, returnValue := required, sizeAfter := required },
                copied, { self with queue, handles })
          else
            ({ result := .success, returnValue := required, sizeAfter := required }, copied, self)

/-- The first loop of `readBuffer`: the queued packets and the bytes that
they need, or nothing when a packet is malformed. -/
def collectPackets (self : VirtualRawInputContext) :
    List UInt64 → Nat → Option (List VirtualRawPacket × Nat)
  | [], required => some ([], required)
  | token :: tokens, required =>
    match self.handles.resolve token with
    | .error _ => none
    | .ok packet =>
      if !validVirtualRawPacket packet self.architecture then none
      else
        let aligned := self.architecture.alignedSize packet.bytes.length
        if aligned = 0 ∨ self.architecture.addWouldOverflow required aligned ∨
            kVirtualRawMaximumPayloadBytes < required + aligned then
          none
        else
          match self.collectPackets tokens (required + aligned) with
          | none => none
          | some (packets, total) => some (packet :: packets, total)

/-- The second loop of `readBuffer`: every packet is copied and padded. -/
def copyPackets (architecture : RawArchitecture) (output : List UInt8) :
    List VirtualRawPacket → Nat → List UInt8
  | [], _ => output
  | packet :: packets, offset =>
    let size := packet.bytes.length
    let next := architecture.alignedSize size
    let copied := overwrite output offset packet.bytes
    let padded := overwrite copied (offset + size) (List.replicate (next - size) 0)
    copyPackets architecture padded packets (offset + next)

/-- The third loop of `readBuffer`: the handles are consumed until one
fails. -/
def consumeAll : List UInt64 → SyntheticRawHandleTable → Bool × SyntheticRawHandleTable
  | [], handles => (true, handles)
  | token :: tokens, handles =>
    let (consumed, next) := handles.consume token
    if consumed ≠ .success then (false, next)
    else consumeAll tokens next

/-- The answer, the output buffer and the context after `readBuffer`. -/
def readBuffer (self : VirtualRawInputContext) (cbSizeHeader : UInt32)
    (output : List UInt8) (sizeQuery : Bool) :
    VirtualRawBufferResult × List UInt8 × VirtualRawInputContext :=
  if cbSizeHeader ≠ self.architecture.rawInputHeaderBytes then
    ({ result := .invalidArgument }, output, self)
  else
    match self.collectPackets self.queue.tokens 0 with
    | none => ({ result := .malformedPacket }, output, self)
    | some (packets, required) =>
      let sizeAfter := UInt32.ofNat required
      if sizeQuery then ({ result := .success, packetCount := 0, sizeAfter }, output, self)
      else if output.length < required then ({ result := .bufferTooSmall, sizeAfter }, output, self)
      else
        let copied := copyPackets self.architecture output packets 0
        let (allConsumed, handles) := consumeAll self.queue.tokens self.handles
        if !allConsumed then
          ({ result := .internalFailure, sizeAfter }, copied, { self with handles })
        else
          ({ result := .success, packetCount := UInt32.ofNat packets.length, sizeAfter }, copied,
            { self with handles, queue := self.queue.eraseTokens self.queue.tokens })

def beginStopping (self : VirtualRawInputContext) : VirtualRawInputContext :=
  { self with stopping := true }

def reset (self : VirtualRawInputContext) : VirtualRawInputContext where
  architecture := self.architecture
  stopping := true
  handles := self.handles.reset

inductive Operation where
  | configure (seatId processId : UInt32)
  | registerDevices (requests : List VirtualRawRegistrationRequest)
  | enqueueInput (sequence : UInt64) (input : InputEventMessage)
  | completeDelivery (token : UInt64) (targetCurrentlyValid postSucceeded : Bool)
  | readData (token : UInt64) (command cbSizeHeader : UInt32)
      (output : List UInt8) (sizeQuery : Bool)
  | readBuffer (cbSizeHeader : UInt32) (output : List UInt8) (sizeQuery : Bool)
  | beginStopping
  | reset

def step (self : VirtualRawInputContext) : Operation → VirtualRawInputContext
  | .configure seatId processId => (self.configure seatId processId).2
  | .registerDevices requests => (self.registerDevices requests).2
  | .enqueueInput sequence input => (self.enqueueInput sequence input).2
  | .completeDelivery token targetCurrentlyValid postSucceeded =>
    (self.completeDelivery token targetCurrentlyValid postSucceeded).2
  | .readData token command cbSizeHeader output sizeQuery =>
    (self.readData token command cbSizeHeader output sizeQuery).2.2
  | .readBuffer cbSizeHeader output sizeQuery => (self.readBuffer cbSizeHeader output sizeQuery).2.2
  | .beginStopping => self.beginStopping
  | .reset => self.reset

end VirtualRawInputContext

end HydraSeat.GateC
