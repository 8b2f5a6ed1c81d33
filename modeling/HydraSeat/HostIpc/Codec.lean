import HydraSeat.Controller.Inventory
import HydraSeat.Foundation.Codec
import HydraSeat.HostIpc.Protocol

/-!
# The frames and payloads of the host protocol

An encoder answers the empty payload for a record that its decoder would
refuse.
-/

namespace HydraSeat.HostIpc

open Foundation HardwareDeviceKind

variable (payload : ByteString) (assignment : SeatHardwareAssignment)
variable (request : ControllerPairRequest) (seat : SeatSnapshot) (value : ByteString)
variable (maximum : Nat)

def validSeatId (seatId : UInt32) : Bool := seatId == 1 || seatId == 2

/-- The loop of `validUtf8`.  Every pass takes at least one byte. -/
def validSequences : Nat → ByteString → Bool
  | _, [] => true
  | 0, _ :: _ => false
  | fuel + 1, lead :: rest =>
    if lead == 0 then false
    else
      match sequence? lead rest with
      | none => false
      | some (_, tail) => validSequences fuel tail

def validUtf8 (allowEmpty : Bool) : Bool :=
  if (!allowEmpty && value.isEmpty) || value.length > maximum then false
  else validSequences value.length value

/-- Printable ASCII without blanks, within a length bound. -/
def printableId (value : ByteString) : Bool :=
  !value.isEmpty && value.length ≤ maximum && value.all fun byte => 0x21 ≤ byte && byte ≤ 0x7E

def validControllerId : Bool := printableId kHostProtocolMaxControllerIdBytes value

def validAudioEndpointId : Bool := printableId kHostProtocolMaxAudioEndpointIdBytes value

def appendString : ByteString := writeU32 value.length.toUInt32 ++ value

def readString (allowEmpty : Bool) : Reader ByteString := do
  let length ← readU32
  if length.toNat > maximum then failure
  let value ← readBytes length.toNat
  if !validUtf8 value maximum allowEmpty then failure
  return value

structure FrameHeader where
  magic : UInt32
  (version rawType : UInt16)
  correlationId : UInt64
  (payloadSize reserved : UInt32)

def writeFrameHeader (header : FrameHeader) : ByteString :=
  writeU32 header.magic ++ writeU16 header.version ++
    writeU16 header.rawType ++ writeU64 header.correlationId ++
    writeU32 header.payloadSize ++ writeU32 header.reserved

def readFrameHeader : Reader FrameHeader := do
  let magic ← readU32
  let version ← readU16
  let rawType ← readU16
  let correlationId ← readU64
  let payloadSize ← readU32
  let reserved ← readU32
  pure
    { magic := magic, version := version, rawType := rawType, correlationId := correlationId
      payloadSize := payloadSize, reserved := reserved }

def Frame.header (frame : Frame) : FrameHeader where
  magic := kHostProtocolMagic
  version := kHostProtocolVersion
  rawType := frame.type.value
  correlationId := frame.correlationId
  payloadSize := frame.payload.length.toUInt32
  reserved := 0

def encodeFrame (frame : Frame) : ByteString :=
  if validMessageType frame.type = false ∨ frame.correlationId = 0 ∨
      frame.payload.length > kHostProtocolMaxPayloadBytes then
    []
  else writeFrameHeader frame.header ++ frame.payload

def decodeFrame (bytes : ByteString) : Except DecodeResult Frame :=
  if bytes.length < kHostProtocolHeaderBytes then .error ⟨.malformed, "frame shorter than header"⟩
  else
    match readFrameHeader bytes with
    | none => .error ⟨.malformed, "frame header decode failed"⟩
    | some (header, payload) =>
      let type := MessageType.ofValue header.rawType
      if header.magic ≠ kHostProtocolMagic then .error ⟨.malformed, "frame magic mismatch"⟩
      else if header.version ≠ kHostProtocolVersion then
        .error ⟨.versionMismatch, "host protocol version mismatch"⟩
      else if validMessageType type = false ∨ header.correlationId = 0 ∨ header.reserved ≠ 0 then
        .error ⟨.malformed, "invalid frame metadata"⟩
      else if header.payloadSize.toNat > kHostProtocolMaxPayloadBytes ∨
          bytes.length ≠ kHostProtocolHeaderBytes + header.payloadSize.toNat then
        .error ⟨.malformed, "invalid frame payload length"⟩
      else .ok { type := type, correlationId := header.correlationId, payload := payload }

def encodeHello (value : Hello) : ByteString := writeU8 value.role.value ++ List.replicate 7 0

def decodeHello : Option Hello :=
  if payload.length ≠ 8 then none
  else
    match payload with
    | [] => none
    | rawRole :: reserved =>
      if reserved.any (· != 0) then none
      else (ClientRole.ofValue? rawRole).map fun role => { role := role }

def writeHelloAck (value : HelloAck) : ByteString :=
  writeU8 value.role.value ++ writeU8 value.seatCount ++
    writeU16 value.protocolVersion ++ writeU32 0

def encodeHelloAck (value : HelloAck) : ByteString :=
  if value.protocolVersion ≠ kHostProtocolVersion ∨ value.seatCount ≠ kHostSeatCount then []
  else writeHelloAck value

def readHelloAck : Reader HelloAck := do
  let rawRole ← readU8
  let seatCount ← readU8
  let version ← readU16
  let reserved ← readU32
  let role ← fromOption (ClientRole.ofValue? rawRole)
  if seatCount ≠ kHostSeatCount ∨ version ≠ kHostProtocolVersion ∨ reserved ≠ 0 then failure
  pure { role := role, protocolVersion := version, seatCount := seatCount }

def decodeHelloAck : Option HelloAck :=
  if payload.length ≠ 8 then none
  else decodeAll readHelloAck payload

def kSeatFlagActive : UInt32 := (1 : UInt32) <<< 0

def kSeatFlagUiLease : UInt32 := (1 : UInt32) <<< 1

def kSeatFlagGameLease : UInt32 := (1 : UInt32) <<< 2

def kSeatFlagProcess : UInt32 := (1 : UInt32) <<< 3

def kSeatFlagWindow : UInt32 := (1 : UInt32) <<< 4

def kSeatFlagController : UInt32 := (1 : UInt32) <<< 5

def kSeatFlagMask : UInt32 :=
  kSeatFlagActive ||| kSeatFlagUiLease ||| kSeatFlagGameLease |||
    kSeatFlagProcess ||| kSeatFlagWindow ||| kSeatFlagController

def seatFlags : UInt32 :=
  let flag (set : Bool) (value : UInt32) : UInt32 :=
    if set then value else 0
  flag seat.active kSeatFlagActive ||| flag seat.uiLeaseActive kSeatFlagUiLease |||
    flag seat.gameLeaseActive kSeatFlagGameLease |||
    flag seat.processOwned kSeatFlagProcess |||
    flag seat.windowOwned kSeatFlagWindow |||
    flag seat.controllerBound kSeatFlagController

def validSeatSnapshot (expectedSeatId : UInt32) : Bool :=
  if seat.seatId != expectedSeatId then false
  else if seat.active != (seat.uiLeaseActive || seat.gameLeaseActive) then false
  else if !seat.active && (seat.processOwned || seat.windowOwned || seat.controllerBound) then false
  else if seat.active && seat.generation == 0 then false
  else if !seat.gameLeaseActive && (seat.processOwned || seat.windowOwned) then false
  else if seat.windowOwned && !seat.processOwned then false
  else if seat.processOwned && (seat.processId == 0 || seat.processCreationIdentity == 0) then false
  else if !seat.processOwned && (seat.processId != 0 || seat.processCreationIdentity != 0) then
    false
  else seat.windowOwned == (seat.targetHwnd != 0)

def encodeSeatSnapshot : ByteString :=
  writeU32 seat.seatId ++ writeU32 0 ++ writeU64 seat.generation ++
    writeU32 (seatFlags seat) ++ writeU32 0 ++
    writeU32 seat.processId ++ writeU32 0 ++
    writeU64 seat.processCreationIdentity ++ writeU64 seat.targetHwnd

def writeSnapshot (snapshot : HostSnapshot) : ByteString :=
  writeU64 snapshot.authorityRevision ++
    encodeSeatSnapshot snapshot.seat1 ++ encodeSeatSnapshot snapshot.seat2

def encodeSnapshot (snapshot : HostSnapshot) : ByteString :=
  if snapshot.authorityRevision == 0 || !validSeatSnapshot snapshot.seat1 1 ||
      !validSeatSnapshot snapshot.seat2 2 then
    []
  else writeSnapshot snapshot

/-- The Seat with the states that the flags say. -/
def SeatSnapshot.withFlags (flags : UInt32) : SeatSnapshot :=
  { seat with
    active := flags &&& kSeatFlagActive != 0, uiLeaseActive := flags &&& kSeatFlagUiLease != 0
    gameLeaseActive := flags &&& kSeatFlagGameLease != 0
    processOwned := flags &&& kSeatFlagProcess != 0, windowOwned := flags &&& kSeatFlagWindow != 0
    controllerBound := flags &&& kSeatFlagController != 0 }

def readSeatSnapshot (expectedSeatId : UInt32) : Reader SeatSnapshot := do
  let seatId ← readU32
  let reservedBefore ← readU32
  let generation ← readU64
  let flags ← readU32
  let reservedAfter ← readU32
  let processId ← readU32
  let reservedProcess ← readU32
  let processCreationIdentity ← readU64
  let targetHwnd ← readU64
  if reservedBefore ≠ 0 ∨ reservedAfter ≠ 0 ∨ reservedProcess ≠ 0 ∨
      flags &&& ~~~kSeatFlagMask ≠ 0 then
    failure
  let fields : SeatSnapshot :=
    { seatId := seatId, generation := generation, processId := processId
      processCreationIdentity := processCreationIdentity, targetHwnd := targetHwnd }
  let seat := fields.withFlags flags
  if validSeatSnapshot seat expectedSeatId = false then failure
  return seat

def readSnapshot : Reader HostSnapshot := do
  let authorityRevision ← readU64
  if authorityRevision = 0 then failure
  let seat1 ← readSeatSnapshot 1
  let seat2 ← readSeatSnapshot 2
  pure { authorityRevision := authorityRevision, seat1 := seat1, seat2 := seat2 }

def decodeSnapshot : Option HostSnapshot :=
  if payload.length ≠ 104 then none
  else decodeAll readSnapshot payload

def writeSeatRequest (request : SeatRequest) : ByteString := writeU32 request.seatId ++ writeU32 0

def encodeSeatRequest (request : SeatRequest) : ByteString :=
  if !validSeatId request.seatId then []
  else writeSeatRequest request

def readSeatId : Reader UInt32 := do
  let seatId ← readU32
  let reserved ← readU32
  if reserved ≠ 0 ∨ validSeatId seatId = false then failure
  return seatId

def readSeatRequest : Reader SeatRequest := do
  let seatId ← readSeatId
  return { seatId := seatId }

def decodeSeatRequest : Option SeatRequest :=
  if payload.length ≠ 8 then none
  else decodeAll readSeatRequest payload

def validHardwareDeviceRecord (device : HardwareDeviceRecord) : Bool :=
  validUtf8 device.stableIdUtf8 kHostProtocolMaxHardwareDeviceIdBytes false &&
    validUtf8 device.displayNameUtf8 kHostProtocolMaxHardwareDeviceNameBytes true

/-- The loop that writes records behind `out`: it gives up at the first
record that is not `valid` or that makes the payload too long. -/
def appendRecords {Record : Type} (valid : Record → Bool) (writes : Record → ByteString) :
    ByteString → List Record → ByteString
  | out, [] => out
  | out, record :: records =>
    if !valid record then []
    else
      let extended := out ++ writes record
      if extended.length > kHostProtocolMaxPayloadBytes then []
      else appendRecords valid writes extended records

def writeHardwareDevice (device : HardwareDeviceRecord) : ByteString :=
  writeU8 device.kind.value ++ [0, 0, 0] ++
    appendString device.stableIdUtf8 ++ appendString device.displayNameUtf8

def encodeHardwareInventory (inventory : HardwareInventory) : ByteString :=
  if inventory.devices.length > kHostProtocolMaxHardwareDevices then []
  else
    appendRecords validHardwareDeviceRecord writeHardwareDevice
      (writeU32 inventory.devices.length.toUInt32 ++ writeU32 0)
      inventory.devices

def readHardwareDevice : Reader HardwareDeviceRecord := do
  let rawKind ← readU8
  let reserved ← readBytes 3
  if reserved.any (· != 0) = true then failure
  let kind ← fromOption (ofValue? rawKind)
  let stableId ← readString kHostProtocolMaxHardwareDeviceIdBytes false
  let displayName ← readString kHostProtocolMaxHardwareDeviceNameBytes true
  pure { kind := kind, stableIdUtf8 := stableId, displayNameUtf8 := displayName }

/-- The number of records of a list, at most `maximum`, and the reserved
word behind it. -/
def readCount : Reader Nat := do
  let count ← readU32
  let reserved ← readU32
  if reserved ≠ 0 ∨ count.toNat > maximum then failure
  return count.toNat

def readHardwareInventory : Reader HardwareInventory := do
  let count ← readCount kHostProtocolMaxHardwareDevices
  let devices ← readMany readHardwareDevice count
  return { devices := devices }

def decodeHardwareInventory : Option HardwareInventory :=
  if payload.length < 8 ∨ payload.length > kHostProtocolMaxPayloadBytes then none
  else decodeAll readHardwareInventory payload

def validSeatHardwareAssignment : Bool :=
  let valid (value : ByteString) : Bool :=
    validUtf8 value kHostProtocolMaxHardwareDeviceIdBytes true
  validSeatId assignment.seatId && valid assignment.displayIdUtf8 &&
    valid assignment.keyboardIdUtf8 && valid assignment.mouseIdUtf8 &&
    valid assignment.controllerIdUtf8

def writeSeatHardwareAssignment : ByteString :=
  writeU32 assignment.seatId ++ writeU32 0 ++ appendString assignment.displayIdUtf8 ++
    appendString assignment.keyboardIdUtf8 ++
    appendString assignment.mouseIdUtf8 ++
    appendString assignment.controllerIdUtf8

def encodeSeatHardwareAssignment : ByteString :=
  if !validSeatHardwareAssignment assignment then []
  else
    let out := writeSeatHardwareAssignment assignment
    if out.length > kHostProtocolMaxPayloadBytes then [] else out

def readSeatHardwareAssignment : Reader SeatHardwareAssignment := do
  let seatId ← readSeatId
  let displayId ← readString kHostProtocolMaxHardwareDeviceIdBytes true
  let keyboardId ← readString kHostProtocolMaxHardwareDeviceIdBytes true
  let mouseId ← readString kHostProtocolMaxHardwareDeviceIdBytes true
  let controllerId ← readString kHostProtocolMaxHardwareDeviceIdBytes true
  pure
    { seatId := seatId, displayIdUtf8 := displayId, keyboardIdUtf8 := keyboardId
      mouseIdUtf8 := mouseId, controllerIdUtf8 := controllerId }

def decodeSeatHardwareAssignment : Option SeatHardwareAssignment :=
  if payload.length < 20 ∨ payload.length > kHostProtocolMaxPayloadBytes then none
  else decodeAll readSeatHardwareAssignment payload

/-- A length between one and `maximum`, and as many printable bytes. -/
def readPrintableId : Reader ByteString := do
  let length ← readU32
  if length = 0 ∨ length.toNat > maximum then failure
  let value ← readBytes length.toNat
  if printableId maximum value = false then failure
  return value

def validControllerPairRequest : Bool :=
  validSeatId request.seatId && request.runtimeXInputSlot < Controller.kXInputSlotCount &&
    validControllerId request.persistentControllerId

def writeControllerPairRequest : ByteString :=
  writeU32 request.seatId ++ writeU8 request.runtimeXInputSlot ++
    [0, 0, 0] ++ appendString request.persistentControllerId

def encodeControllerPairRequest : ByteString :=
  if !validControllerPairRequest request then []
  else writeControllerPairRequest request

def readControllerPairRequest : Reader ControllerPairRequest := do
  let seatId ← readU32
  let runtimeXInputSlot ← readU8
  let reserved ← readBytes 3
  if validSeatId seatId = false ∨ runtimeXInputSlot ≥ Controller.kXInputSlotCount ∨
      reserved.any (· != 0) = true then
    failure
  let persistentControllerId ← readPrintableId kHostProtocolMaxControllerIdBytes
  pure
    { seatId := seatId, runtimeXInputSlot := runtimeXInputSlot
      persistentControllerId := persistentControllerId }

def decodeControllerPairRequest : Option ControllerPairRequest :=
  if payload.length < 12 ∨ payload.length > 12 + kHostProtocolMaxControllerIdBytes then none
  else decodeAll readControllerPairRequest payload

def validGameCatalogEntry (game : GameCatalogEntry) : Bool :=
  validUtf8 game.providerIdUtf8 kHostProtocolMaxProviderIdBytes false &&
    validUtf8 game.providerAppIdUtf8 kHostProtocolMaxProviderAppIdBytes true &&
    validUtf8 game.titleUtf8 kHostProtocolMaxLaunchTitleBytes false &&
    validUtf8 game.executablePathUtf8 kHostProtocolMaxLaunchPathBytes false &&
    validUtf8 game.workingDirectoryUtf8 kHostProtocolMaxLaunchPathBytes true

def writeGameCatalogEntry (game : GameCatalogEntry) : ByteString :=
  appendString game.providerIdUtf8 ++ appendString game.providerAppIdUtf8 ++
    appendString game.titleUtf8 ++ appendString game.executablePathUtf8 ++
    appendString game.workingDirectoryUtf8

def encodeGameCatalog (catalog : GameCatalog) : ByteString :=
  if catalog.games.length > kHostProtocolMaxGameCatalogEntries then []
  else
    appendRecords validGameCatalogEntry writeGameCatalogEntry
      (writeU32 catalog.games.length.toUInt32 ++ writeU32 0)
      catalog.games

def readGameCatalogEntry : Reader GameCatalogEntry := do
  let providerId ← readString kHostProtocolMaxProviderIdBytes false
  let providerAppId ← readString kHostProtocolMaxProviderAppIdBytes true
  let title ← readString kHostProtocolMaxLaunchTitleBytes false
  let executablePath ← readString kHostProtocolMaxLaunchPathBytes false
  let workingDirectory ← readString kHostProtocolMaxLaunchPathBytes true
  pure
    { providerIdUtf8 := providerId, providerAppIdUtf8 := providerAppId, titleUtf8 := title
      executablePathUtf8 := executablePath, workingDirectoryUtf8 := workingDirectory }

def readGameCatalog : Reader GameCatalog := do
  let count ← readCount kHostProtocolMaxGameCatalogEntries
  let games ← readMany readGameCatalogEntry count
  return { games := games }

def decodeGameCatalog : Option GameCatalog :=
  if payload.length < 8 ∨ payload.length > kHostProtocolMaxPayloadBytes then none
  else decodeAll readGameCatalog payload

def writeSeatRuntimeInfo (info : SeatRuntimeInfo) : ByteString :=
  writeU32 info.seatId ++ writeU32 0 ++ appendString info.titleUtf8 ++
    appendString info.providerIdUtf8

def encodeSeatRuntimeInfo (info : SeatRuntimeInfo) : ByteString :=
  let hasPresentation := !info.titleUtf8.isEmpty || !info.providerIdUtf8.isEmpty
  if !validSeatId info.seatId ||
      (hasPresentation &&
        (!validUtf8 info.titleUtf8 kHostProtocolMaxLaunchTitleBytes false ||
          !validUtf8 info.providerIdUtf8 kHostProtocolMaxProviderIdBytes false)) then
    []
  else
    let out := writeSeatRuntimeInfo info
    if out.length ≤ kHostProtocolMaxPayloadBytes then out else []

def readSeatRuntimeInfo : Reader SeatRuntimeInfo := do
  let seatId ← readSeatId
  let title ← readString kHostProtocolMaxLaunchTitleBytes true
  let providerId ← readString kHostProtocolMaxProviderIdBytes true
  if title.isEmpty ≠ providerId.isEmpty then failure
  pure { seatId := seatId, titleUtf8 := title, providerIdUtf8 := providerId }

def decodeSeatRuntimeInfo : Option SeatRuntimeInfo :=
  if payload.length < 16 ∨ payload.length > kHostProtocolMaxPayloadBytes then none
  else decodeAll readSeatRuntimeInfo payload

def validLaunchGameRequest (request : LaunchGameRequest) : Bool :=
  validSeatId request.seatId && validUtf8 request.titleUtf8 kHostProtocolMaxLaunchTitleBytes true &&
    validUtf8 request.executablePathUtf8 kHostProtocolMaxLaunchPathBytes false &&
    validUtf8 request.launchArgumentsUtf8 kHostProtocolMaxLaunchArgumentsBytes true &&
    validUtf8 request.workingDirectoryUtf8 kHostProtocolMaxLaunchPathBytes true

def writeLaunchGameRequest (request : LaunchGameRequest) : ByteString :=
  writeU32 request.seatId ++ writeU32 0 ++ appendString request.titleUtf8 ++
    appendString request.executablePathUtf8 ++
    appendString request.launchArgumentsUtf8 ++
    appendString request.workingDirectoryUtf8

def encodeLaunchGameRequest (request : LaunchGameRequest) : ByteString :=
  if !validLaunchGameRequest request then []
  else
    let out := writeLaunchGameRequest request
    if out.length > kHostProtocolMaxPayloadBytes then [] else out

def readLaunchGameRequest : Reader LaunchGameRequest := do
  let seatId ← readSeatId
  let title ← readString kHostProtocolMaxLaunchTitleBytes true
  let executablePath ← readString kHostProtocolMaxLaunchPathBytes false
  let launchArguments ← readString kHostProtocolMaxLaunchArgumentsBytes true
  let workingDirectory ← readString kHostProtocolMaxLaunchPathBytes true
  pure
    { seatId := seatId, titleUtf8 := title, executablePathUtf8 := executablePath
      launchArgumentsUtf8 := launchArguments, workingDirectoryUtf8 := workingDirectory }

def decodeLaunchGameRequest : Option LaunchGameRequest :=
  if payload.length < 24 ∨ payload.length > kHostProtocolMaxPayloadBytes then none
  else decodeAll readLaunchGameRequest payload

def encodeInputActivityRequest (request : InputActivityRequest) : ByteString :=
  if request.kind ≠ .keyboard ∧ request.kind ≠ .mouse then []
  else writeU8 request.kind.value ++ [0, 0, 0]

def decodeInputActivityRequest : Option InputActivityRequest :=
  if payload.length ≠ 4 then none
  else
    match payload with
    | [] => none
    | rawKind :: reserved =>
      if reserved.any (· != 0) then none
      else
        match ofValue? rawKind with
        | some .keyboard => some { kind := .keyboard }
        | some .mouse => some { kind := .mouse }
        | _ => none

def writeInputActivitySnapshot (snapshot : InputActivitySnapshot) : ByteString :=
  writeU8 snapshot.kind.value ++ [0, 0, 0] ++
    writeU64 snapshot.sequence ++ appendString snapshot.stableIdUtf8

def encodeInputActivitySnapshot (snapshot : InputActivitySnapshot) : ByteString :=
  if (snapshot.kind != .keyboard && snapshot.kind != .mouse) ||
      !validUtf8 snapshot.stableIdUtf8
        kHostProtocolMaxHardwareDeviceIdBytes (snapshot.sequence == 0) ||
      (snapshot.sequence == 0) != snapshot.stableIdUtf8.isEmpty then
    []
  else writeInputActivitySnapshot snapshot

def readInputActivitySnapshot : Reader InputActivitySnapshot := do
  let rawKind ← readU8
  let reserved ← readBytes 3
  if reserved.any (· != 0) = true then failure
  let sequence ← readU64
  let kind ← fromOption (ofValue? rawKind)
  if kind ≠ .keyboard ∧ kind ≠ .mouse then failure
  let stableId ← readString kHostProtocolMaxHardwareDeviceIdBytes (sequence == 0)
  if (sequence == 0) ≠ stableId.isEmpty then failure
  pure { kind := kind, sequence := sequence, stableIdUtf8 := stableId }

def decodeInputActivitySnapshot : Option InputActivitySnapshot :=
  if payload.length < 16 ∨ payload.length > kHostProtocolMaxPayloadBytes then none
  else decodeAll readInputActivitySnapshot payload

def writeProcessRequest (request : ProcessRequest) : ByteString :=
  writeU32 request.processId ++ writeU64 request.creationIdentity

def encodeProcessRequest (request : ProcessRequest) : ByteString :=
  if request.processId = 0 ∨ request.creationIdentity = 0 then []
  else writeProcessRequest request

def readProcessRequest : Reader ProcessRequest := do
  let processId ← readU32
  let creationIdentity ← readU64
  if processId = 0 ∨ creationIdentity = 0 then failure
  pure { processId := processId, creationIdentity := creationIdentity }

def decodeProcessRequest : Option ProcessRequest :=
  if payload.length ≠ 12 then none
  else decodeAll readProcessRequest payload

def writeAudioRouteRequest (request : AudioRouteRequest) : ByteString :=
  writeProcessRequest request.process ++ appendString request.endpointId

def encodeAudioRouteRequest (request : AudioRouteRequest) : ByteString :=
  if request.process.processId = 0 ∨ request.process.creationIdentity = 0 ∨
      validAudioEndpointId request.endpointId = false then
    []
  else writeAudioRouteRequest request

def readAudioRouteRequest : Reader AudioRouteRequest := do
  let process ← readProcessRequest
  let endpointId ← readPrintableId kHostProtocolMaxAudioEndpointIdBytes
  pure { process := process, endpointId := endpointId }

def decodeAudioRouteRequest : Option AudioRouteRequest :=
  if payload.length < 17 ∨ payload.length > 16 + kHostProtocolMaxAudioEndpointIdBytes then none
  else decodeAll readAudioRouteRequest payload

def encodeAudioMutationResult (result : AudioMutationResult) : ByteString :=
  writeU16 result.status.value ++ writeU16 0 ++ writeU32 0

def readAudioMutationResult : Reader AudioMutationResult := do
  let rawStatus ← readU16
  let reserved16 ← readU16
  let reserved32 ← readU32
  if reserved16 ≠ 0 ∨ reserved32 ≠ 0 then failure
  let status ← fromOption (AudioMutationStatus.ofValue? rawStatus)
  return { status := status }

def decodeAudioMutationResult : Option AudioMutationResult :=
  if payload.length ≠ 8 then none
  else decodeAll readAudioMutationResult payload

def encodePing (nonce : UInt64) : ByteString :=
  if nonce = 0 then [] else writeU64 nonce

def readPing : Reader UInt64 := do
  let nonce ← readU64
  if nonce = 0 then failure
  return nonce

def decodePing : Option UInt64 :=
  if payload.length ≠ 8 then none
  else decodeAll readPing payload

def writeError (error : ErrorPayload) : ByteString :=
  writeU16 error.code.value ++ writeU16 0 ++ appendString error.diagnostic

def encodeError (error : ErrorPayload) : ByteString :=
  if error.code = .none ∨ error.diagnostic.length > kHostProtocolMaxDiagnosticBytes then []
  else writeError error

def readError : Reader ErrorPayload := do
  let rawCode ← readU16
  let reserved ← readU16
  let length ← readU32
  if reserved ≠ 0 ∨ length.toNat > kHostProtocolMaxDiagnosticBytes then failure
  let code ← fromOption (ErrorCode.ofValue? rawCode)
  if code = .none then failure
  let diagnostic ← readBytes length.toNat
  pure { code := code, diagnostic := diagnostic }

def decodeError : Option ErrorPayload :=
  if payload.length < 8 ∨ payload.length > 8 + kHostProtocolMaxDiagnosticBytes then none
  else decodeAll readError payload

end HydraSeat.HostIpc
