import HydraSeat.Unicode

/-!
# The host protocol

The messages of the canonical host: their types, the records they carry and
the bounds on those records.
-/

namespace HydraSeat.HostIpc

def kHostProtocolMagic : UInt32 := 0x31505348

def kHostProtocolVersion : UInt16 := 3

def kHostProtocolHeaderBytes : Nat := 24

def kHostProtocolMaxPayloadBytes : Nat := 64 * 1024

def kHostProtocolMaxDiagnosticBytes : Nat := 2048

def kHostProtocolMaxControllerIdBytes : Nat := 512

def kHostProtocolMaxAudioEndpointIdBytes : Nat := 2048

def kHostProtocolMaxLaunchTitleBytes : Nat := 512

def kHostProtocolMaxLaunchPathBytes : Nat := 32768

def kHostProtocolMaxLaunchArgumentsBytes : Nat := 16384

def kHostProtocolMaxHardwareDeviceIdBytes : Nat := 4096

def kHostProtocolMaxHardwareDeviceNameBytes : Nat := 1024

def kHostProtocolMaxHardwareDevices : Nat := 64

def kHostProtocolMaxProviderIdBytes : Nat := 64

def kHostProtocolMaxProviderAppIdBytes : Nat := 128

def kHostProtocolMaxGameCatalogEntries : Nat := 128

def kHostSeatCount : UInt8 := 2

/-- The message types of the protocol, and any other value that a frame
built in the process may carry in their place. -/
inductive MessageType where
  | hello | helloAck | getSnapshot | snapshot | ping | pong | error | acquireUiLease
  | acquireUiLeaseResult | releaseUiLease | releaseUiLeaseResult | pairController
  | pairControllerResult | routeAudio | routeAudioResult | resetAudio | resetAudioResult
  | launchGame | launchGameResult | stopGame | stopGameResult | getHardwareInventory
  | hardwareInventory | getSeatHardware | seatHardware | assignSeatHardware
  | assignSeatHardwareResult | getGameCatalog | gameCatalog | getSeatRuntimeInfo | seatRuntimeInfo
  | getInputActivity | inputActivity
  | unnamed (value : UInt16)
  deriving DecidableEq

namespace MessageType

def ofValue (value : UInt16) : MessageType :=
  if value = 1 then .hello
  else if value = 2 then .helloAck
  else if value = 3 then .getSnapshot
  else if value = 4 then .snapshot
  else if value = 5 then .ping
  else if value = 6 then .pong
  else if value = 7 then .error
  else if value = 8 then .acquireUiLease
  else if value = 9 then .acquireUiLeaseResult
  else if value = 10 then .releaseUiLease
  else if value = 11 then .releaseUiLeaseResult
  else if value = 12 then .pairController
  else if value = 13 then .pairControllerResult
  else if value = 14 then .routeAudio
  else if value = 15 then .routeAudioResult
  else if value = 16 then .resetAudio
  else if value = 17 then .resetAudioResult
  else if value = 18 then .launchGame
  else if value = 19 then .launchGameResult
  else if value = 20 then .stopGame
  else if value = 21 then .stopGameResult
  else if value = 22 then .getHardwareInventory
  else if value = 23 then .hardwareInventory
  else if value = 24 then .getSeatHardware
  else if value = 25 then .seatHardware
  else if value = 26 then .assignSeatHardware
  else if value = 27 then .assignSeatHardwareResult
  else if value = 28 then .getGameCatalog
  else if value = 29 then .gameCatalog
  else if value = 30 then .getSeatRuntimeInfo
  else if value = 31 then .seatRuntimeInfo
  else if value = 32 then .getInputActivity
  else if value = 33 then .inputActivity
  else .unnamed value

def value : MessageType → UInt16
  | .hello => 1
  | .helloAck => 2
  | .getSnapshot => 3
  | .snapshot => 4
  | .ping => 5
  | .pong => 6
  | .error => 7
  | .acquireUiLease => 8
  | .acquireUiLeaseResult => 9
  | .releaseUiLease => 10
  | .releaseUiLeaseResult => 11
  | .pairController => 12
  | .pairControllerResult => 13
  | .routeAudio => 14
  | .routeAudioResult => 15
  | .resetAudio => 16
  | .resetAudioResult => 17
  | .launchGame => 18
  | .launchGameResult => 19
  | .stopGame => 20
  | .stopGameResult => 21
  | .getHardwareInventory => 22
  | .hardwareInventory => 23
  | .getSeatHardware => 24
  | .seatHardware => 25
  | .assignSeatHardware => 26
  | .assignSeatHardwareResult => 27
  | .getGameCatalog => 28
  | .gameCatalog => 29
  | .getSeatRuntimeInfo => 30
  | .seatRuntimeInfo => 31
  | .getInputActivity => 32
  | .inputActivity => 33
  | .unnamed value => value

end MessageType

def validMessageType : MessageType → Bool
  | .unnamed _ => false
  | _ => true

inductive ClientRole where
  | readOnly | control
  deriving DecidableEq

namespace ClientRole

def ofValue? (value : UInt8) : Option ClientRole :=
  if value = 0 then some .readOnly
  else if value = 1 then some .control
  else none

def value : ClientRole → UInt8
  | .readOnly => 0
  | .control => 1

end ClientRole

inductive ErrorCode where
  | none | malformed | versionMismatch | permissionDenied | unsupported | internalError
  | invalidState
  deriving DecidableEq

namespace ErrorCode

def ofValue? (value : UInt16) : Option ErrorCode :=
  if value = 0 then some .none
  else if value = 1 then some .malformed
  else if value = 2 then some .versionMismatch
  else if value = 3 then some .permissionDenied
  else if value = 4 then some .unsupported
  else if value = 5 then some .internalError
  else if value = 6 then some .invalidState
  else Option.none

def value : ErrorCode → UInt16
  | .none => 0
  | .malformed => 1
  | .versionMismatch => 2
  | .permissionDenied => 3
  | .unsupported => 4
  | .internalError => 5
  | .invalidState => 6

end ErrorCode

inductive HardwareDeviceKind where
  | display | keyboard | mouse | controller
  deriving DecidableEq

namespace HardwareDeviceKind

def ofValue? (value : UInt8) : Option HardwareDeviceKind :=
  if value = 1 then some .display
  else if value = 2 then some .keyboard
  else if value = 3 then some .mouse
  else if value = 4 then some .controller
  else none

def value : HardwareDeviceKind → UInt8
  | .display => 1
  | .keyboard => 2
  | .mouse => 3
  | .controller => 4

end HardwareDeviceKind

inductive AudioMutationStatus where
  | success | invalidProcess | processNotFound | audioSessionNotFound | endpointNotFound
  | endpointUnavailable | identityMismatch | routingFailed | osApiError

namespace AudioMutationStatus

def ofValue? (value : UInt16) : Option AudioMutationStatus :=
  if value = 0 then some .success
  else if value = 1 then some .invalidProcess
  else if value = 2 then some .processNotFound
  else if value = 3 then some .audioSessionNotFound
  else if value = 4 then some .endpointNotFound
  else if value = 5 then some .endpointUnavailable
  else if value = 6 then some .identityMismatch
  else if value = 7 then some .routingFailed
  else if value = 8 then some .osApiError
  else none

def value : AudioMutationStatus → UInt16
  | .success => 0
  | .invalidProcess => 1
  | .processNotFound => 2
  | .audioSessionNotFound => 3
  | .endpointNotFound => 4
  | .endpointUnavailable => 5
  | .identityMismatch => 6
  | .routingFailed => 7
  | .osApiError => 8

end AudioMutationStatus

structure Frame where
  type : MessageType := .error
  correlationId : UInt64 := 0
  payload : ByteString := []
  deriving DecidableEq

structure Hello where
  role : ClientRole := .readOnly

structure HelloAck where
  role : ClientRole := .readOnly
  protocolVersion : UInt16 := kHostProtocolVersion
  seatCount : UInt8 := kHostSeatCount

structure SeatSnapshot where
  seatId : UInt32 := 0
  generation : UInt64 := 0
  (active uiLeaseActive gameLeaseActive processOwned windowOwned controllerBound : Bool := false)
  processId : UInt32 := 0
  (processCreationIdentity targetHwnd : UInt64 := 0)

structure HostSnapshot where
  authorityRevision : UInt64 := 0
  (seat1 seat2 : SeatSnapshot := {})

structure SeatRequest where
  seatId : UInt32 := 0
  deriving DecidableEq

structure HardwareDeviceRecord where
  kind : HardwareDeviceKind := .keyboard
  (stableIdUtf8 displayNameUtf8 : ByteString := [])

structure HardwareInventory where
  devices : List HardwareDeviceRecord := []

structure SeatHardwareAssignment where
  seatId : UInt32 := 0
  (displayIdUtf8 keyboardIdUtf8 mouseIdUtf8 controllerIdUtf8 : ByteString := [])

structure ControllerPairRequest where
  seatId : UInt32 := 0
  runtimeXInputSlot : UInt8 := 0
  persistentControllerId : ByteString := []

structure GameCatalogEntry where
  (providerIdUtf8 providerAppIdUtf8 titleUtf8 executablePathUtf8 : ByteString := [])
  workingDirectoryUtf8 : ByteString := []

structure GameCatalog where
  games : List GameCatalogEntry := []

structure SeatRuntimeInfo where
  seatId : UInt32 := 0
  (titleUtf8 providerIdUtf8 : ByteString := [])

structure InputActivityRequest where
  kind : HardwareDeviceKind := .keyboard

structure InputActivitySnapshot where
  kind : HardwareDeviceKind := .keyboard
  sequence : UInt64 := 0
  stableIdUtf8 : ByteString := []

structure LaunchGameRequest where
  seatId : UInt32 := 0
  (titleUtf8 executablePathUtf8 launchArgumentsUtf8 workingDirectoryUtf8 : ByteString := [])

structure ProcessRequest where
  processId : UInt32 := 0
  creationIdentity : UInt64 := 0

structure AudioRouteRequest where
  process : ProcessRequest := {}
  endpointId : ByteString := []

structure AudioMutationResult where
  status : AudioMutationStatus := .osApiError

structure ErrorPayload where
  code : ErrorCode := .internalError
  diagnostic : ByteString := []

structure DecodeResult where
  error : ErrorCode := .none
  diagnostic : String := ""
  deriving DecidableEq

def isMutatingRequest (type : MessageType) : Bool :=
  type == .acquireUiLease || type == .releaseUiLease ||
    type == .pairController || type == .routeAudio ||
    type == .resetAudio || type == .launchGame ||
    type == .stopGame || type == .assignSeatHardware

def responseTypeFor : MessageType → MessageType
  | .hello => .helloAck
  | .getSnapshot => .snapshot
  | .ping => .pong
  | .acquireUiLease => .acquireUiLeaseResult
  | .releaseUiLease => .releaseUiLeaseResult
  | .pairController => .pairControllerResult
  | .routeAudio => .routeAudioResult
  | .resetAudio => .resetAudioResult
  | .launchGame => .launchGameResult
  | .stopGame => .stopGameResult
  | .getHardwareInventory => .hardwareInventory
  | .getSeatHardware => .seatHardware
  | .assignSeatHardware => .assignSeatHardwareResult
  | .getGameCatalog => .gameCatalog
  | .getSeatRuntimeInfo => .seatRuntimeInfo
  | .getInputActivity => .inputActivity
  | _ => .error

end HydraSeat.HostIpc
