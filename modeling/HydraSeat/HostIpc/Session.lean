import HydraSeat.HostIpc.Codec
import HydraSeat.Runtime.GameLauncher

/-!
# One connection of the canonical host

A session answers one request frame after the other.  It stores the UI lease
tokens that it acquired; the host knows the lease, the session the token.
-/

namespace HydraSeat.HostIpc

open HydraSeat.Runtime

def toProtocolAudioStatus : AudioRouteStatus → AudioMutationStatus
  | .success => .success
  | .invalidProcess => .invalidProcess
  | .processNotFound => .processNotFound
  | .audioSessionNotFound => .audioSessionNotFound
  | .endpointNotFound => .endpointNotFound
  | .endpointUnavailable => .endpointUnavailable
  | .identityMismatch => .identityMismatch
  | .routingFailed => .routingFailed
  | .osApiError => .osApiError

def toProtocolHardwareKind : DeviceType → HardwareDeviceKind
  | .display => .display
  | .keyboard => .keyboard
  | .mouse => .mouse
  | .controller => .controller

def toProtocolHardwareDevice (device : DeviceInfo) : Option HardwareDeviceRecord :=
  match wideToUtf8 device.id, wideToUtf8 device.name with
  | some stableId, some displayName =>
    if stableId.isEmpty then none
    else
      some
        { kind := toProtocolHardwareKind device.type, stableIdUtf8 := stableId
          displayNameUtf8 := displayName }
  | _, _ => none

def toProtocolHardwareInventory (devices : List DeviceInfo) : Option HardwareInventory :=
  if devices.length > kHostProtocolMaxHardwareDevices then none
  else
    (devices.mapM toProtocolHardwareDevice).map fun records =>
      { devices := records }

def toProtocolSeatHardware (configuration : SeatHardwareConfiguration) :
    Option SeatHardwareAssignment := do
  let displayId ← wideToUtf8 configuration.displayId
  let keyboardId ← wideToUtf8 configuration.keyboardId
  let mouseId ← wideToUtf8 configuration.mouseId
  let controllerId ← wideToUtf8 configuration.controllerId
  some
    { seatId := configuration.seatId, displayIdUtf8 := displayId, keyboardIdUtf8 := keyboardId
      mouseIdUtf8 := mouseId, controllerIdUtf8 := controllerId }

def toRuntimeSeatHardware (assignment : SeatHardwareAssignment) :
    Option SeatHardwareConfiguration := do
  let displayId ← utf8ToWide assignment.displayIdUtf8
  let keyboardId ← utf8ToWide assignment.keyboardIdUtf8
  let mouseId ← utf8ToWide assignment.mouseIdUtf8
  let controllerId ← utf8ToWide assignment.controllerIdUtf8
  some
    { seatId := assignment.seatId, displayId := displayId, keyboardId := keyboardId
      mouseId := mouseId, controllerId := controllerId }

/-- `audioRouter` and `gameLauncher` say whether the session was given
one. -/
structure HostConnectionSession where
  (audioRouter gameLauncher helloComplete : Bool := false)
  role : ClientRole := .readOnly
  uiLeases : PerSeat (Option ActivationToken) := ⟨none, none⟩
  deriving DecidableEq

/-- What the world outside answers while one request is served.
`steamCatalog` is the outcome of `discoverSteamGameCatalog`. -/
structure Surroundings where
  detected : DetectedHardware := {}
  scanned : ScannedControllers := {}
  save : SeatHardwareConfigurations → Except ByteString Unit := fun _ => .ok ()
  steamCatalog : Except ByteString GameCatalog := .ok {}
  equivalentExecutablePath : ByteString → ByteString → Bool := (· == ·)
  router : RouterAnswers := {}
  reap : ReapAnswers := {}
  launch : LaunchAnswers := {}
  stop : StopAnswers := {}

/-- The response and everything that a request leaves behind. -/
structure Served where
  response : Frame
  session : HostConnectionSession
  services : HostServices
  routerCalls : List RouterCall := []

def errorFrame (correlationId : UInt64) (code : ErrorCode) (diagnostic : ByteString) : Frame where
  type := .error
  correlationId := correlationId
  payload := encodeError ⟨code, diagnostic⟩

/-- The diagnostic of an operation, or a text of the session when the
operation left none. -/
def diagnosticOr (diagnostic : ByteString) (text : String) : ByteString :=
  if diagnostic.isEmpty then bytesOf text else diagnostic

namespace HostConnectionSession

/-- `uiLease`. -/
def uiLease (self : HostConnectionSession) (seatId : UInt32) : Option ActivationToken :=
  (Seat.ofId? seatId).bind self.uiLeases.get

def setUiLease (self : HostConnectionSession) (seatId : UInt32)
    (lease : Option ActivationToken) : HostConnectionSession :=
  match Seat.ofId? seatId with
  | none => self
  | some seat => { self with uiLeases := self.uiLeases.set seat lease }

/-- An error response that leaves the session and the services as they
are. -/
def refuseWith (self : HostConnectionSession) (services : HostServices)
    (request : Frame) (code : ErrorCode) (diagnostic : ByteString) :
    Served where
  response := errorFrame request.correlationId code diagnostic
  session := self
  services := services

def refuse (self : HostConnectionSession) (services : HostServices)
    (request : Frame) (code : ErrorCode) (text : String) : Served :=
  self.refuseWith services request code (bytesOf text)

def answer (self : HostConnectionSession) (services : HostServices)
    (request : Frame) (type : MessageType) (payload : ByteString) :
    Served where
  response :=
    { type := type, correlationId := request.correlationId, payload := payload }
  session := self
  services := services

/-- An answer whose payload is the host snapshot. -/
def answerSnapshot (self : HostConnectionSession)
    (services : HostServices) (request : Frame) (type : MessageType) :
    Served :=
  self.answer services request type (encodeSnapshot services.host.snapshot)

variable (self : HostConnectionSession) (services : HostServices)
  (surroundings : Surroundings) (request : Frame)

def handleHello : Served :=
  if request.type ≠ .hello then
    self.refuse services request .permissionDenied "hello handshake required before host requests"
  else
    match decodeHello request.payload with
    | none => self.refuse services request .malformed "invalid hello payload"
    | some hello =>
      { self with role := hello.role, helloComplete := true }.answer
        services request .helloAck
        (encodeHelloAck { role := hello.role })

def getSnapshot : Served :=
  if !request.payload.isEmpty then
    self.refuse services request .malformed "snapshot request payload must be empty"
  else self.answerSnapshot services request .snapshot

def getHardwareInventory : Served :=
  if !request.payload.isEmpty then
    self.refuse services request .malformed "hardware inventory request payload must be empty"
  else
    match toProtocolHardwareInventory (services.host.hardwareInventory surroundings.detected) with
    | none =>
      self.refuse services request .internalError "hardware inventory could not be encoded safely"
    | some inventory =>
      let payload := encodeHardwareInventory inventory
      if payload.isEmpty && !inventory.devices.isEmpty then
        self.refuse services request .internalError "hardware inventory exceeded protocol bounds"
      else self.answer services request .hardwareInventory payload

def getSeatHardware : Served :=
  match decodeSeatRequest request.payload with
  | none => self.refuse services request .malformed "invalid Seat hardware query payload"
  | some seatRequest =>
    match services.host.seatHardwareConfiguration seatRequest.seatId with
    | none =>
      self.refuse services request .invalidState "Seat hardware configuration is unavailable"
    | some configuration =>
      match toProtocolSeatHardware configuration with
      | none =>
        self.refuse services request .internalError
          "Seat hardware configuration could not be encoded"
      | some protocolConfiguration =>
        self.answer services request .seatHardware
          (encodeSeatHardwareAssignment protocolConfiguration)

def getGameCatalog : Served :=
  if !request.payload.isEmpty then
    self.refuse services request .malformed "game catalog request payload must be empty"
  else
    match surroundings.steamCatalog with
    | .error discoveryError =>
      self.refuseWith services request .internalError
        (diagnosticOr discoveryError "installed-game discovery failed")
    | .ok catalog =>
      let payload := encodeGameCatalog catalog
      if payload.isEmpty && !catalog.games.isEmpty then
        self.refuse services request .internalError "game catalog exceeded protocol bounds"
      else self.answer services request .gameCatalog payload

def getSeatRuntimeInfo : Served :=
  match decodeSeatRequest request.payload with
  | none => self.refuse services request .malformed "invalid Seat runtime-info query payload"
  | some seatRequest =>
    match services.host.seatRuntimeInfoOf seatRequest.seatId with
    | none => self.refuse services request .invalidState "Seat runtime presentation is unavailable"
    | some info =>
      let payload := encodeSeatRuntimeInfo info
      if payload.isEmpty then
        self.refuse services request .internalError "Seat runtime presentation could not be encoded"
      else self.answer services request .seatRuntimeInfo payload

def getInputActivity : Served :=
  match decodeInputActivityRequest request.payload with
  | none => self.refuse services request .malformed "invalid input-activity query payload"
  | some activityRequest =>
    match services.host.inputActivity activityRequest.kind with
    | none => self.refuse services request .invalidState "input-activity snapshot is unavailable"
    | some activity =>
      let payload := encodeInputActivitySnapshot activity
      if payload.isEmpty then
        self.refuse services request .internalError "input-activity snapshot could not be encoded"
      else self.answer services request .inputActivity payload

def ping : Served :=
  match decodePing request.payload with
  | none => self.refuse services request .malformed "invalid ping payload"
  | some nonce => self.answer services request .pong (encodePing nonce)

def acquireUiLease : Served :=
  match decodeSeatRequest request.payload with
  | none => self.refuse services request .malformed "invalid UI lease request payload"
  | some requestValue =>
    if (self.uiLease requestValue.seatId).isSome then
      self.refuse services request .invalidState "this connection already owns the Seat UI lease"
    else
      let (lease, host) := services.host.acquireUiLease requestValue.seatId
      let services := { services with host := host }
      if !lease.valid then
        self.refuse services request .invalidState "Seat UI lease is already owned or unavailable"
      else
        (self.setUiLease requestValue.seatId (some lease)).answerSnapshot
          services request .acquireUiLeaseResult

def releaseUiLease : Served :=
  match decodeSeatRequest request.payload with
  | none => self.refuse services request .malformed "invalid UI lease release payload"
  | some requestValue =>
    match self.uiLease requestValue.seatId with
    | none =>
      self.refuse services request .invalidState "this connection does not own the Seat UI lease"
    | some token =>
      let (released, host) := services.host.releaseUiLease token
      let services := { services with host := host }
      if !released then
        self.refuse services request .invalidState "Seat UI lease became stale before release"
      else
        (self.setUiLease requestValue.seatId none).answerSnapshot
          services request .releaseUiLeaseResult

def assignSeatHardware : Served :=
  match decodeSeatHardwareAssignment request.payload with
  | none => self.refuse services request .malformed "invalid Seat hardware assignment payload"
  | some assignment =>
    match self.uiLease assignment.seatId with
    | none =>
      self.refuse services request .invalidState
        ("hardware assignment requires this connection's Seat UI " ++ "lease")
    | some lease =>
      match toRuntimeSeatHardware assignment with
      | none =>
        self.refuse services request .malformed "Seat hardware identifiers are not valid UTF-8"
      | some runtimeAssignment =>
        let (configured, host) := services.host.configureSeatHardware lease
          runtimeAssignment surroundings.detected
          surroundings.save
        let services := { services with host := host }
        match configured with
        | .error configurationError =>
          self.refuseWith services request .invalidState
            (diagnosticOr configurationError
              ("current hardware inventory or cross-Seat " ++ "ownership rejected the assignment"))
        | .ok () =>
          match host.seatHardwareConfiguration assignment.seatId with
          | none =>
            self.refuse services request .internalError
              ("Seat hardware assignment disappeared after " ++ "commit")
          | some current =>
            match toProtocolSeatHardware current with
            | none =>
              self.refuse services request .internalError
                ("Seat hardware assignment could not be " ++ "encoded")
            | some protocolCurrent =>
              self.answer services request .assignSeatHardwareResult
                (encodeSeatHardwareAssignment protocolCurrent)

def pairController : Served :=
  match decodeControllerPairRequest request.payload with
  | none => self.refuse services request .malformed "invalid controller pairing payload"
  | some pair =>
    match self.uiLease pair.seatId with
    | none =>
      self.refuse services request .invalidState
        ("controller pairing requires this connection's Seat UI " ++ "lease")
    | some lease =>
      let (paired, host) := services.host.pairController lease
        pair.persistentControllerId pair.runtimeXInputSlot
        surroundings.scanned
      let services := { services with host := host }
      if !paired then
        self.refuse services request .invalidState
          ("current controller inventory rejected the pairing " ++ "request")
      else self.answerSnapshot services request .pairControllerResult

/-- The stored lease of the Seat that runs exactly `process`. -/
def processLease (process : ProcessIdentity) : Option ActivationToken :=
  (services.host.seatForProcess process).bind self.uiLeases.get

def routeAudio : Served :=
  match decodeAudioRouteRequest request.payload with
  | none => self.refuse services request .malformed "invalid audio route payload"
  | some route =>
    let process : ProcessIdentity :=
      { pid := route.process.processId, creationIdentity := route.process.creationIdentity }
    match self.processLease services process with
    | none =>
      self.refuse services request .invalidState
        ("audio routing requires this connection's UI lease for " ++ "the exact owning Seat")
    | some lease =>
      if !self.audioRouter then
        self.refuse services request .unsupported "native audio routing backend is unavailable"
      else
        match utf8ToWide route.endpointId with
        | some (unit :: units) =>
          let host := services.host
          let (status, calls) := RuntimeHost.routeAudio ⟨host, host, host⟩ lease process
            { endpointId := unit :: units } surroundings.router
          { self.answer services request .routeAudioResult
              (encodeAudioMutationResult ⟨toProtocolAudioStatus status⟩) with
            routerCalls := calls }
        | _ =>
          self.refuse services request .malformed "audio endpoint identifier is not valid UTF-8"

def resetAudio : Served :=
  match decodeProcessRequest request.payload with
  | none => self.refuse services request .malformed "invalid audio reset payload"
  | some reset =>
    let process : ProcessIdentity :=
      { pid := reset.processId, creationIdentity := reset.creationIdentity }
    match self.processLease services process with
    | none =>
      self.refuse services request .invalidState
        ("audio reset requires this connection's UI lease for the " ++ "exact owning Seat")
    | some lease =>
      if !self.audioRouter then
        self.refuse services request .unsupported "native audio routing backend is unavailable"
      else
        let host := services.host
        let (status, calls) := RuntimeHost.resetAudio
          ⟨host, host, host⟩ lease process surroundings.router
        { self.answer services request .resetAudioResult
            (encodeAudioMutationResult ⟨toProtocolAudioStatus status⟩) with
          routerCalls := calls }

/-- `steamGameForExecutable`. -/
def steamGameForExecutable (catalog : GameCatalog)
    (executablePathUtf8 : ByteString) : Option GameCatalogEntry :=
  catalog.games.find? fun entry =>
    entry.providerIdUtf8 == "steam" &&
      surroundings.equivalentExecutablePath entry.executablePathUtf8 executablePathUtf8

/-- What is launched, after the provider has been resolved again. -/
structure LaunchTarget where
  (title executablePath workingDirectory providerId : ByteString)

def launchTarget (launch : LaunchGameRequest) : LaunchTarget :=
  let custom : LaunchTarget :=
    { title := launch.titleUtf8, executablePath := launch.executablePathUtf8
      workingDirectory := launch.workingDirectoryUtf8, providerId := "custom" }
  match surroundings.steamCatalog with
  | .error _ => custom
  | .ok catalog =>
    match steamGameForExecutable surroundings catalog launch.executablePathUtf8 with
    | none => custom
    | some game =>
      { title := game.titleUtf8, executablePath := game.executablePathUtf8
        workingDirectory :=
          if game.workingDirectoryUtf8.isEmpty then launch.workingDirectoryUtf8
          else game.workingDirectoryUtf8
        providerId := "steam" }

def launchProfile (target : LaunchTarget) (launch : LaunchGameRequest) : Option GameProfile := do
  let title ← utf8ToWide target.title
  let executable ← utf8ToWide target.executablePath
  let arguments ← utf8ToWide launch.launchArgumentsUtf8
  let workingDirectory ← utf8ToWide target.workingDirectory
  some
    { title := title, executablePath := executable, launchArguments := arguments
      workingDirectory := workingDirectory }

def launchGame : Served :=
  match decodeLaunchGameRequest request.payload with
  | none => self.refuse services request .malformed "invalid game launch payload"
  | some launch =>
    if (self.uiLease launch.seatId).isNone then
      self.refuse services request .invalidState
        "game launch requires this connection's Seat UI lease"
    else if !self.gameLauncher then
      self.refuse services request .unsupported "host game launcher is unavailable"
    else
      let target := launchTarget surroundings launch
      match launchProfile target launch with
      | none => self.refuse services request .malformed "launch request contains invalid UTF-8"
      | some profile =>
        let (launched, services) := services.launchGameForWorkspace profile launch.seatId
          surroundings.detected surroundings.scanned
          surroundings.launch
        if !launched then
          self.refuseWith services request .invalidState
            (diagnosticOr services.launcher.lastError
              ("game launch failed or Seat game authority is " ++ "unavailable"))
        else
          let title := diagnosticOr target.title "Application"
          let host := (services.host.setSeatGamePresentation
            launch.seatId title target.providerId).2
          self.answerSnapshot { services with host := host } request .launchGameResult

def stopGame : Served :=
  match decodeSeatRequest request.payload with
  | none => self.refuse services request .malformed "invalid game stop payload"
  | some stop =>
    if (self.uiLease stop.seatId).isNone then
      self.refuse services request .invalidState
        "game stop requires this connection's Seat UI lease"
    else if !self.gameLauncher then
      self.refuse services request .unsupported "host game launcher is unavailable"
    else
      let (stopped, services) := services.stopWorkspaceGame stop.seatId surroundings.stop
      if !stopped then
        self.refuse services request .invalidState "no owned Seat game could be stopped safely"
      else self.answerSnapshot services request .stopGameResult

/-- The `switch` of `handle`. -/
def serve : Served :=
  match request.type with
  | .hello => self.refuse services request .malformed "hello handshake already completed"
  | .getSnapshot => self.getSnapshot services request
  | .getHardwareInventory => self.getHardwareInventory services surroundings request
  | .getSeatHardware => self.getSeatHardware services request
  | .getGameCatalog => self.getGameCatalog services surroundings request
  | .getSeatRuntimeInfo => self.getSeatRuntimeInfo services request
  | .getInputActivity => self.getInputActivity services request
  | .ping => self.ping services request
  | .acquireUiLease => self.acquireUiLease services request
  | .releaseUiLease => self.releaseUiLease services request
  | .assignSeatHardware => self.assignSeatHardware services surroundings request
  | .pairController => self.pairController services surroundings request
  | .routeAudio => self.routeAudio services surroundings request
  | .resetAudio => self.resetAudio services surroundings request
  | .launchGame => self.launchGame services surroundings request
  | .stopGame => self.stopGame services surroundings request
  | _ =>
    self.refuse services request .unsupported "request direction is not enabled by host protocol v3"

/-- The games that exited are reconciled before a request is served. -/
def reconciled : HostServices :=
  if self.gameLauncher then services.reapExitedGames surroundings.reap
  else services

def handle : Served :=
  if request.correlationId = 0 then
    { response :=
        errorFrame 1 .malformed "zero correlation is not permitted"
      session := self
      services := services }
  else if !self.helloComplete then self.handleHello services request
  else if isMutatingRequest request.type && self.role != .control then
    self.refuse services request .permissionDenied "control role is required for Seat mutation"
  else self.serve (self.reconciled services surroundings) surroundings request

def releaseSeat (host : RuntimeHost) (seat : Seat) : RuntimeHost :=
  match self.uiLeases.get seat with
  | none => host
  | some lease => (host.releaseUiLease lease).2

/-- `~HostConnectionSession`. -/
def destroy : HostServices :=
  { services with host := self.releaseSeat (self.releaseSeat services.host .first) .second }

end HostConnectionSession

end HydraSeat.HostIpc
