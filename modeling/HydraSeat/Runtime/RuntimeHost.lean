import HydraSeat.HostIpc.Protocol
import HydraSeat.Runtime.SessionController

/-!
# The runtime host

`RuntimeHost` owns the session controller, the hardware configuration of
both Seats and the authority revision.  Every operation takes its mutex, so
each is one step here.  What the operation reads outside the process
(devices, XInput slots, the configuration file) is an argument.
-/

namespace HydraSeat.Runtime

open Controller
open HostIpc Seat

universe u

/-- An array with one element for each Seat. -/
structure PerSeat (Value : Type u) where
  (first second : Value)
  deriving DecidableEq

namespace PerSeat

variable {Value : Type u} (values : PerSeat Value)

def get : Seat → Value
  | .first => values.first
  | .second => values.second

def set : Seat → Value → PerSeat Value
  | .first, value => { values with first := value }
  | .second, value => { values with second := value }

@[simp]
theorem get_set_same (seat : Seat) (value : Value) : (values.set seat value).get seat = value := by
  cases seat <;> rfl

theorem get_set_of_ne {seat tested : Seat} (value : Value) (different : tested ≠ seat) :
    (values.set seat value).get tested = values.get tested := by
  cases seat <;> cases tested <;> first | rfl | exact absurd rfl different

end PerSeat

structure SeatHardwareConfiguration where
  seatId : UInt32 := 0
  (displayId keyboardId mouseId controllerId : WideString := [])
  deriving DecidableEq

abbrev SeatHardwareConfigurations := PerSeat SeatHardwareConfiguration

inductive DeviceType where
  | display | keyboard | mouse | controller
  deriving DecidableEq

structure DeviceInfo where
  (id name devicePath : WideString := [])
  type : DeviceType := .display
  nativeHandle : UInt64 := 0
  nativeHandles : List UInt64 := []
  (requiresActivityConfirmation requiresFreshTransportConfirmation : Bool := false)

/-- What the four passes of the `HardwareDetector` find. -/
structure DetectedHardware where
  (displays keyboards mice controllers : List DeviceInfo := [])

/-- What Windows answers to one scan of the controller inventory. -/
structure ScannedControllers where
  connected : UInt8 → Bool := fun _ => false
  physical : Except String (List PhysicalControllerDescriptor) := .ok []

structure AudioEndpointIdentity where
  endpointId : WideString := []
  stableId : Option WideString := none

def AudioEndpointIdentity.valid (endpoint : AudioEndpointIdentity) : Bool :=
  !endpoint.endpointId.isEmpty

inductive AudioRouteStatus where
  | success | invalidProcess | processNotFound | audioSessionNotFound | endpointNotFound
  | endpointUnavailable | identityMismatch | routingFailed | osApiError
  deriving DecidableEq

inductive RouterCall where
  | assignEndpoint (process : ProcessIdentity) (endpoint : AudioEndpointIdentity)
  | clearAssignment (process : ProcessIdentity)

/-- What the audio router answers to the calls of one request. -/
structure RouterAnswers where
  (assignEndpoint clearAssignment : AudioRouteStatus := .success)

structure ObservedInputActivity where
  sequence : UInt64 := 0
  stableId : WideString := []

/-- `seatHardwareStore` says whether the host was given a configuration
path. -/
structure RuntimeHost where
  controller : SessionController := {}
  controllerInventory : ControllerInventory := fun _ => {}
  (confirmedKeyboardIds confirmedMouseIds : List WideString := [])
  (keyboardActivity mouseActivity : ObservedInputActivity := {})
  nextInputActivitySequence : UInt64 := 1
  seatRuntimeInfo : PerSeat (Option SeatRuntimeInfo) := ⟨none, none⟩
  hardwareConfigurations : SeatHardwareConfigurations := ⟨{ seatId := 1 }, { seatId := 2 }⟩
  seatHardwareStore : Bool := false
  authorityRevision : UInt64 := 1

def maximumCount : UInt64 := 0xFFFFFFFFFFFFFFFF

def toHostSnapshot (snapshot : SeatRuntimeSnapshot) : SeatSnapshot where
  seatId := snapshot.seatId
  generation := snapshot.generation
  active := snapshot.active
  uiLeaseActive := snapshot.uiLeaseActive
  gameLeaseActive := snapshot.gameLeaseActive
  processOwned := snapshot.process.isSome
  windowOwned := snapshot.targetHwnd != 0
  controllerBound := snapshot.controllerBinding.isSome
  processId := (snapshot.process.map (·.pid)).getD 0
  processCreationIdentity := (snapshot.process.map (·.creationIdentity)).getD 0
  targetHwnd := snapshot.targetHwnd

namespace RuntimeHost

variable (self : RuntimeHost) (activation : ActivationToken) (seatId : UInt32)
variable (uiLease : ActivationToken)

/-- The two constructors: without and with a configuration path. -/
def created (seatHardwareStore : Bool) : RuntimeHost where
  seatHardwareStore := seatHardwareStore

/-- `noteMutationLocked`. -/
def noteMutation (changed : Bool) : RuntimeHost :=
  if changed && self.authorityRevision != maximumCount then
    { self with authorityRevision := self.authorityRevision + 1 }
  else self

/-- Run an operation of the session controller and note what it changed. -/
def onController {Answer : Type} (self : RuntimeHost) (changed : Answer → Bool)
    (result : Answer × SessionController) : Answer × RuntimeHost :=
  (result.1, ({ self with controller := result.2 }).noteMutation (changed result.1))

def loadPersistentSeatHardware (load : Except ByteString SeatHardwareConfigurations) :
    Except ByteString Unit × RuntimeHost :=
  if !self.seatHardwareStore then (.ok (), self)
  else
    match load with
    | .error text => (.error text, self)
    | .ok candidate => (.ok (), { self with hardwareConfigurations := candidate })

def snapshot : HostSnapshot where
  authorityRevision := self.authorityRevision
  seat1 := toHostSnapshot self.controller.seat1.snapshot
  seat2 := toHostSnapshot self.controller.seat2.snapshot

def seatSnapshot : Option SeatRuntimeSnapshot := self.controller.snapshot seatId

def controllerInventorySnapshot (scanned : ScannedControllers) : InventorySnapshot × RuntimeHost :=
  let (snapshot, inventory) := self.controllerInventory.scan scanned.connected scanned.physical
  (snapshot, { self with controllerInventory := inventory })

/-- Whether `device` stays in the user-facing list: it needs no activity
confirmation, has it, or a stored assignment stands in for it. -/
def visibleDevice (confirmed : List WideString) (persisted : Bool) (device : DeviceInfo) : Bool :=
  !(device.requiresActivityConfirmation && !confirmed.contains device.id &&
    (device.requiresFreshTransportConfirmation || !persisted))

def hardwareInventory (detected : DetectedHardware) : List DeviceInfo :=
  let persisted (part : SeatHardwareConfiguration → WideString) (id : WideString) : Bool :=
    !id.isEmpty &&
      (part self.hardwareConfigurations.first == id ||
        part self.hardwareConfigurations.second == id)
  detected.displays ++
    detected.keyboards.filter (fun device =>
      visibleDevice self.confirmedKeyboardIds (persisted (·.keyboardId) device.id) device) ++
    detected.mice.filter (fun device =>
      visibleDevice self.confirmedMouseIds (persisted (·.mouseId) device.id) device) ++
    detected.controllers

/-- `stableId` is what `makeStableRawInputDeviceId` makes of the device
path. -/
def observePhysicalInput (type : DeviceType) (devicePath stableId : WideString) : RuntimeHost :=
  if devicePath.isEmpty || (type != .keyboard && type != .mouse) then self
  else if stableId.isEmpty then self
  else
    let sequence := self.nextInputActivitySequence
    let activity : ObservedInputActivity := ⟨sequence, stableId⟩
    let next := if sequence != maximumCount then sequence + 1 else sequence
    if type = .keyboard then
      let known := self.confirmedKeyboardIds.contains stableId
      ({ self with
        confirmedKeyboardIds :=
          if known then self.confirmedKeyboardIds
          else stableId :: self.confirmedKeyboardIds
        keyboardActivity := activity, nextInputActivitySequence := next }).noteMutation (!known)
    else
      let known := self.confirmedMouseIds.contains stableId
      ({ self with
        confirmedMouseIds :=
          if known then self.confirmedMouseIds
          else stableId :: self.confirmedMouseIds
        mouseActivity := activity, nextInputActivitySequence := next }).noteMutation (!known)

def inputActivity (kind : HardwareDeviceKind) : Option InputActivitySnapshot :=
  if kind ≠ .keyboard ∧ kind ≠ .mouse then none
  else
    let activity :=
      if kind = .keyboard then self.keyboardActivity
      else self.mouseActivity
    if activity.stableId.isEmpty then some { kind := kind, sequence := activity.sequence }
    else
      (wideToUtf8 activity.stableId).map fun stableId =>
        { kind := kind, sequence := activity.sequence, stableIdUtf8 := stableId }

def setSeatGamePresentation (titleUtf8 providerIdUtf8 : ByteString) : Bool × RuntimeHost :=
  if titleUtf8.isEmpty || titleUtf8.length > kHostProtocolMaxLaunchTitleBytes ||
      providerIdUtf8.isEmpty ||
      providerIdUtf8.length > kHostProtocolMaxProviderIdBytes then
    (false, self)
  else if providerIdUtf8 != "custom" && providerIdUtf8 != "steam" then (false, self)
  else
    match ofId? seatId with
    | none => (false, self)
    | some seat =>
      let snapshot := (self.controller.runtime seat).snapshot
      if !snapshot.gameLeaseActive || snapshot.process.isNone then (false, self)
      else
        (true,
          ({ self with
            seatRuntimeInfo := self.seatRuntimeInfo.set seat
              (some ⟨seatId, titleUtf8, providerIdUtf8⟩) }).noteMutation
            true)

def seatRuntimeInfoOf : Option SeatRuntimeInfo :=
  match ofId? seatId with
  | none => none
  | some seat => some ((self.seatRuntimeInfo.get seat).getD { seatId := seatId })

def seatHardwareConfiguration : Option SeatHardwareConfiguration :=
  (ofId? seatId).map self.hardwareConfigurations.get

def containsDevice (devices : List DeviceInfo) (stableId : WideString) : Bool :=
  stableId.isEmpty || devices.any (·.id == stableId)

def conflicts (requested existing : WideString) : Bool :=
  !requested.isEmpty && requested == existing

/-- Why `configuration` may not be stored for `seat`, if it may not. -/
def rejectedHardware? (seat : Seat) (configuration : SeatHardwareConfiguration)
    (detected : DetectedHardware) : Option ByteString :=
  let current := self.hardwareConfigurations.get seat
  let keyboards := detected.keyboards.filter fun device =>
    !(device.requiresActivityConfirmation && !self.confirmedKeyboardIds.contains device.id &&
      device.id != current.keyboardId)
  let mice := detected.mice.filter fun device =>
    !(device.requiresActivityConfirmation && !self.confirmedMouseIds.contains device.id &&
      device.id != current.mouseId)
  let other := self.hardwareConfigurations.get seat.other
  if !containsDevice detected.displays configuration.displayId then
    some "selected display is no longer connected"
  else if !containsDevice keyboards configuration.keyboardId then
    some "selected keyboard is no longer connected"
  else if !containsDevice mice configuration.mouseId then
    some "selected mouse is no longer connected"
  else if !containsDevice detected.controllers configuration.controllerId then
    some "selected controller is no longer connected"
  else if conflicts configuration.displayId other.displayId then
    some "selected display already belongs to the other Seat"
  else if conflicts configuration.keyboardId other.keyboardId then
    some "selected keyboard already belongs to the other Seat"
  else if conflicts configuration.mouseId other.mouseId then
    some "selected mouse already belongs to the other Seat"
  else if conflicts configuration.controllerId other.controllerId then
    some "selected controller already belongs to the other Seat"
  else none

/-- The part of `configureSeatHardware` behind its checks: persist, clear a
controller binding that no longer fits, publish. -/
def commitSeatHardware (seat : Seat) (configuration : SeatHardwareConfiguration)
    (save : SeatHardwareConfigurations → Except ByteString Unit) :
    Except ByteString Unit × RuntimeHost :=
  let previous := self.hardwareConfigurations
  let candidate := previous.set seat configuration
  let controllerChanged := (previous.get seat).controllerId != configuration.controllerId
  let saved :=
    if self.seatHardwareStore then save candidate else .ok ()
  match saved with
  | .error text => (.error text, self)
  | .ok () =>
    let (cleared, controller) :=
      if controllerChanged then self.controller.clearController uiLease
      else (true, self.controller)
    let self := { self with controller := controller }
    if cleared then (.ok (), ({ self with hardwareConfigurations := candidate }).noteMutation true)
    else if self.seatHardwareStore then
      match save previous with
      | .ok () =>
        (.error (bytesOf
          ("controller assignment was not changed because the stale " ++
            "runtime binding could not be cleared")), self)
      | .error _ =>
        (.error (bytesOf
          ("controller assignment changed on disk but the stale " ++
            "runtime binding could not be cleared; restart hydra_host " ++
            "before launching")),
          ({ self with hardwareConfigurations := candidate }).noteMutation true)
    else
      (.error (bytesOf
        ("controller assignment was not changed because the stale " ++
          "runtime binding could not be cleared")), self)

def configureSeatHardware (configuration : SeatHardwareConfiguration) (detected : DetectedHardware)
    (save : SeatHardwareConfigurations → Except ByteString Unit) :
    Except ByteString Unit × RuntimeHost :=
  let refuse (text : String) : Except ByteString Unit × RuntimeHost := (.error (bytesOf text), self)
  if uiLease.leaseClass ≠ .uiConfiguration ∨ configuration.seatId ≠ uiLease.seatId then
    refuse "invalid Seat hardware mutation authority"
  else
    match ofId? configuration.seatId with
    | none => refuse "invalid Seat hardware mutation authority"
    | some seat =>
      let snapshot := (self.controller.runtime seat).snapshot
      if !snapshot.uiLeaseActive || snapshot.generation != uiLease.generation then
        refuse "Seat UI lease is stale or no longer owned"
      else if snapshot.gameLeaseActive then
        refuse ("stop the running Seat game before changing its " ++ "hardware assignment")
      else
        match self.rejectedHardware? seat configuration detected with
        | some text => (.error text, self)
        | none =>
          if self.hardwareConfigurations.get seat = configuration then (.ok (), self)
          else self.commitSeatHardware uiLease seat configuration save

/-- Whether a Seat runs exactly `process`. -/
def ownsProcess (process : ProcessIdentity) (seat : Seat) : Bool :=
  let snapshot := (self.controller.runtime seat).snapshot
  snapshot.gameLeaseActive && snapshot.process == some process

def seatForProcess (process : ProcessIdentity) : Option Seat :=
  if !process.valid then none
  else
    match self.ownsProcess process .first, self.ownsProcess process .second with
    | true, true => none
    | true, false => some .first
    | false, true => some .second
    | false, false => none

def acquireUiLease : ActivationToken × RuntimeHost :=
  self.onController (·.valid) (self.controller.acquireSeatLease seatId .uiConfiguration)

def releaseUiLease (token : ActivationToken) : Bool × RuntimeHost :=
  if token.leaseClass ≠ .uiConfiguration then (false, self)
  else self.onController id (self.controller.releaseSeatLease token)

def pairController (persistentControllerId : ByteString) (runtimeXInputSlot : UInt8)
    (scanned : ScannedControllers) : Bool × RuntimeHost :=
  if uiLease.leaseClass ≠ .uiConfiguration ∨ persistentControllerId = [] ∨
      runtimeXInputSlot ≥ kXInputSlotCount then
    (false, self)
  else
    let (inventory, self) := self.controllerInventorySnapshot scanned
    if !inventory.authoritative then (false, self)
    else
      match ofId? uiLease.seatId with
      | none => (false, self)
      | some seat =>
        let snapshot := (self.controller.runtime seat).snapshot
        let persistentId := widenCharacters persistentControllerId
        let configured := (self.hardwareConfigurations.get seat).controllerId
        if !snapshot.uiLeaseActive || snapshot.generation != uiLease.generation ||
            snapshot.gameLeaseActive then
          (false, self)
        else if configured.isEmpty || configured != persistentId then (false, self)
        else
          match pairPhysicalControllerToXInput uiLease.seatId
              persistentId runtimeXInputSlot inventory with
          | ⟨.ok, some binding⟩ =>
            self.onController id (self.controller.bindController uiLease binding inventory)
          | _ => (false, self)

/-- `stillOwned` of the audio operations. -/
def stillOwned (expectedProcess : ProcessIdentity) : Bool :=
  match self.controller.snapshot uiLease.seatId with
  | none => false
  | some snapshot =>
    snapshot.uiLeaseActive && snapshot.gameLeaseActive &&
      snapshot.generation == uiLease.generation &&
      snapshot.process == some expectedProcess

/-- The host as the three ownership checks of an audio operation find it:
other clients may change it between them. -/
structure AudioChecks where
  (arrived queued finished : RuntimeHost)

def routeAudio (checks : AudioChecks) (uiLease : ActivationToken)
    (expectedProcess : ProcessIdentity)
    (endpoint : AudioEndpointIdentity) (router : RouterAnswers) :
    AudioRouteStatus × List RouterCall :=
  if uiLease.leaseClass ≠ .uiConfiguration ∨
      expectedProcess.valid = false ∨ endpoint.valid = false then
    (.invalidProcess, [])
  else if !checks.arrived.stillOwned uiLease expectedProcess then (.invalidProcess, [])
  else if !checks.queued.stillOwned uiLease expectedProcess then (.invalidProcess, [])
  else
    let assign := RouterCall.assignEndpoint expectedProcess endpoint
    if router.assignEndpoint ≠ .success then (router.assignEndpoint, [assign])
    else if !checks.finished.stillOwned uiLease expectedProcess then
      (if router.clearAssignment = .success then .identityMismatch
        else .routingFailed,
        [assign, .clearAssignment expectedProcess])
    else (.success, [assign])

def resetAudio (checks : AudioChecks) (uiLease : ActivationToken)
    (expectedProcess : ProcessIdentity) (router : RouterAnswers) :
    AudioRouteStatus × List RouterCall :=
  if uiLease.leaseClass ≠ .uiConfiguration ∨ expectedProcess.valid = false then
    (.invalidProcess, [])
  else if !checks.arrived.stillOwned uiLease expectedProcess then (.invalidProcess, [])
  else if !checks.queued.stillOwned uiLease expectedProcess then (.invalidProcess, [])
  else
    let clear := RouterCall.clearAssignment expectedProcess
    if router.clearAssignment ≠ .success then (router.clearAssignment, [clear])
    else if checks.finished.stillOwned uiLease expectedProcess then (.success, [clear])
    else (.identityMismatch, [clear])

def beginSeatActivation : ActivationToken × RuntimeHost :=
  self.onController (·.valid) (self.controller.acquireSeatLease seatId .gameProcess)

def publishProcess (process : ProcessIdentity) : Bool × RuntimeHost :=
  self.onController id (self.controller.publishProcess activation process)

def bindTargetWindow (owner : ProcessIdentity) (hwnd : UInt64) : Bool × RuntimeHost :=
  self.onController id (self.controller.bindTargetWindow activation owner hwnd)

def clearTargetWindow (owner : ProcessIdentity) (expectedHwnd : UInt64) : Bool × RuntimeHost :=
  self.onController id (self.controller.clearTargetWindow activation owner expectedHwnd)

def bindController (binding : SeatBinding) (inventory : InventorySnapshot) : Bool × RuntimeHost :=
  self.onController id (self.controller.bindController activation binding inventory)

def virtualXInputMapping : Option VirtualXInputMapping :=
  self.controller.virtualXInputMapping activation

def endSeatActivation : Bool × RuntimeHost :=
  let (changed, controller) := self.controller.releaseSeatLease activation
  let self := { self with controller := controller }
  let self :=
    match changed, ofId? activation.seatId with
    | true, some seat =>
      { self with seatRuntimeInfo := self.seatRuntimeInfo.set seat none }
    | _, _ => self
  (changed, self.noteMutation changed)

end RuntimeHost

end HydraSeat.Runtime
