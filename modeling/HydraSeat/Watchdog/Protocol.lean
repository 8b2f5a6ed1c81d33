import HydraSeat.Foundation.Codec

/-!
# The watchdog protocol

Leases, rollback plans and status reports, their validation and their wire
frames.  A frame is a header of twenty-four bytes and a payload.
-/

namespace HydraSeat.Watchdog

open Foundation

def kWatchdogProtocolMagic : UInt32 := 0x31445748

def kWatchdogProtocolVersion : UInt16 := 1

def kWatchdogFrameHeaderBytes : Nat := 24

def kWatchdogMaxPayloadBytes : Nat := 4096

def kWatchdogMaxFrameBytes : Nat := kWatchdogFrameHeaderBytes + kWatchdogMaxPayloadBytes

def kWatchdogMaxRollbackActions : Nat := 32

def kWatchdogMinLeaseTimeoutMs : UInt32 := 100

def kWatchdogMaxLeaseTimeoutMs : UInt32 := 60000

def kWatchdogMinActionTimeoutMs : UInt32 := 10

def kWatchdogMaxActionTimeoutMs : UInt32 := 10000

def kWatchdogMaxRollbackTimeoutMs : UInt32 := 60000

abbrev SessionId := Vector UInt8 16

def isZeroSessionId (sessionId : SessionId) : Bool := sessionId.toList.all (· == 0)

structure ProcessIdentity where
  processId : UInt32 := 0
  creationTime100ns : UInt64 := 0
  deriving DecidableEq

/-- The allowlisted rollback actions, and any other sixteen-bit value that a
frame may carry in their place. -/
inductive RollbackActionKind where
  | terminateOwnedProcess | closeOwnedSession | clearOptionalBackendState | releaseOverlayState
  | restoreSnapshotState | writeSafeModeResult
  | unknown (value : UInt16)
  deriving DecidableEq

namespace RollbackActionKind

def ofValue (value : UInt16) : RollbackActionKind :=
  if value = 1 then .terminateOwnedProcess
  else if value = 2 then .closeOwnedSession
  else if value = 3 then .clearOptionalBackendState
  else if value = 4 then .releaseOverlayState
  else if value = 5 then .restoreSnapshotState
  else if value = 6 then .writeSafeModeResult
  else .unknown value

def value : RollbackActionKind → UInt16
  | .terminateOwnedProcess => 1
  | .closeOwnedSession => 2
  | .clearOptionalBackendState => 3
  | .releaseOverlayState => 4
  | .restoreSnapshotState => 5
  | .writeSafeModeResult => 6
  | .unknown value => value

end RollbackActionKind

def isKnownRollbackActionKind : RollbackActionKind → Bool
  | .unknown _ => false
  | _ => true

structure RollbackActionDescriptor where
  actionId : UInt32 := 0
  kind : RollbackActionKind := .terminateOwnedProcess
  (activationOrdinal timeoutMilliseconds : UInt32 := 0)
  (generation resourceId : UInt64 := 0)
  process : ProcessIdentity := {}
  deriving DecidableEq

structure WatchdogLease where
  sessionId : SessionId := Vector.replicate 16 0
  generation : UInt64 := 0
  timeoutMilliseconds : UInt32 := 0
  deriving DecidableEq

structure RollbackPlanManifest where
  lease : WatchdogLease := {}
  rollbackTimeoutMilliseconds : UInt32 := 0
  actions : List RollbackActionDescriptor := []
  deriving DecidableEq

inductive WatchdogMessageType where
  | registerPlan | renewLease | disarm | status
  deriving DecidableEq

namespace WatchdogMessageType

def ofValue? (value : UInt16) : Option WatchdogMessageType :=
  if value = 1 then some .registerPlan
  else if value = 2 then some .renewLease
  else if value = 3 then some .disarm
  else if value = 4 then some .status
  else none

def value : WatchdogMessageType → UInt16
  | .registerPlan => 1
  | .renewLease => 2
  | .disarm => 3
  | .status => 4

end WatchdogMessageType

inductive WatchdogRunState where
  | waitingForPlan | armed | rollingBack | disarmed | rollbackComplete | recoveryRequired

namespace WatchdogRunState

def ofValue? (value : UInt16) : Option WatchdogRunState :=
  if value = 1 then some .waitingForPlan
  else if value = 2 then some .armed
  else if value = 3 then some .rollingBack
  else if value = 4 then some .disarmed
  else if value = 5 then some .rollbackComplete
  else if value = 6 then some .recoveryRequired
  else none

def value : WatchdogRunState → UInt16
  | .waitingForPlan => 1
  | .armed => 2
  | .rollingBack => 3
  | .disarmed => 4
  | .rollbackComplete => 5
  | .recoveryRequired => 6

end WatchdogRunState

inductive WatchdogTriggerReason where
  | none | hostExited | leaseExpired | controlChannelClosed | protocolViolation | rollbackFailure
  | cleanDisarm

namespace WatchdogTriggerReason

def ofValue? (value : UInt16) : Option WatchdogTriggerReason :=
  if value = 0 then some .none
  else if value = 1 then some .hostExited
  else if value = 2 then some .leaseExpired
  else if value = 3 then some .controlChannelClosed
  else if value = 4 then some .protocolViolation
  else if value = 5 then some .rollbackFailure
  else if value = 6 then some .cleanDisarm
  else Option.none

def value : WatchdogTriggerReason → UInt16
  | .none => 0
  | .hostExited => 1
  | .leaseExpired => 2
  | .controlChannelClosed => 3
  | .protocolViolation => 4
  | .rollbackFailure => 5
  | .cleanDisarm => 6

end WatchdogTriggerReason

structure WatchdogStatus where
  sessionId : SessionId := Vector.replicate 16 0
  generation : UInt64 := 0
  state : WatchdogRunState := .waitingForPlan
  reason : WatchdogTriggerReason := .none
  (completedActions totalActions : UInt16 := 0)
  (failedActionId systemError : UInt32 := 0)

structure DecodedWatchdogFrame where
  type : WatchdogMessageType := .status
  sequence : UInt64 := 0
  payload : List UInt8 := []

def leaseTimeoutInRange (timeoutMilliseconds : UInt32) : Bool :=
  kWatchdogMinLeaseTimeoutMs ≤ timeoutMilliseconds &&
    timeoutMilliseconds ≤ kWatchdogMaxLeaseTimeoutMs

/-- A process action names a process and no resource; any other action names
a resource and no process. -/
def validateActionTarget (action : RollbackActionDescriptor) : Except String Unit :=
  if action.kind = .terminateOwnedProcess then
    if action.resourceId ≠ 0 ∨ action.process.processId = 0 ∨
        action.process.creationTime100ns = 0 then
      .error "process rollback action identity is invalid"
    else .ok ()
  else if action.resourceId = 0 ∨ action.process.processId ≠ 0 ∨
      action.process.creationTime100ns ≠ 0 then
    .error "resource rollback action identity is invalid"
  else .ok ()

/-- The loop of `validateRollbackPlan`, with the identifiers and ordinals
seen so far.  It answers with the longest action timeout. -/
def validateRollbackActions (actionIds ordinals : List UInt32) (maximumActionTimeout : UInt32) :
    List RollbackActionDescriptor → Except String UInt32
  | [] => .ok maximumActionTimeout
  | action :: actions =>
    if action.actionId = 0 ∨ action.activationOrdinal = 0 ∨ action.generation = 0 then
      .error "rollback action identity fields must be nonzero"
    else if action.actionId ∈ actionIds ∨ action.activationOrdinal ∈ ordinals then
      .error "rollback action ids and activation ordinals must be unique"
    else if !isKnownRollbackActionKind action.kind then .error "rollback action kind is unknown"
    else if action.timeoutMilliseconds < kWatchdogMinActionTimeoutMs ∨
        action.timeoutMilliseconds > kWatchdogMaxActionTimeoutMs then
      .error "rollback action timeout is out of range"
    else
      match validateActionTarget action with
      | .error text => .error text
      | .ok () =>
        validateRollbackActions (action.actionId :: actionIds)
          (action.activationOrdinal :: ordinals)
          (max maximumActionTimeout action.timeoutMilliseconds)
          actions

def validateRollbackPlan (manifest : RollbackPlanManifest) : Except String Unit :=
  if isZeroSessionId manifest.lease.sessionId then .error "rollback manifest session id is zero"
  else if manifest.lease.generation = 0 then .error "rollback manifest lease generation is zero"
  else if !leaseTimeoutInRange manifest.lease.timeoutMilliseconds then
    .error "rollback manifest lease timeout is out of range"
  else if
      manifest.rollbackTimeoutMilliseconds < kWatchdogMinActionTimeoutMs ∨
        manifest.rollbackTimeoutMilliseconds > kWatchdogMaxRollbackTimeoutMs then
    .error "rollback manifest total timeout is out of range"
  else if manifest.actions = [] ∨ manifest.actions.length > kWatchdogMaxRollbackActions then
    .error "rollback manifest action count is out of range"
  else
    match validateRollbackActions [] [] 0 manifest.actions with
    | .error text => .error text
    | .ok maximumActionTimeout =>
      if manifest.rollbackTimeoutMilliseconds < maximumActionTimeout then
        .error "rollback total timeout is shorter than an action timeout"
      else .ok ()

structure FrameHeader where
  magic : UInt32
  (version type : UInt16)
  (payloadBytes reserved : UInt32)
  sequence : UInt64

def writeFrameHeader (header : FrameHeader) : List UInt8 :=
  writeU32 header.magic ++ writeU16 header.version ++
    writeU16 header.type ++ writeU32 header.payloadBytes ++
    writeU32 header.reserved ++ writeU64 header.sequence

def readFrameHeader : Reader FrameHeader := do
  let magic ← readU32
  let version ← readU16
  let type ← readU16
  let payloadBytes ← readU32
  let reserved ← readU32
  let sequence ← readU64
  return ⟨magic, version, type, payloadBytes, reserved, sequence⟩

/-- An empty result is the encoder's refusal. -/
def encodeWatchdogFrame (type : WatchdogMessageType) (sequence : UInt64)
    (payload : List UInt8) : List UInt8 :=
  if sequence = 0 ∨ payload.length > kWatchdogMaxPayloadBytes then []
  else
    writeFrameHeader
      { magic := kWatchdogProtocolMagic, version := kWatchdogProtocolVersion, type := type.value
        payloadBytes := UInt32.ofNat payload.length, reserved := 0
        sequence := sequence } ++ payload

def decodeWatchdogFrame (frameBytes : List UInt8) : Except String DecodedWatchdogFrame :=
  if frameBytes.length < kWatchdogFrameHeaderBytes ∨ frameBytes.length > kWatchdogMaxFrameBytes then
    .error "watchdog frame size is out of range"
  else
    match readFrameHeader frameBytes with
    | none => .error "watchdog frame header is truncated"
    | some (header, payload) =>
      if header.magic ≠ kWatchdogProtocolMagic then .error "watchdog frame magic mismatch"
      else if header.version ≠ kWatchdogProtocolVersion then
        .error "watchdog frame version mismatch"
      else if header.reserved ≠ 0 ∨ header.sequence = 0 then
        .error "watchdog frame reserved/sequence field is invalid"
      else if header.payloadBytes.toNat > kWatchdogMaxPayloadBytes ∨
          header.payloadBytes.toNat ≠ payload.length then
        .error "watchdog frame payload length mismatch"
      else
        match WatchdogMessageType.ofValue? header.type with
        | none => .error "watchdog frame message type is unknown"
        | some type => .ok ⟨type, header.sequence, payload⟩

def encodeLeasePayload (lease : WatchdogLease) : List UInt8 :=
  writeArray lease.sessionId ++ writeU64 lease.generation ++ writeU32 lease.timeoutMilliseconds

def readLease : Reader WatchdogLease := do
  let sessionId ← readArray 16
  let generation ← readU64
  let timeoutMilliseconds ← readU32
  return ⟨sessionId, generation, timeoutMilliseconds⟩

def kLeasePayloadBytes : Nat := 28

def decodeLeasePayload (payload : List UInt8) : Except String WatchdogLease :=
  if payload.length ≠ kLeasePayloadBytes then .error "watchdog lease payload size mismatch"
  else
    match readLease payload with
    | some (lease, []) =>
      if isZeroSessionId lease.sessionId || lease.generation == 0 ||
          !leaseTimeoutInRange lease.timeoutMilliseconds then
        .error "watchdog lease fields are invalid"
      else .ok lease
    | _ => .error "watchdog lease payload truncated"

/-- `encodeLeaseRenewal` and `encodeDisarm` differ in the message type. -/
def encodeLeaseMessage (type : WatchdogMessageType) (sequence : UInt64)
    (lease : WatchdogLease) : List UInt8 :=
  let payload := encodeLeasePayload lease
  match decodeLeasePayload payload with
  | .error _ => []
  | .ok _ => encodeWatchdogFrame type sequence payload

def encodeLeaseRenewal : UInt64 → WatchdogLease → List UInt8 := encodeLeaseMessage .renewLease

def encodeDisarm : UInt64 → WatchdogLease → List UInt8 := encodeLeaseMessage .disarm

def decodeLeaseMessage (type : WatchdogMessageType) (mismatch : String)
    (frame : DecodedWatchdogFrame) : Except String WatchdogLease :=
  if frame.type ≠ type then .error mismatch
  else decodeLeasePayload frame.payload

def decodeLeaseRenewal : DecodedWatchdogFrame → Except String WatchdogLease :=
  decodeLeaseMessage .renewLease "watchdog frame is not a lease-renewal message"

def decodeDisarm : DecodedWatchdogFrame → Except String WatchdogLease :=
  decodeLeaseMessage .disarm "watchdog frame is not a disarm message"

def kManifestPrefixBytes : Nat := 36

def kActionBytes : Nat := 48

/-- An action as it stands in a frame, with its two reserved fields. -/
structure WireAction where
  action : RollbackActionDescriptor
  actionReserved : UInt16 := 0
  processReserved : UInt32 := 0

def writeWireAction (wire : WireAction) : List UInt8 :=
  writeU32 wire.action.actionId ++ writeU16 wire.action.kind.value ++
    writeU16 wire.actionReserved ++
    writeU32 wire.action.activationOrdinal ++
    writeU32 wire.action.timeoutMilliseconds ++
    writeU64 wire.action.generation ++
    writeU64 wire.action.resourceId ++
    writeU32 wire.action.process.processId ++
    writeU32 wire.processReserved ++
    writeU64 wire.action.process.creationTime100ns

def readWireAction : Reader WireAction := do
  let actionId ← readU32
  let kindValue ← readU16
  let actionReserved ← readU16
  let activationOrdinal ← readU32
  let timeoutMilliseconds ← readU32
  let generation ← readU64
  let resourceId ← readU64
  let processId ← readU32
  let processReserved ← readU32
  let creationTime100ns ← readU64
  let action : RollbackActionDescriptor :=
    { actionId := actionId, kind := RollbackActionKind.ofValue kindValue
      activationOrdinal := activationOrdinal, timeoutMilliseconds := timeoutMilliseconds
      generation := generation, resourceId := resourceId
      process := ⟨processId, creationTime100ns⟩ }
  return ⟨action, actionReserved, processReserved⟩

structure ManifestPrefix where
  lease : WatchdogLease
  rollbackTimeoutMilliseconds : UInt32
  (actionCount reserved : UInt16)

def writeManifestPrefix (manifest : ManifestPrefix) : List UInt8 :=
  encodeLeasePayload manifest.lease ++ writeU32 manifest.rollbackTimeoutMilliseconds ++
    writeU16 manifest.actionCount ++ writeU16 manifest.reserved

def readManifestPrefix : Reader ManifestPrefix := do
  let lease ← readLease
  let rollbackTimeoutMilliseconds ← readU32
  let actionCount ← readU16
  let reserved ← readU16
  return ⟨lease, rollbackTimeoutMilliseconds, actionCount, reserved⟩

def encodeRegisterPlan (sequence : UInt64) (manifest : RollbackPlanManifest) : List UInt8 :=
  match validateRollbackPlan manifest with
  | .error _ => []
  | .ok () =>
    encodeWatchdogFrame .registerPlan sequence
      (writeManifestPrefix
          { lease := manifest.lease
            rollbackTimeoutMilliseconds := manifest.rollbackTimeoutMilliseconds
            actionCount := UInt16.ofNat manifest.actions.length, reserved := 0 } ++
        writeMany (fun action => writeWireAction { action }) manifest.actions)

/-- The source stops at the first action with a nonzero reserved field or at
the end of the payload, whichever comes first. -/
def readActions : Nat → List UInt8 → Except String (List RollbackActionDescriptor × List UInt8)
  | 0, payload => .ok ([], payload)
  | count + 1, payload =>
    match readWireAction payload with
    | none => .error "rollback action payload is truncated"
    | some (wire, rest) =>
      if wire.actionReserved ≠ 0 ∨ wire.processReserved ≠ 0 then
        .error "rollback action reserved field is nonzero"
      else
        match readActions count rest with
        | .error text => .error text
        | .ok (actions, after) => .ok (wire.action :: actions, after)

def decodeRegisterPlan (frame : DecodedWatchdogFrame) : Except String RollbackPlanManifest :=
  if frame.type ≠ .registerPlan then .error "watchdog frame is not a register-plan message"
  else if frame.payload.length < kManifestPrefixBytes then
    .error "rollback manifest payload is truncated"
  else
    match readManifestPrefix frame.payload with
    | none => .error "rollback manifest header is truncated"
    | some (header, payload) =>
      if header.reserved ≠ 0 ∨ header.actionCount = 0 ∨
          header.actionCount.toNat > kWatchdogMaxRollbackActions then
        .error "rollback manifest action count/reserved field is invalid"
      else if frame.payload.length ≠
          kManifestPrefixBytes + header.actionCount.toNat * kActionBytes then
        .error "rollback manifest payload size mismatch"
      else
        match readActions header.actionCount.toNat payload with
        | .error text => .error text
        | .ok (actions, rest) =>
          if rest ≠ [] then .error "rollback manifest has trailing bytes"
          else
            let decoded : RollbackPlanManifest :=
              ⟨header.lease, header.rollbackTimeoutMilliseconds, actions⟩
            match validateRollbackPlan decoded with
            | .error text => .error text
            | .ok () => .ok decoded

def kStatusPayloadBytes : Nat := 40

structure WireStatus where
  sessionId : SessionId
  generation : UInt64
  (stateValue reasonValue completedActions totalActions : UInt16)
  (failedActionId systemError : UInt32)

def WatchdogStatus.wire (status : WatchdogStatus) : WireStatus where
  sessionId := status.sessionId
  generation := status.generation
  stateValue := status.state.value
  reasonValue := status.reason.value
  completedActions := status.completedActions
  totalActions := status.totalActions
  failedActionId := status.failedActionId
  systemError := status.systemError

def writeWireStatus (wire : WireStatus) : List UInt8 :=
  writeArray wire.sessionId ++ writeU64 wire.generation ++
    writeU16 wire.stateValue ++ writeU16 wire.reasonValue ++
    writeU16 wire.completedActions ++ writeU16 wire.totalActions ++
    writeU32 wire.failedActionId ++ writeU32 wire.systemError

def readWireStatus : Reader WireStatus := do
  let sessionId ← readArray 16
  let generation ← readU64
  let stateValue ← readU16
  let reasonValue ← readU16
  let completedActions ← readU16
  let totalActions ← readU16
  let failedActionId ← readU32
  let systemError ← readU32
  return ⟨sessionId, generation, stateValue, reasonValue,
    completedActions, totalActions, failedActionId, systemError⟩

def encodeWatchdogStatus (sequence : UInt64) (status : WatchdogStatus) : List UInt8 :=
  if isZeroSessionId status.sessionId || status.generation == 0 ||
      status.completedActions > status.totalActions then
    []
  else encodeWatchdogFrame .status sequence (writeWireStatus status.wire)

def decodeWatchdogStatus (frame : DecodedWatchdogFrame) : Except String WatchdogStatus :=
  if frame.type ≠ .status then .error "watchdog frame is not a status message"
  else if frame.payload.length ≠ kStatusPayloadBytes then
    .error "watchdog status payload size mismatch"
  else
    match readWireStatus frame.payload with
    | some (wire, []) =>
      match WatchdogRunState.ofValue? wire.stateValue,
          WatchdogTriggerReason.ofValue? wire.reasonValue with
      | some state, some reason =>
        if isZeroSessionId wire.sessionId || wire.generation == 0 ||
            wire.completedActions > wire.totalActions then
          .error "watchdog status fields are invalid"
        else
          .ok
            { sessionId := wire.sessionId, generation := wire.generation, state := state
              reason := reason, completedActions := wire.completedActions
              totalActions := wire.totalActions, failedActionId := wire.failedActionId
              systemError := wire.systemError }
      | _, _ => .error "watchdog status fields are invalid"
    | _ => .error "watchdog status payload is truncated"

theorem readWireStatus_reads : Reads readWireStatus writeWireStatus := by
  unfold writeWireStatus
  simp only [List.append_assoc]
  apply ReadsOnly.reads
  refine .any (readArray_reads 16) fun sessionId => ?_
  refine .any readU64_reads fun generation => ?_
  refine .any readU16_reads fun stateValue => ?_
  refine .any readU16_reads fun reasonValue => ?_
  refine .any readU16_reads fun completedActions => ?_
  refine .any readU16_reads fun totalActions => ?_
  refine .any readU32_reads fun failedActionId => ?_
  refine .last readU32_reads fun systemError => ?_
  exact .built fun value => by cases value; grind

theorem writeFrameHeader_length (header : FrameHeader) :
    (writeFrameHeader header).length = kWatchdogFrameHeaderBytes := by
  simp [writeFrameHeader, kWatchdogFrameHeaderBytes]

theorem WatchdogRunState.value_injective
    {left right : WatchdogRunState} (same : left.value = right.value) :
    left = right := by
  cases left <;> cases right <;> first | rfl | cases same

theorem encodeWatchdogStatus_state {leftSequence rightSequence : UInt64}
    {left right : WatchdogStatus}
    (same : encodeWatchdogStatus leftSequence left = encodeWatchdogStatus rightSequence right)
    (accepted : encodeWatchdogStatus leftSequence left ≠ []) :
    left.state = right.state := by
  have acceptedRight := same ▸ accepted
  unfold encodeWatchdogStatus encodeWatchdogFrame at same accepted acceptedRight
  split at accepted
  · exact absurd rfl accepted
  next leftFields =>
    split at accepted
    · exact absurd rfl accepted
    next leftFrame =>
      split at acceptedRight
      · exact absurd rfl acceptedRight
      next rightFields =>
        split at acceptedRight
        · exact absurd rfl acceptedRight
        next rightFrame =>
          rw [if_neg leftFields, if_neg leftFrame, if_neg rightFields, if_neg rightFrame] at same
          have payload :=
            (List.append_inj same
              ((writeFrameHeader_length _).trans (writeFrameHeader_length _).symm)).2
          have wire := (readWireStatus_reads.read_write_nil left.wire).symm.trans
            (payload ▸ readWireStatus_reads.read_write_nil right.wire)
          apply WatchdogRunState.value_injective
          exact congrArg (·.1.stateValue) (Option.some.inj wire)

end HydraSeat.Watchdog
