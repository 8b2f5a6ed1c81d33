import HydraSeat.Foundation.Command
import HydraSeat.Process.ProcessGroup
import HydraSeat.Runtime.SeatRuntime

/-!
# The audio route of a Seat

A route transaction moves the audio sessions of one exact process tree to an
endpoint and back.  The observation of the sessions and the operations of the
backend are calls whose answers are not restricted.
-/

namespace HydraSeat.Audio

open Foundation
open Foundation.Command

variable (request : RouteRequest)

inductive RouteBackendKind where
  | observeOnly | providerManaged

inductive RouteCapability where
  | unsupported | satisfiedWithoutMutation | mutable

/-- The part of `ProcessTreeSnapshot` that a route reads. -/
structure ProcessTreeSnapshot where
  seatId : UInt32 := 0
  root : Process.ProcessIdentity := {}
  processes : List Process.ProcessRecord := []
  trackingComplete : Bool := true

structure RouteRequest where
  seatId : UInt32 := 0
  processTree : ProcessTreeSnapshot := {}
  targetEndpointId : WideString := []

structure AudioSessionObservation where
  endpointId : WideString := []
  processId : UInt32 := 0
  processIdentity : Option Runtime.ProcessIdentity := none
  deriving DecidableEq

structure AudioSessionInventoryResult where
  sessions : List AudioSessionObservation := []
  (isComplete failed : Bool := false)

def AudioSessionInventoryResult.isSuccess (result : AudioSessionInventoryResult) : Bool :=
  !result.failed

inductive AudioEndpointState where
  | active | disabled | notPresent | unplugged | unknown
  deriving DecidableEq

structure AudioRenderEndpoint where
  endpointId : WideString := []
  state : AudioEndpointState := .active

def AudioRenderEndpoint.isAvailable (endpoint : AudioRenderEndpoint) : Bool :=
  endpoint.state = .active

structure OwnedSessionEvidence where
  (ownedSessions pidMatchesWithoutVerifiedIdentity : List AudioSessionObservation := [])
  (duplicateOwnedProcessSessions allOwnedSessionsOnTarget : Bool := false)
  deriving DecidableEq

inductive RoutePhase where
  | unprepared | waitingForSession | ready | satisfied | applied | unsupported | failed
  | recoveryRequired

inductive RouteError where
  | none | invalidSeat | invalidProcessTree | targetEndpointMissing | targetEndpointUnavailable
  | ownershipUnverified | backendUnsupported | snapshotFailed | applyFailed | verificationFailed
  | rollbackFailed

structure BackendState where
  bytes : ByteString := []
  deriving DecidableEq

structure RouteStatus where
  phase : RoutePhase := .unprepared
  error : RouteError := .none
  backendKind : RouteBackendKind := .observeOnly
  capability : RouteCapability := .unsupported
  evidence : OwnedSessionEvidence := {}
  (mutated rollbackVerified : Bool := false)

def canonical (value : WideString) : WideString := value.map towupper

def sameEndpoint (left right : WideString) : Bool := canonical left == canonical right

def processTreeContainsPid (tree : ProcessTreeSnapshot) (processId : UInt32) : Bool :=
  processId != 0 &&
    (tree.root.processId == processId ||
      tree.processes.any fun record => !record.exited && record.identity.processId == processId)

def processTreeHasExactIdentity (tree : ProcessTreeSnapshot)
    (processId : UInt32) (creationTime100ns : UInt64) : Bool :=
  processId != 0 && creationTime100ns != 0 &&
    (tree.root.processId == processId && tree.root.creationTime100ns == creationTime100ns ||
      tree.processes.any fun record =>
        !record.exited && record.identity.processId == processId &&
          record.identity.creationTime100ns == creationTime100ns)

/-- The first endpoint with the id decides: whether there is one, and whether
it is available. -/
def endpointAvailable (endpoints : List AudioRenderEndpoint)
    (endpointId : WideString) : Bool × Bool :=
  match
    endpoints.find? fun endpoint => sameEndpoint endpoint.endpointId endpointId
  with
  | none => (false, false)
  | some endpoint => (true, endpoint.isAvailable)

def sameObservedProcess (left right : AudioSessionObservation) : Bool :=
  match left.processIdentity, right.processIdentity with
  | some leftIdentity, some rightIdentity =>
    leftIdentity.pid == rightIdentity.pid &&
      leftIdentity.creationIdentity == rightIdentity.creationIdentity
  | _, _ => false

def capturedEndpointsError (after : OwnedSessionEvidence) :
    List AudioSessionObservation → Option ByteString
  | [] => none
  | original :: rest =>
    match after.ownedSessions.find? (sameObservedProcess original) with
    | none =>
      some
        (bytesOf ("an originally owned audio session disappeared during " ++
          "rollback verification"))
    | some found =>
      if !sameEndpoint found.endpointId original.endpointId then
        some (bytesOf ("an owned audio session did not return to its " ++ "captured endpoint"))
      else capturedEndpointsError after rest

def verifyCapturedEndpoints (before after : OwnedSessionEvidence) : Option ByteString :=
  if before.duplicateOwnedProcessSessions || after.duplicateOwnedProcessSessions then
    some (bytesOf ("audio rollback cannot verify duplicate sessions for one " ++ "exact process"))
  else capturedEndpointsError after before.ownedSessions

def sessionMatchesOwnedProcess (processTree : ProcessTreeSnapshot)
    (session : AudioSessionObservation) : Bool :=
  match session.processIdentity with
  | none => false
  | some identity => processTreeHasExactIdentity processTree identity.pid identity.creationIdentity

/-- One turn of the loop over the sessions. -/
def collectSession (evidence : OwnedSessionEvidence) (session : AudioSessionObservation) :
    OwnedSessionEvidence :=
  if sessionMatchesOwnedProcess request.processTree session then
    { evidence with
      duplicateOwnedProcessSessions := evidence.duplicateOwnedProcessSessions ||
        evidence.ownedSessions.any (sameObservedProcess session)
      ownedSessions := evidence.ownedSessions ++ [session] }
  else if processTreeContainsPid request.processTree session.processId then
    { evidence with
      pidMatchesWithoutVerifiedIdentity := evidence.pidMatchesWithoutVerifiedIdentity ++ [session] }
  else evidence

def collectOwnedSessionEvidence (sessions : List AudioSessionObservation) : OwnedSessionEvidence :=
  let evidence := sessions.foldl (collectSession request) {}
  { evidence with
    allOwnedSessionsOnTarget := !evidence.ownedSessions.isEmpty &&
      evidence.ownedSessions.all fun session =>
        sameEndpoint session.endpointId request.targetEndpointId }

structure Observed where
  evidence : OwnedSessionEvidence := {}
  failure : Option (RouteError × ByteString) := none

def unobserved : Observed where
  failure := some (.snapshotFailed, "audio session observation source is unavailable")

/-- `observeEvidence` behind the enumeration. -/
def observedIn (observed : AudioSessionInventoryResult) : Observed :=
  if !observed.isSuccess then
    { failure := some (.snapshotFailed, "audio session observation failed") }
  else if !observed.isComplete then
    { failure :=
        some
          (.snapshotFailed,
            bytesOf ("audio session observation is incomplete and cannot " ++ "prove ownership")) }
  else
    let evidence := collectOwnedSessionEvidence request observed.sessions
    if !evidence.pidMatchesWithoutVerifiedIdentity.isEmpty then
      { evidence
        failure := some
          (.ownershipUnverified,
            bytesOf ("PID-matching audio session lacks exact process " ++ "creation identity")) }
    else if evidence.duplicateOwnedProcessSessions then
      { evidence
        failure := some
          (.ownershipUnverified,
            bytesOf ("multiple audio sessions for one exact process are " ++
              "not individually identifiable")) }
    else
      { evidence }

def validateRequest (endpoints : List AudioRenderEndpoint) : Option (RouteError × ByteString) :=
  if (request.seatId ≠ 1 ∧ request.seatId ≠ 2) ∨ request.processTree.seatId ≠ request.seatId then
    some (.invalidSeat, "audio route Seat does not match the owned process tree")
  else if !request.processTree.root.valid || !request.processTree.trackingComplete then
    some
      (.invalidProcessTree,
        bytesOf ("audio route requires an exact, completely tracked process " ++ "tree"))
  else if request.targetEndpointId.isEmpty then
    some (.targetEndpointMissing, "audio target endpoint identity is empty")
  else
    match endpointAvailable endpoints request.targetEndpointId with
    | (_, true) => none
    | (true, false) =>
      some (.targetEndpointUnavailable, "audio target endpoint is not currently active")
    | (false, false) => some (.targetEndpointMissing, "audio target endpoint is not present")

/-- The calls of `SessionObservationSource` and of `RouteBackend`.  The
backend is always given the request of the transaction. -/
inductive RouteCall where
  | kind | enumerate
  | capability (evidence : OwnedSessionEvidence)
  | captureState (evidence : OwnedSessionEvidence)
  | apply (before : BackendState)
  | rollback (before : BackendState)

/-- A backend operation that may fail answers with its error text. -/
abbrev RouteAnswer : RouteCall → Type
  | .kind => RouteBackendKind
  | .enumerate => AudioSessionInventoryResult
  | .capability _ => RouteCapability
  | .captureState _ => Except ByteString BackendState
  | .apply _ | .rollback _ => Bool × ByteString

abbrev routeCalls : Interface := ⟨RouteCall, RouteAnswer⟩

abbrev Route := Command routeCalls

def perform (request : RouteCall) : Route (RouteAnswer request) := @ask routeCalls request

/-- A transaction; the source of observations may be missing. -/
structure RouteTransaction where
  request : RouteRequest := {}
  hasSessions : Bool := true
  before : Option BackendState := none
  beforeEvidence : Option OwnedSessionEvidence := none
  status : RouteStatus := {}

namespace RouteTransaction

variable (self : RouteTransaction)

def observeEvidence : Route Observed := do
  if !self.hasSessions then
    return unobserved
  else
    return observedIn self.request (← perform .enumerate)

/-- The evidence, and why it does not show that the route was applied. -/
def verifyApplied : Route (OwnedSessionEvidence × Option ByteString) := do
  let observed ← self.observeEvidence
  match observed.failure with
  | some (_, message) => return (observed.evidence, some message)
  | none =>
    if observed.evidence.ownedSessions.isEmpty then
      return (observed.evidence,
        some (bytesOf ("owned audio session disappeared during apply " ++ "verification")))
    else if !observed.evidence.allOwnedSessionsOnTarget then
      return (observed.evidence,
        some (bytesOf ("owned audio session did not move to the requested " ++ "endpoint")))
    else
      return (observed.evidence, none)

/-- The evidence, and why it does not show that the route was restored. -/
def verifyRollback : Route (OwnedSessionEvidence × Option ByteString) := do
  match self.beforeEvidence with
  | none =>
    return ({}, some "audio rollback has no captured ownership evidence")
  | some beforeEvidence =>
    let observed ← self.observeEvidence
    match observed.failure with
    | some (_, message) => return (observed.evidence, some message)
    | none =>
      return (observed.evidence, verifyCapturedEndpoints beforeEvidence observed.evidence)

/-- The backend is asked to restore a state, and the state is verified. -/
def restore (before : BackendState) : Route (OwnedSessionEvidence × Option ByteString) := do
  let (restored, rollbackError) ← perform (.rollback before)
  if restored then self.verifyRollback
  else
    return ({}, some rollbackError)

/-- What `attempt` does behind an apply that failed or was not verified. -/
def undo (before : BackendState) (failure : RouteError)
    (cause : ByteString) : Route (ByteString × RouteTransaction) := do
  let (evidence, rollbackFailure) ← self.restore before
  match rollbackFailure with
  | none =>
    return (cause,
      { self with
        status :=
          { self.status with
            evidence
            phase := .failed
            error := failure
            mutated := false
            rollbackVerified := true } })
  | some rollbackError =>
    return (if rollbackError.isEmpty then cause else rollbackError,
      { self with
        status :=
          { self.status with
            evidence
            phase := .recoveryRequired
            error := .rollbackFailed } })

/-- `attempt` on sessions that a backend may move. -/
def attemptMutation (evidence : OwnedSessionEvidence) : Route (ByteString × RouteTransaction) := do
  match ← perform (.captureState evidence) with
  | .error message =>
    return (message,
      { self with
        status :=
          { self.status with phase := .failed, error := .snapshotFailed } })
  | .ok before =>
    let self :=
      { self with
        before := some before, beforeEvidence := some evidence
        status := { self.status with mutated := true } }
    let (applied, applyError) ← perform (.apply before)
    if !applied then self.undo before .applyFailed applyError
    else
      let (appliedEvidence, failure) ← self.verifyApplied
      match failure with
      | some verifyError => self.undo before .verificationFailed verifyError
      | none =>
        return ([],
          { self with
            status :=
              { self.status with
                phase := .applied
                error := .none
                evidence := appliedEvidence
                rollbackVerified := false } })

/-- `attempt` behind the observation. -/
def attemptObserved (evidence : OwnedSessionEvidence) : Route (ByteString × RouteTransaction) := do
  if evidence.ownedSessions.isEmpty then
    return ([],
      { self with
        status :=
          { self.status with
            phase := .waitingForSession
            error := .none
            capability := .unsupported } })
  else if evidence.allOwnedSessionsOnTarget then
    return ([],
      { self with
        status :=
          { self.status with
            phase := .satisfied
            error := .none
            capability := .satisfiedWithoutMutation
            mutated := false } })
  else
    match ← perform (.capability evidence) with
    | .unsupported =>
      return ("no approved audio backend can move the exact owned session",
        { self with
          status :=
            { self.status with
              capability := .unsupported
              phase := .unsupported
              error := .backendUnsupported } })
    | .satisfiedWithoutMutation =>
      return ([],
        { self with
          status :=
            { self.status with
              capability := .satisfiedWithoutMutation
              phase := .satisfied
              error := .none
              mutated := false } })
    | .mutable =>
      let self :=
        { self with status := { self.status with capability := .mutable } }
      self.attemptMutation evidence

/-- The error text and the transaction behind an attempt; the status that is
returned is that of the transaction. -/
def attempt (endpoints : List AudioRenderEndpoint) : Route (ByteString × RouteTransaction) := do
  let backendKind ← perform .kind
  let self :=
    { self with status := { self.status with backendKind, rollbackVerified := false } }
  match validateRequest self.request endpoints with
  | some (error, message) =>
    return (message, { self with status := { self.status with error, phase := .failed } })
  | none =>
    let observed ← self.observeEvidence
    let self :=
      { self with status := { self.status with evidence := observed.evidence } }
    match observed.failure with
    | some (error, message) =>
      return (message, { self with status := { self.status with error, phase := .failed } })
    | none => self.attemptObserved observed.evidence

def rollback (endpoints : List AudioRenderEndpoint) : Route (ByteString × RouteTransaction) := do
  match validateRequest self.request endpoints with
  | some (error, message) =>
    return (message, { self with status := { self.status with error, phase := .recoveryRequired } })
  | none =>
    if !self.status.mutated then
      return ([], { self with status := { self.status with phase := .ready, error := .none } })
    else
      match self.before with
      | none =>
        return ("audio rollback state was not captured",
          { self with
            status :=
              { self.status with
                phase := .recoveryRequired
                error := .rollbackFailed } })
      | some before =>
        let (restored, rollbackError) ← perform (.rollback before)
        if !restored then
          return (rollbackError,
            { self with
              status :=
                { self.status with
                  phase := .recoveryRequired
                  error := .rollbackFailed } })
        else
          let (evidence, failure) ← self.verifyRollback
          match failure with
          | some message =>
            return (message,
              { self with
                status :=
                  { self.status with
                    phase := .recoveryRequired
                    error := .rollbackFailed
                    evidence } })
          | none =>
            return ([],
              { self with
                before := none, beforeEvidence := none
                status :=
                  { self.status with
                    phase := .ready
                    error := .none
                    evidence
                    mutated := false
                    rollbackVerified := true } })

end RouteTransaction

end HydraSeat.Audio
