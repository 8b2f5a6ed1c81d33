import HydraSeat.Foundation.Command
import HydraSeat.Installer.ArtifactTrust

/-!
# The privilege broker

A session executes the requests of one authenticated channel.  What it asks
the artifact authority and the mutation executor are calls; their answers are
not restricted.
-/

namespace HydraSeat.Privilege

open Foundation
open Foundation.Command Trust

variable (request : BrokerRequest)

def kPrivilegeBrokerSchemaVersion : UInt32 := 1

def kMaximumBrokerIdentityBytes : Nat := 184

def kMaximumBrokerRequestIdBytes : Nat := 96

/-- A request comes from outside, so it may have any value of the byte. -/
inductive BrokerResource where
  | runtimeService | watchdogService | recoveryTool
  | undeclared (value : UInt8)

inductive BrokerOperation where
  | install | repair | remove
  | undeclared (value : UInt8)
  deriving DecidableEq

structure BrokerRequest where
  schemaVersion : UInt32 := kPrivilegeBrokerSchemaVersion
  requestId : ByteString := []
  (channelNonce sequence : UInt64 := 0)
  resource : BrokerResource := .runtimeService
  operation : BrokerOperation := .install
  artifactManifest : Option ArtifactManifest := none
  artifactObservation : Option ArtifactObservation := none

structure AuthenticatedPeer where
  (callerUserSid brokerOwnerUserSid : ByteString := [])
  channelNonce : UInt64 := 0
  brokerProcessElevated : Bool := false

structure BrokerPolicy where
  artifactTrust : TrustPolicy := {}
  deriving DecidableEq

inductive BrokerCode where
  | success | invalidSchema | invalidRequestIdentity | invalidPeerIdentity | brokerNotElevated
  | wrongUser | wrongChannel | replayOrOutOfOrder | invalidResource | invalidOperation
  | unexpectedArtifact | missingArtifact | artifactIdentityMismatch | artifactClassMismatch
  | artifactCapabilityMismatch | artifactTrustRejected | captureFailed | applyFailedRolledBack
  | verifyFailedRolledBack | rollbackFailed | rollbackVerifyFailed | artifactAuthorityUnavailable
  | artifactAuthorityMismatch
  deriving DecidableEq

structure BrokerDiagnostic where
  code : BrokerCode := .success
  message : String := ""

def BrokerDiagnostic.succeeded (diagnostic : BrokerDiagnostic) : Bool := diagnostic.code = .success

def fail (code : BrokerCode) (message : String) : BrokerDiagnostic where
  code
  message

inductive BrokerReceiptStatus where
  | applied | removed | rolledBack | recoveryRequired

structure BrokerReceipt where
  requestId : ByteString := []
  sequence : UInt64 := 0
  resource : BrokerResource := .runtimeService
  operation : BrokerOperation := .install
  status : BrokerReceiptStatus := .applied
  (rollbackAttempted rollbackVerified : Bool := false)

/-- The bytes are those of `Trust.validId`. -/
def validOpaqueIdentity (value : ByteString) (maximum : Nat) : Bool :=
  spelled maximum
    (fun byte => alphanumeric byte || joining byte || byte == 58 || byte == 64 || byte == 43)
    value

def validResource : BrokerResource → Bool
  | .runtimeService | .watchdogService | .recoveryTool => true
  | .undeclared _ => false

def validOperation : BrokerOperation → Bool
  | .install | .repair | .remove => true
  | .undeclared _ => false

structure ResourceContract where
  (artifactId requiredCapability : ByteString := [])

def resourceContract : BrokerResource → ResourceContract
  | .runtimeService =>
    { artifactId := "hydraseat-runtime-service"
      requiredCapability := "runtime-service" }
  | .watchdogService =>
    { artifactId := "hydraseat-watchdog-service"
      requiredCapability := "watchdog-service" }
  | .recoveryTool =>
    { artifactId := "hydraseat-recovery-tool"
      requiredCapability := "recovery-tool" }
  | .undeclared _ => {}

/-- What `validateArtifactForResource` asks of a manifest and an
observation. -/
def validateArtifact (resource : BrokerResource) (manifest : ArtifactManifest)
    (observation : ArtifactObservation) (policy : BrokerPolicy) :
    BrokerDiagnostic :=
  let contract := resourceContract resource
  if manifest.artifactId ≠ contract.artifactId then
    fail .artifactIdentityMismatch
      ("artifact identity does not match the broker-owned resource " ++ "contract")
  else if manifest.artifactClass ≠ .executable then
    fail .artifactClassMismatch
      ("privileged v1 owned component install accepts only executable " ++ "artifacts")
  else if !manifest.requiresInstall || !manifest.requiresRecoveryPlan then
    fail .artifactTrustRejected
      ("privileged installed artifact must declare install and recovery " ++ "requirements")
  else if !manifest.capabilityScope.contains contract.requiredCapability ||
      manifest.capabilityScope.length != 1 then
    fail .artifactCapabilityMismatch
      ("artifact capability scope does not exactly match the broker " ++ "resource")
  else
    let trustEvaluation := evaluateArtifact manifest observation policy.artifactTrust
    if trustEvaluation.decision ≠ .accept then
      fail .artifactTrustRejected
        ("artifact trust rejected: " ++ trustCodeName trustEvaluation.code)
    else
      {}

def validateArtifactForResource (policy : BrokerPolicy) : BrokerDiagnostic :=
  if request.operation = .remove then
    if request.artifactManifest.isSome || request.artifactObservation.isSome then
      fail .unexpectedArtifact "remove request cannot carry caller-selected artifact metadata"
    else
      {}
  else
    match request.artifactManifest, request.artifactObservation with
    | some manifest, some observation =>
      validateArtifact request.resource manifest observation policy
    | _, _ => fail .missingArtifact "install/repair requires one exact trusted artifact observation"

structure PrivilegeBrokerSession where
  policy : BrokerPolicy := {}
  nextSequence : UInt64 := 1
  deriving DecidableEq

def PrivilegeBrokerSession.authorize (session : PrivilegeBrokerSession)
    (request : BrokerRequest) (peer : AuthenticatedPeer) :
    BrokerDiagnostic :=
  if request.schemaVersion ≠ kPrivilegeBrokerSchemaVersion then
    fail .invalidSchema "unsupported privilege broker request schema"
  else if
      !validOpaqueIdentity request.requestId kMaximumBrokerRequestIdBytes ||
        request.channelNonce == 0 || request.sequence == 0 then
    fail .invalidRequestIdentity "request identity/correlation fields are invalid or unbounded"
  else if
      !validOpaqueIdentity peer.callerUserSid kMaximumBrokerIdentityBytes ||
        !validOpaqueIdentity peer.brokerOwnerUserSid kMaximumBrokerIdentityBytes ||
        peer.channelNonce == 0 then
    fail .invalidPeerIdentity "authenticated peer identity/correlation is invalid"
  else if !peer.brokerProcessElevated then
    fail .brokerNotElevated "privilege request cannot run in a non-elevated broker process"
  else if peer.callerUserSid ≠ peer.brokerOwnerUserSid then
    fail .wrongUser "authenticated caller is not the broker-owning user"
  else if request.channelNonce ≠ peer.channelNonce then
    fail .wrongChannel ("request correlation does not match the authenticated broker " ++ "channel")
  else if request.sequence ≠ session.nextSequence then
    fail .replayOrOutOfOrder "request sequence is stale, replayed, or out of order"
  else if !validResource request.resource then
    fail .invalidResource "request resource is outside the compiled broker allowlist"
  else if !validOperation request.operation then
    fail .invalidOperation "request operation is outside the compiled broker allowlist"
  else validateArtifactForResource request session.policy

/-- The calls of `PrivilegedArtifactAuthority` and of
`PrivilegedMutationExecutor`.  A call that answers through references
answers with their values when it returns true. -/
inductive BrokerCall where
  | resolve (resource : BrokerResource)
  | capture (resource : BrokerResource)
  | apply (resource : BrokerResource) (operation : BrokerOperation)
      (manifest : Option ArtifactManifest)
      (observation : Option ArtifactObservation)
      (snapshotId : ByteString)
  | verify (resource : BrokerResource) (operation : BrokerOperation)
  | rollback (resource : BrokerResource) (snapshotId : ByteString)
  | verifyRollback (resource : BrokerResource) (snapshotId : ByteString)

abbrev BrokerAnswer : BrokerCall → Type
  | .resolve _ => Option (ArtifactManifest × ArtifactObservation)
  | .capture _ => Option ByteString
  | _ => Bool

abbrev brokerCalls : Interface := ⟨BrokerCall, BrokerAnswer⟩

abbrev Broker := Command brokerCalls

def perform (request : BrokerCall) : Broker (BrokerAnswer request) := @ask brokerCalls request

/-- A manifest and an observation that the executor is called with. -/
abbrev Artifact := Option ArtifactManifest × Option ArtifactObservation

/-- The artifact of the broker for a request, or why there is none. -/
def authoritativeArtifact (policy : BrokerPolicy) (request : BrokerRequest) :
    Broker (Except BrokerDiagnostic Artifact) := do
  if request.operation = .remove then
    return .ok (none, none)
  else
    match ← perform (.resolve request.resource) with
    | none =>
      return .error
        (fail .artifactAuthorityUnavailable
          ("broker-owned artifact manifest or file observation is " ++ "unavailable"))
    | some (resolvedManifest, resolvedObservation) =>
      let authoritativeRequest :=
        { request with
          artifactManifest := some resolvedManifest
          artifactObservation := some resolvedObservation }
      let authoritativeTrust := validateArtifactForResource authoritativeRequest policy
      if !authoritativeTrust.succeeded then
        return .error authoritativeTrust
      else if
          request.artifactManifest ≠ some resolvedManifest ∨
            request.artifactObservation ≠ some resolvedObservation then
        return .error
          (fail .artifactAuthorityMismatch
            ("caller artifact claim does not exactly match broker-owned " ++ "evidence"))
      else
        return .ok (some resolvedManifest, some resolvedObservation)

def rollbackAfterFailure (snapshotId : ByteString)
    (candidate : BrokerReceipt) (appliedFailure : BrokerCode) :
    Broker (BrokerDiagnostic × BrokerReceipt) := do
  let candidate := { candidate with rollbackAttempted := true }
  match ← perform (.rollback request.resource snapshotId) with
  | false =>
    return (fail .rollbackFailed "privileged mutation failed and broker-owned rollback failed",
      { candidate with status := .recoveryRequired, rollbackVerified := false })
  | true =>
    match ← perform (.verifyRollback request.resource snapshotId) with
    | false =>
      return (fail .rollbackVerifyFailed
          ("privileged rollback ran but post-rollback verification " ++ "failed"),
        { candidate with status := .recoveryRequired, rollbackVerified := false })
    | true =>
      return (fail appliedFailure
          (if appliedFailure = .applyFailedRolledBack then
            "privileged mutation apply failed and prior state was " ++ "verified restored"
          else
            "privileged mutation verification failed and prior state " ++ "was verified restored"),
        { candidate with status := .rolledBack, rollbackVerified := true })

/-- The receipt that is filled in while a request is executed. -/
def candidateReceipt : BrokerReceipt where
  requestId := request.requestId
  sequence := request.sequence
  resource := request.resource
  operation := request.operation

/-- The steps of `execute` behind the capture. -/
def mutate (artifact : Artifact)
    (snapshotId : ByteString) : Broker (BrokerDiagnostic × BrokerReceipt) := do
  let candidate := candidateReceipt request
  match ← perform (.apply request.resource request.operation artifact.1 artifact.2 snapshotId) with
  | false => rollbackAfterFailure request snapshotId candidate .applyFailedRolledBack
  | true =>
    match ← perform (.verify request.resource request.operation) with
    | false => rollbackAfterFailure request snapshotId candidate .verifyFailedRolledBack
    | true =>
      return ({},
        { candidate with
          status :=
            if request.operation = .remove then .removed else .applied })

def captureFailed : BrokerDiagnostic :=
  fail .captureFailed "broker-owned mutation state could not be captured before apply"

/-- The diagnostic, the receipt of the caller and the session behind a
request.  The sequence number is consumed between capture and apply. -/
def PrivilegeBrokerSession.execute (session : PrivilegeBrokerSession)
    (request : BrokerRequest) (peer : AuthenticatedPeer)
    (receipt : BrokerReceipt) :
    Broker (BrokerDiagnostic × BrokerReceipt × PrivilegeBrokerSession) := do
  let authorized := session.authorize request peer
  if !authorized.succeeded then
    return (authorized, receipt, session)
  else
    match ← authoritativeArtifact session.policy request with
    | .error diagnostic => return (diagnostic, receipt, session)
    | .ok artifact =>
      match ← perform (.capture request.resource) with
      | none => return (captureFailed, receipt, session)
      | some snapshotId =>
        if !validOpaqueIdentity snapshotId kMaximumBrokerRequestIdBytes then
          return (captureFailed, receipt, session)
        else
          let session :=
            { session with nextSequence := session.nextSequence + 1 }
          let (diagnostic, receipt) ← mutate request artifact snapshotId
          return (diagnostic, receipt, session)

end HydraSeat.Privilege
