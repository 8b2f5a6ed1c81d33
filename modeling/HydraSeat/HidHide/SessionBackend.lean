import HydraSeat.HidHide.Platform

/-!
# The HidHide session transaction

A transaction is the state of one object.  Its operations call the platform,
the clock and the file hashes of the evidence; every call is one step.
-/

namespace HydraSeat.HidHide

open Foundation
open Foundation.Command

variable (evidence : Phase3HardwareAcceptanceEvidence) (request : HidHideSessionRequest)

inductive HidHideSessionPhase where
  | idle | prepared | active | rollingBack | recoveryRequired
  deriving DecidableEq

inductive HidHideSessionResultCode where
  | ok | alreadySatisfied | invalidRequest | unsupportedState | physicalGateRequired
  | nativeMutationDisabled | backendFailure | verificationFailed | recoveryRequired | expired
  | recoveryNotArmed
  deriving DecidableEq

def kHidHideSessionMaxRequestedDevices : Nat := 16

def kHidHideSessionMaxRequestedApplications : Nat := 8

def kHidHideSessionMaxIdentifierChars : Nat := 1024

def kHidHideSessionMinExpiryMs : UInt32 := 1000

def kHidHideSessionMaxExpiryMs : UInt32 := 60000

def kHidHideSessionNoSpareInputMaxExpiryMs : UInt32 := 10000

def kPhase3HardwareEvidenceValiditySeconds : UInt64 := 86400

def kPhase3HardwareEvidenceMaxClockSkewSeconds : UInt64 := 300

def kPhase3ManifestMaxBytes : Nat := 1048576

def kPhase3ProfileMaxBytes : Nat := 4194304

def kPhase3TraceMaxBytes : Nat := 536870912

def kMaximumDiagnosticBytes : Nat := 2048

def boundedDiagnostic (value : ByteString) : ByteString := value.take kMaximumDiagnosticBytes

def boundedText (value : WideString) : Bool :=
  !value.isEmpty && value.length ≤ kHidHideSessionMaxIdentifierChars && !value.contains 0

/-- The identity of a device in the native scope, as far as it is read. -/
structure Phase3SeatDeviceIdentity where
  deviceInstanceId : WideString
  seatId : UInt32
  deriving DecidableEq

structure ArtifactBinding where
  path : WideString
  sha256 : ByteString
  deriving DecidableEq

structure Phase3HardwareAcceptanceEvidence where
  manifestPath : WideString
  manifestSha256 : ByteString
  profilePath : WideString
  profileSha256 : ByteString
  artifacts : List ArtifactBinding
  nativeScope : List Phase3SeatDeviceIdentity
  (manualVerdictUnixSeconds validUntilUnixSeconds : UInt64)
  deriving DecidableEq

structure HidHideSessionRequest where
  (deviceInstanceIds allowedApplications : List WideString := [])
  (replacementPathVerified recoveryReady spareRecoveryInputPresent : Bool := false)
  physicalAcceptanceEvidence : Option Phase3HardwareAcceptanceEvidence := none
  physicalEvidenceSeatId : UInt32 := 0
  nativeMutationApproved : Bool := false
  expiryMilliseconds : UInt32 := 0
  generation : UInt64 := 0
  deriving DecidableEq

structure HidHideSessionPlan where
  request : HidHideSessionRequest
  (before applied : HidHideSessionSnapshot)
  (preparedAtMilliseconds expiryAtMilliseconds : UInt64 := 0)
  deriving DecidableEq

structure HidHideSessionResult where
  code : HidHideSessionResultCode := .ok
  phase : HidHideSessionPhase := .idle
  plan : Option HidHideSessionPlan := none
  diagnostic : ByteString := []

def HidHideSessionResult.succeeded (result : HidHideSessionResult) : Bool :=
  result.code == .ok || result.code == .alreadySatisfied || result.code == .expired

/-- The window of the evidence at a time. -/
def validateEvidenceWindow (resolvedNow : UInt64) : Except ByteString Unit :=
  if resolvedNow = 0 then .error "system wall-clock time is unavailable"
  else if evidence.manualVerdictUnixSeconds = 0 ∨ evidence.validUntilUnixSeconds = 0 ∨
      0xFFFFFFFFFFFFFFFF - kPhase3HardwareEvidenceValiditySeconds <
        evidence.manualVerdictUnixSeconds ∨
      evidence.validUntilUnixSeconds ≠
        evidence.manualVerdictUnixSeconds + kPhase3HardwareEvidenceValiditySeconds then
    .error "typed P3-HW evidence contains an invalid validity window"
  else if resolvedNow + kPhase3HardwareEvidenceMaxClockSkewSeconds <
        evidence.manualVerdictUnixSeconds ∨
      evidence.validUntilUnixSeconds ≤ resolvedNow then
    .error "typed P3-HW evidence is stale or future-dated"
  else if evidence.nativeScope.length < 4 ∨
      kHidHideSessionMaxRequestedDevices < evidence.nativeScope.length then
    .error "typed P3-HW evidence contains an invalid native device scope"
  else .ok ()

/-- One comparison with `sha256File`. -/
def checkHash (path : WideString) (maximumBytes : Nat) (label expected : ByteString)
    (changed : String) : SessionProgram (Except ByteString Unit) := do
  match ← callSession (.sha256File path maximumBytes label) with
  | .hash digest =>
    if digest = expected then
      return .ok ()
    else
      return .error (bytesOf changed)
  | .evidenceError what => return .error what
  | .otherException what =>
    return .error ("P3-HW bound evidence revalidation failed: " ++ what)

def checkArtifacts : List ArtifactBinding → SessionProgram (Except ByteString Unit)
  | [] => return .ok ()
  | artifact :: artifacts => do
      match ← checkHash artifact.path kPhase3TraceMaxBytes "P3-HW bound artifact" artifact.sha256
          "P3-HW bound artifact changed after typed evidence was loaded" with
      | .error text => return .error text
      | .ok () => checkArtifacts artifacts

def checkHashes : SessionProgram (Except ByteString Unit) := do
  match ← checkHash evidence.manifestPath kPhase3ManifestMaxBytes
      "P3-HW manifest" evidence.manifestSha256
      "P3-HW manifest changed after typed evidence was loaded" with
  | .error text => return .error text
  | .ok () =>
    match ← checkHash evidence.profilePath kPhase3ProfileMaxBytes
        "P3-HW profile" evidence.profileSha256
        "P3-HW profile changed after typed evidence was loaded" with
    | .error text => return .error text
    | .ok () => checkArtifacts evidence.artifacts

structure ScopeTexts where
  (expectedDuplicate requestedInvalid requestedDuplicate mismatch : String)

/-- The requested devices are exactly the expected ones. -/
def checkScope (texts : ScopeTexts) (scope requestedIds : List WideString) :
    Except ByteString Unit :=
  let expected := sortStrings (scope.map canonicalizeInstanceId)
  if ¬ expected.Nodup then .error (bytesOf texts.expectedDuplicate)
  else if !requestedIds.all boundedText then .error (bytesOf texts.requestedInvalid)
  else
    let requested := sortStrings (requestedIds.map canonicalizeInstanceId)
    if ¬ requested.Nodup then .error (bytesOf texts.requestedDuplicate)
    else if requested ≠ expected then .error (bytesOf texts.mismatch)
    else .ok ()

def deviceScopeTexts : ScopeTexts where
  expectedDuplicate := "typed P3-HW evidence contains duplicate native instance IDs"
  requestedInvalid := "requested HidHide device identity is invalid"
  requestedDuplicate := "requested HidHide device identities are not unique"
  mismatch := "requested HidHide device scope does not exactly match typed P3-HW native scope"

def seatScopeTexts : ScopeTexts where
  expectedDuplicate := "typed P3-HW Seat scope contains duplicate native instance IDs"
  requestedInvalid := "requested Seat HidHide device identity is invalid"
  requestedDuplicate := "requested Seat HidHide device identities are not unique"
  mismatch :=
    "requested HidHide device scope does not exactly match the typed P3-HW native scope for this Seat"

/-- `fail` of the two validations. -/
def failBounded : Except ByteString Unit → Except ByteString Unit
  | .ok () => .ok ()
  | .error text => .error (boundedDiagnostic text)

/-- With `nowUnixSeconds` zero, as every call in this model has it. -/
def validatePhase3HardwareAcceptanceEvidenceForDevices
    (requestedDeviceInstanceIds : List WideString) :
    SessionProgram (Except ByteString Unit) := do
  let resolvedNow ← callSession .currentUnixSeconds
  match validateEvidenceWindow evidence resolvedNow with
  | .error text => return failBounded (.error text)
  | .ok () =>
    match ← checkHashes evidence with
    | .error text => return failBounded (.error text)
    | .ok () =>
      return failBounded
        (checkScope deviceScopeTexts (evidence.nativeScope.map (·.deviceInstanceId))
          requestedDeviceInstanceIds)

def validatePhase3HardwareAcceptanceEvidenceForSeatDevices (seatId : UInt32)
    (requestedDeviceInstanceIds : List WideString) :
    SessionProgram (Except ByteString Unit) := do
  if seatId = 0 then
    return .error "typed P3-HW Seat-scoped validation requires a nonzero Seat ID"
  else
    match ← validatePhase3HardwareAcceptanceEvidenceForDevices evidence
        (evidence.nativeScope.map (·.deviceInstanceId)) with
    | .error fullError =>
      return failBounded (.error ("typed P3-HW full evidence revalidation failed: " ++ fullError))
    | .ok () =>
      let expected :=
        evidence.nativeScope.filterMap fun item =>
          if item.seatId = seatId then some item.deviceInstanceId
          else none
      if expected.isEmpty then
        return .error "typed P3-HW evidence contains no native devices for this Seat"
      else
        return failBounded (checkScope seatScopeTexts expected requestedDeviceInstanceIds)

/-- Whichever validation the Seat of a request calls for. -/
def authorizeEvidence (evidence : Phase3HardwareAcceptanceEvidence) :
    SessionProgram (Except ByteString Unit) :=
  if request.physicalEvidenceSeatId = 0 then
    validatePhase3HardwareAcceptanceEvidenceForDevices evidence request.deviceInstanceIds
  else
    validatePhase3HardwareAcceptanceEvidenceForSeatDevices evidence
      request.physicalEvidenceSeatId request.deviceInstanceIds

/-- The part of `validateHidHideSessionRequest` before the evidence. -/
def validateRequestFields : Except ByteString Unit :=
  if request.generation = 0 then .error "HidHide session generation must be nonzero"
  else if !request.replacementPathVerified || !request.recoveryReady then
    .error
      (bytesOf
        "replacement input path and independent recovery must be verified before session cloaking")
  else if request.deviceInstanceIds.isEmpty ||
      kHidHideSessionMaxRequestedDevices < request.deviceInstanceIds.length then
    .error "HidHide session requires between one and sixteen explicit device instance IDs"
  else if request.allowedApplications.isEmpty ||
      kHidHideSessionMaxRequestedApplications < request.allowedApplications.length then
    .error "HidHide session requires between one and eight explicit allowed applications"
  else if !request.deviceInstanceIds.all boundedText then
    .error "HidHide device instance IDs must be nonempty and bounded"
  else if !request.allowedApplications.all boundedText then
    .error "HidHide allowed application paths must be nonempty and bounded"
  else if (normalizedUnique request.deviceInstanceIds false).length ≠
      request.deviceInstanceIds.length then
    .error "HidHide session device instance IDs must be unique"
  else if (normalizedUnique request.allowedApplications true).length ≠
      request.allowedApplications.length then
    .error "HidHide session allowed application paths must be unique"
  else .ok ()

/-- The part of `validateHidHideSessionRequest` behind the evidence. -/
def validateRequestExpiry : Except ByteString Unit :=
  if request.expiryMilliseconds < kHidHideSessionMinExpiryMs ∨
      kHidHideSessionMaxExpiryMs < request.expiryMilliseconds then
    .error "HidHide session expiry must be between one and sixty seconds"
  else if !request.spareRecoveryInputPresent ∧
      kHidHideSessionNoSpareInputMaxExpiryMs < request.expiryMilliseconds then
    .error "without a spare recovery input, HidHide session expiry must not exceed ten seconds"
  else .ok ()

def validateHidHideSessionRequest : SessionProgram (Except ByteString Unit) := do
  match validateRequestFields request with
  | .error text => return .error text
  | .ok () =>
    match request.physicalAcceptanceEvidence with
    | none => return validateRequestExpiry request
    | some evidence =>
      match ← authorizeEvidence request evidence with
      | .error text =>
        return .error
          (boundedDiagnostic
            (bytesOf "typed P3-HW physical evidence does not authorize this HidHide request: " ++
              text))
      | .ok () => return validateRequestExpiry request

def makeHidHideSessionAppliedState
    (before : HidHideSessionSnapshot) (request : HidHideSessionRequest) :
    HidHideSessionSnapshot :=
  let applied := normalizedSnapshot before
  { applied with
    active := true
    allowedApplications := mergeUnique applied.allowedApplications request.allowedApplications
      true }

structure HidHideSessionTransaction where
  /-- `platform_` points to a platform. -/
  platform : Bool := true
  phase : HidHideSessionPhase := .idle
  plan : Option HidHideSessionPlan := none
  sessionEntriesActive : Bool := false
  deriving DecidableEq

/-- What an operation returns, and the transaction behind it. -/
abbrev Outcome := HidHideSessionResult × HidHideSessionTransaction

namespace HidHideSessionTransaction

variable (self : HidHideSessionTransaction) (plan : HidHideSessionPlan)
variable (code : HidHideSessionResultCode) (diagnostic : ByteString)

def result : HidHideSessionResult where
  code
  phase := self.phase
  plan := self.plan
  diagnostic := boundedDiagnostic diagnostic

def report : Outcome := (self.result code diagnostic, self)

/-- The plan of `prepare` for a state that was read. -/
def makePlan (request : HidHideSessionRequest) (before : HidHideSessionSnapshot)
    (nowMilliseconds : UInt64) : HidHideSessionPlan :=
  let request :=
    { request with
      deviceInstanceIds := normalizedUnique request.deviceInstanceIds false
      allowedApplications := normalizedUnique request.allowedApplications true }
  { request
    before
    applied := makeHidHideSessionAppliedState before request
    preparedAtMilliseconds := nowMilliseconds
    expiryAtMilliseconds := nowMilliseconds + request.expiryMilliseconds.toUInt64 }

def prepare (request : HidHideSessionRequest)
    (nowMilliseconds : UInt64) : SessionProgram Outcome := do
  if self.phase = .recoveryRequired then
    return self.report .recoveryRequired "HidHide session is recovery-required"
  else if self.phase = .active then
    return self.report .unsupportedState "active HidHide session must roll back before replanning"
  else
    match ← validateHidHideSessionRequest request with
    | .error text => return self.report .invalidRequest text
    | .ok () =>
      if !self.platform then
        return self.report .backendFailure "HidHide session platform is unavailable"
      else
        let read ← callSession .readState
        if !read.succeeded then
          return self.report .backendFailure
            (boundedDiagnostic ("HidHide state snapshot failed: " ++ read.error))
        else
          let before := normalizedSnapshot read.snapshot
          if before.inverseWhitelist then
            return self.report .unsupportedState
              (bytesOf
                "inverse HidHide application-list mode is not supported by the guarded v1 transaction")
          else if 0xFFFFFFFFFFFFFFFF - nowMilliseconds < request.expiryMilliseconds.toUInt64 then
            return self.report .invalidRequest
              "HidHide session expiry would overflow the monotonic deadline"
          else
            let self :=
              { self with
                plan := some (makePlan request before nowMilliseconds), phase := .prepared }
            return self.report .ok "HidHide session plan prepared without mutation"

def clearFailure (sessionCleared : Bool) (error : ByteString) : ByteString :=
  if sessionCleared then []
  else "; session blacklist clear failed: " ++ error

def requireRecovery : Outcome :=
  { self with phase := .recoveryRequired }.report .recoveryRequired
    diagnostic

/-- The end of `rollbackInternal` when the prior state was found or put
back. -/
def becomeIdle (expired : Bool) (code : HidHideSessionResultCode) (expiredText text : String) :
    Outcome :=
  { self with plan := none, phase := .idle }.report
    (if expired then .expired else code)
    (bytesOf (if expired then expiredText else text))

/-- `rollbackInternal` behind its write of the prior state. -/
def verifyRestored (expired sessionCleared : Bool) (sessionClearError : ByteString) :
    SessionProgram Outcome := do
  let restored ← callSession .readState
  if !restored.succeeded || !sameSnapshot restored.snapshot plan.before then
    return self.requireRecovery
      (bytesOf "HidHide snapshot restore verification failed" ++
        (if restored.error.isEmpty then []
          else bytesOf ": " ++ restored.error) ++
        clearFailure sessionCleared sessionClearError)
  else if !sessionCleared then
    return self.requireRecovery
      ("persistent state restored but session blacklist clear failed: " ++ sessionClearError)
  else
    return self.becomeIdle expired .ok
      "HidHide session expiry cleared process-lifetime entries and restored prior state"
      "HidHide session cleared process-lifetime entries and restored prior state"

/-- `rollbackInternal` behind the clearing of the session blacklist. -/
def restoreState (expired sessionCleared : Bool) (sessionClearError : ByteString) :
    SessionProgram Outcome := do
  let read ← callSession .readState
  if !read.succeeded then
    return self.requireRecovery
      ("HidHide rollback preflight read failed: " ++ read.error ++
        clearFailure sessionCleared sessionClearError)
  else
    let current := normalizedSnapshot read.snapshot
    if sameSnapshot current plan.before then
      if !sessionCleared then
        return self.requireRecovery
          ("persistent state is restored but session blacklist clear failed: " ++ sessionClearError)
      else
        return self.becomeIdle expired .alreadySatisfied
          "HidHide session expired; prior state was already restored"
          "HidHide prior state is already restored"
    else if !sameSnapshot current plan.applied then
      return self.requireRecovery
        (bytesOf
            "HidHide persistent state changed outside the owned transaction; stale snapshot restore refused" ++
          clearFailure sessionCleared sessionClearError)
    else
      let written ← callSession (.writeState plan.before)
      if !written.succeeded then
        return self.requireRecovery
          ("HidHide snapshot restore failed: " ++ written.error ++
            clearFailure sessionCleared sessionClearError)
      else verifyRestored self plan expired sessionCleared sessionClearError

/-- `rollbackInternal` of a plan that may have changed something. -/
def cleanUp (expired : Bool) : SessionProgram Outcome := do
  let self := { self with phase := .rollingBack }
  if self.sessionEntriesActive then
    let cleared ← callSession .clearSessionBlacklist
    restoreState { self with sessionEntriesActive := !cleared.succeeded } plan expired
      cleared.succeeded cleared.error
  else restoreState self plan expired true []

def rollbackInternal (expired : Bool) : SessionProgram Outcome := do
  match self.plan with
  | none =>
    return self.becomeIdle expired .alreadySatisfied "HidHide session already expired and clean"
      "HidHide session is already clean"
  | some plan =>
    if self.phase = .recoveryRequired then
      return self.report .recoveryRequired "HidHide cleanup is already recovery-required"
    else if self.phase = .prepared then
      return self.becomeIdle expired .ok "prepared HidHide session expired without mutation"
        "prepared HidHide session cancelled without mutation"
    else if !self.platform then
      return self.requireRecovery "HidHide cleanup lost its platform owner"
    else self.cleanUp plan expired

/-- A failed activation: clean up, and report the failure if that
succeeds. -/
def abandon : SessionProgram Outcome := do
  let (cleanup, self) ←
    { self with phase := .rollingBack }.rollbackInternal false
  if !cleanup.succeeded then
    return (cleanup, self)
  else
    return self.report code (boundedDiagnostic diagnostic)

/-- `activate` behind its last check. -/
def apply : SessionProgram Outcome := do
  let written ← callSession (.writeState plan.applied)
  if !written.succeeded then
    self.abandon .backendFailure
      ("HidHide session apply failed and prior state was restored: " ++ written.error)
  else
    let observed ← callSession .readState
    if !observed.succeeded then
      self.abandon .verificationFailed
        ("HidHide apply verification read failed: " ++ observed.error)
    else if !sameSnapshot observed.snapshot plan.applied then
      self.abandon .verificationFailed
        "HidHide persistent state did not match the exact prepared session plan"
    else
      let self := { self with sessionEntriesActive := true }
      let added ← callSession (.addSessionBlacklist plan.request.deviceInstanceIds)
      if !added.succeeded then
        self.abandon .backendFailure
          ("HidHide session blacklist apply failed and prior state was verified clean: " ++
            added.error)
      else
        return { self with phase := .active }.report .ok
          "HidHide persistent state and process-lifetime session blacklist applied"

/-- `activate` behind the checks of the evidence. -/
def activateApproved : SessionProgram Outcome := do
  if !plan.request.nativeMutationApproved then
    return self.report .nativeMutationDisabled
      "native HidHide mutation requires explicit high-risk approval"
  else if !(← callSession .mutationSupported) then
    return self.report .nativeMutationDisabled
      "selected HidHide platform exposes no native mutation capability"
  else if !(← callSession .sessionBlacklistSupported) then
    return self.report .unsupportedState
      "verified HidHide process-lifetime session blacklist support is required"
  else self.apply plan

def activate (nowMilliseconds : UInt64) : SessionProgram Outcome := do
  if self.phase = .active then
    return self.report .alreadySatisfied "HidHide session is already active"
  else if self.phase = .recoveryRequired then
    return self.report .recoveryRequired "HidHide session requires recovery before activation"
  else
    match self.plan with
    | none =>
      return self.report .unsupportedState "HidHide activation requires a prepared plan"
    | some plan =>
      if self.phase ≠ .prepared then
        return self.report .unsupportedState "HidHide activation requires a prepared plan"
      else if plan.expiryAtMilliseconds ≤ nowMilliseconds then
        return { self with phase := .idle, plan := none }.report .expired
          "prepared HidHide session expired before activation"
      else
        match plan.request.physicalAcceptanceEvidence with
        | none =>
          return self.report .physicalGateRequired
            (bytesOf "native HidHide mutation requires typed P3-HW Gate A/B/C physical evidence")
        | some evidence =>
          match ← authorizeEvidence plan.request evidence with
          | .error text =>
            return self.report .physicalGateRequired
              (boundedDiagnostic ("typed P3-HW physical evidence is no longer valid: " ++ text))
          | .ok () => self.activateApproved plan

def expireIfNeeded (nowMilliseconds : UInt64) : SessionProgram Outcome := do
  match self.plan with
  | none =>
    return self.report .alreadySatisfied "no active HidHide session requires expiry cleanup"
  | some plan =>
    if self.phase ≠ .active then
      return self.report .alreadySatisfied "no active HidHide session requires expiry cleanup"
    else if nowMilliseconds < plan.expiryAtMilliseconds then
      return self.report .alreadySatisfied "HidHide session expiry has not elapsed"
    else self.rollbackInternal true

def rollback : SessionProgram Outcome := self.rollbackInternal false

/-- The destructor.  Nothing is called behind it, but nothing below depends
on that. -/
def destroy : SessionProgram Outcome := do
  if self.phase = .active ∨ self.phase = .prepared then self.rollbackInternal false
  else
    return self.report .ok []

end HidHideSessionTransaction

inductive SessionOperation where
  | prepare (request : HidHideSessionRequest) (nowMilliseconds : UInt64)
  | activate (nowMilliseconds : UInt64)
  | expireIfNeeded (nowMilliseconds : UInt64)
  | rollback
  | destroy

def HidHideSessionTransaction.perform (self : HidHideSessionTransaction) :
    SessionOperation → SessionProgram Outcome
  | .prepare request nowMilliseconds => self.prepare request nowMilliseconds
  | .activate nowMilliseconds => self.activate nowMilliseconds
  | .expireIfNeeded nowMilliseconds => self.expireIfNeeded nowMilliseconds
  | .rollback => self.rollback
  | .destroy => self.destroy

end HydraSeat.HidHide
