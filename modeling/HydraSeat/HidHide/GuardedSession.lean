import HydraSeat.HidHide.RecoveryRecord
import HydraSeat.Watchdog.RollbackRegistry

/-!
# The guarded HidHide session

The store keeps one record file for each resource.  The guarded session
writes the record of a plan before it lets the transaction activate it, and
removes the record when the transaction is idle again.
-/

namespace HydraSeat.HidHide

open Foundation
open Foundation.Command
open Watchdog

inductive HidHideSnapshotReadStatus where
  | success | missing | tooLarge | corrupt | failed

structure HidHideSnapshotReadResult where
  status : HidHideSnapshotReadStatus := .failed
  record : Option HidHideSessionRecoveryRecord := none
  systemError : UInt32 := 0
  diagnostic : ByteString := []

namespace HidHideSessionSnapshotStore

variable (resourceId : UInt64)

/-- The part of `write` behind the temporary file. -/
def publishTemporary : SessionProgram (Except ByteString Unit) := do
  if !(← callSession (.flushTemporary resourceId)) then
    return .error "HidHide snapshot temp file flush failed"
  else
    let replaced ← callSession (.replaceFile resourceId)
    if !replaced.succeeded then
      return .error ("HidHide snapshot atomic replace failed: " ++ replaced.error)
    else
      return .ok ()

def write (record : HidHideSessionRecoveryRecord) : SessionProgram (Except ByteString Unit) := do
  let bytes := encodeHidHideSessionRecoveryRecord record
  if bytes.isEmpty then
    return .error "HidHide snapshot record is invalid"
  else
    let created ← callSession .createDirectories
    if !created.succeeded then
      return .error ("HidHide snapshot directory creation failed: " ++ created.error)
    else
      match ← callSession (.writeTemporary record.resourceId bytes) with
      | .notOpened =>
        return .error "HidHide snapshot temp file could not be opened"
      | .failed =>
        return .error "HidHide snapshot temp file write failed"
      | .written => publishTemporary record.resourceId

def failedRead (status : HidHideSnapshotReadStatus) (systemError : UInt32)
    (diagnostic : ByteString) : HidHideSnapshotReadResult :=
  { status, systemError, diagnostic }

/-- The part of `load` behind its reads. -/
def loadedBytes (bytes : List UInt8) : HidHideSnapshotReadResult :=
  match decodeHidHideSessionRecoveryRecord bytes with
  | .error text => failedRead .corrupt 0 (bytesOf text)
  | .ok record =>
    if record.resourceId ≠ resourceId then
      failedRead .corrupt 0 "HidHide snapshot resource identity mismatch"
    else
      { status := .success, record := some record
        diagnostic := "HidHide snapshot loaded" }

def load : SessionProgram HidHideSnapshotReadResult := do
  if resourceId = 0 then
    return failedRead .corrupt 0 "HidHide snapshot resource ID is zero"
  else
    match ← callSession (.fileSize resourceId) with
    | .missing systemError =>
      return failedRead .missing systemError "HidHide snapshot is missing"
    | .failed systemError =>
      return failedRead .failed systemError "HidHide snapshot size query failed"
    | .size bytes =>
      if kHidHideSnapshotMaxFileBytes < bytes then
        return failedRead .tooLarge 0 "HidHide snapshot exceeds the file-size bound"
      else
        match ← callSession (.readFile resourceId) with
        | .notOpened =>
          return failedRead .failed 0 "HidHide snapshot could not be opened"
        | .incomplete =>
          return failedRead .failed 0 "HidHide snapshot read was incomplete"
        | .bytes content => return loadedBytes resourceId content

/-- The end of `remove`, where the temporary file goes too. -/
def forgetTemporary : SessionProgram (Except ByteString Unit) := do
  let _ ← callSession (.removeTemporary resourceId)
  return .ok ()

def remove : SessionProgram (Except ByteString Unit) := do
  if resourceId = 0 then
    return .error "HidHide snapshot resource ID is zero"
  else
    match ← callSession (.removeFile resourceId) with
    | .failed error =>
      return .error ("HidHide snapshot removal failed: " ++ error)
    | .removed true => forgetTemporary resourceId
    | .removed false =>
      if ← callSession (.fileExists resourceId) then
        return .error "HidHide snapshot could not be removed"
      else forgetTemporary resourceId

end HidHideSessionSnapshotStore

def makeHidHideSessionRollbackAction (actionId activationOrdinal timeoutMilliseconds : UInt32)
    (generation snapshotResourceId : UInt64) : RollbackActionDescriptor where
  actionId
  kind := .restoreSnapshotState
  activationOrdinal
  timeoutMilliseconds
  generation
  resourceId := snapshotResourceId

structure GuardedHidHideSession where
  transaction : HidHideSessionTransaction := {}
  resourceId : UInt64 := 0
  (actionId activationOrdinal rollbackTimeoutMilliseconds : UInt32 := 0)
  rollbackAction : Option RollbackActionDescriptor := none
  recoveryArmed : Bool := false

abbrev GuardedOutcome := HidHideSessionResult × GuardedHidHideSession

namespace GuardedHidHideSession

/-- The identity and the timeout that `prepare` asks for. -/
def validIdentity (self : GuardedHidHideSession) : Bool :=
  !(self.resourceId == 0 || self.actionId == 0 || self.activationOrdinal == 0 ||
    self.rollbackTimeoutMilliseconds < kWatchdogMinActionTimeoutMs ||
    kWatchdogMaxActionTimeoutMs < self.rollbackTimeoutMilliseconds)

/-- The record that `prepare` writes for a plan. -/
def recordOf (self : GuardedHidHideSession) (plan : HidHideSessionPlan) :
    HidHideSessionRecoveryRecord :=
  makeHidHideSessionRecoveryRecord plan self.resourceId

def actionOf (self : GuardedHidHideSession) (plan : HidHideSessionPlan) :
    RollbackActionDescriptor :=
  makeHidHideSessionRollbackAction self.actionId self.activationOrdinal
    self.rollbackTimeoutMilliseconds plan.request.generation self.resourceId

/-- Neither an action nor its confirmation. -/
def disarmed (self : GuardedHidHideSession) : GuardedHidHideSession :=
  { self with rollbackAction := none, recoveryArmed := false }

def ownResult (self : GuardedHidHideSession) (code : HidHideSessionResultCode)
    (diagnostic : ByteString) : HidHideSessionResult where
  code
  phase := self.transaction.phase
  plan := self.transaction.plan
  diagnostic

/-- The part of `prepare` behind a plan. -/
def persist (self : GuardedHidHideSession) (prepared : HidHideSessionResult)
    (plan : HidHideSessionPlan) : SessionProgram GuardedOutcome := do
  match ← HidHideSessionSnapshotStore.write (self.recordOf plan) with
  | .error error =>
    let (_, transaction) ← self.transaction.rollback
    let self := { self with transaction }
    return (self.ownResult .backendFailure
        ("durable HidHide recovery snapshot write failed: " ++ error), self)
  | .ok () =>
    return ({ prepared with
        diagnostic := prepared.diagnostic ++ "; durable recovery snapshot persisted" },
      { self with rollbackAction := some (self.actionOf plan) })

def prepare (self : GuardedHidHideSession) (request : HidHideSessionRequest)
    (nowMilliseconds : UInt64) : SessionProgram GuardedOutcome := do
  if !self.validIdentity then
    return (self.ownResult .invalidRequest
        "guarded HidHide recovery identity or timeout is invalid", self)
  else
    let (prepared, transaction) ← self.transaction.prepare request nowMilliseconds
    let self := { self.disarmed with transaction }
    if !prepared.succeeded then
      return (prepared, self)
    else
      match prepared.plan with
      | none => return (prepared, self)
      | some plan => self.persist prepared plan

def confirmRecoveryArmed (self : GuardedHidHideSession)
    (registeredAction : RollbackActionDescriptor) :
    Except ByteString GuardedHidHideSession :=
  match self.rollbackAction with
  | none => .error "guarded HidHide session has no prepared recovery action"
  | some rollbackAction =>
    if self.transaction.phase ≠ .prepared then
      .error "guarded HidHide session has no prepared recovery action"
    else if registeredAction ≠ rollbackAction then
      .error
        (bytesOf
          "registered watchdog action does not match the exact guarded HidHide recovery action")
    else .ok { self with recoveryArmed := true }

def cleanupRecoveryRecordIfSafe (self : GuardedHidHideSession) (result : HidHideSessionResult) :
    SessionProgram GuardedOutcome := do
  if result.phase ≠ .idle then
    return (result, self)
  else if self.rollbackAction.isSome then
    match ← HidHideSessionSnapshotStore.remove self.resourceId with
    | .error error =>
      return ({ result with
          code := .backendFailure
          diagnostic := result.diagnostic ++ "; recovery snapshot cleanup failed: " ++ error },
        self)
    | .ok () => return (result, self.disarmed)
  else
    return (result, self.disarmed)

/-- An operation of the transaction, and the clean-up behind it. -/
def through (self : GuardedHidHideSession) (program : SessionProgram Outcome) :
    SessionProgram GuardedOutcome := do
  let (result, transaction) ← program
  { self with transaction }.cleanupRecoveryRecordIfSafe result

def activate (self : GuardedHidHideSession) (nowMilliseconds : UInt64) :
    SessionProgram GuardedOutcome := do
  if !self.recoveryArmed || self.rollbackAction.isNone then
    return (self.ownResult .recoveryNotArmed
        (bytesOf
          "native HidHide activation requires the exact durable rollback action to be armed first"),
      self)
  else self.through (self.transaction.activate nowMilliseconds)

def expireIfNeeded (self : GuardedHidHideSession) (nowMilliseconds : UInt64) :
    SessionProgram GuardedOutcome :=
  self.through (self.transaction.expireIfNeeded nowMilliseconds)

def rollback (self : GuardedHidHideSession) : SessionProgram GuardedOutcome :=
  self.through self.transaction.rollback

/-- The destructor, and that of the transaction behind it. -/
def destroy (self : GuardedHidHideSession) : SessionProgram GuardedOutcome := do
  let (result, self) ← self.rollback
  let (_, transaction) ← self.transaction.destroy
  return (result, { self with transaction })

end GuardedHidHideSession

inductive GuardedOperation where
  | prepare (request : HidHideSessionRequest) (nowMilliseconds : UInt64)
  | confirmRecoveryArmed (registeredAction : RollbackActionDescriptor)
  | activate (nowMilliseconds : UInt64)
  | expireIfNeeded (nowMilliseconds : UInt64)
  | rollback
  | destroy
  deriving DecidableEq

inductive GuardedReply where
  | session (result : HidHideSessionResult)
  | confirmed
  | notConfirmed (error : ByteString)

namespace GuardedHidHideSession

/-- An operation that answers with a result. -/
def replying (program : SessionProgram GuardedOutcome) :
    SessionProgram (GuardedReply × GuardedHidHideSession) := do
  let (result, self) ← program
  return (.session result, self)

def perform (self : GuardedHidHideSession) :
    GuardedOperation → SessionProgram (GuardedReply × GuardedHidHideSession)
  | .prepare request nowMilliseconds => replying (self.prepare request nowMilliseconds)
  | .confirmRecoveryArmed registeredAction =>
    match self.confirmRecoveryArmed registeredAction with
    | .error error => return (.notConfirmed error, self)
    | .ok self => return (.confirmed, self)
  | .activate nowMilliseconds => replying (self.activate nowMilliseconds)
  | .expireIfNeeded nowMilliseconds => replying (self.expireIfNeeded nowMilliseconds)
  | .rollback => replying self.rollback
  | .destroy => replying self.destroy

end GuardedHidHideSession

end HydraSeat.HidHide
