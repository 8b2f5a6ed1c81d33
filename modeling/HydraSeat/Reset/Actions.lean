import HydraSeat.Reset.Registration

/-!
# Verified reset

`inspectResetState` classifies what the journal, the safe-mode marker and the
reset registration say together.  `executeVerifiedReset` runs the registered
rollback and makes its success durable.
-/

namespace HydraSeat.Reset

open Foundation
open Foundation.Command
open Watchdog
open Recovery CrashJournalStore

variable (journal : CrashJournalState) (report : ResetExecutionReport)
variable (expectedSession : Option SessionId) (safeMode : Option SafeModeMarker)
variable (registration : Option RuntimeResetRegistration)

/-- Where reading the registration file failed. -/
inductive RegistrationReadStep where
  | existence | size | opening | content

def RegistrationReadStep.diagnostic : RegistrationReadStep → String
  | .existence => "runtime reset registration existence check failed"
  | .size => "runtime reset registration size check failed"
  | .opening => "runtime reset registration cannot be opened"
  | .content => "runtime reset registration cannot be read completely"

inductive RegistrationFile where
  | success (bytes : List UInt8)
  | missing
  | tooLarge
  | failed (step : RegistrationReadStep) (systemError : UInt32)

/-- The calls that leave the program.  `executeAction` stands for the six
methods of the executor. -/
inductive ResetCall where
  | journal (storageCall : StorageCall)
  | readRegistration (maxBytes : Nat)
  | removeRegistration
  | removeTemporaryRegistration
  | queryCurrentProcess
  | prepareOwnedProcesses (actions : List RollbackActionDescriptor)
  | clearPreparedOwnedProcesses
  | executeAction (action : RollbackActionDescriptor) (timeoutMilliseconds : UInt32)
  | steadyClockNow

def resetInterface : Interface where
  Call := ResetCall
  Answer := fun
    | .journal storageCall => storageInterface.Answer storageCall
    | .readRegistration _ => RegistrationFile
    | .removeRegistration => Except UInt32 Unit
    | .removeTemporaryRegistration => Unit
    | .queryCurrentProcess => Option ProcessIdentity
    | .prepareOwnedProcesses _ => Except String Unit
    | .clearPreparedOwnedProcesses => Unit
    | .executeAction _ _ => RollbackActionOutcome
    | .steadyClockNow => Int

abbrev ResetProgram := Command resetInterface

def request (resetCall : ResetCall) : ResetProgram (resetInterface.Answer resetCall) :=
  @ask resetInterface resetCall

def journalCall (storageCall : StorageCall) : ResetProgram (storageInterface.Answer storageCall) :=
  request (.journal storageCall)

/-- An operation of the crash-journal store. -/
def onJournal {α : Type} (program : StorageProgram α) : ResetProgram α := embed journalCall program

def readRegistration (maxBytes : Nat) : ResetProgram RegistrationFile :=
  request (.readRegistration maxBytes)

def removeRegistration : ResetProgram (Except UInt32 Unit) := request .removeRegistration

def removeTemporaryRegistration : ResetProgram Unit := request .removeTemporaryRegistration

def queryCurrentProcess : ResetProgram (Option ProcessIdentity) := request .queryCurrentProcess

def prepareOwnedProcesses (actions : List RollbackActionDescriptor) :
    ResetProgram (Except String Unit) :=
  request (.prepareOwnedProcesses actions)

def clearPreparedOwnedProcesses : ResetProgram Unit := request .clearPreparedOwnedProcesses

def executeAction (action : RollbackActionDescriptor) (timeoutMilliseconds : UInt32) :
    ResetProgram RollbackActionOutcome :=
  request (.executeAction action timeoutMilliseconds)

def steadyClockNow : ResetProgram Int := request .steadyClockNow

inductive RuntimeRegistrationReadStatus where
  | success | missing | tooLarge | corrupt | failed

structure RuntimeRegistrationReadResult where
  status : RuntimeRegistrationReadStatus := .failed
  registration : Option RuntimeResetRegistration := none
  systemError : UInt32 := 0
  diagnostic : String := ""

def registrationOfFile : RegistrationFile → RuntimeRegistrationReadResult
  | .missing =>
    { status := .missing, diagnostic := "runtime reset registration is absent" }
  | .tooLarge =>
    { status := .tooLarge
      diagnostic := "runtime reset registration exceeds the bounded file size" }
  | .failed step systemError =>
    { status := .failed, systemError := systemError, diagnostic := step.diagnostic }
  | .success bytes =>
    match decodeRuntimeResetRegistration bytes with
    | .error text =>
      { status := .corrupt, diagnostic := "runtime reset registration is corrupt: " ++ text }
    | .ok registration =>
      { status := .success, registration := some registration
        diagnostic :=
          if registration.attachment.isSome then
            "runtime reset registration has exact attachment authority"
          else "legacy runtime reset registration is readable diagnostic evidence only" }

def loadRegistration : ResetProgram RuntimeRegistrationReadResult := do
  let file ← readRegistration kRuntimeResetRegistrationMaxBytes
  return registrationOfFile file

def clearRegistration : ResetProgram (Except String Unit) := do
  let removed ← removeRegistration
  match removed with
  | .error systemError =>
    return .error ("runtime reset registration removal failed: " ++ toString systemError.toNat)
  | .ok () => do
      removeTemporaryRegistration
      return .ok ()

inductive ResetState where
  | clean | recoverable | recoveryRequired
  deriving DecidableEq

structure ResetInspection where
  state : ResetState := .recoveryRequired
  journal : Option CrashJournalState := none
  safeMode : Option SafeModeMarker := none
  registration : Option RuntimeResetRegistration := none
  diagnostic : String := ""

/-- The attachment rule of `registrationMatchesJournal`. -/
def attachmentMatchesJournal (registration : RuntimeResetRegistration)
    (journal : CrashJournalState) : Except String Unit :=
  match registration.attachment with
  | some attachment => validateRecoveryProcessAttachmentJournalBinding journal attachment
  | none =>
    if journal.snapshots.any (·.snapshotId == kRecoveryProcessAttachmentSnapshotId) then
      .error "attachment-bound crash journal cannot be recovered by a legacy reset registration"
    else if !journal.isClean then
      .error "legacy runtime reset registration is diagnostic-only for incomplete recovery state"
    else .ok ()

def registrationMatchesJournal (registration : RuntimeResetRegistration)
    (journal : CrashJournalState) : Except String Unit :=
  if registration.manifest.lease.sessionId ≠ journal.sessionId then
    .error "runtime reset registration session does not match crash journal"
  else if registration.manifest.lease.generation ≠ journal.lease.generation ∨
      journal.runtimeGeneration = 0 then
    .error "runtime reset registration generation does not match crash journal"
  else if hashRollbackPlanManifest registration.manifest ≠ journal.planHash then
    .error "runtime reset registration plan hash does not match crash journal"
  else
    match validateCrashJournalAgainstPlan journal registration.manifest with
    | .error text => .error text
    | .ok () => attachmentMatchesJournal registration journal

def safeModeMatchesJournal (marker : SafeModeMarker) (journal : CrashJournalState) :
    Except String Unit :=
  if isZeroSessionId marker.sessionId = false ∧
      (marker.sessionId ≠ journal.sessionId ∨
        marker.runtimeGeneration ≠ journal.runtimeGeneration) then
    .error "safe-mode marker identity does not match crash journal"
  else .ok ()

/-- The classification when no journal exists. -/
def classifyWithoutJournal : ResetState × String :=
  if safeMode.isSome then
    (.recoveryRequired, "safe mode is active without a correlating crash journal")
  else
    match registration with
    | none => (.clean, "no active recovery state exists")
    | some registration =>
      if registration.attachment.isNone then
        (.recoveryRequired,
          "pre-journal legacy reset registration lacks exact recovery attachment authority")
      else (.recoverable, "pre-journal exact attachment registration is available for cleanup")

/-- The classification of a journal whose marker and registration match. -/
def classifyMatching : ResetState × String :=
  if journal.isClean then
    if registration.isNone && safeMode.isNone then
      (.clean, "crash journal is clean and no reset metadata remains")
    else (.recoverable, "runtime state is clean but stale reset/safe-mode metadata remains")
  else if registration.isNone then
    (.recoveryRequired, "incomplete runtime journal has no trusted reset registration")
  else (.recoverable, "incomplete runtime state has a journal-correlated reset registration")

def classifyWithJournal : ResetState × String :=
  match safeMode.elim (.ok ()) (safeModeMatchesJournal · journal) with
  | .error text => (.recoveryRequired, text)
  | .ok () =>
    match registration.elim (.ok ()) (registrationMatchesJournal · journal) with
    | .error text => (.recoveryRequired, text)
    | .ok () => classifyMatching journal safeMode registration

def classify (journal : Option CrashJournalState) (safeMode : Option SafeModeMarker)
    (registration : Option RuntimeResetRegistration) :
    ResetState × String :=
  match journal with
  | none => classifyWithoutJournal safeMode registration
  | some journal => classifyWithJournal journal safeMode registration

def classified (journal : Option CrashJournalState) (safeMode : Option SafeModeMarker)
    (registration : Option RuntimeResetRegistration) :
    ResetInspection where
  state := (classify journal safeMode registration).1
  journal := journal
  safeMode := safeMode
  registration := registration
  diagnostic := (classify journal safeMode registration).2

/-- The inspection once all three files were read. -/
def inspectLoaded (journal : Option CrashJournalState) (safeMode : Option SafeModeMarker)
    (read : RuntimeRegistrationReadResult) : ResetInspection :=
  match read.status with
  | .success => classified journal safeMode read.registration
  | .missing => classified journal safeMode none
  | _ =>
    { state := .recoveryRequired, journal := journal, safeMode := safeMode
      diagnostic := read.diagnostic }

def inspectResetState : ResetProgram ResetInspection := do
  let journal ← onJournal loadCurrent
  match journal with
  | .error text =>
    pure { state := .recoveryRequired, diagnostic := "crash journal cannot be inspected: " ++ text }
  | .ok journal => do
      let safeMode ← onJournal loadSafeMode
      match safeMode with
      | .error text =>
        pure
          { state := .recoveryRequired, journal := journal
            diagnostic := "safe-mode marker cannot be inspected: " ++ text }
      | .ok safeMode => do
          let read ← loadRegistration
          return inspectLoaded journal safeMode read

structure ResetExecutionReport where
  (success noOp ownerSatisfied rollbackSatisfied journalClean safeModeCleared : Bool := false)
  registrationCleared : Bool := false
  ownerOutcome : Option RollbackActionOutcome := none
  rollback : RollbackExecutionSummary := {}
  (before after : ResetInspection := {})
  diagnostic : String := ""

def ownerAction (registration : RuntimeResetRegistration) (generation : UInt64) :
    RollbackActionDescriptor where
  actionId := kResetOwnerActionId
  kind := .terminateOwnedProcess
  activationOrdinal := 0xffffffff
  timeoutMilliseconds := kResetOwnerTimeoutMs
  generation := generation
  process := registration.ownerProcess

/-- The end of `executeRegisteredActions`, under the guard of the prepared
processes. -/
def executePreparedActions (registration : RuntimeResetRegistration) (generation : UInt64)
    (registry : RollbackRegistry) (report : ResetExecutionReport) :
    ResetProgram (Bool × ResetExecutionReport) := do
  let ownerOutcome ← executeAction (ownerAction registration generation) kResetOwnerTimeoutMs
  let ownerReport :=
    { report with
      ownerOutcome := some ownerOutcome, ownerSatisfied := satisfied ownerOutcome.result }
  if !satisfied ownerOutcome.result then
    return (false,
      { ownerReport with diagnostic := "runtime owner exact-process stop could not be verified" })
  else do
    let (summary, _) ← registry.execute steadyClockNow executeAction
    let rollbackReport :=
      { ownerReport with rollback := summary, rollbackSatisfied := summary.allSatisfied }
    if !summary.allSatisfied then
      return (false,
        { rollbackReport with
          diagnostic := "one or more exact reset actions could not be verified" })
    else
      return (true, rollbackReport)

def executeRegisteredActions (registration : RuntimeResetRegistration) (generation : UInt64)
    (report : ResetExecutionReport) :
    ResetProgram (Bool × ResetExecutionReport) :=
  if registration.attachment.isNone then
    return (false,
      { report with
        diagnostic := "legacy runtime reset registration cannot authorize process mutation" })
  else do
    let currentIdentity ← queryCurrentProcess
    if currentIdentity = some registration.ownerProcess then
      return (false,
        { report with
          diagnostic := "reset registration attempts to terminate the reset process itself" })
    else
      match RollbackRegistry.registerPlan {} registration.manifest with
      | .error text =>
        return (false,
          { report with diagnostic := "reset rollback plan cannot be armed: " ++ text })
      | .ok registry => do
          let prepared ← prepareOwnedProcesses registration.manifest.actions
          match prepared with
          | .error text =>
            return (false,
              { report with
                diagnostic :=
                  "exact rollback process preflight failed before owner stop: " ++ text })
          | .ok () => do
              let executed ← executePreparedActions registration generation registry report
              clearPreparedOwnedProcesses
              return executed

def recoveryRequiredMarker (diagnosticCode : UInt32) : SafeModeMarker where
  sessionId := journal.sessionId
  runtimeGeneration := journal.runtimeGeneration
  reason := .recoveryRequired
  diagnosticCode := diagnosticCode
  journalHash := hashOfState journal

def writeRecoveryRequiredMarker (diagnosticCode : UInt32) : ResetProgram Unit := do
  let _ ← onJournal (writeSafeMode (recoveryRequiredMarker journal diagnosticCode))
  return ()

def laterAction (left right : RollbackActionDescriptor) : Prop :=
  left.activationOrdinal > right.activationOrdinal ∨
    left.activationOrdinal = right.activationOrdinal ∧ left.actionId ≥ right.actionId

instance : DecidableRel laterAction := fun left right =>
  inferInstanceAs
    (Decidable
      (left.activationOrdinal > right.activationOrdinal ∨
        left.activationOrdinal = right.activationOrdinal ∧ left.actionId ≥ right.actionId))

def appendActionRecords (manifest : RollbackPlanManifest) (kind : CrashJournalRecordKind)
    (state : CrashJournalState) :
    List RollbackActionDescriptor → Except String CrashJournalState
  | [] => .ok state
  | action :: actions => do
      let next ← appendCrashJournalRecord state manifest kind action.actionId action.generation
      appendActionRecords manifest kind next actions

def makeVerifiedResetCleanState (registration : RuntimeResetRegistration)
    (prior : CrashJournalState) : Except String CrashJournalState := do
  let initial ← makeInitialCrashJournal registration.manifest
    prior.runtimeGeneration prior.snapshots
  let prepared ← appendActionRecords registration.manifest .actionPrepared initial
    registration.manifest.actions
  let rollingBack ← appendCrashJournalRecord prepared registration.manifest
    .rollbackStarted 0 prior.runtimeGeneration
  let rolledBack ← appendActionRecords registration.manifest .actionRolledBack rollingBack
    (registration.manifest.actions.insertionSort laterAction)
  let verified ← appendCrashJournalRecord rolledBack registration.manifest
    .rollbackVerified 0 prior.runtimeGeneration
  appendCrashJournalRecord verified registration.manifest .cleanStop 0 prior.runtimeGeneration

/-- The journal that records a failed reset of a session that had not
written one yet. -/
def preJournalEvidence (registration : RuntimeResetRegistration) :
    Except String CrashJournalState := do
  let snapshots ←
    match registration.attachment with
    | none => .ok []
    | some attachment => (makeRecoveryProcessAttachmentSnapshot attachment).map ([·])
  makeInitialCrashJournal registration.manifest registration.manifest.lease.generation snapshots

def appendDiagnostic (diagnostic text : String) : String :=
  (if diagnostic = "" then "" else diagnostic ++ "; ") ++
    "failed to persist pre-journal RecoveryRequired evidence: " ++ text

/-- A failed reset without a journal leaves a journal and a marker. -/
def persistPreJournalFailure (registration : RuntimeResetRegistration)
    (report : ResetExecutionReport) :
    ResetProgram ResetExecutionReport :=
  match preJournalEvidence registration with
  | .error text =>
    return { report with diagnostic := appendDiagnostic report.diagnostic text }
  | .ok journal => do
      let begun ← onJournal (beginActivation journal)
      match begun with
      | .error text =>
        return { report with diagnostic := appendDiagnostic report.diagnostic text }
      | .ok () => do
          writeRecoveryRequiredMarker journal 0x52535409
          return report

def finish : ResetProgram ResetExecutionReport := do
  let after ← inspectResetState
  return { report with after := after }

/-- The reset of a session without a journal, after its actions were
satisfied. -/
def completePreJournal : ResetProgram ResetExecutionReport := do
  let removed ← clearRegistration
  let after ← inspectResetState
  let success := removed.isOk && after.state == .clean
  return { report with
    registrationCleared := removed.isOk, journalClean := true
    safeModeCleared := report.before.safeMode.isNone, after := after, success := success
    diagnostic :=
      if success then "pre-journal emergency reset completed"
      else if report.diagnostic = "" then
        match removed with
        | .error text => text
        | .ok () => after.diagnostic
      else report.diagnostic }

def resetWithoutJournal (report : ResetExecutionReport) : ResetProgram ResetExecutionReport :=
  match report.before.registration with
  | none =>
    return { report with after := report.before, diagnostic := report.before.diagnostic }
  | some registration =>
    if report.before.state ≠ .recoverable then
      return { report with after := report.before, diagnostic := report.before.diagnostic }
    else if expectedSession.any (· != registration.manifest.lease.sessionId) then
      return { report with
        after := report.before
        diagnostic := "requested session does not match pre-journal recovery registration" }
    else do
      let (executed, executedReport) ← executeRegisteredActions registration
        registration.manifest.lease.generation report
      if executed then completePreJournal executedReport
      else do
        let persisted ← persistPreJournalFailure registration executedReport
        finish persisted

/-- A refusal leaves a marker and then inspects. -/
def refuse (diagnosticCode : UInt32) (diagnostic : String) (report : ResetExecutionReport) :
    ResetProgram ResetExecutionReport := do
  writeRecoveryRequiredMarker journal diagnosticCode
  finish { report with diagnostic := diagnostic }

def clearSeenMarker : ResetProgram (Except String Unit) :=
  if report.before.safeMode.isSome then
    onJournal (clearSafeModeAfterVerifiedReset journal.sessionId journal.runtimeGeneration true)
  else
    return .ok ()

def clearSeenRegistration : ResetProgram (Except String Unit) :=
  if report.before.registration.isSome then clearRegistration
  else
    return .ok ()

/-- The first failure text, then whatever else is known. -/
def firstText (first second : Except String Unit) (otherwise : String) : String :=
  match first with
  | .error text => text
  | .ok () =>
    match second with
    | .error text => text
    | .ok () => otherwise

/-- The reset of a clean journal clears what metadata is left. -/
def clearStaleMetadata : ResetProgram ResetExecutionReport := do
  let cleared ← clearSeenMarker journal report
  let removed ← clearSeenRegistration report
  let after ← inspectResetState
  let success := after.state == .clean
  return { report with
    ownerSatisfied := true, rollbackSatisfied := true, journalClean := true
    safeModeCleared := cleared.isOk, registrationCleared := removed.isOk, after := after
    success := success
    diagnostic :=
      if success then "stale recovery metadata was cleared"
      else firstText cleared removed report.diagnostic }

/-- The durable end of a reset whose actions were satisfied. -/
def completeReset : ResetProgram ResetExecutionReport := do
  let cleared ← clearSeenMarker journal report
  let removed ← clearRegistration
  let after ← inspectResetState
  let success := after.state == .clean
  return { report with
    journalClean := true, safeModeCleared := cleared.isOk, registrationCleared := removed.isOk
    after := after, success := success
    diagnostic :=
      if success then "verified emergency reset completed"
      else firstText cleared removed after.diagnostic }

/-- Put the clean journal in place of the one that was reset. -/
def persistCleanState (registration : RuntimeResetRegistration) (journal : CrashJournalState) :
    ResetProgram (Except String Unit) :=
  match makeVerifiedResetCleanState registration journal with
  | .error text => return .error text
  | .ok cleanState => onJournal (replaceWithVerifiedCleanState cleanState true)

def failureCode : UInt32 :=
  if !report.ownerSatisfied then 0x52535405
  else if report.rollback.outcomes = [] then 0x52535406
  else 0x52535407

def resetIncomplete (registration : RuntimeResetRegistration)
    (journal : CrashJournalState) (report : ResetExecutionReport) :
    ResetProgram ResetExecutionReport := do
  let (executed, executedReport) ← executeRegisteredActions registration journal.runtimeGeneration
    report
  if !executed then
    refuse journal (failureCode executedReport) executedReport.diagnostic executedReport
  else do
    let persisted ← persistCleanState registration journal
    match persisted with
    | .error text =>
      refuse journal 0x52535408 ("verified cleanup could not be persisted as clean: " ++ text)
        executedReport
    | .ok () => completeReset journal executedReport

def resetWithJournal (report : ResetExecutionReport) : ResetProgram ResetExecutionReport :=
  if expectedSession.any (· != journal.sessionId) then
    refuse journal 0x52535401 "requested session does not match current recovery session" report
  else if report.before.state = .recoveryRequired then
    refuse journal 0x52535402 report.before.diagnostic report
  else if journal.isClean then clearStaleMetadata journal report
  else
    match report.before.registration with
    | none => refuse journal 0x52535403 "no trusted runtime reset registration is available" report
    | some registration => resetIncomplete registration journal report

def alreadySatisfiedReport (before : ResetInspection) : ResetExecutionReport where
  success := true
  noOp := true
  ownerSatisfied := true
  rollbackSatisfied := true
  journalClean := true
  safeModeCleared := true
  registrationCleared := true
  before := before
  after := before
  diagnostic := "reset is already satisfied"

def executeVerifiedReset : ResetProgram ResetExecutionReport := do
  let before ← inspectResetState
  if before.state = .clean then
    return alreadySatisfiedReport before
  else
    match before.journal with
    | none => resetWithoutJournal expectedSession { before := before }
    | some journal => resetWithJournal journal expectedSession { before := before }

end HydraSeat.Reset
