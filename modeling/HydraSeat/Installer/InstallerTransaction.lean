import HydraSeat.Foundation.Command
import HydraSeat.Installer.ArtifactTrust
import Mathlib.Data.List.Sort

/-!
# The installer transaction

A transaction stages a candidate, commits it, verifies it and finishes.  The
executor that does this is called over an interface, and each of its calls may
fail.
-/

namespace HydraSeat.Installer

open Foundation
open Foundation.Command Trust

def kInstallerContractVersion : UInt32 := 1

def kMaximumInstallerComponents : Nat := 16

def kMaximumInstallerTransactionIdBytes : Nat := 96

inductive InstallerArchitecture where
  | x64 | x86
  deriving DecidableEq

def InstallerArchitecture.code : InstallerArchitecture → UInt8
  | .x64 => 0
  | .x86 => 1

inductive InstallerAction where
  | install | repair | uninstall
  deriving DecidableEq

inductive OwnedComponent where
  | mainUi | host | seatUi | watchdog | reset | profileCli | communityValidator
  deriving DecidableEq

def OwnedComponent.code : OwnedComponent → UInt8
  | .mainUi => 0
  | .host => 1
  | .seatUi => 2
  | .watchdog => 3
  | .reset => 4
  | .profileCli => 5
  | .communityValidator => 6

inductive StartupMode where
  | manual | backgroundIdle | autoActivateValidatedSession
  deriving DecidableEq

structure PackageComponent where
  component : OwnedComponent := .mainUi
  manifest : ArtifactManifest := {}
  observation : ArtifactObservation := {}
  deriving DecidableEq

structure InstallerPackage where
  schemaVersion : UInt32 := kInstallerContractVersion
  releaseVersion : ByteString := []
  releaseRevision : UInt64 := 0
  architecture : InstallerArchitecture := .x64
  components : List PackageComponent := []

structure InstallerEnvironment where
  supportedWindows : Bool := true
  architecture : InstallerArchitecture := .x64
  (prerequisiteReady elevatedBrokerAvailable : Bool := true)
  (hydraOwnedRiskyStateActive hostOrSeatUiRunning : Bool := false)

structure InstallerOptions where
  startupMode : StartupMode := .manual
  startupApproved : Bool := false
  (offerFirstRunWizard retainUserProfilesOnUninstall : Bool := true)

structure InstalledComponentState where
  component : OwnedComponent := .mainUi
  (version sha256 : ByteString := [])
  deriving DecidableEq

structure InstalledState where
  schemaVersion : UInt32 := kInstallerContractVersion
  installedVersion : ByteString := []
  installedRevision : UInt64 := 0
  architecture : InstallerArchitecture := .x64
  ownedComponents : List InstalledComponentState := []
  uninstallRegistered : Bool := false
  startupMode : StartupMode := .manual
  userProfilesPresent : Bool := false

structure InstalledArtifactIdentity where
  component : OwnedComponent := .mainUi
  (artifactId version sha256 publisherIdentity : ByteString := [])

inductive InstallerCode where
  | success | invalidPackage | unsupportedWindows | architectureMismatch | prerequisiteMissing
  | elevationUnavailable | activeOwnedState | processStillRunning | startupApprovalRequired
  | packageTrustRejected | missingInstalledState | captureFailed | expectedPreviousMismatch
  | stageFailed | applyFailedRolledBack | verifyFailedRolledBack | transactionFinalizeFailed
  | rollbackFailed | rollbackVerifyFailed
  deriving DecidableEq

structure InstallerDiagnostic where
  code : InstallerCode := .success
  message : String := ""

def InstallerDiagnostic.succeeded (diagnostic : InstallerDiagnostic) : Bool :=
  diagnostic.code == .success

inductive InstallerReceiptStatus where
  | rejected | applied | removed | rolledBack | recoveryRequired
  deriving DecidableEq

structure InstallerReceipt where
  action : InstallerAction := .install
  status : InstallerReceiptStatus := .rejected
  (transactionId releaseVersion : ByteString := [])
  (previousState resultingState : Option InstalledState := none)
  committedArtifacts : List InstalledArtifactIdentity := []
  (rollbackAttempted rollbackVerified firstRunWizardOffered : Bool := false)
  userProfilesRetained : Bool := true

inductive InstallerTransactionDisposition where
  | committed | rolledBack | aborted

/-- The calls of `InstallerExecutor` and of the transaction that it
returns. -/
inductive InstallerCall where
  | beginMutation | transactionId | previousState
  | stageInstallOrRepair (action : InstallerAction)
      (package : InstallerPackage) (options : InstallerOptions)
  | stageUninstall (options : InstallerOptions)
  | commit
  | verify (expected : Option InstalledState)
  | rollback
  | verifyRollback
  | finish (disposition : InstallerTransactionDisposition)

/-- `beginMutation` answers whether there is a transaction. -/
abbrev InstallerAnswer : InstallerCall → Type
  | .transactionId => ByteString
  | .previousState => Option InstalledState
  | _ => Bool

abbrev installerCalls : Interface := ⟨InstallerCall, InstallerAnswer⟩

abbrev InstallerCommand := Command installerCalls

def perform (request : InstallerCall) : InstallerCommand (InstallerAnswer request) :=
  @ask installerCalls request

def fail (code : InstallerCode) (message : String) : InstallerDiagnostic where
  code
  message

/-- `validVersion`: the joining bytes are `-`, `_`, `.` and `+`. -/
def validVersion (value : ByteString) : Bool :=
  spelled 64 (fun byte => alphanumeric byte || joining byte || byte == 43) value

def validTransactionId (value : ByteString) : Bool :=
  spelled kMaximumInstallerTransactionIdBytes (fun byte => alphanumeric byte || joining byte) value

structure ComponentContract where
  component : OwnedComponent
  (artifactId capability : ByteString)

def kContracts : List ComponentContract :=
  [⟨.mainUi, "hydraseat-main-ui", "main-ui"⟩, ⟨.host, "hydraseat-host", "runtime-host"⟩,
    ⟨.seatUi, "hydraseat-seat-ui", "seat-ui"⟩,
    ⟨.watchdog, "hydraseat-watchdog", "watchdog"⟩,
    ⟨.reset, "hydraseat-reset", "recovery-reset"⟩,
    ⟨.profileCli, "hydraseat-profile-cli", "profile-cli"⟩,
    ⟨.communityValidator, "hydraseat-community-validator", "community-validator"⟩]

def contractFor (component : OwnedComponent) : Option ComponentContract :=
  kContracts.find? fun item => item.component = component

def trustArchitecture : InstallerArchitecture → ArtifactArchitecture
  | .x64 => .x64
  | .x86 => .x86

/-- The manifest is the one that the contract of the component fixes. -/
def meetsContract (package : InstallerPackage) (contract : ComponentContract)
    (manifest : ArtifactManifest) : Bool :=
  manifest.artifactId == contract.artifactId && manifest.artifactClass == .executable &&
    manifest.artifactVersion == package.releaseVersion &&
    manifest.architecture == trustArchitecture package.architecture &&
    manifest.requiresInstall && manifest.requiresRecoveryPlan &&
    manifest.capabilityScope == [contract.capability]

/-- The loop over the components, with those that it has seen. -/
def checkComponents (package : InstallerPackage) (policy : TrustPolicy) :
    List OwnedComponent → List PackageComponent → Except InstallerDiagnostic (List OwnedComponent)
  | seen, [] => .ok seen
  | seen, component :: rest =>
    match contractFor component.component with
    | none =>
      .error (fail .invalidPackage "installer package has an unknown or duplicate owned component")
    | some contract =>
      if seen.contains component.component then
        .error
          (fail .invalidPackage
            ("installer package has an unknown or duplicate owned " ++ "component"))
      else if !meetsContract package contract component.manifest then
        .error
          (fail .invalidPackage
            ("owned component manifest does not match the fixed installer " ++ "contract"))
      else
        let evaluation := evaluateArtifact component.manifest component.observation policy
        if evaluation.decision ≠ .accept then
          .error
            (fail .packageTrustRejected
              ("owned component trust rejected: " ++ trustCodeName evaluation.code))
        else checkComponents package policy (component.component :: seen) rest

def validatePackageInternal (package : InstallerPackage) (environment : InstallerEnvironment)
    (policy : TrustPolicy) : InstallerDiagnostic :=
  if package.schemaVersion ≠ kInstallerContractVersion ∨
      !validVersion package.releaseVersion ∨ package.releaseRevision = 0 ∨
      package.components.length ≠ kContracts.length ∨
      package.components.length > kMaximumInstallerComponents then
    fail .invalidPackage "installer package schema/version/component set is invalid"
  else if package.architecture ≠ environment.architecture then
    fail .architectureMismatch
      ("installer package architecture does not match the supported Windows " ++ "target")
  else
    match checkComponents package policy [] package.components with
    | .error diagnostic => diagnostic
    | .ok seen =>
      if seen.length ≠ kContracts.length then
        fail .invalidPackage "installer package is missing a required owned component"
      else
        {}

/-- The public check, which also asks for a supported Windows. -/
def validateInstallerPackage (package : InstallerPackage) (environment : InstallerEnvironment)
    (policy : TrustPolicy) : InstallerDiagnostic :=
  if !environment.supportedWindows then
    fail .unsupportedWindows "Windows version/build is unsupported"
  else validatePackageInternal package environment policy

/-- `std::sort` by the number of the component. -/
def sortByComponent {Value : Type} (component : Value → OwnedComponent)
    (values : List Value) : List Value :=
  values.insertionSort fun left right => (component left).code ≤ (component right).code

def stateFromPackage (package : InstallerPackage) (options : InstallerOptions)
    (userProfilesPresent : Bool) : InstalledState where
  installedVersion := package.releaseVersion
  installedRevision := package.releaseRevision
  architecture := package.architecture
  uninstallRegistered := true
  startupMode := options.startupMode
  userProfilesPresent
  ownedComponents := sortByComponent (·.component)
    (package.components.map fun component =>
      { component := component.component, version := component.manifest.artifactVersion
        sha256 := component.observation.observedSha256 })

def validInstalledState (state : InstalledState) : Bool :=
  state.schemaVersion == kInstallerContractVersion &&
    validVersion state.installedVersion && state.installedRevision != 0 &&
    state.ownedComponents.length == kContracts.length &&
    state.uninstallRegistered &&
    state.ownedComponents.all
      (fun component =>
        (contractFor component.component).isSome && validVersion component.version &&
          component.version == state.installedVersion &&
          validSha256 component.sha256) &&
    distinctValues (state.ownedComponents.map (·.component))

def sameInstalledState (left right : InstalledState) : Bool :=
  left.schemaVersion == right.schemaVersion && left.installedVersion == right.installedVersion &&
    left.installedRevision == right.installedRevision &&
    left.architecture == right.architecture &&
    left.uninstallRegistered == right.uninstallRegistered &&
    left.startupMode == right.startupMode &&
    left.userProfilesPresent == right.userProfilesPresent &&
    left.ownedComponents.length == right.ownedComponents.length &&
    sortByComponent (·.component) left.ownedComponents ==
      sortByComponent (·.component) right.ownedComponents

def artifactIdentitiesFromPackage (package : InstallerPackage) : List InstalledArtifactIdentity :=
  sortByComponent (·.component)
    (package.components.map fun component =>
      { component := component.component, artifactId := component.manifest.artifactId
        version := component.manifest.artifactVersion
        sha256 := component.observation.observedSha256
        publisherIdentity := component.observation.publisherIdentity })

structure InstallerRequest where
  action : InstallerAction
  package : Option InstallerPackage
  expectedPrevious : Option InstalledState
  environment : InstallerEnvironment
  options : InstallerOptions
  trustPolicy : TrustPolicy

def checkPackage (request : InstallerRequest) : Option InstallerDiagnostic :=
  match request.action, request.package with
  | .uninstall, none => none
  | .uninstall, some _ => some (fail .invalidPackage "uninstall cannot carry a replacement package")
  | _, none => some (fail .invalidPackage "install/repair requires an exact package")
  | _, some package =>
    let packageValidation := validatePackageInternal package request.environment request.trustPolicy
    if packageValidation.succeeded then none else some packageValidation

def checkRequest (request : InstallerRequest) : Option InstallerDiagnostic :=
  if !request.environment.supportedWindows then
    some (fail .unsupportedWindows "Windows version/build is unsupported")
  else if !request.environment.prerequisiteReady then
    some (fail .prerequisiteMissing "required Windows prerequisite is unavailable")
  else if !request.environment.elevatedBrokerAvailable then
    some (fail .elevationUnavailable "installer requires the narrow elevated mutation boundary")
  else if request.environment.hydraOwnedRiskyStateActive then
    some
      (fail .activeOwnedState
        ("installer refuses to mutate files while HydraSeat-owned risky state " ++ "is active"))
  else if request.environment.hostOrSeatUiRunning then
    some
      (fail .processStillRunning
        ("return to ordinary Windows and close HydraSeat UI/Host before " ++ "install changes"))
  else if request.options.startupMode ≠ .manual ∧ !request.options.startupApproved then
    some
      (fail .startupApprovalRequired
        "background startup registration requires explicit user approval")
  else if request.expectedPrevious.any fun expected =>
      !validInstalledState expected then
    some (fail .invalidPackage "compare-and-swap expected previous install state is invalid")
  else checkPackage request

abbrev InstallerOutcome := InstallerDiagnostic × InstallerReceipt

/-- An early end: only the receipt's status can differ from its default. -/
def abortUncaptured (code : InstallerCode) (message finalizeMessage : String) :
    InstallerCommand InstallerOutcome := do
  if !(← perform (.finish .aborted)) then
    return (fail .transactionFinalizeFailed finalizeMessage, { status := .recoveryRequired })
  return (fail code message, {})

def abortWithoutMutation (candidate : InstallerReceipt) (code : InstallerCode)
    (message : String) : InstallerCommand InstallerOutcome := do
  if !(← perform (.finish .aborted)) then
    return (fail .transactionFinalizeFailed
        ("installer made no committed change but could not finalize its " ++ "recovery journal"),
      { candidate with status := .recoveryRequired })
  return (fail code message, { candidate with status := .rejected })

/-- The lambda `rollback`. -/
def rollback (candidate : InstallerReceipt) (previous : Option InstalledState)
    (originalFailure : InstallerCode) (message : String) :
    InstallerCommand InstallerOutcome := do
  let candidate :=
    { candidate with rollbackAttempted := true, committedArtifacts := [] }
  if !(← perform .rollback) then
    return (fail .rollbackFailed
        ("installer mutation failed and rollback could not restore prior " ++ "owned state"),
      { candidate with
        status := .recoveryRequired, rollbackVerified := false, resultingState := none })
  if !(← perform .verifyRollback) then
    return (fail .rollbackVerifyFailed
        "installer rollback ran but prior owned state was not verified",
      { candidate with
        status := .recoveryRequired, rollbackVerified := false, resultingState := none })
  let candidate :=
    { candidate with rollbackVerified := true, resultingState := previous }
  if !(← perform (.finish .rolledBack)) then
    return (fail .transactionFinalizeFailed
        ("installer restored prior state but could not finalize the rollback " ++ "journal"),
      { candidate with status := .recoveryRequired })
  return (fail originalFailure message, { candidate with status := .rolledBack })

def candidateReceipt (request : InstallerRequest) (transactionId : ByteString)
    (previous : Option InstalledState) : InstallerReceipt where
  action := request.action
  transactionId
  releaseVersion :=
    match request.package, previous with
    | some package, _ => package.releaseVersion
    | none, some state => state.installedVersion
    | none, none => []
  previousState := previous
  resultingState := previous
  userProfilesRetained := (previous.map (·.userProfilesPresent)).getD true

/-- Why the captured state does not allow the request. -/
def checkPrevious (request : InstallerRequest) (previous : Option InstalledState) :
    Option (InstallerCode × String) :=
  if request.expectedPrevious.any fun expected =>
      !previous.any (sameInstalledState expected) then
    some (.expectedPreviousMismatch,
      ("authoritative installed state changed after preview/approval; " ++
        "compare-and-swap rejected"))
  else if request.action = .install ∧ previous.isSome then
    some (.invalidPackage,
      ("existing installation requires Repair/Update rather than a second " ++ "Install"))
  else if (request.action = .repair ∨ request.action = .uninstall) ∧ previous.isNone then
    some (.missingInstalledState,
      "repair/uninstall requires an existing HydraSeat-owned install record")
  else none

/-- The state that is to be verified, if one remains. -/
def expectedState (request : InstallerRequest) (previous : Option InstalledState) :
    Option InstalledState :=
  if request.action ≠ .uninstall then
    request.package.map fun package =>
      stateFromPackage package request.options ((previous.map (·.userProfilesPresent)).getD false)
  else none

/-- `stageUninstall`, or `stageInstallOrRepair` with the package that was
validated. -/
def stage (request : InstallerRequest) : InstallerCommand Bool :=
  match request.action, request.package with
  | .uninstall, _ => perform (.stageUninstall request.options)
  | action, some package => perform (.stageInstallOrRepair action package request.options)
  | _, none => return false

def committedReceipt (request : InstallerRequest) (candidate : InstallerReceipt)
    (expected : Option InstalledState) : InstallerReceipt :=
  { candidate with
    status :=
      if request.action = .uninstall then .removed else .applied
    resultingState := expected
    committedArtifacts := (request.package.map artifactIdentitiesFromPackage).getD []
    firstRunWizardOffered := request.action = .install && request.options.offerFirstRunWizard
    userProfilesRetained :=
      if request.action ≠ .uninstall then (expected.map (·.userProfilesPresent)).getD true
      else request.options.retainUserProfilesOnUninstall }

def commitStaged (request : InstallerRequest) (candidate : InstallerReceipt)
    (previous expected : Option InstalledState) :
    InstallerCommand InstallerOutcome := do
  if !(← perform .commit) then
    return ← rollback candidate previous .applyFailedRolledBack
      "installer commit failed and prior owned state was restored"
  if !(← perform (.verify expected)) then
    return ← rollback candidate previous .verifyFailedRolledBack
      "installer verification failed and prior owned state was restored"
  if !(← perform (.finish .committed)) then
    return ← rollback candidate previous .transactionFinalizeFailed
      ("installer commit finalization failed and prior owned state was " ++ "restored")
  return ({}, committedReceipt request candidate expected)

def runCaptured (request : InstallerRequest) (transactionId : ByteString)
    (previous : Option InstalledState) :
    InstallerCommand InstallerOutcome := do
  let candidate := candidateReceipt request transactionId previous
  match checkPrevious request previous with
  | some (code, message) => abortWithoutMutation candidate code message
  | none =>
    if !(← stage request) then
      return ← abortWithoutMutation candidate .stageFailed
        ("installer staging failed before any committed installed state was " ++ "changed")
    commitStaged request candidate previous (expectedState request previous)

/-- `executeInstallerTransactionInternal`. -/
def runInstallerTransaction (request : InstallerRequest) : InstallerCommand InstallerOutcome :=
  match checkRequest request with
  | some diagnostic => return (diagnostic, {})
  | none => do
      if !(← perform .beginMutation) then
        return (fail .captureFailed
          ("installer could not enter the authoritative mutation " ++
            "lock/transaction boundary"), {})
      let transactionId : ByteString ← perform .transactionId
      if !validTransactionId transactionId then
        return ← abortUncaptured .captureFailed
          "installer transaction identity is invalid or unbounded"
          ("installer transaction identity was invalid and abort finalization " ++ "failed")
      let previous : Option InstalledState ← perform .previousState
      if previous.any fun state => !validInstalledState state then
        return ← abortUncaptured .captureFailed
          ("captured installed-state record is invalid or outside the owned " ++ "contract")
          ("captured installed state was invalid and transaction abort " ++ "finalization failed")
      runCaptured request transactionId previous

def executeInstallerTransaction (action : InstallerAction) (package : Option InstallerPackage)
    (environment : InstallerEnvironment) (options : InstallerOptions)
    (trustPolicy : TrustPolicy) : InstallerCommand InstallerOutcome :=
  runInstallerTransaction ⟨action, package, none, environment, options, trustPolicy⟩

def executeInstallerTransactionCompareAndSwap
    (action : InstallerAction) (package : Option InstallerPackage)
    (expectedPrevious : InstalledState)
    (environment : InstallerEnvironment) (options : InstallerOptions)
    (trustPolicy : TrustPolicy) : InstallerCommand InstallerOutcome :=
  runInstallerTransaction
    ⟨action, package, some expectedPrevious, environment, options, trustPolicy⟩

end HydraSeat.Installer
