import HydraSeat.Decimal
import HydraSeat.Installer.InstallerTransaction

/-!
# Updates of the application

An update is previewed, approved and applied.  The approval names the offer
by an identity that is put together from all of its fields.
-/

namespace HydraSeat.Update

open Foundation
open Foundation.Command
open Installer Trust

variable (identity : ByteString)

def kUpdateContractVersion : UInt32 := 1

def kMaximumApprovalIdentityBytes : Nat := 65536

inductive UpdateDirection where
  | upgrade | rollback

structure ApplicationUpdateOffer where
  schemaVersion : UInt32 := kUpdateContractVersion
  releaseNotesId : ByteString := []
  package : InstallerPackage := {}
  restartRecommended : Bool := false

structure UpdatePreview where
  direction : UpdateDirection := .upgrade
  currentVersion : ByteString := []
  currentRevision : UInt64 := 0
  targetVersion : ByteString := []
  targetRevision : UInt64 := 0
  releaseNotesId : ByteString := []
  restartRecommended : Bool := false
  approvalIdentity : ByteString := []

structure UpdateApproval where
  userApproved : Bool := false
  approvalIdentity : ByteString := []

inductive UpdateCode where
  | success | invalidOffer | architectureMismatch | notNewer | invalidRollbackTarget | trustRejected
  | approvalRequired | approvalMismatch | staleInstalledState | installerRejected
  deriving DecidableEq

structure UpdateDiagnostic where
  code : UpdateCode := .success
  installerCode : Option InstallerCode := none
  message : String := ""

def failUpdate (code : UpdateCode) (message : String)
    (installerCode : Option InstallerCode) : UpdateDiagnostic where
  code
  installerCode
  message

/-- `appendIdentityField`: the length, a colon, the value and a bar. -/
def appendIdentityField (identity value : ByteString) : ByteString :=
  identity ++ decimal value.length ++ [58] ++ value ++ [124]

/-- `appendIdentityNumber`: the number and a bar. -/
def appendIdentityNumber (value : Nat) : ByteString := identity ++ decimal value ++ [124]

def appendIdentityFlag (value : Bool) : ByteString :=
  appendIdentityNumber identity (if value then 1 else 0)

def canonicalComponents (package : InstallerPackage) : List PackageComponent :=
  sortByComponent (·.component) package.components

/-- `std::sort` of the capabilities, by their bytes. -/
def sortCapabilities (capabilities : List ByteString) : List ByteString :=
  capabilities.insertionSort fun left right => left.map UInt8.toNat ≤ right.map UInt8.toNat

/-- A field of the component, or a capability, is too long. -/
def componentExceeds (component : PackageComponent) : Bool :=
  let manifest := component.manifest
  let observation := component.observation
  manifest.artifactId.length > 128 || manifest.artifactVersion.length > 128 ||
    manifest.expectedSha256.length > 64 || manifest.sourceId.length > 128 ||
    manifest.licenseId.length > 128 ||
    observation.artifactVersion.length > 128 ||
    observation.observedSha256.length > 64 ||
    observation.publisherIdentity.length > kMaximumPublisherIdentityBytes ||
    manifest.capabilityScope.length > kMaximumArtifactCapabilities ||
    manifest.capabilityScope.any (·.length > 128)

def appendManifest (manifest : ArtifactManifest) : ByteString :=
  let identity := appendIdentityNumber identity manifest.schemaVersion.toNat
  let identity := appendIdentityField identity manifest.artifactId
  let identity := appendIdentityNumber identity manifest.artifactClass.code.toNat
  let identity := appendIdentityField identity manifest.artifactVersion
  let identity := appendIdentityNumber identity manifest.architecture.code.toNat
  let identity := appendIdentityField identity manifest.expectedSha256
  let identity := appendIdentityField identity manifest.sourceId
  let identity := appendIdentityField identity manifest.licenseId
  let identity := appendIdentityFlag identity manifest.redistributionAllowed
  let identity := appendIdentityFlag identity manifest.optional
  let identity := appendIdentityFlag identity manifest.developmentBuild
  let identity := appendIdentityFlag identity manifest.requiresInstall
  let identity := appendIdentityFlag identity manifest.requiresRestart
  let identity := appendIdentityFlag identity manifest.requiresRecoveryPlan
  let capabilities := sortCapabilities manifest.capabilityScope
  let identity := appendIdentityNumber identity capabilities.length
  capabilities.foldl appendIdentityField identity

def appendObservation (observation : ArtifactObservation) : ByteString :=
  let identity := appendIdentityFlag identity observation.present
  let identity := appendIdentityField identity observation.artifactVersion
  let identity := appendIdentityNumber identity observation.architecture.code.toNat
  let identity := appendIdentityField identity observation.observedSha256
  let identity := appendIdentityNumber identity observation.signature.code.toNat
  appendIdentityField identity observation.publisherIdentity

def appendComponent (component : PackageComponent) : ByteString :=
  let identity := appendIdentityNumber identity component.component.code.toNat
  let identity := appendManifest identity component.manifest
  appendObservation identity component.observation

def invalidIdentity : ByteString := "app-update:invalid"

/-- The loop over the canonical components. -/
def appendComponents : ByteString → List PackageComponent → ByteString
  | identity, [] => identity
  | identity, component :: rest =>
    if componentExceeds component then invalidIdentity
    else
      let identity := appendComponent identity component
      if identity.length > kMaximumApprovalIdentityBytes then invalidIdentity
      else appendComponents identity rest

def identityHeader (offer : ApplicationUpdateOffer) : ByteString :=
  let identity := bytesOf "app-update-v3|"
  let identity := appendIdentityNumber identity offer.schemaVersion.toNat
  let identity := appendIdentityField identity offer.package.releaseVersion
  let identity := appendIdentityNumber identity offer.package.releaseRevision.toNat
  let identity := appendIdentityNumber identity offer.package.architecture.code.toNat
  let identity := appendIdentityField identity offer.releaseNotesId
  appendIdentityFlag identity offer.restartRecommended

def makeApprovalIdentity (offer : ApplicationUpdateOffer) : ByteString :=
  if offer.package.components.isEmpty ||
      offer.package.components.length > kMaximumInstallerComponents ||
      offer.package.releaseVersion.isEmpty ||
      offer.package.releaseVersion.length > 64 ||
      offer.releaseNotesId.isEmpty || offer.releaseNotesId.length > 128 then
    invalidIdentity
  else appendComponents (identityHeader offer) (canonicalComponents offer.package)

def validInstalledStateForPreview (state : InstalledState) : Bool :=
  state.schemaVersion == kInstallerContractVersion &&
    validVersion state.installedVersion && state.installedRevision != 0 &&
    state.uninstallRegistered && state.ownedComponents.length == 7 &&
    state.ownedComponents.length ≤ kMaximumInstallerComponents &&
    state.ownedComponents.all
      (fun component =>
        component.version == state.installedVersion && validVersion component.version &&
          validSha256 component.sha256) &&
    distinctValues (state.ownedComponents.map (·.component))

/-- Why the revision of an offer does not move in the direction. -/
def checkRevision (direction : UpdateDirection) (current target : UInt64) :
    Option UpdateDiagnostic :=
  match direction with
  | .upgrade =>
    if target ≤ current then
      some
        (failUpdate .notNewer
          ("application update revision must be newer than the installed " ++ "revision") none)
    else none
  | .rollback =>
    if target ≥ current then
      some
        (failUpdate .invalidRollbackTarget
          ("rollback package revision must be older than the installed " ++ "revision") none)
    else none

def previewApplicationUpdate (current : InstalledState) (offer : ApplicationUpdateOffer)
    (direction : UpdateDirection) (environment : InstallerEnvironment)
    (trustPolicy : TrustPolicy) :
    Except UpdateDiagnostic UpdatePreview :=
  if offer.schemaVersion ≠ kUpdateContractVersion ∨ !validId offer.releaseNotesId ∨
      !validInstalledStateForPreview current then
    .error
      (failUpdate .invalidOffer "application update offer/current installation metadata is invalid"
        none)
  else if current.architecture ≠ environment.architecture ∨
      offer.package.architecture ≠ current.architecture then
    .error
      (failUpdate .architectureMismatch
        ("application update architecture does not match the installed " ++ "architecture") none)
  else
    let packageValidation := validateInstallerPackage offer.package environment trustPolicy
    if !packageValidation.succeeded then
      .error
        (failUpdate
          (if packageValidation.code = .architectureMismatch then .architectureMismatch
          else .trustRejected)
          ("application update package failed installer trust validation: " ++
            packageValidation.message)
          (some packageValidation.code))
    else
      match
        checkRevision direction current.installedRevision offer.package.releaseRevision
      with
      | some diagnostic => .error diagnostic
      | none =>
        let approvalIdentity := makeApprovalIdentity offer
        if approvalIdentity = invalidIdentity ∨
            approvalIdentity.length > kMaximumApprovalIdentityBytes then
          .error
            (failUpdate .invalidOffer
              ("application update approval identity exceeds the bounded " ++
                "canonical contract") none)
        else
          .ok
            { direction
              currentVersion := current.installedVersion
              currentRevision := current.installedRevision
              targetVersion := offer.package.releaseVersion
              targetRevision := offer.package.releaseRevision
              releaseNotesId := offer.releaseNotesId
              restartRecommended := offer.restartRecommended
              approvalIdentity }

/-- Why an update must not be applied, although its offer was accepted. -/
def checkApproval (current : InstalledState) (preview : UpdatePreview)
    (approval : UpdateApproval) (options : InstallerOptions) :
    Option UpdateDiagnostic :=
  if !approval.userApproved then
    some
      (failUpdate .approvalRequired
        ("application executable update/rollback requires explicit user " ++ "approval") none)
  else if approval.approvalIdentity ≠ preview.approvalIdentity then
    some
      (failUpdate .approvalMismatch
        ("application update approval does not match the exact target " ++ "revision") none)
  else if options.startupMode ≠ current.startupMode then
    some
      (failUpdate .invalidOffer "application update cannot silently change the user's startup mode"
        none)
  else none

/-- What the update says of the outcome of its transaction. -/
def updateOutcome (installed : InstallerDiagnostic) : UpdateDiagnostic :=
  if installed.code = .expectedPreviousMismatch then
    failUpdate .staleInstalledState
      ("installed HydraSeat state changed after update preview; stale approval " ++
        "cannot overwrite it")
      (some installed.code)
  else if !installed.succeeded then
    failUpdate .installerRejected ("application update transaction failed: " ++ installed.message)
      (some installed.code)
  else
    {}

/-- The receipt that the caller passes in is kept when nothing is run. -/
def applyApplicationUpdate (current : InstalledState) (offer : ApplicationUpdateOffer)
    (direction : UpdateDirection) (approval : UpdateApproval)
    (environment : InstallerEnvironment) (options : InstallerOptions)
    (trustPolicy : TrustPolicy) (receipt : InstallerReceipt) :
    InstallerCommand (UpdateDiagnostic × InstallerReceipt) :=
  match
    previewApplicationUpdate current offer direction environment trustPolicy
  with
  | .error diagnostic => return (diagnostic, receipt)
  | .ok preview =>
    match checkApproval current preview approval options with
    | some diagnostic => return (diagnostic, receipt)
    | none => do
        let (installed, receipt) ← executeInstallerTransactionCompareAndSwap .repair
          (some offer.package) current environment options trustPolicy
        return (updateOutcome installed, receipt)

end HydraSeat.Update
