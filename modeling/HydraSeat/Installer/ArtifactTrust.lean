import HydraSeat.Strings

/-!
# Trust in an artifact

A manifest says what an artifact should be and an observation what it is.
The checks are made in the order of the source, and the first one that fails
decides.
-/

namespace HydraSeat.Trust

variable (manifest : ArtifactManifest) (observation : ArtifactObservation)

def kArtifactTrustManifestVersion : UInt32 := 1

def kMaximumArtifactCapabilities : Nat := 32

def kMaximumTrustedPublisherIdentities : Nat := 8

def kMaximumPublisherIdentityBytes : Nat := 128

inductive ArtifactClass where
  | dataCatalog | setupPackage | executable | driver | providerHelper
  deriving DecidableEq

def ArtifactClass.code : ArtifactClass → UInt8
  | .dataCatalog => 0
  | .setupPackage => 1
  | .executable => 2
  | .driver => 3
  | .providerHelper => 4

inductive ArtifactArchitecture where
  | any | x86 | x64 | arm64
  deriving DecidableEq

def ArtifactArchitecture.code : ArtifactArchitecture → UInt8
  | .any => 0
  | .x86 => 1
  | .x64 => 2
  | .arm64 => 3

inductive SignatureState where
  | notApplicable | missing | validTrustedPublisher | invalid | unknownPublisher
  deriving DecidableEq

def SignatureState.code : SignatureState → UInt8
  | .notApplicable => 0
  | .missing => 1
  | .validTrustedPublisher => 2
  | .invalid => 3
  | .unknownPublisher => 4

structure ArtifactManifest where
  schemaVersion : UInt32 := kArtifactTrustManifestVersion
  artifactId : ByteString := []
  artifactClass : ArtifactClass := .dataCatalog
  artifactVersion : ByteString := []
  architecture : ArtifactArchitecture := .any
  (expectedSha256 sourceId licenseId : ByteString := [])
  redistributionAllowed : Bool := false
  optional : Bool := true
  (developmentBuild requiresInstall requiresRestart requiresRecoveryPlan : Bool := false)
  capabilityScope : List ByteString := []
  deriving DecidableEq

structure ArtifactObservation where
  present : Bool := false
  artifactVersion : ByteString := []
  architecture : ArtifactArchitecture := .any
  observedSha256 : ByteString := []
  signature : SignatureState := .notApplicable
  publisherIdentity : ByteString := []
  deriving DecidableEq

structure TrustPolicy where
  hostArchitecture : ArtifactArchitecture := .x64
  (allowUnsignedDevelopmentExecutables requireRedistributionPermission : Bool := false)
  (allowedSourceIds allowedCapabilities trustedPublisherIdentities : List ByteString := [])
  deriving DecidableEq

inductive TrustDecision where
  | accept | optionalAbsent | reject
  deriving DecidableEq

inductive TrustCode where
  | success | optionalArtifactAbsent | requiredArtifactMissing | invalidManifest
  | unsupportedManifestVersion | invalidHash | hashMismatch | versionMismatch | architectureMismatch
  | signatureRequired | signatureInvalid | signatureMetadataMalformed | publisherIdentityRequired
  | publisherIdentityMismatch | sourceNotAllowed | capabilityNotAllowed | licenseMissing
  | redistributionNotAllowed | recoveryPlanRequired

def trustCodeName : TrustCode → String
  | .success => "Success"
  | .optionalArtifactAbsent => "OptionalArtifactAbsent"
  | .requiredArtifactMissing => "RequiredArtifactMissing"
  | .invalidManifest => "InvalidManifest"
  | .unsupportedManifestVersion => "UnsupportedManifestVersion"
  | .invalidHash => "InvalidHash"
  | .hashMismatch => "HashMismatch"
  | .versionMismatch => "VersionMismatch"
  | .architectureMismatch => "ArchitectureMismatch"
  | .signatureRequired => "SignatureRequired"
  | .signatureInvalid => "SignatureInvalid"
  | .signatureMetadataMalformed => "SignatureMetadataMalformed"
  | .publisherIdentityRequired => "PublisherIdentityRequired"
  | .publisherIdentityMismatch => "PublisherIdentityMismatch"
  | .sourceNotAllowed => "SourceNotAllowed"
  | .capabilityNotAllowed => "CapabilityNotAllowed"
  | .licenseMissing => "LicenseMissing"
  | .redistributionNotAllowed => "RedistributionNotAllowed"
  | .recoveryPlanRequired => "RecoveryPlanRequired"

structure TrustEvaluation where
  decision : TrustDecision
  code : TrustCode
  message : String

def reject (code : TrustCode) (message : String) : TrustEvaluation where
  decision := .reject
  code
  message

def alphanumeric (byte : UInt8) : Bool :=
  (65 ≤ byte && byte ≤ 90) || (97 ≤ byte && byte ≤ 122) || (48 ≤ byte && byte ≤ 57)

/-- The bytes `-`, `_` and `.`. -/
def joining (byte : UInt8) : Bool := byte == 45 || byte == 95 || byte == 46

/-- The text is not empty, not too long, and of such bytes only. -/
def spelled (limit : Nat) (allowed : UInt8 → Bool) (value : ByteString) : Bool :=
  !value.isEmpty && value.length ≤ limit && value.all allowed

/-- `validId`: the joining bytes are `-`, `_`, `.`, `:`, `@` and `+`. -/
def validId (value : ByteString) : Bool :=
  spelled 128
    (fun byte => alphanumeric byte || joining byte || byte == 58 || byte == 64 || byte == 43)
    value

def validSha256 (value : ByteString) : Bool :=
  value.length == 64 && value.all fun byte => (48 ≤ byte && byte ≤ 57) || (97 ≤ byte && byte ≤ 102)

/-- No value comes twice: the loops insert into a set and stop at the first
value that is already there. -/
def distinctValues {Value : Type} [DecidableEq Value] : List Value → Bool
  | [] => true
  | value :: rest => !rest.contains value && distinctValues rest

def validPublisherPolicy (policy : TrustPolicy) : Bool :=
  policy.trustedPublisherIdentities.length ≤ kMaximumTrustedPublisherIdentities &&
    policy.trustedPublisherIdentities.all
      (fun identity => validId identity && identity.length ≤ kMaximumPublisherIdentityBytes) &&
    distinctValues policy.trustedPublisherIdentities

def isDataOnly : ArtifactClass → Bool
  | .dataCatalog | .setupPackage => true
  | _ => false

def artifactClassCanExecute : ArtifactClass → Bool
  | .executable | .driver | .providerHelper => true
  | _ => false

/-- The loop over the capabilities, with those that it has seen. -/
def checkCapabilities (policy : TrustPolicy) :
    List ByteString → List ByteString → Option TrustEvaluation
  | _, [] => none
  | seen, capability :: rest =>
    if !validId capability || seen.contains capability then
      some (reject .invalidManifest "artifact capability scope is malformed or duplicated")
    else if !policy.allowedCapabilities.contains capability then
      some
        (reject .capabilityNotAllowed
          ("artifact requests a capability outside the selected trust " ++ "policy"))
    else checkCapabilities policy (capability :: seen) rest

def checkManifest (policy : TrustPolicy) : Option TrustEvaluation :=
  if manifest.schemaVersion ≠ kArtifactTrustManifestVersion then
    some (reject .unsupportedManifestVersion "unsupported artifact trust manifest version")
  else if !validId manifest.artifactId ||
      !validId manifest.artifactVersion || !validId manifest.sourceId ||
      !validId manifest.licenseId ||
      !validSha256 manifest.expectedSha256 ||
      manifest.capabilityScope.length > kMaximumArtifactCapabilities ||
      !validPublisherPolicy policy then
    some
      (reject .invalidManifest
        ("artifact manifest or trust policy contains invalid bounded " ++
          "identity/version/hash fields"))
  else if artifactClassCanExecute manifest.artifactClass && manifest.architecture == .any then
    some (reject .invalidManifest "executable artifact must declare an exact architecture")
  else if isDataOnly manifest.artifactClass &&
      (manifest.requiresInstall || manifest.requiresRestart ||
        manifest.requiresRecoveryPlan || manifest.developmentBuild) then
    some
      (reject .invalidManifest
        ("data-only artifact cannot acquire install/restart/executable trust " ++ "flags"))
  else none

def checkProvenance (policy : TrustPolicy) : Option TrustEvaluation :=
  if !policy.allowedSourceIds.contains manifest.sourceId then
    some
      (reject .sourceNotAllowed
        ("artifact provenance source is not allowed by the selected trust " ++ "policy"))
  else if manifest.licenseId.isEmpty then
    some (reject .licenseMissing "artifact license identity is required")
  else if policy.requireRedistributionPermission && !manifest.redistributionAllowed then
    some
      (reject .redistributionNotAllowed
        "artifact lacks the required redistribution permission marker")
  else if artifactClassCanExecute manifest.artifactClass &&
      (manifest.requiresInstall || manifest.requiresRestart) &&
      !manifest.requiresRecoveryPlan then
    some
      (reject .recoveryPlanRequired
        ("installing/restarting executable artifact requires an explicit " ++ "recovery plan"))
  else none

def validPublisherIdentity : Bool :=
  validId observation.publisherIdentity &&
    observation.publisherIdentity.length ≤ kMaximumPublisherIdentityBytes

def checkObservation : Option TrustEvaluation :=
  if !observation.present then
    if manifest.optional then
      some
        { decision := .optionalAbsent, code := .optionalArtifactAbsent
          message := "optional artifact is absent; core operation remains available" }
    else some (reject .requiredArtifactMissing "required artifact is missing")
  else if !validId observation.artifactVersion || !validSha256 observation.observedSha256 then
    some
      (reject .invalidManifest
        ("artifact observation contains invalid " ++ "version/hash/architecture/signature state"))
  else if observation.signature = .validTrustedPublisher then
    if !validPublisherIdentity observation then
      some
        (reject .signatureMetadataMalformed
          ("valid signature metadata is missing a bounded canonical publisher " ++ "identity"))
    else none
  else if (observation.signature = .missing ∨ observation.signature = .notApplicable) ∧
      !observation.publisherIdentity.isEmpty then
    some
      (reject .signatureMetadataMalformed
        ("unsigned/not-applicable signature metadata cannot carry a publisher " ++ "identity"))
  else if !observation.publisherIdentity.isEmpty && !validPublisherIdentity observation then
    some
      (reject .signatureMetadataMalformed
        "signature metadata contains a malformed publisher identity")
  else none

def checkMatch (policy : TrustPolicy) : Option TrustEvaluation :=
  if observation.artifactVersion ≠ manifest.artifactVersion then
    some (reject .versionMismatch "observed artifact version does not match the trusted manifest")
  else if observation.observedSha256 ≠ manifest.expectedSha256 then
    some (reject .hashMismatch "observed artifact hash does not match the trusted manifest")
  else if manifest.architecture ≠ .any ∧ observation.architecture ≠ manifest.architecture then
    some
      (reject .architectureMismatch
        "observed artifact architecture does not match the trusted manifest")
  else if artifactClassCanExecute manifest.artifactClass ∧
      manifest.architecture ≠ policy.hostArchitecture then
    some
      (reject .architectureMismatch
        ("executable artifact architecture is incompatible with the host " ++ "policy"))
  else none

def checkSignature (policy : TrustPolicy) : Option TrustEvaluation :=
  if observation.signature = .invalid ∨ observation.signature = .unknownPublisher then
    some (reject .signatureInvalid "artifact signature/publisher trust is invalid or unknown")
  else if observation.signature = .validTrustedPublisher ∧
      policy.trustedPublisherIdentities.isEmpty then
    some
      (reject .publisherIdentityRequired
        ("signature validity is insufficient without an exact trusted " ++
          "publisher identity policy"))
  else if observation.signature = .validTrustedPublisher ∧
      !policy.trustedPublisherIdentities.contains observation.publisherIdentity then
    some
      (reject .publisherIdentityMismatch
        ("artifact signer identity does not match the exact trusted publisher " ++ "policy"))
  else if artifactClassCanExecute manifest.artifactClass then
    if observation.signature ≠ .validTrustedPublisher ∧
        !(manifest.developmentBuild && policy.allowUnsignedDevelopmentExecutables &&
          observation.signature == .missing) then
      some
        (reject .signatureRequired
          ("executable artifact requires trusted signing or explicit " ++ "development policy"))
    else none
  else if observation.signature ≠ .notApplicable ∧ observation.signature ≠ .missing ∧
      observation.signature ≠ .validTrustedPublisher then
    some (reject .signatureInvalid "data artifact carries an invalid signature state")
  else none

def evaluateArtifact (policy : TrustPolicy) : TrustEvaluation :=
  let rejected := checkManifest manifest policy <|>
    checkCapabilities policy [] manifest.capabilityScope <|>
    checkProvenance manifest policy <|>
    checkObservation manifest observation <|>
    checkMatch manifest observation policy <|>
    checkSignature manifest observation policy
  rejected.getD
    { decision := .accept, code := .success
      message :=
        if isDataOnly manifest.artifactClass then
          "data-only artifact passed bounded hash/provenance/license policy"
        else
          ("executable artifact passed " ++
            "hash/architecture/signature/publisher/capability policy") }

end HydraSeat.Trust
