import HydraSeat.Catalog.CatalogCache
import HydraSeat.Compat.CompatibilityResult
import HydraSeat.Requirement.EvidenceDocument

/-!
# Resolving runtime requirements

The stored records, the current catalog, the providers and the local evidence
decide which games have an authority to run.  A plan is later held against
the snapshot that was resolved.
-/

namespace HydraSeat.Requirement

open Foundation
open Catalog
open Compat
open Plan
open Profile
open Provider

variable (approval : ProtectedRuntimeApproval)

def kMaximumRequirementResolveIssues : Nat := kMaximumGames

inductive LocalEvidenceTrust where
  | physicalOnly | controlledOrPhysical
  deriving DecidableEq

structure RequirementResolveContext where
  referenceMonth : ByteString := []
  staleAfterMonths : UInt32 := 6
  (hydraSeatVersion hydraSeatBuild windowsBuildClass architecture : ByteString := [])
  trust : LocalEvidenceTrust := .physicalOnly

structure ProtectedRuntimeApproval where
  (gameId providerId : ByteString := [])
  providerAppId : Option ByteString := none
  providerMetadataRevision : UInt64 := 0
  requirementRecordId : ByteString := []
  requirementRevision : UInt64 := 0
  evidenceResultId : ByteString := []
  evidenceProvenanceRevision : UInt64 := 0

inductive RequirementResolveCode where
  | missingStoredEvidence | staleCatalogGame | gameIdentityMismatch | missingProvider
  | duplicateProvider | providerUnavailable | staleProviderRevision | missingLocalEvidence
  | invalidLocalEvidence | communityEvidenceRejected | untrustedLocalEvidenceOrigin
  | evidenceEnvironmentMismatch | staleLocalEvidence | futureLocalEvidence
  | insufficientCapabilityEvidence | protectedApprovalRequired | duplicateProtectedApproval
  deriving DecidableEq

structure RequirementResolveIssue where
  code : RequirementResolveCode := .missingStoredEvidence
  (gameId message : ByteString := [])

def kTrustedRequirementSnapshotSchemaVersion : UInt32 := 1

structure TrustedGameRuntimeAuthority where
  requirement : GameRuntimeRequirement := {}
  providerId : ByteString := []
  providerAppId : Option ByteString := none
  providerMetadataRevision : UInt64 := 0
  (gameVersionUtf8 executableSha256 : Option ByteString := none)
  executableCandidates : List WideString := []
  (evidenceResultId evidenceProvenanceId : ByteString := [])
  evidenceProvenanceRevision : UInt64 := 0
  evidenceTimestampBucket : ByteString := []
  evidenceOrigin : ResultOrigin := .synthetic

structure TrustedRequirementSnapshot where
  schemaVersion : UInt32 := kTrustedRequirementSnapshotSchemaVersion
  referenceMonth : ByteString := []
  staleAfterMonths : UInt32 := 0
  trust : LocalEvidenceTrust := .physicalOnly
  authorities : List TrustedGameRuntimeAuthority := []
  requirements : List GameRuntimeRequirement := []
  blockedGames : List RequirementResolveIssue := []

inductive RequirementSnapshotCode where
  | success | invalidContext | invalidStore | invalidCatalog | tooManyInputs
  | duplicateLocalEvidenceId | invalidApproval | duplicateApproval | inputUnavailable
  | internalFailure

structure RequirementSnapshotDiagnostic where
  code : RequirementSnapshotCode := .success
  message : ByteString := []

abbrev Resolved := Except RequirementSnapshotDiagnostic

def snapshotFailure {α : Type} (code : RequirementSnapshotCode)
    (message : ByteString) : Resolved α :=
  .error ⟨code, message⟩

/-- What is resolved besides the stored records. -/
structure RequirementResolveInputs where
  catalog : LocalGameCatalog := {}
  providers : List ProviderAdapterBinding := []
  localEvidence : List CompatibilityResult := []
  protectedApprovals : List ProtectedRuntimeApproval := []
  context : RequirementResolveContext := {}

def digit? (ch : UInt8) : Option Nat :=
  if Compat.isDigit ch then some (ch.toNat - 48) else none

/-- A month counted from the year zero. -/
def parseMonth : ByteString → Option Nat
  | [y1, y2, y3, y4, dash, m1, m2] => do
      if dash ≠ 45 then none
      let thousands ← digit? y1
      let hundreds ← digit? y2
      let tens ← digit? y3
      let ones ← digit? y4
      let monthTens ← digit? m1
      let monthOnes ← digit? m2
      let year := thousands * 1000 + hundreds * 100 + tens * 10 + ones
      let month := monthTens * 10 + monthOnes
      if year < 2000 ∨ year > 9999 ∨ month < 1 ∨ month > 12 then none
      else some (year * 12 + (month - 1))
  | _ => none

def resultMonth (result : CompatibilityResult) : Option Nat :=
  if result.timestampBucket.length < 7 then none
  else parseMonth (result.timestampBucket.take 7)

def findStoredRecord (document : RequirementEvidenceDocument)
    (gameId : ByteString) : Option LocalRequirementEvidenceRecord :=
  document.records.find? (·.gameId == gameId)

/-- The same loop as in the planner. -/
def findProvider (providers : List ProviderAdapterBinding)
    (providerId : ByteString) (providerAppId : Option ByteString) :
    Option (Option LauncherProviderAdapter) :=
  Plan.findProvider providers providerId providerAppId

/-- The same conversion as in the materialization layer. -/
def wideToUtf8 (input : WideString) : Option ByteString := Materialization.wideToUtf8 input

/-- The version of a game as UTF-8, when it has one. -/
def currentVersion? (game : GameRecord) : Option (Option ByteString) :=
  match game.localVersion with
  | none => some none
  | some version => (wideToUtf8 version).map some

def gameIdentityMatches (stored : LocalRequirementEvidenceRecord) (game : GameRecord) : Bool :=
  if stored.gameId ≠ game.gameId ∨ stored.providerId ≠ game.providerId ∨
      stored.providerAppId ≠ game.providerAppId ∨
      stored.executableSha256 ≠ game.executableSha256 ∨
      stored.catalogCompatibility ≠ game.compatibility then
    false
  else
    match currentVersion? game with
    | none => false
    | some version => stored.gameVersionUtf8 == version

def capabilitiesCover (record : LocalRequirementEvidenceRecord) : Bool :=
  let needs := record.requirements
  let caps := record.capabilities
  caps.process && (!needs.windowOwnership || caps.window) && (!needs.display || caps.display) &&
    (!(needs.keyboard || needs.mouse) || caps.input) &&
    (!needs.controller || caps.controller) &&
    (!needs.audioOutput || caps.audio) && (!needs.recovery || caps.recovery)

def resultCoversRequirements (record : LocalRequirementEvidenceRecord)
    (result : CompatibilityResult) : Bool :=
  let needs := record.requirements
  if result.launch ≠ .pass then false
  else if (needs.keyboard || needs.mouse) && result.inputIsolation ≠ .pass then false
  else if needs.controller && result.controller ≠ .pass then false
  else if needs.audioOutput && result.audio ≠ .pass then false
  else if needs.recovery && (result.cleanExit ≠ .pass || result.rollback ≠ .pass) then false
  else if needs.highRisk then result.protectedExperimental && result.scenario = .protectedExperiment
  else !result.protectedExperimental

def resultIdentityMatches (record : LocalRequirementEvidenceRecord)
    (context : RequirementResolveContext) (result : CompatibilityResult) :
    Bool :=
  result.resultId == record.evidenceResultId &&
    result.provenanceId == record.evidenceProvenanceId &&
    result.provenanceRevision == record.evidenceProvenanceRevision &&
    result.gameId == record.gameId &&
    result.providerId == record.providerId &&
    result.providerAppId == record.providerAppId &&
    result.gameVersion == record.gameVersionUtf8 &&
    result.hydraSeatVersion == context.hydraSeatVersion &&
    result.hydraSeatBuild == context.hydraSeatBuild &&
    result.windowsBuildClass == context.windowsBuildClass &&
    result.architecture == context.architecture

def originAllowed (trust : LocalEvidenceTrust) (origin : ResultOrigin) : Bool :=
  if origin = .importedCommunity ∨ origin = .synthetic then false
  else
    match trust with
    | .physicalOnly => origin = .physical
    | .controlledOrPhysical => origin = .controlledProcess || origin = .physical

/-- The reference of the catalog is not the evidence of the record. -/
def refersElsewhere (record : LocalRequirementEvidenceRecord)
    (evidence : CompatibilityResult) : Bool :=
  record.catalogCompatibility.any fun reference =>
    record.evidenceProvenanceRevision > 0xFFFFFFFF || reference.recordId != evidence.resultId ||
      reference.provenance != evidence.provenanceId ||
      reference.evidenceRevision != record.evidenceProvenanceRevision.toUInt32

def approvalStructurallyValid : Bool :=
  validProfileIdentifier approval.gameId && validProfileIdentifier approval.providerId &&
    approval.providerAppId.all validProfileIdentifier &&
    approval.providerMetadataRevision != 0 &&
    validProfileIdentifier approval.requirementRecordId &&
    approval.requirementRevision != 0 &&
    validEvidenceIdentifier approval.evidenceResultId &&
    approval.evidenceProvenanceRevision != 0

def approvalMatches (record : LocalRequirementEvidenceRecord) : Bool :=
  approval.gameId == record.gameId && approval.providerId == record.providerId &&
    approval.providerAppId == record.providerAppId &&
    approval.providerMetadataRevision == record.providerMetadataRevision &&
    approval.requirementRecordId == record.recordId &&
    approval.requirementRevision == record.revision &&
    approval.evidenceResultId == record.evidenceResultId &&
    approval.evidenceProvenanceRevision == record.evidenceProvenanceRevision

/-- The lines that a set of approvals is told apart by. -/
def approvalKey : ByteString :=
  approval.gameId ++ 10 :: approval.providerId ++ 10 :: approval.providerAppId.getD [] ++
    10 :: decimal approval.providerMetadataRevision.toNat ++
    10 :: approval.requirementRecordId ++
    10 :: decimal approval.requirementRevision.toNat ++
    10 :: approval.evidenceResultId ++
    10 :: decimal approval.evidenceProvenanceRevision.toNat

/-- The loop over the approvals, with the keys so far. -/
def checkApprovals : List ByteString → List ProtectedRuntimeApproval → Resolved Unit
  | _, [] => .ok ()
  | keys, approval :: rest => do
      if !approvalStructurallyValid approval then
        snapshotFailure .invalidApproval "protected runtime approval is invalid or unbounded"
      if approvalKey approval ∈ keys then
        snapshotFailure .duplicateApproval "duplicate protected runtime approval is ambiguous"
      checkApprovals (approvalKey approval :: keys) rest

/-- An authority, or why the game has none. -/
abbrev Authorized := Except (RequirementResolveCode × ByteString)

def blocked {α : Type} (code : RequirementResolveCode) (message : String) : Authorized α :=
  .error (code, bytesOf message)

section Games

variable (stored : RequirementEvidenceDocument)
  (input : RequirementResolveInputs) (referenceMonth : Nat)

/-- The record of a game that is current and the same. -/
def resolveRecord (entry : LocalGameCatalogEntry) : Authorized LocalRequirementEvidenceRecord :=
  match findStoredRecord stored entry.game.gameId with
  | none =>
    blocked .missingStoredEvidence
      ("no trusted local runtime requirement evidence is stored for this " ++ "Game")
  | some record =>
    if entry.staleness ≠ .current ∨ entry.mergedCandidateCount = 0 then
      blocked .staleCatalogGame
        ("local Game catalog evidence is stale or has no reconciled " ++ "candidate")
    else if !gameIdentityMatches record entry.game then
      blocked .gameIdentityMismatch
        ("stored requirement evidence does not match the exact local Game " ++ "identity")
    else .ok record

def checkProvider (game : GameRecord) (record : LocalRequirementEvidenceRecord) : Authorized Unit :=
  match findProvider input.providers game.providerId game.providerAppId with
  | none => blocked .duplicateProvider "multiple current provider bindings match the Game"
  | some none => blocked .missingProvider "the exact current provider binding is missing"
  | some (some adapter) =>
    let descriptor := adapter.descriptor
    if descriptor.providerId ≠ game.providerId ∨ descriptor.availability ≠ .available ∨
        descriptor.metadataRevision = 0 then
      blocked .providerUnavailable
        ("provider snapshot is unavailable, mismatched, or has no " ++ "revision")
    else if descriptor.metadataRevision ≠ record.providerMetadataRevision then
      blocked .staleProviderRevision
        ("stored requirement evidence targets a different provider " ++ "metadata revision")
    else .ok ()

/-- The entry of the evidence map; results without an id are left out. -/
def findEvidence (resultId : ByteString) : Option CompatibilityResult :=
  input.localEvidence.find? fun result => !result.resultId.isEmpty && result.resultId == resultId

def resolveEvidence (record : LocalRequirementEvidenceRecord) : Authorized CompatibilityResult :=
  match findEvidence input record.evidenceResultId with
  | none => blocked .missingLocalEvidence "the exact local compatibility evidence result is missing"
  | some result =>
  match canonicalizeCompatibilityResult result with
  | .error diagnostic =>
    .error (.invalidLocalEvidence,
      "local compatibility evidence is invalid: " ++ diagnostic.message)
  | .ok evidence =>
    if evidence.origin = .importedCommunity then
      blocked .communityEvidenceRejected
        ("imported community results cannot authorize runtime " ++ "requirements")
    else if !originAllowed input.context.trust evidence.origin then
      blocked .untrustedLocalEvidenceOrigin
        ("local evidence origin is below the configured runtime trust " ++ "level")
    else if !resultIdentityMatches record input.context evidence then
      blocked .evidenceEnvironmentMismatch
        ("local evidence identity/environment does not exactly match the " ++ "runtime context")
    else if refersElsewhere record evidence then
      blocked .gameIdentityMismatch
        ("catalog compatibility reference does not identify the exact " ++ "local evidence")
    else .ok evidence

def checkMonth (evidence : CompatibilityResult) : Authorized Unit :=
  match resultMonth evidence with
  | none => blocked .invalidLocalEvidence "local evidence timestamp cannot be classified by month"
  | some observedMonth =>
    if observedMonth > referenceMonth then
      blocked .futureLocalEvidence
        ("future-dated local evidence cannot authorize runtime " ++ "requirements")
    else if referenceMonth - observedMonth > input.context.staleAfterMonths.toNat then
      blocked .staleLocalEvidence "local evidence is older than the configured freshness horizon"
    else .ok ()

/-- Whether a high risk was approved; without one there is nothing to
approve. -/
def resolveApproval (record : LocalRequirementEvidenceRecord) : Authorized Bool :=
  if record.requirements.highRisk then
    let approvals := input.protectedApprovals.countP (approvalMatches · record)
    if approvals > 1 then
      blocked .duplicateProtectedApproval
        "multiple approvals match the exact protected runtime authority"
    else if approvals = 0 then
      blocked .protectedApprovalRequired
        ("Protected / Experimental runtime requires exact current user " ++ "approval")
    else .ok true
  else .ok false

/-- The authority of a game behind all checks. -/
def authorityOf (game : GameRecord) (record : LocalRequirementEvidenceRecord)
    (evidence : CompatibilityResult) (protectedApproved : Bool) :
    TrustedGameRuntimeAuthority where
  requirement := {
    gameId := game.gameId
    revision := record.revision
    validatedSeatCount := record.validatedSeatCount
    requirements := record.requirements
    capabilities := record.capabilities
    highRiskApproved := protectedApproved
    compatibility := game.compatibility }
  providerId := record.providerId
  providerAppId := record.providerAppId
  providerMetadataRevision := record.providerMetadataRevision
  gameVersionUtf8 := record.gameVersionUtf8
  executableSha256 := record.executableSha256
  executableCandidates := game.executableCandidates
  evidenceResultId := evidence.resultId
  evidenceProvenanceId := evidence.provenanceId
  evidenceProvenanceRevision := evidence.provenanceRevision
  evidenceTimestampBucket := evidence.timestampBucket
  evidenceOrigin := evidence.origin

/-- One turn of the loop over the catalog. -/
def resolveGame (entry : LocalGameCatalogEntry) : Authorized TrustedGameRuntimeAuthority := do
  let record ← resolveRecord stored entry
  checkProvider input entry.game record
  let evidence ← resolveEvidence input record
  checkMonth input referenceMonth evidence
  if !capabilitiesCover record || !resultCoversRequirements record evidence then
    blocked .insufficientCapabilityEvidence
      ("local capability/result evidence does not prove every required " ++ "runtime path")
  else
    let protectedApproved ← resolveApproval input record
    return authorityOf entry.game record evidence protectedApproved

end Games

def addIssue (snapshot : TrustedRequirementSnapshot)
    (issue : RequirementResolveIssue) : TrustedRequirementSnapshot :=
  if snapshot.blockedGames.length ≥ kMaximumRequirementResolveIssues then snapshot
  else
    { snapshot with blockedGames := snapshot.blockedGames ++ [issue] }

def addAuthority (snapshot : TrustedRequirementSnapshot)
    (authority : TrustedGameRuntimeAuthority) : TrustedRequirementSnapshot :=
  { snapshot with
    authorities := snapshot.authorities ++ [authority]
    requirements := snapshot.requirements ++ [authority.requirement] }

def resolveCodeNumber : RequirementResolveCode → Nat
  | .missingStoredEvidence => 0
  | .staleCatalogGame => 1
  | .gameIdentityMismatch => 2
  | .missingProvider => 3
  | .duplicateProvider => 4
  | .providerUnavailable => 5
  | .staleProviderRevision => 6
  | .missingLocalEvidence => 7
  | .invalidLocalEvidence => 8
  | .communityEvidenceRejected => 9
  | .untrustedLocalEvidenceOrigin => 10
  | .evidenceEnvironmentMismatch => 11
  | .staleLocalEvidence => 12
  | .futureLocalEvidence => 13
  | .insufficientCapabilityEvidence => 14
  | .protectedApprovalRequired => 15
  | .duplicateProtectedApproval => 16

def issueBefore (left right : RequirementResolveIssue) : Bool :=
  if left.gameId ≠ right.gameId then textBefore left.gameId right.gameId
  else resolveCodeNumber left.code < resolveCodeNumber right.code

def sortSnapshot (snapshot : TrustedRequirementSnapshot) : TrustedRequirementSnapshot :=
  { snapshot with
    authorities :=
      snapshot.authorities.insertionSort fun left right =>
        textBefore right.requirement.gameId left.requirement.gameId = false
    requirements :=
      snapshot.requirements.insertionSort fun left right =>
        textBefore right.gameId left.gameId = false
    blockedGames :=
      snapshot.blockedGames.insertionSort fun left right => issueBefore right left = false }

section Catalog

variable (stored : RequirementEvidenceDocument) (input : RequirementResolveInputs)

def resolveEntry (referenceMonth : Nat) (snapshot : TrustedRequirementSnapshot)
    (entry : LocalGameCatalogEntry) : TrustedRequirementSnapshot :=
  match resolveGame stored input referenceMonth entry with
  | .error (code, message) => addIssue snapshot ⟨code, entry.game.gameId, message⟩
  | .ok authority => addAuthority snapshot authority

def checkStore : Resolved Unit :=
  match validateRequirementEvidenceDocument stored with
  | .ok () => .ok ()
  | .error diagnostic => snapshotFailure .invalidStore diagnostic.message

/-- The reference month of a context that is valid. -/
def checkContext (context : RequirementResolveContext) : Resolved Nat :=
  match parseMonth context.referenceMonth with
  | none =>
    snapshotFailure .invalidContext "runtime requirement resolve context is invalid or unbounded"
  | some referenceMonth =>
    if context.staleAfterMonths > 120 ∨ !validCompatibilityVersion context.hydraSeatVersion ∨
        !validCompatibilityVersion context.hydraSeatBuild ∨
        !validCompatibilityVersion context.windowsBuildClass ∨
        !validEvidenceIdentifier context.architecture then
      snapshotFailure .invalidContext
        (bytesOf ("runtime requirement resolve context is invalid or " ++ "unbounded"))
    else .ok referenceMonth

def checkBounds : Resolved Unit :=
  if input.catalog.entries.length > kMaximumGames ∨ input.providers.length > kMaximumGames ∨
      input.localEvidence.length > 65536 ∨
      input.protectedApprovals.length > kMaximumGames then
    snapshotFailure .tooManyInputs
      (bytesOf ("runtime requirement resolver input exceeds a bounded " ++ "maximum"))
  else .ok ()

def checkCatalog : Resolved Unit :=
  match
    validateGameRecordDocument { games := input.catalog.entries.map (·.game) }
  with
  | .ok () => .ok ()
  | .error diagnostic =>
    snapshotFailure .invalidCatalog ("local Game catalog is invalid: " ++ diagnostic.message)

/-- The ids that the evidence is told apart by. -/
def evidenceIds : List ByteString := (input.localEvidence.map (·.resultId)).filter (!·.isEmpty)

def checkEvidenceIds : Resolved Unit :=
  match firstRepeated? [] (evidenceIds input) with
  | none => .ok ()
  | some _ =>
    snapshotFailure .duplicateLocalEvidenceId
      (bytesOf ("local compatibility evidence contains duplicate " ++ "result_id authority"))

/-- The reference month behind the checks of the whole input. -/
def checkInputs : Resolved Nat := do
  checkStore stored
  let referenceMonth ← checkContext input.context
  checkBounds input
  checkCatalog input
  checkEvidenceIds input
  checkApprovals [] input.protectedApprovals
  return referenceMonth

def resolveTrustedGameRuntimeRequirements : Resolved TrustedRequirementSnapshot := do
  let referenceMonth ← checkInputs stored input
  return sortSnapshot
    (input.catalog.entries.foldl (resolveEntry stored input referenceMonth)
      { referenceMonth := input.context.referenceMonth
        staleAfterMonths := input.context.staleAfterMonths, trust := input.context.trust })

end Catalog

inductive TrustedPlanRequirementCode where
  | success | invalidSnapshot | missingAuthority | duplicateAuthority | gameIdentityMismatch
  | providerIdentityMismatch | providerRevisionMismatch | requirementMismatch
  | untrustedEvidenceOrigin | staleEvidence | protectedApprovalRequired
  | validationSeatScopeExceeded

structure TrustedPlanRequirementDiagnostic where
  code : TrustedPlanRequirementCode := .success
  (gameId message : ByteString := [])

abbrev Gate := Except TrustedPlanRequirementDiagnostic

def trustedPlanFailure {α : Type} (code : TrustedPlanRequirementCode)
    (gameId : ByteString) (message : String) : Gate α :=
  .error ⟨code, gameId, bytesOf message⟩

/-- The same function as in the resolver. -/
def parseTrustedMonth (value : ByteString) : Option Nat := parseMonth value

section Gate

variable (snapshot : TrustedRequirementSnapshot) (requirePhysicalEvidence : Bool)

def checkAuthorityFields (authority : TrustedGameRuntimeAuthority) : Gate Unit :=
  if authority.requirement.gameId.isEmpty || authority.requirement.revision == 0 ||
      authority.requirement.validatedSeatCount < 1 ||
      authority.requirement.validatedSeatCount > 2 ||
      authority.providerId.isEmpty ||
      authority.providerMetadataRevision == 0 ||
      authority.executableCandidates.isEmpty ||
      authority.executableCandidates.length > kMaximumExecutableCandidates ||
      authority.evidenceResultId.isEmpty ||
      authority.evidenceProvenanceId.isEmpty ||
      authority.evidenceProvenanceRevision == 0 ||
      authority.evidenceTimestampBucket.length < 7 then
    trustedPlanFailure .invalidSnapshot authority.requirement.gameId
      "trusted runtime authority has an invalid identity/revision field"
  else .ok ()

def checkAuthorityMonth (referenceMonth : Nat)
    (authority : TrustedGameRuntimeAuthority) : Gate Unit :=
  match parseTrustedMonth (authority.evidenceTimestampBucket.take 7) with
  | none =>
    trustedPlanFailure .staleEvidence authority.requirement.gameId
      "runtime authority evidence is stale, future-dated, or malformed"
  | some observedMonth =>
    if observedMonth > referenceMonth ∨
        referenceMonth - observedMonth > snapshot.staleAfterMonths.toNat then
      trustedPlanFailure .staleEvidence authority.requirement.gameId
        "runtime authority evidence is stale, future-dated, or malformed"
    else .ok ()

/-- One turn of the loop over the authorities, with those that follow. -/
def checkAuthority (referenceMonth : Nat) (authority : TrustedGameRuntimeAuthority)
    (others : List TrustedGameRuntimeAuthority) : Gate Unit := do
  checkAuthorityFields authority
  if others.any (·.requirement.gameId == authority.requirement.gameId) then
    trustedPlanFailure .duplicateAuthority authority.requirement.gameId
      "trusted snapshot contains duplicate authority for one Game"
  if snapshot.requirements.count authority.requirement ≠ 1 then
    trustedPlanFailure .invalidSnapshot authority.requirement.gameId
      "launcher requirement vector diverges from runtime authority records"
  if authority.evidenceOrigin = .importedCommunity ∨ authority.evidenceOrigin = .synthetic ∨
      (requirePhysicalEvidence ∧ authority.evidenceOrigin ≠ .physical) ∨
      (snapshot.trust = .physicalOnly ∧ authority.evidenceOrigin ≠ .physical) then
    trustedPlanFailure .untrustedEvidenceOrigin authority.requirement.gameId
      "runtime authority is not backed by acceptable local physical evidence"
  checkAuthorityMonth snapshot referenceMonth authority
  if authority.requirement.requirements.highRisk && !authority.requirement.highRiskApproved then
    trustedPlanFailure .protectedApprovalRequired authority.requirement.gameId
      ("Protected / Experimental runtime authority lacks exact current " ++ "approval")
  else .ok ()

def checkAuthorities (referenceMonth : Nat) : List TrustedGameRuntimeAuthority → Gate Unit
  | [] => .ok ()
  | authority :: rest => do
      checkAuthority snapshot requirePhysicalEvidence referenceMonth authority rest
      checkAuthorities referenceMonth rest

/-- The checks of the snapshot, before the plan is looked at. -/
def checkSnapshot : Gate Unit := do
  if snapshot.schemaVersion ≠ kTrustedRequirementSnapshotSchemaVersion ∨
      snapshot.authorities.length > kMaximumGames ∨
      snapshot.requirements.length ≠ snapshot.authorities.length ∨
      snapshot.staleAfterMonths > 120 then
    trustedPlanFailure .invalidSnapshot []
      ("trusted runtime requirement snapshot is malformed or internally " ++ "inconsistent")
  match parseTrustedMonth snapshot.referenceMonth with
  | none =>
    trustedPlanFailure .invalidSnapshot []
      ("trusted runtime requirement snapshot has an invalid reference " ++ "month")
  | some referenceMonth =>
    checkAuthorities snapshot requirePhysicalEvidence referenceMonth snapshot.authorities

/-- The one authority of the game of a Seat. -/
def findAuthority (gameId : ByteString) : Gate TrustedGameRuntimeAuthority :=
  match snapshot.authorities.filter (·.requirement.gameId == gameId) with
  | [] =>
    trustedPlanFailure .missingAuthority gameId
      ("provider plan Game is absent from the freshly resolved trusted " ++ "snapshot")
  | [authority] => .ok authority
  | _ :: _ :: _ =>
    trustedPlanFailure .duplicateAuthority gameId
      "multiple trusted authorities match the planned Game"

/-- One turn of the loop over the Seats of a plan. -/
def checkSeat (plan : ProviderAwareLaunchPlan) (seat : SeatProviderLaunchPlan) : Gate Unit := do
  let authority ← findAuthority snapshot seat.gameId
  if seat.launchRequest.providerId ≠ authority.providerId ∨
      seat.launchRequest.providerAppId ≠ authority.providerAppId ∨
      seat.launchRequest.gameId ≠ seat.gameId then
    trustedPlanFailure .providerIdentityMismatch seat.gameId
      "provider plan identity does not match trusted local Game authority"
  if seat.launchRequest.targetKind = .executable ∧
      seat.launchRequest.target ∉ authority.executableCandidates then
    trustedPlanFailure .gameIdentityMismatch seat.gameId
      ("provider plan executable target is outside the exact current Game " ++ "identity")
  if seat.launchRequest.metadataRevision ≠ authority.providerMetadataRevision then
    trustedPlanFailure .providerRevisionMismatch seat.gameId
      ("provider metadata revision changed after trusted requirement " ++ "resolution")
  let trusted := authority.requirement
  let selectedSeatCount := UInt8.ofNat (plan.seats.countP (·.gameId == seat.gameId))
  if selectedSeatCount > trusted.validatedSeatCount then
    trustedPlanFailure .validationSeatScopeExceeded seat.gameId
      ("provider plan uses the Game on more Seats than the trusted physical " ++ "validation scope")
  if seat.requirementRevision ≠ trusted.revision ∨ seat.requirements ≠ trusted.requirements ∨
      seat.capabilities ≠ trusted.capabilities ∨
      seat.compatibility ≠ trusted.compatibility then
    trustedPlanFailure .requirementMismatch seat.gameId
      ("provider plan requirement/capability evidence differs from trusted " ++ "authority")
  if seat.requirements.highRisk && !trusted.highRiskApproved then
    trustedPlanFailure .protectedApprovalRequired seat.gameId
      ("provider plan cannot activate a Protected path without trusted " ++ "approval")
  else .ok ()

/-- The gate; physical evidence is required unless the caller says
otherwise. -/
def validateProviderAwareLaunchPlanAgainstTrustedRequirements
    (plan : ProviderAwareLaunchPlan) : Gate Unit := do
  checkSnapshot snapshot requirePhysicalEvidence
  plan.seats.forM (checkSeat snapshot plan)

end Gate

end HydraSeat.Requirement
