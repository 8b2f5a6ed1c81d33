import HydraSeat.Requirement.Resolver

/-!
# Publishing runtime authority

A review puts a metrics report, the evidence that was projected from it and
the current game and provider together.  When all of them agree, the record
of the game in the store is replaced.
-/

namespace HydraSeat.Requirement

open Foundation Metrics
open Catalog
open Compat
open Plan
open Profile
open Provider

variable (review : RuntimeRequirementAuthorityReview) (evidence : CompatibilityResult)
variable (report : SessionMetricsReport)

structure RuntimeRequirementAuthorityReview where
  game : LocalGameCatalogEntry := {}
  provider : ProviderDescriptor := {}
  evidence : CompatibilityResult := {}
  report : SessionMetricsReport := {}
  requirements : Requirements := {}

inductive RuntimeRequirementAuthorityCode where
  | success | invalidCatalogGame | staleCatalogGame | providerMismatch | providerUnavailable
  | invalidProviderRevision | invalidCompatibilityEvidence | invalidSessionMetrics
  | evidenceOriginRejected | evidenceReportMismatch | physicalEvidenceIneligible
  | insufficientCapabilityEvidence | evidenceRebindRejected | storePathUnavailable | storeLoadFailed
  | revisionOverflow | invalidPublishedDocument | storeSaveFailed

structure RuntimeRequirementAuthorityDiagnostic where
  code : RuntimeRequirementAuthorityCode := .success
  message : ByteString := []

abbrev Published := Except RuntimeRequirementAuthorityDiagnostic

def failure {α : Type} (code : RuntimeRequirementAuthorityCode)
    (message : ByteString) : Published α :=
  .error ⟨code, message⟩

/-- The same verdict as the builder of reports has. -/
def expectedIsolationVerdict (input : InputMetricsReport)
    (receiverComplete lossFree : Bool) : EvidenceVerdict :=
  isolationVerdict input receiverComplete lossFree

/-- The same verdict as the builder of reports has, from the facts of a
report. -/
def expectedSessionVerdict : EvidenceVerdict :=
  overallVerdict report.isolationVerdict report.seats
    report.finalState report.rollbackAttempted report.rollbackVerified

/-- The loop over the Seats, with the Seat before and all Seats so far. -/
def checkReportSeats : UInt32 → List UInt32 → List SeatSessionMetrics → Published Unit
  | _, _, [] => .ok ()
  | previousSeat, seatIds, seat :: rest =>
    if seat.seatId = 0 ∨ seat.seatId ∈ seatIds ∨
        (previousSeat ≠ 0 ∧ seat.seatId ≤ previousSeat) then
      failure .invalidSessionMetrics
        (bytesOf ("session metrics Seat records are invalid, duplicate, or " ++ "non-canonical"))
    else checkReportSeats seat.seatId (seat.seatId :: seatIds) rest

def checkReportCounters (input : InputMetricsReport) : Published Unit :=
  if input.completeInputEvents > input.uniqueInputEvents ∨
      input.receiverVerifiedEvents > input.uniqueInputEvents ∨
      input.missingStageEvents > input.uniqueInputEvents ∨
      input.missingReceiverEvidenceEvents > input.uniqueInputEvents ∨
      input.crossSeatEvents > input.uniqueInputEvents ∨
      input.crossProcessEvents > input.uniqueInputEvents then
    failure .invalidSessionMetrics "session metrics input counters are internally inconsistent"
  else .ok ()

/-- What the report derives from its own observations. -/
def checkReportDerived : Published Unit :=
  let receiverComplete := receiverEvidenceComplete report.input
  let lossFree := lossFreeEvidence report.input
  let isolation := expectedIsolationVerdict report.input receiverComplete lossFree
  if report.receiverEvidenceComplete ≠ receiverComplete ∨ report.lossFreeEvidence ≠ lossFree ∨
      report.isolationVerdict ≠ isolation ∨
      report.maximumLaunchDurationMicros ≠ maximum (·.launchDurationMicros) report.seats ∨
      report.maximumStopDurationMicros ≠ maximum (·.stopDurationMicros) report.seats ∨
      report.maximumRollbackDurationMicros ≠ maximum (·.rollbackDurationMicros) report.seats then
    failure .invalidSessionMetrics
      (bytesOf ("session metrics derived evidence fields do not match their " ++
        "source observations"))
  else .ok ()

def validateSessionMetricsReport : Published Unit := do
  if report.schemaVersion ≠ kSessionMetricsSchemaVersion ∨ report.planFingerprint = 0 ∨
      report.seats.length < kMinimumSessionMetricSeats ∨
      report.seats.length > kMaximumSessionMetricSeats ∨
      report.input.schemaVersion ≠ kInputMetricsSchemaVersion ∨
      (report.rollbackVerified ∧ !report.rollbackAttempted) then
    failure .invalidSessionMetrics
      (bytesOf ("session metrics report is not a valid canonical " ++ "one/two-Seat report"))
  checkReportSeats 0 [] report.seats
  checkReportCounters report.input
  checkReportDerived report
  let session := expectedSessionVerdict report
  let physicalEligible : Bool := report.origin = .physical && session = .pass
  if report.sessionVerdict ≠ session ∨ report.physicalValidationEligible ≠ physicalEligible then
    failure .invalidSessionMetrics
      (bytesOf ("session metrics verdict/physical eligibility was not " ++
        "derived from the report facts"))
  else .ok ()

/-- What the evidence says of its own run. -/
def evidenceContext : LocalEvidenceContext where
  resultId := evidence.resultId
  timestampClass := evidence.timestampClass
  timestampBucket := evidence.timestampBucket
  gameId := evidence.gameId
  providerId := evidence.providerId
  providerAppId := evidence.providerAppId
  gameVersion := evidence.gameVersion
  hydraSeatVersion := evidence.hydraSeatVersion
  hydraSeatBuild := evidence.hydraSeatBuild
  windowsBuildClass := evidence.windowsBuildClass
  architecture := evidence.architecture
  scenario := evidence.scenario
  protectedExperimental := evidence.protectedExperimental
  setupRevision := evidence.setupRevision
  backends := evidence.backends
  provenanceId := evidence.provenanceId
  provenanceRevision := evidence.provenanceRevision

def canonicalEvidence : Published CompatibilityResult :=
  match canonicalizeCompatibilityResult evidence with
  | .error diagnostic =>
    failure .invalidCompatibilityEvidence
      ("compatibility result is invalid: " ++ diagnostic.message)
  | .ok canonical =>
    if canonical ≠ evidence then
      failure .invalidCompatibilityEvidence
        (bytesOf ("compatibility result must already be in canonical " ++ "local form"))
    else if canonical.origin = .synthetic ∨ canonical.origin = .importedCommunity then
      failure .evidenceOriginRejected
        (bytesOf ("Synthetic/ImportedCommunity evidence cannot publish " ++
          "local runtime authority"))
    else .ok canonical

/-- The evidence is what the report projects to. -/
def checkProjection (canonical : CompatibilityResult)
    (report : SessionMetricsReport) : Published Unit :=
  let mismatch : Published Unit := failure .evidenceReportMismatch
    (bytesOf ("compatibility result is not the exact canonical projection " ++
      "of the supplied session metrics report"))
  match
    buildCompatibilityResultFromSessionMetrics (evidenceContext canonical) report
  with
  | .error _ => mismatch
  | .ok rebuilt => if rebuilt ≠ canonical then mismatch else .ok ()

def canonicalEvidenceForReport : Published CompatibilityResult := do
  let canonical ← canonicalEvidence review.evidence
  checkProjection canonical review.report
  if canonical.origin = .physical ∧ !review.report.physicalValidationEligible then
    failure .physicalEvidenceIneligible
      (bytesOf ("Physical authority requires an existing physically eligible " ++
        "session report; the writer never sets eligibility"))
  else
    return canonical

def checkCatalogGame (game : LocalGameCatalogEntry) : Published Unit :=
  match validateGameRecordDocument { games := [game.game] } with
  | .error diagnostic =>
    failure .invalidCatalogGame ("current catalog Game is invalid: " ++ diagnostic.message)
  | .ok () =>
    if game.staleness ≠ .current ∨ game.mergedCandidateCount = 0 then
      failure .staleCatalogGame
        (bytesOf ("runtime requirement authority can be published only for " ++
          "a current reconciled catalog Game"))
    else .ok ()

def checkCurrentProvider : Published Unit :=
  let game := review.game.game
  if review.provider.providerId ≠ game.providerId ∨ evidence.providerId ≠ game.providerId ∨
      evidence.gameId ≠ game.gameId ∨
      evidence.providerAppId ≠ game.providerAppId then
    failure .providerMismatch
      (bytesOf ("current Game/provider/AppID identity does not exactly match " ++
        "the local evidence"))
  else if review.provider.availability ≠ .available then
    failure .providerUnavailable "current provider descriptor is not available"
  else if review.provider.metadataRevision = 0 then
    failure .invalidProviderRevision "current provider descriptor has no valid metadata revision"
  else .ok ()

/-- The version of the current game, when all identities agree. -/
def validateCurrentIdentity : Published (Option ByteString) := do
  checkCatalogGame review.game
  checkCurrentProvider review evidence
  match currentVersion? review.game.game with
  | none =>
    failure .invalidCatalogGame
      (bytesOf ("current Game version cannot be represented as exact UTF-8 " ++ "identity"))
  | some gameVersionUtf8 =>
    if evidence.gameVersion ≠ gameVersionUtf8 then
      failure .providerMismatch
        (bytesOf ("current Game version does not exactly match the " ++ "compatibility evidence"))
    else if review.game.game.compatibility.any fun reference =>
        evidence.provenanceRevision > 0xFFFFFFFF || reference.recordId != evidence.resultId ||
          reference.provenance != evidence.provenanceId ||
          reference.evidenceRevision != evidence.provenanceRevision.toUInt32 then
      failure .providerMismatch
        (bytesOf ("current Game compatibility reference does not identify " ++
          "the exact supplied local result"))
    else .ok gameVersionUtf8

def sameEvidenceIdentity (record : LocalRequirementEvidenceRecord)
    (evidence : CompatibilityResult) : Bool :=
  record.evidenceResultId == evidence.resultId &&
    record.evidenceProvenanceId == evidence.provenanceId &&
    record.evidenceProvenanceRevision == evidence.provenanceRevision

def exactStoredSubjectMatches (record : LocalRequirementEvidenceRecord)
    (review : RuntimeRequirementAuthorityReview)
    (version : Option ByteString) : Bool :=
  let game := review.game.game
  record.gameId == game.gameId && record.providerId == game.providerId &&
    record.providerAppId == game.providerAppId &&
    record.gameVersionUtf8 == version &&
    record.executableSha256 == game.executableSha256 &&
    record.catalogCompatibility == game.compatibility &&
    record.providerMetadataRevision == review.provider.metadataRevision

def deriveRuntimeRequirementCapabilities : Capabilities :=
  let none : Capabilities :=
    { process := false, window := false, display := false, input := false
      controller := false, audio := false, recovery := false }
  let report := review.report
  let evidence := review.evidence
  let process := review.provider.capabilities.launchRequests &&
    report.seats.all (·.processStarted) && evidence.launch = .pass
  if report.seats.isEmpty then none
  else if !process then none
  else
    { process := process, window := report.seats.all (·.windowOwnershipVerified)
      display := report.seats.all (·.displayPlacementVerified)
      input := report.receiverEvidenceComplete && report.lossFreeEvidence &&
        report.isolationVerdict = .pass &&
        evidence.inputIsolation = .pass &&
        report.seats.all (·.inputRouteReady)
      controller := evidence.controller = .pass &&
        report.seats.all fun seat => seat.controller = .success
      audio := evidence.audio = .pass && report.seats.all fun seat => seat.audio = .success
      recovery := report.finalState = .returnedToWindows && report.rollbackAttempted &&
        report.rollbackVerified && evidence.cleanExit = .pass &&
        evidence.rollback = .pass }

def deterministicRuntimeRequirementRecordId (game : LocalGameCatalogEntry) : ByteString :=
  game.game.gameId

def publishedRecord (gameVersionUtf8 : Option ByteString)
    (revision : UInt64) : LocalRequirementEvidenceRecord where
  recordId := deterministicRuntimeRequirementRecordId review.game
  revision
  gameId := review.game.game.gameId
  providerId := review.game.game.providerId
  providerAppId := review.game.game.providerAppId
  gameVersionUtf8
  executableSha256 := review.game.game.executableSha256
  catalogCompatibility := review.game.game.compatibility
  providerMetadataRevision := review.provider.metadataRevision
  evidenceResultId := evidence.resultId
  evidenceProvenanceId := evidence.provenanceId
  evidenceProvenanceRevision := evidence.provenanceRevision
  validatedSeatCount := UInt8.ofNat review.report.seats.length
  requirements := review.requirements
  capabilities := deriveRuntimeRequirementCapabilities review

/-- The revision behind the record of the game that is stored. -/
def nextRevision (previous : Option LocalRequirementEvidenceRecord)
    (review : RuntimeRequirementAuthorityReview)
    (evidence : CompatibilityResult) (gameVersionUtf8 : Option ByteString) :
    Published UInt64 :=
  match previous with
  | none => .ok 1
  | some previous =>
    if previous.revision = 0xFFFFFFFFFFFFFFFF then
      failure .revisionOverflow
        (bytesOf ("existing runtime requirement authority revision cannot " ++ "advance safely"))
    else if sameEvidenceIdentity previous evidence &&
        !exactStoredSubjectMatches previous review gameVersionUtf8 then
      failure .evidenceRebindRejected
        (bytesOf ("the same local evidence identity cannot be rebound to a " ++
          "different Game/hash/provider revision"))
    else .ok (previous.revision + 1)

/-- The record in the place of the first record of its game, or at the end. -/
def replaceRecord (record : LocalRequirementEvidenceRecord) :
    List LocalRequirementEvidenceRecord → List LocalRequirementEvidenceRecord
  | [] => [record]
  | first :: rest =>
    if first.gameId = record.gameId then record :: rest
    else first :: replaceRecord record rest

/-- `DescriptorOnlyProviderAdapter`, which launches nothing. -/
def descriptorOnly (descriptor : ProviderDescriptor) : LauncherProviderAdapter where
  descriptor := descriptor
  buildLaunchRequest _ := { result := .unsupportedOperation }

/-- What the resolver is asked about a candidate. -/
def candidateInputs : RequirementResolveInputs where
  catalog := { entries := [review.game] }
  providers :=
    [{  providerId := review.game.game.providerId
        adapter := some (descriptorOnly review.provider)
        providerAppId := review.game.game.providerAppId }]
  localEvidence := [evidence]
  context := {
    referenceMonth := evidence.timestampBucket.take 7
    staleAfterMonths := 0
    hydraSeatVersion := evidence.hydraSeatVersion
    hydraSeatBuild := evidence.hydraSeatBuild
    windowsBuildClass := evidence.windowsBuildClass
    architecture := evidence.architecture
    trust :=
      if evidence.origin = .physical then .physicalOnly
      else .controlledOrPhysical }

/-- A game with a high risk has to wait for its approval; any other game has
to have its authority. -/
def judgeCandidate (snapshot : TrustedRequirementSnapshot) : Published Unit :=
  if review.requirements.highRisk then
    match snapshot.requirements, snapshot.authorities, snapshot.blockedGames with
    | [], [], [issue] =>
      if issue.gameId ≠ review.game.game.gameId ∨ issue.code ≠ .protectedApprovalRequired then
        failure .invalidPublishedDocument
          (bytesOf ("high-risk authority must remain blocked solely by the " ++
            "separate exact protected approval gate"))
      else .ok ()
    | _, _, _ =>
      failure .invalidPublishedDocument
        (bytesOf ("high-risk authority must remain blocked solely by the " ++
          "separate exact protected approval gate"))
  else
    match snapshot.requirements, snapshot.authorities, snapshot.blockedGames with
    | [_], [_], [] => .ok ()
    | _, _, [] =>
      failure .invalidPublishedDocument
        (bytesOf ("candidate authority was rejected by the production " ++ "resolver: ") ++
          bytesOf ("candidate did not resolve to exactly one current " ++ "authority"))
    | _, _, issue :: others =>
      if others.isEmpty && issue.code = .insufficientCapabilityEvidence then
        failure .insufficientCapabilityEvidence
          (bytesOf ("the exact local observations do not prove every " ++
            "requested runtime capability"))
      else
        failure .invalidPublishedDocument
          (bytesOf ("candidate authority was rejected by the production " ++
            "resolver: ") ++ issue.message)

def validateCandidateThroughResolver (document : RequirementEvidenceDocument)
    (review : RuntimeRequirementAuthorityReview)
    (evidence : CompatibilityResult) : Published Unit :=
  match
    resolveTrustedGameRuntimeRequirements document (candidateInputs review evidence)
  with
  | .error diagnostic =>
    failure .invalidPublishedDocument
      (bytesOf ("candidate authority could not be revalidated by the " ++
        "production resolver: ") ++ diagnostic.message)
  | .ok snapshot => judgeCandidate review snapshot

/-- The store file and the staging file beside it. -/
structure StoreFiles where
  (stored staging : Option ByteString := none)

/-- Which operations on the files fail in one call, and how much of a text
that is not written completely reaches the staging file. -/
structure StoreFaults where
  (inspectFails sizeFails openFails readFails directoryFails clearFails createFails : Bool := false)
  written : Option Nat := none
  (moveFails cleanupFails : Bool := false)

/-- `GameRuntimeRequirementStore::load`; no document means that there is no
store. -/
def loadStore (faults : StoreFaults) (files : StoreFiles) :
    RequirementStore (Option RequirementEvidenceDocument) :=
  if faults.inspectFails then
    storeFailure .readFailed "failed to inspect runtime requirement evidence store"
  else
    match files.stored with
    | none => .ok none
    | some json =>
      if faults.sizeFails then
        storeFailure .readFailed "failed to size runtime requirement evidence store"
      else if json.isEmpty then
        storeFailure .parseError "runtime requirement evidence store has an invalid size"
      else if json.length > kMaximumRequirementEvidenceStoreBytes then
        storeFailure .tooLarge "runtime requirement evidence store has an invalid size"
      else if faults.openFails then
        storeFailure .readFailed "failed to open runtime requirement evidence store"
      else if faults.readFails then
        storeFailure .readFailed
          (bytesOf ("failed to read complete runtime requirement evidence " ++ "store"))
      else do
        let document ← decodeRequirementEvidenceDocumentJson json
        return some document

def clearStaging (fails : Bool) (files : StoreFiles) : StoreFiles :=
  if fails then files else { files with staging := none }

/-- The part of `GameRuntimeRequirementStore::save` behind the encoding. -/
def writeStore (faults : StoreFaults) (json : ByteString)
    (files : StoreFiles) : RequirementStore Unit × StoreFiles :=
  if faults.directoryFails then
    (storeFailure .writeFailed "failed to create runtime requirement evidence directory", files)
  else
    let files := clearStaging faults.clearFails files
    if faults.createFails then
      (storeFailure .writeFailed "failed to create runtime requirement evidence staging file",
        files)
    else
      match faults.written with
      | some count =>
        (storeFailure .writeFailed
          (bytesOf ("failed to flush runtime requirement evidence staging " ++ "file")),
          clearStaging faults.cleanupFails { files with staging := some (json.take count) })
      | none =>
        let files := { files with staging := some json }
        if faults.moveFails then
          (storeFailure .writeFailed
            (bytesOf ("failed to atomically publish runtime requirement " ++ "evidence store")),
            clearStaging faults.cleanupFails files)
        else (.ok (), { stored := some json, staging := none })

def saveStore (faults : StoreFaults) (document : RequirementEvidenceDocument)
    (files : StoreFiles) : RequirementStore Unit × StoreFiles :=
  match encodeRequirementEvidenceDocumentJson document with
  | .error diagnostic => (.error diagnostic, files)
  | .ok json => writeStore faults json files

/-- The record and the document to be saved. -/
def preparePublication (loaded : RequirementStore (Option RequirementEvidenceDocument)) :
    Published (LocalRequirementEvidenceRecord × RequirementEvidenceDocument) := do
  validateSessionMetricsReport review.report
  let evidence ← canonicalEvidenceForReport review
  let gameVersionUtf8 ← validateCurrentIdentity review evidence
  match loaded with
  | .error diagnostic =>
    failure .storeLoadFailed
      (bytesOf ("existing runtime requirement authority store failed " ++
        "validation: ") ++ diagnostic.message)
  | .ok found =>
    let document := found.getD {}
    let previous := findStoredRecord document review.game.game.gameId
    let revision ← nextRevision previous review evidence gameVersionUtf8
    let record := publishedRecord review evidence gameVersionUtf8 revision
    let candidate :=
      { document with records := replaceRecord record document.records }
    match validateRequirementEvidenceDocument candidate with
    | .error diagnostic =>
      failure .invalidPublishedDocument
        (bytesOf ("candidate runtime requirement document is invalid: ") ++ diagnostic.message)
    | .ok () =>
      validateCandidateThroughResolver candidate review evidence
      return (record, candidate)

/-- The record that was published, or why there is none, with the files. -/
def publishRuntimeRequirementAuthority (storePath : WideString)
    (faults : StoreFaults) (files : StoreFiles) :
    Published LocalRequirementEvidenceRecord × StoreFiles :=
  if storePath.isEmpty then
    (failure .storePathUnavailable "runtime requirement authority store path is empty", files)
  else
    match preparePublication review (loadStore faults files) with
    | .error diagnostic => (.error diagnostic, files)
    | .ok (record, candidate) =>
      match saveStore faults candidate files with
      | (.error diagnostic, files) =>
        (failure .storeSaveFailed
          (bytesOf ("runtime requirement authority transactional save " ++
            "failed: ") ++ diagnostic.message), files)
      | (.ok (), files) => (.ok record, files)

end HydraSeat.Requirement
