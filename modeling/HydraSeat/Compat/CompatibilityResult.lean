import HydraSeat.Metrics.SessionMetrics
import HydraSeat.Profile.SchemaText

/-!
# Compatibility results

A result says what one run of a game showed.  It is checked, brought into a
canonical form and built from the metrics of a session.
-/

namespace HydraSeat.Compat

open Foundation Metrics List

def kCompatibilityResultSchemaVersion : UInt32 := 1

def kCompatibilityRedactionSchemaVersion : UInt32 := 1

def kMaximumCompatibilityBackends : Nat := 32

def kMaximumCompatibilityIdentifierBytes : Nat := 128

def kMaximumCompatibilityVersionBytes : Nat := 96

inductive TimestampClass where
  | dayBucket | monthBucket
  deriving DecidableEq

inductive Scenario where
  | differentGames | sameGameTwoInstance | protectedExperiment
  deriving DecidableEq

inductive EvidenceStatus where
  | notMeasured | pass | fail | unsupported
  deriving DecidableEq

inductive ResultOrigin where
  | synthetic | controlledProcess | physical | importedCommunity
  deriving DecidableEq

structure BackendEvidence where
  backendId : ByteString := []
  version : Option ByteString := none
  status : EvidenceStatus := .notMeasured
  deriving DecidableEq

structure OptionalMeasurements where
  (launchDurationMicros stopDurationMicros rollbackDurationMicros : Option UInt64 := none)
  (observedInputEvents verifiedCrossSeatEvents inputLatencyP95Micros : Option UInt64 := none)
  deriving DecidableEq

structure RedactionMetadata where
  schemaVersion : UInt32 := kCompatibilityRedactionSchemaVersion
  (credentialsExcluded playerNamesExcluded personalPathsExcluded : Bool := true)
  rawTypedTextExcluded : Bool := true
  deriving DecidableEq

/-- What is known of a run before its metrics are. -/
structure LocalEvidenceContext where
  resultId : ByteString := []
  timestampClass : TimestampClass := .dayBucket
  (timestampBucket gameId providerId : ByteString := [])
  (providerAppId gameVersion : Option ByteString := none)
  (hydraSeatVersion hydraSeatBuild windowsBuildClass architecture : ByteString := [])
  scenario : Scenario := .differentGames
  protectedExperimental : Bool := false
  setupRevision : Option UInt64 := none
  backends : List BackendEvidence := []
  provenanceId : ByteString := []
  provenanceRevision : UInt64 := 0

structure CompatibilityResult where
  schemaVersion : UInt32 := kCompatibilityResultSchemaVersion
  resultId : ByteString := []
  timestampClass : TimestampClass := .dayBucket
  (timestampBucket gameId providerId : ByteString := [])
  (providerAppId gameVersion : Option ByteString := none)
  (hydraSeatVersion hydraSeatBuild windowsBuildClass architecture : ByteString := [])
  scenario : Scenario := .differentGames
  protectedExperimental : Bool := false
  setupRevision : Option UInt64 := none
  backends : List BackendEvidence := []
  (launch secondInstance inputIsolation controller audio cleanExit : EvidenceStatus := .notMeasured)
  rollback : EvidenceStatus := .notMeasured
  measurements : OptionalMeasurements := {}
  origin : ResultOrigin := .synthetic
  redaction : RedactionMetadata := {}
  provenanceId : ByteString := []
  provenanceRevision : UInt64 := 0
  deriving DecidableEq

inductive CompatibilityResultCode where
  | success | tooLarge | parseError | unsupportedSchema | unknownField | missingField | wrongType
  | invalidIdentifier | invalidVersion | invalidTimestamp | invalidEnum | duplicateBackend
  | invalidMeasurement | invalidRedaction | invalidProvenance | invalidLocalEvidence

structure CompatibilityDiagnostic where
  code : CompatibilityResultCode := .success
  message : ByteString := []

abbrev Compatibility := Except CompatibilityDiagnostic

/-- `diagnostic`, or the exception of `fail`. -/
def fail {α : Type} (code : CompatibilityResultCode) (message : ByteString) : Compatibility α :=
  .error ⟨code, message⟩

/-- The bits of the code point in the first byte and how many bytes follow. -/
def firstByte? (first : UInt8) : Option (UInt32 × Nat) :=
  if first ≤ 0x7F then some (first.toUInt32, 0)
  else if first &&& 0xE0 = 0xC0 then
    if first &&& 0x1F = 0 then none
    else some ((first &&& 0x1F).toUInt32, 1)
  else if first &&& 0xF0 = 0xE0 then some ((first &&& 0x0F).toUInt32, 2)
  else if first &&& 0xF8 = 0xF0 then some ((first &&& 0x07).toUInt32, 3)
  else none

/-- One turn of the loop of `validUtf8`: what is left behind a sequence. -/
def skipSequence? (first : UInt8) (rest : ByteString) : Option ByteString :=
  match firstByte? first with
  | none => none
  | some (start, continuation) =>
    let next := rest.take continuation
    let codePoint := next.foldl
      (fun (point : UInt32) (byte : UInt8) => (point <<< 6) ||| (byte &&& 0x3F).toUInt32) start
    if next.length < continuation then none
    else if next.any fun byte => byte &&& 0xC0 != 0x80 then none
    else if (continuation = 1 ∧ codePoint < 0x80) ∨ (continuation = 2 ∧ codePoint < 0x800) ∨
        (continuation = 3 ∧ codePoint < 0x10000) ∨
        codePoint > 0x10FFFF ∨
        (0xD800 ≤ codePoint ∧ codePoint ≤ 0xDFFF) then
      none
    else some (rest.drop continuation)

/-- The loop of `validUtf8`.  Every sequence takes at least one byte, so the
length is fuel enough. -/
def validUtf8Loop : Nat → ByteString → Bool
  | _, [] => true
  | 0, _ :: _ => false
  | fuel + 1, first :: rest =>
    match skipSequence? first rest with
    | none => false
    | some tail => validUtf8Loop fuel tail

def validUtf8 (value : ByteString) : Bool := validUtf8Loop value.length value

def isDigit (ch : UInt8) : Bool := 48 ≤ ch && ch ≤ 57

def isTokenByte (ch : UInt8) : Bool :=
  (65 ≤ ch && ch ≤ 90) || (97 ≤ ch && ch ≤ 122) || isDigit ch ||
    ch == 45 || ch == 95 || ch == 46 || ch == 58 || ch == 64 || ch == 43

def validToken (maximum : Nat) (value : ByteString) : Bool :=
  if value.isEmpty || value.length > maximum || !validUtf8 value then false
  else value.all isTokenByte

def validIdentifier (value : ByteString) : Bool :=
  validToken kMaximumCompatibilityIdentifierBytes value

def validVersion (value : ByteString) : Bool := validToken kMaximumCompatibilityVersionBytes value

def digitsBetween (low high : Nat) (tens ones : UInt8) : Bool :=
  isDigit tens && isDigit ones && low ≤ (tens.toNat - 48) * 10 + (ones.toNat - 48) &&
    (tens.toNat - 48) * 10 + (ones.toNat - 48) ≤ high

def validTimestamp : TimestampClass → ByteString → Bool
  | .monthBucket, [y1, y2, y3, y4, dash, m1, m2] =>
    isDigit y1 && isDigit y2 && isDigit y3 && isDigit y4 && dash == 45 && digitsBetween 1 12 m1 m2
  | .dayBucket, [y1, y2, y3, y4, dash, m1, m2, next, d1, d2] =>
    isDigit y1 && isDigit y2 && isDigit y3 && isDigit y4 && dash == 45 &&
      digitsBetween 1 12 m1 m2 && next == 45 && digitsBetween 1 31 d1 d2
  | _, _ => false

/-- The loop over the backends, with the ids so far. -/
def validateBackends : List ByteString → List BackendEvidence → Compatibility Unit
  | _, [] => .ok ()
  | backendIds, backend :: rest => do
      if !validIdentifier backend.backendId || backend.version.any (!validVersion ·) then
        fail .invalidIdentifier
          (bytesOf ("backend evidence contains invalid public " ++ "identity/version/status"))
      if backend.backendId ∈ backendIds then
        fail .duplicateBackend "duplicate backend evidence identity"
      validateBackends (backend.backendId :: backendIds) rest

def validateIdentity (value : CompatibilityResult) : Compatibility Unit := do
  if value.schemaVersion ≠ kCompatibilityResultSchemaVersion then
    fail .unsupportedSchema "unsupported compatibility result schema"
  if !validIdentifier value.resultId || !validIdentifier value.gameId ||
      !validIdentifier value.providerId ||
      value.providerAppId.any (!validIdentifier ·) then
    fail .invalidIdentifier
      (bytesOf ("result/game/provider identity must be bounded path-free " ++ "identifiers"))
  if !validTimestamp value.timestampClass value.timestampBucket then
    fail .invalidTimestamp "timestamp bucket does not match its declared privacy class"
  if value.gameVersion.any (!validVersion ·) || !validVersion value.hydraSeatVersion ||
      !validVersion value.hydraSeatBuild ||
      !validVersion value.windowsBuildClass ||
      !validIdentifier value.architecture then
    fail .invalidVersion
      (bytesOf ("version/build values must be bounded path-free public " ++ "tokens"))
  else .ok ()

/-- A measurement without the outcome that it measures. -/
def validateMeasurements (value : CompatibilityResult) : Compatibility Unit := do
  if value.launch = .notMeasured ∧ value.measurements.launchDurationMicros.isSome then
    fail .invalidMeasurement
      (bytesOf ("launch duration cannot exist when launch was not " ++ "measured"))
  if value.cleanExit = .notMeasured ∧ value.measurements.stopDurationMicros.isSome then
    fail .invalidMeasurement
      (bytesOf ("stop duration cannot exist when clean exit was not " ++ "measured"))
  if value.rollback = .notMeasured ∧ value.measurements.rollbackDurationMicros.isSome then
    fail .invalidMeasurement
      (bytesOf ("rollback duration cannot exist when rollback was not " ++ "measured"))
  if value.inputIsolation = .notMeasured ∧
      (value.measurements.observedInputEvents.isSome ||
        value.measurements.verifiedCrossSeatEvents.isSome ||
        value.measurements.inputLatencyP95Micros.isSome) then
    fail .invalidMeasurement
      (bytesOf ("input measurements cannot exist when input isolation was " ++ "not measured"))
  else .ok ()

def validateCompatibilityResult (value : CompatibilityResult) : Compatibility Unit := do
  validateIdentity value
  if (value.scenario == .protectedExperiment) != value.protectedExperimental then
    fail .invalidLocalEvidence
      (bytesOf ("protected/experimental flag must match the protected " ++ "scenario class"))
  if value.setupRevision = some 0 then
    fail .invalidLocalEvidence "material setup revision must be nonzero when present"
  if value.backends.length > kMaximumCompatibilityBackends then
    fail .tooLarge "too many backend evidence records"
  validateBackends [] value.backends
  if value.redaction.schemaVersion ≠ kCompatibilityRedactionSchemaVersion ∨
      !value.redaction.credentialsExcluded ∨
      !value.redaction.playerNamesExcluded ∨
      !value.redaction.personalPathsExcluded ∨
      !value.redaction.rawTypedTextExcluded then
    fail .invalidRedaction
      (bytesOf ("public compatibility result requires the complete v1 " ++ "redaction contract"))
  if !validIdentifier value.provenanceId || value.provenanceRevision == 0 then
    fail .invalidProvenance
      (bytesOf ("public compatibility result requires bounded provenance " ++ "identity/revision"))
  validateMeasurements value

/-- The order of byte strings in `std::string`. -/
def textBefore (left right : ByteString) : Bool :=
  decide (left.map UInt8.toNat < right.map UInt8.toNat)

/-- An optional text comes before every text. -/
def optionalTextBefore : Option ByteString → Option ByteString → Bool
  | _, none => false
  | none, some _ => true
  | some left, some right => textBefore left right

def statusCode : EvidenceStatus → Nat
  | .notMeasured => 0
  | .pass => 1
  | .fail => 2
  | .unsupported => 3

def backendBefore (left right : BackendEvidence) : Bool :=
  if left.backendId ≠ right.backendId then textBefore left.backendId right.backendId
  else if left.version ≠ right.version then optionalTextBefore left.version right.version
  else statusCode left.status < statusCode right.status

def canonicalizeCompatibilityResult (value : CompatibilityResult) :
    Compatibility CompatibilityResult := do
  validateCompatibilityResult value
  return {
    value with
    backends := value.backends.insertionSort fun left right => backendBefore right left = false }

def fromVerdict : EvidenceVerdict → EvidenceStatus
  | .pass => .pass
  | .fail => .fail
  | .insufficientEvidence => .notMeasured

def fromOrigin : EvidenceOrigin → ResultOrigin
  | .synthetic => .synthetic
  | .controlledProcess => .controlledProcess
  | .physical => .physical

/-- The loop of `aggregateCapability`. -/
def aggregateCapabilityLoop (selector : SeatSessionMetrics → CapabilityOutcome) :
    Bool → Bool → List SeatSessionMetrics → EvidenceStatus
  | measured, unsupported, [] =>
    if unsupported then .unsupported
    else if measured then .pass
    else .notMeasured
  | measured, unsupported, seat :: rest =>
    match selector seat with
    | .failed => .fail
    | .missingEvidence => .notMeasured
    | .unsupported => aggregateCapabilityLoop selector measured true rest
    | .success => aggregateCapabilityLoop selector true unsupported rest
    | .notRequired => aggregateCapabilityLoop selector measured unsupported rest

def aggregateCapability (seats : List SeatSessionMetrics)
    (selector : SeatSessionMetrics → CapabilityOutcome) : EvidenceStatus :=
  aggregateCapabilityLoop selector false false seats

def nonzero (value : UInt64) : Option UInt64 :=
  if value != 0 then some value else none

def exitStatus : SessionFinalState → EvidenceStatus
  | .returnedToWindows => .pass
  | .recoveryRequired => .fail
  | .running => .notMeasured

def rollbackStatus (report : SessionMetricsReport) : EvidenceStatus :=
  if report.rollbackAttempted then
    if report.rollbackVerified then .pass else .fail
  else .notMeasured

def secondInstanceStatus (scenario : Scenario) (report : SessionMetricsReport) : EvidenceStatus :=
  if scenario = .sameGameTwoInstance ∨ scenario = .protectedExperiment then
    if report.seats.length = 2 ∧ report.seats.all (·.processStarted) then .pass
    else .fail
  else .notMeasured

def projectMeasurements (report : SessionMetricsReport) : OptionalMeasurements :=
  let measured :=
    fromVerdict report.isolationVerdict ≠ .notMeasured ∧ report.input.uniqueInputEvents ≠ 0
  { launchDurationMicros := nonzero report.maximumLaunchDurationMicros
    stopDurationMicros :=
      if exitStatus report.finalState ≠ .notMeasured then nonzero report.maximumStopDurationMicros
      else none
    rollbackDurationMicros :=
      if rollbackStatus report ≠ .notMeasured then nonzero report.maximumRollbackDurationMicros
      else none
    observedInputEvents :=
      if measured then some report.input.uniqueInputEvents else none
    verifiedCrossSeatEvents :=
      if measured then some report.input.crossSeatEvents else none
    inputLatencyP95Micros :=
      if measured ∧ report.input.endToEnd.count ≠ 0 then some report.input.endToEnd.p95Micros
      else none }

def projectResult (context : LocalEvidenceContext)
    (report : SessionMetricsReport) : CompatibilityResult where
  resultId := context.resultId
  timestampClass := context.timestampClass
  timestampBucket := context.timestampBucket
  gameId := context.gameId
  providerId := context.providerId
  providerAppId := context.providerAppId
  gameVersion := context.gameVersion
  hydraSeatVersion := context.hydraSeatVersion
  hydraSeatBuild := context.hydraSeatBuild
  windowsBuildClass := context.windowsBuildClass
  architecture := context.architecture
  scenario := context.scenario
  protectedExperimental := context.protectedExperimental
  setupRevision := context.setupRevision
  backends := context.backends
  launch := if report.seats.all (·.processStarted) then .pass else .fail
  secondInstance := secondInstanceStatus context.scenario report
  inputIsolation := fromVerdict report.isolationVerdict
  controller := aggregateCapability report.seats (·.controller)
  audio := aggregateCapability report.seats (·.audio)
  cleanExit := exitStatus report.finalState
  rollback := rollbackStatus report
  measurements := projectMeasurements report
  origin := fromOrigin report.origin
  provenanceId := context.provenanceId
  provenanceRevision := context.provenanceRevision

def buildCompatibilityResultFromSessionMetrics
    (context : LocalEvidenceContext) (report : SessionMetricsReport) :
    Compatibility CompatibilityResult :=
  if report.schemaVersion ≠ kSessionMetricsSchemaVersion ∨
      report.planFingerprint = 0 ∨ report.seats.isEmpty ∨
      report.seats.length > kMaximumSessionMetricSeats then
    fail .invalidLocalEvidence
      (bytesOf ("session metrics report is not a valid bounded local " ++ "evidence source"))
  else canonicalizeCompatibilityResult (projectResult context report)

section Projection

variable {selector : SeatSessionMetrics → CapabilityOutcome} {outcomes : List CapabilityOutcome}
  {context : LocalEvidenceContext} {report : SessionMetricsReport} {result : CompatibilityResult}

/-- Both outcomes at which the scan stops are there. -/
def Mixed (outcomes : List CapabilityOutcome) : Prop :=
  .failed ∈ outcomes ∧ .missingEvidence ∈ outcomes

/-- What the outcomes say in any order. -/
def summary (measured unsupported : Bool) (outcomes : List CapabilityOutcome) : EvidenceStatus :=
  if .failed ∈ outcomes then .fail
  else if .missingEvidence ∈ outcomes then .notMeasured
  else if unsupported ∨ .unsupported ∈ outcomes then .unsupported
  else if measured ∨ .success ∈ outcomes then .pass
  else .notMeasured

variable {seats : List SeatSessionMetrics}

theorem aggregateCapabilityLoop_eq {measured unsupported : Bool}
    (unmixed : ¬Mixed (seats.map selector)) :
    aggregateCapabilityLoop selector measured unsupported seats =
      summary measured unsupported (seats.map selector) := by
  induction seats generalizing measured unsupported with
  | nil => simp [aggregateCapabilityLoop, summary]
  | cons seat rest ih =>
    unfold aggregateCapabilityLoop
    unfold Mixed at unmixed
    rw [map_cons] at unmixed ⊢
    cases outcome : selector seat with
    | failed => simp [summary]
    | missingEvidence =>
      rw [outcome] at unmixed
      have none : .failed ∉ rest.map selector := fun member =>
        unmixed ⟨mem_cons_of_mem _ member, mem_cons_self⟩
      simp [summary, none]
    | unsupported | success | notRequired =>
      have others : ¬Mixed (rest.map selector) := fun both =>
        unmixed ⟨mem_cons_of_mem _ both.1, mem_cons_of_mem _ both.2⟩
      dsimp only
      rw [ih others]
      simp [summary]

/-- The status says no better than the outcomes. -/
structure HonestStatus (outcomes : List CapabilityOutcome) (status : EvidenceStatus) : Prop where
  failed : .failed ∈ outcomes → status = .fail
  passed :
    status = .pass →
      .success ∈ outcomes ∧ .failed ∉ outcomes ∧ .missingEvidence ∉ outcomes ∧
        .unsupported ∉ outcomes

theorem honest_summary : HonestStatus outcomes (summary false false outcomes) where
  failed member := if_pos member
  passed passed := by
    unfold summary at passed
    split_ifs at passed with failed missing unsupported success
    rw [false_or] at unsupported success
    exact ⟨success, failed, missing, unsupported⟩

/-- The result is honest about the Seats, in whatever order they stand. -/
structure HonestProjection (context : LocalEvidenceContext) (report : SessionMetricsReport)
    (result : CompatibilityResult) : Prop where
  controller : HonestStatus (report.seats.map (·.controller)) result.controller
  audio : HonestStatus (report.seats.map (·.audio)) result.audio
  ordered :
    ∀ seats, seats.Perm report.seats →
      buildCompatibilityResultFromSessionMetrics context { report with seats } = .ok result

theorem built_eq (built : buildCompatibilityResultFromSessionMetrics context report = .ok result) :
    result.controller = aggregateCapability report.seats (·.controller) ∧
      result.audio = aggregateCapability report.seats (·.audio) := by
  unfold buildCompatibilityResultFromSessionMetrics at built
  split at built
  · cases built
  · obtain ⟨_, _, built⟩ := bind_eq_ok.mp built
    obtain rfl := pure_eq_ok built
    exact ⟨rfl, rfl⟩

theorem aggregateCapability_perm {others : List SeatSessionMetrics}
    (perm : seats.Perm others) (unmixed : ¬Mixed (others.map selector)) :
    aggregateCapability seats selector = aggregateCapability others selector := by
  have same (outcome : CapabilityOutcome) := (perm.map selector).mem_iff (a := outcome)
  have unmixed' : ¬Mixed (seats.map selector) := by
    unfold Mixed at unmixed ⊢
    rwa [same, same]
  unfold aggregateCapability
  rw [aggregateCapabilityLoop_eq unmixed, aggregateCapabilityLoop_eq unmixed']
  simp only [summary, same]

/-- A scan that meets missing evidence first. -/
theorem missing_first
    (missing : .missingEvidence ∈ seats.map selector) :
    ∃ others, others.Perm seats ∧ aggregateCapability others selector = .notMeasured := by
  obtain ⟨seat, member, outcome⟩ := mem_map.mp missing
  obtain ⟨before, behind, rfl⟩ := append_of_mem member
  refine ⟨seat :: (before ++ behind), perm_middle.symm, ?_⟩
  unfold aggregateCapability aggregateCapabilityLoop
  rw [outcome]

theorem projection_honest_iff
    (built : buildCompatibilityResultFromSessionMetrics context report = .ok result) :
    HonestProjection context report result ↔
      ¬Mixed (report.seats.map (·.controller)) ∧ ¬Mixed (report.seats.map (·.audio)) := by
  obtain ⟨controller, audio⟩ := built_eq built
  constructor
  · intro honest
    constructor
    · intro mixed
      obtain ⟨seats, perm, early⟩ := missing_first mixed.2
      have late := (built_eq (honest.ordered seats perm)).1.trans early
      exact absurd ((honest.controller.failed mixed.1).symm.trans late) (by decide)
    · intro mixed
      obtain ⟨seats, perm, early⟩ := missing_first mixed.2
      have late := (built_eq (honest.ordered seats perm)).2.trans early
      exact absurd ((honest.audio.failed mixed.1).symm.trans late) (by decide)
  · rintro ⟨controllers, audios⟩
    refine ⟨?_, ?_, fun seats perm => ?_⟩
    · rw [controller, aggregateCapability, aggregateCapabilityLoop_eq controllers]
      exact honest_summary
    · rw [audio, aggregateCapability, aggregateCapabilityLoop_eq audios]
      exact honest_summary
    · have projected :
          projectResult context { report with seats } = projectResult context report := by
        have started : seats.all (·.processStarted) = report.seats.all (·.processStarted) :=
          perm.all_eq
        unfold projectResult secondInstanceStatus
        dsimp only
        rw [aggregateCapability_perm perm controllers, aggregateCapability_perm perm audios,
          started, perm.length_eq]
        rfl
      rw [← built]
      unfold buildCompatibilityResultFromSessionMetrics
      dsimp only
      rw [projected, perm.length_eq, perm.isEmpty_eq]

def sampleContext : LocalEvidenceContext where
  resultId := "r"
  timestampBucket := "2026-01-01"
  gameId := "g"
  providerId := "p"
  hydraSeatVersion := "1"
  hydraSeatBuild := "1"
  windowsBuildClass := "w"
  architecture := "x64"
  provenanceId := "s"
  provenanceRevision := 1

def sampleReport (first second : CapabilityOutcome) : SessionMetricsReport where
  planFingerprint := 1
  seats := [{ controller := first }, { controller := second }]

theorem sampleReport_built (first second : CapabilityOutcome) :
    buildCompatibilityResultFromSessionMetrics sampleContext (sampleReport first second) =
      .ok (projectResult sampleContext (sampleReport first second)) :=
  rfl

theorem sampleReport_honest :
    HonestProjection sampleContext (sampleReport .success .failed)
      (projectResult sampleContext (sampleReport .success .failed)) :=
  (projection_honest_iff (sampleReport_built .success .failed)).mpr
    ⟨fun mixed => absurd mixed.2 (by decide), fun mixed => absurd mixed.1 (by decide)⟩

/-- The Seat without evidence stands before the one that failed. -/
theorem failed_seat_hidden :
    ¬∀ (context : LocalEvidenceContext) (report : SessionMetricsReport)
        (result : CompatibilityResult),
      buildCompatibilityResultFromSessionMetrics context report = .ok result →
        HonestProjection context report result := by
  intro all
  have honest := all _ _ _ (sampleReport_built .missingEvidence .failed)
  exact absurd (honest.controller.failed (by decide)) (by decide)

end Projection

end HydraSeat.Compat
