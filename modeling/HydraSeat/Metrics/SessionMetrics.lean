import HydraSeat.Foundation.Fallible
import Mathlib.Data.List.Sort

/-!
# Session metrics

A report on a session with one or two Seats.  The counters and the Seats are
observed; the verdicts, the maxima and the eligibility are derived from them.
-/

namespace HydraSeat.Metrics

def kInputMetricsSchemaVersion : UInt32 := 1

def kSessionMetricsSchemaVersion : UInt32 := 1

def kMinimumSessionMetricSeats : Nat := 1

def kMaximumSessionMetricSeats : Nat := 2

inductive EvidenceOrigin where
  | synthetic | controlledProcess | physical
  deriving DecidableEq

inductive EvidenceVerdict where
  | insufficientEvidence | pass | fail
  deriving DecidableEq

inductive CapabilityOutcome where
  | notRequired | success | unsupported | failed | missingEvidence
  deriving DecidableEq

inductive SessionFinalState where
  | running | returnedToWindows | recoveryRequired
  deriving DecidableEq

structure InputLatencyPercentiles where
  (count p50Micros p95Micros p99Micros maxMicros : UInt64 := 0)

structure InputMetricsReport where
  schemaVersion : UInt32 := kInputMetricsSchemaVersion
  (traceSamples uniqueInputEvents completeInputEvents missingStageEvents : UInt64 := 0)
  (receiverVerifiedEvents missingReceiverEvidenceEvents crossSeatEvents : UInt64 := 0)
  (crossProcessEvents keyEvents buttonEvents movementEvents wheelEvents : UInt64 := 0)
  queueHighWater : UInt32 := 0
  (queueDroppedFrames recorderRotationDrops recorderContentionDrops : UInt64 := 0)
  recorderInvalidSamples : UInt64 := 0
  (observationToEnqueue enqueueToDequeue dequeueToWrite : InputLatencyPercentiles := {})
  (writeToApply applyToQuery endToEnd rollback : InputLatencyPercentiles := {})
  (resourceSamples lastHostCpuTimeMicros maxHostWorkingSetBytes : UInt64 := 0)

structure SeatSessionMetrics where
  seatId : UInt32 := 0
  (launchDurationMicros stopDurationMicros rollbackDurationMicros : UInt64 := 0)
  (processStarted windowOwnershipVerified displayPlacementVerified inputRouteReady : Bool := false)
  (controller audio : CapabilityOutcome := .notRequired)

/-- What a report is built from; the input is a snapshot of the recorder. -/
structure SessionMetricsBuildInput (Snapshot : Type) where
  schemaVersion : UInt32 := kSessionMetricsSchemaVersion
  planFingerprint : UInt64 := 0
  origin : EvidenceOrigin := .synthetic
  input : Snapshot
  seats : List SeatSessionMetrics := []
  finalState : SessionFinalState := .running
  (rollbackAttempted rollbackVerified : Bool := false)

@[ext]
structure SessionMetricsReport where
  schemaVersion : UInt32 := kSessionMetricsSchemaVersion
  planFingerprint : UInt64 := 0
  origin : EvidenceOrigin := .synthetic
  (isolationVerdict sessionVerdict : EvidenceVerdict := .insufficientEvidence)
  (physicalValidationEligible receiverEvidenceComplete lossFreeEvidence : Bool := false)
  input : InputMetricsReport := {}
  seats : List SeatSessionMetrics := []
  finalState : SessionFinalState := .running
  (rollbackAttempted rollbackVerified : Bool := false)
  (maximumLaunchDurationMicros maximumStopDurationMicros : UInt64 := 0)
  maximumRollbackDurationMicros : UInt64 := 0

inductive SessionMetricsResult where
  | unsupportedSchema | invalidPlanFingerprint | invalidSeatCount | invalidSeatId | duplicateSeatId
  | invalidInputMetrics | invalidRollbackState

def capabilityFailed (value : CapabilityOutcome) : Bool := value = .failed

def capabilityComplete (value : CapabilityOutcome) : Bool :=
  value = .notRequired || value = .success

def seatFailed (seat : SeatSessionMetrics) : Bool :=
  capabilityFailed seat.controller || capabilityFailed seat.audio

def seatComplete (seat : SeatSessionMetrics) : Bool :=
  seat.processStarted && seat.windowOwnershipVerified &&
    seat.displayPlacementVerified && seat.inputRouteReady &&
    capabilityComplete seat.controller && capabilityComplete seat.audio

def isolationVerdict (input : InputMetricsReport)
    (receiverComplete lossFree : Bool) : EvidenceVerdict :=
  if input.crossSeatEvents != 0 || input.crossProcessEvents != 0 then .fail
  else if !receiverComplete || !lossFree || input.missingStageEvents != 0 ||
      input.completeInputEvents != input.uniqueInputEvents ||
      input.uniqueInputEvents == 0 then
    .insufficientEvidence
  else .pass

/-- The verdict on a session from the verdict on its isolation. -/
def overallVerdict (isolation : EvidenceVerdict)
    (seats : List SeatSessionMetrics) (finalState : SessionFinalState)
    (rollbackAttempted rollbackVerified : Bool) : EvidenceVerdict :=
  if isolation = .fail || finalState = .recoveryRequired ||
      (rollbackAttempted && !rollbackVerified) ||
      (finalState = .returnedToWindows && (!rollbackAttempted || !rollbackVerified)) ||
      seats.any seatFailed then
    .fail
  else if isolation ≠ .pass || seats.any (fun seat => !seatComplete seat) then .insufficientEvidence
  else .pass

def maximum (duration : SeatSessionMetrics → UInt64) (seats : List SeatSessionMetrics) : UInt64 :=
  seats.foldl (fun most seat => max most (duration seat)) 0

/-- The loop over the Seat ids. -/
def checkSeatIds : List UInt32 → List SeatSessionMetrics → Except SessionMetricsResult Unit
  | _, [] => .ok ()
  | seatIds, seat :: rest =>
    if seat.seatId = 0 then .error .invalidSeatId
    else if seat.seatId ∈ seatIds then .error .duplicateSeatId
    else checkSeatIds (seat.seatId :: seatIds) rest

def receiverEvidenceComplete (input : InputMetricsReport) : Bool :=
  input.uniqueInputEvents != 0 && input.receiverVerifiedEvents == input.uniqueInputEvents &&
    input.missingReceiverEvidenceEvents == 0

def lossFreeEvidence (input : InputMetricsReport) : Bool :=
  input.queueDroppedFrames == 0 && input.recorderRotationDrops == 0 &&
    input.recorderContentionDrops == 0 && input.recorderInvalidSamples == 0

/-- The report on counters that were accepted. -/
def sessionReport {Snapshot : Type} (source : SessionMetricsBuildInput Snapshot)
    (inputReport : InputMetricsReport) : SessionMetricsReport :=
  let seats := source.seats.insertionSort fun left right => left.seatId ≤ right.seatId
  let receiverComplete := receiverEvidenceComplete inputReport
  let lossFree := lossFreeEvidence inputReport
  let isolation := isolationVerdict inputReport receiverComplete lossFree
  let verdict := overallVerdict isolation source.seats source.finalState
    source.rollbackAttempted source.rollbackVerified
  { planFingerprint := source.planFingerprint, origin := source.origin
    isolationVerdict := isolation, sessionVerdict := verdict
    physicalValidationEligible := source.origin = .physical && verdict = .pass
    receiverEvidenceComplete := receiverComplete, lossFreeEvidence := lossFree, input := inputReport
    seats := seats, finalState := source.finalState, rollbackAttempted := source.rollbackAttempted
    rollbackVerified := source.rollbackVerified
    maximumLaunchDurationMicros := maximum (·.launchDurationMicros) seats
    maximumStopDurationMicros := maximum (·.stopDurationMicros) seats
    maximumRollbackDurationMicros := maximum (·.rollbackDurationMicros) seats }

/-- The counters are built from the snapshot by the given function, which may
refuse it. -/
def buildSessionMetricsReport {Snapshot : Type}
    (buildInputMetricsReport : Snapshot → Option InputMetricsReport)
    (source : SessionMetricsBuildInput Snapshot) :
    Except SessionMetricsResult SessionMetricsReport := do
  if source.schemaVersion ≠ kSessionMetricsSchemaVersion then .error .unsupportedSchema
  if source.planFingerprint = 0 then .error .invalidPlanFingerprint
  if source.seats.length < kMinimumSessionMetricSeats ∨
      source.seats.length > kMaximumSessionMetricSeats then
    .error .invalidSeatCount
  if source.rollbackVerified && !source.rollbackAttempted then .error .invalidRollbackState
  checkSeatIds [] source.seats
  match buildInputMetricsReport source.input with
  | none => .error .invalidInputMetrics
  | some inputReport => return sessionReport source inputReport

end HydraSeat.Metrics
