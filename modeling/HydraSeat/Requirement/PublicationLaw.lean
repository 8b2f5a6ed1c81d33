import HydraSeat.Requirement.EvidenceLaw
import HydraSeat.Requirement.RuntimeAuthority

/-!
# What a publication entails

A record is published only when the report is what its builder derives from
the same observations, the evidence is the projection of the report, and all
Seats of the report back what the record says.  Whatever fails leaves the
store file as it was, and no record gives way to one of an earlier revision.
-/

namespace HydraSeat.Requirement

open Foundation List
open Compat
open Metrics
variable {report : SessionMetricsReport}

/-- What the builder is given for a report, with a snapshot of its
counters. -/
def reportSource {Snapshot : Type} (report : SessionMetricsReport)
    (snapshot : Snapshot) : SessionMetricsBuildInput Snapshot where
  schemaVersion := report.schemaVersion
  planFingerprint := report.planFingerprint
  origin := report.origin
  input := snapshot
  seats := report.seats
  finalState := report.finalState
  rollbackAttempted := report.rollbackAttempted
  rollbackVerified := report.rollbackVerified

theorem checkReportSeats_ok {previousSeat : UInt32} {seatIds : List UInt32}
    {seats : List SeatSessionMetrics}
    (passed : checkReportSeats previousSeat seatIds seats = .ok ()) :
    (∀ seat ∈ seats, previousSeat ≠ 0 → previousSeat < seat.seatId) ∧
      seats.Pairwise (fun left right => left.seatId < right.seatId) ∧
      Metrics.checkSeatIds seatIds seats = .ok () := by
  induction seats generalizing previousSeat seatIds with
  | nil => exact ⟨fun _ member => absurd member List.not_mem_nil, .nil, rfl⟩
  | cons seat rest ih =>
    unfold checkReportSeats at passed
    obtain ⟨sound, passed⟩ := not_taken passed nofun
    rw [not_or, not_or] at sound
    obtain ⟨positive, fresh, ordered⟩ := sound
    obtain ⟨later, sorted, ids⟩ := ih passed
    have first (notFirst : previousSeat ≠ 0) : previousSeat < seat.seatId :=
      UInt32.not_le.mp fun before => ordered ⟨notFirst, before⟩
    refine ⟨?_, .cons (fun other member => later other member positive) sorted, ?_⟩
    · intro other member notFirst
      rcases List.mem_cons.mp member with rfl | behind
      · exact first notFirst
      · exact UInt32.lt_trans (first notFirst) (later other behind positive)
    · unfold Metrics.checkSeatIds
      rw [if_neg positive, if_neg fresh]
      exact ids

/-- What `validateSessionMetricsReport` lets through. -/
structure SoundReport (report : SessionMetricsReport) : Prop where
  version : report.schemaVersion = Metrics.kSessionMetricsSchemaVersion
  fingerprint : report.planFingerprint ≠ 0
  fewest : Metrics.kMinimumSessionMetricSeats ≤ report.seats.length
  most : report.seats.length ≤ Metrics.kMaximumSessionMetricSeats
  rollback : ¬(report.rollbackVerified ∧ !report.rollbackAttempted)
  seats : checkReportSeats 0 [] report.seats = .ok ()
  derived : checkReportDerived report = .ok ()
  verdict : report.sessionVerdict = expectedSessionVerdict report
  eligible :
    report.physicalValidationEligible =
      (report.origin = .physical && expectedSessionVerdict report = .pass)

theorem soundReport_of_validate (valid : validateSessionMetricsReport report = .ok ()) :
    SoundReport report := by
  unfold validateSessionMetricsReport failure at valid
  obtain ⟨shape, valid⟩ := check_eq_ok valid
  obtain ⟨_, seats, valid⟩ := bind_eq_ok.mp valid
  obtain ⟨_, _, valid⟩ := bind_eq_ok.mp valid
  obtain ⟨_, derived, valid⟩ := bind_eq_ok.mp valid
  dsimp only at valid
  obtain ⟨same, valid⟩ := not_taken valid nofun
  simp only [not_or, ne_eq, not_not, not_lt] at shape same
  obtain ⟨version, fingerprint, fewest, most, _, rollback⟩ := shape
  exact
    { version, fingerprint, fewest, most, rollback, seats, derived
      verdict := same.1
      eligible := same.2 }

theorem sessionReport_eq {Snapshot : Type} (sound : SoundReport report) (snapshot : Snapshot) :
    sessionReport (reportSource report snapshot) report.input = report := by
  obtain ⟨_, sorted, _⟩ := checkReportSeats_ok sound.seats
  have inOrder : report.seats.Pairwise fun left right => left.seatId ≤ right.seatId :=
    sorted.imp fun before => UInt32.le_of_lt before
  have derived := sound.derived
  unfold checkReportDerived failure at derived
  dsimp only at derived
  obtain ⟨same, derived⟩ := not_taken derived nofun
  simp only [not_or, ne_eq, not_not] at same
  obtain ⟨receiver, lossFree, isolation, launch, stop, rollback⟩ := same
  have seats :
      (reportSource report snapshot).seats.insertionSort
        (fun left right => left.seatId ≤ right.seatId) = report.seats :=
    inOrder.insertionSort_eq
  have verdict :
      Metrics.overallVerdict
          (Metrics.isolationVerdict report.input (Metrics.receiverEvidenceComplete report.input)
            (Metrics.lossFreeEvidence report.input))
          report.seats report.finalState report.rollbackAttempted
          report.rollbackVerified = report.sessionVerdict := by
    rw [sound.verdict]
    unfold expectedSessionVerdict
    rw [isolation]
    rfl
  have eligible := sound.eligible
  rw [← sound.verdict, ← verdict] at eligible
  refine SessionMetricsReport.ext sound.version.symm rfl rfl
    isolation.symm verdict eligible.symm receiver.symm lossFree.symm rfl
    seats rfl rfl rfl ?_ ?_ ?_
  · exact (congrArg _ seats).trans launch.symm
  · exact (congrArg _ seats).trans stop.symm
  · exact (congrArg _ seats).trans rollback.symm

theorem buildSessionMetricsReport_eq {Snapshot : Type} (sound : SoundReport report)
    (build : Snapshot → Option InputMetricsReport) {snapshot : Snapshot}
    (counters : build snapshot = some report.input) :
    buildSessionMetricsReport build (reportSource report snapshot) = .ok report := by
  have version :
      ¬(reportSource report snapshot).schemaVersion ≠ Metrics.kSessionMetricsSchemaVersion :=
    not_not.mpr sound.version
  have fingerprint : ¬(reportSource report snapshot).planFingerprint = 0 := sound.fingerprint
  have size :
      ¬((reportSource report snapshot).seats.length < Metrics.kMinimumSessionMetricSeats ∨
        (reportSource report snapshot).seats.length > Metrics.kMaximumSessionMetricSeats) := by
    rw [not_or, not_lt, gt_iff_lt, not_lt]
    exact ⟨sound.fewest, sound.most⟩
  have rollback :
      ¬((reportSource report snapshot).rollbackVerified &&
        !(reportSource report snapshot).rollbackAttempted) = true := by
    rw [Bool.and_eq_true]
    exact sound.rollback
  have ids : Metrics.checkSeatIds [] (reportSource report snapshot).seats = .ok () :=
    (checkReportSeats_ok sound.seats).2.2
  have input : build (reportSource report snapshot).input = some report.input := counters
  unfold buildSessionMetricsReport
  dsimp only
  rw [if_neg version, if_neg fingerprint, if_neg size, if_neg rollback, ids, ok_bind, input]
  exact congrArg Except.ok (sessionReport_eq sound snapshot)

theorem canonicalEvidence_eq {evidence canonical : CompatibilityResult}
    (found : canonicalEvidence evidence = .ok canonical) :
    canonical = evidence := by
  unfold canonicalEvidence failure at found
  split at found
  · cases found
  next result _ =>
    obtain ⟨same, found⟩ := not_taken found nofun
    obtain ⟨_, found⟩ := not_taken found nofun
    cases found
    exact not_not.mp same

theorem checkProjection_eq {canonical : CompatibilityResult}
    (passed : checkProjection canonical report = .ok ()) :
    buildCompatibilityResultFromSessionMetrics (evidenceContext canonical)
      report = .ok canonical := by
  unfold checkProjection failure at passed
  dsimp only at passed
  split at passed
  · cases passed
  next rebuilt isRebuilt =>
    split at passed
    · cases passed
    next same => rw [isRebuilt, not_not.mp same]

theorem canonicalEvidenceForReport_eq {review : RuntimeRequirementAuthorityReview}
    {evidence : CompatibilityResult}
    (found : canonicalEvidenceForReport review = .ok evidence) :
    evidence = review.evidence ∧
      buildCompatibilityResultFromSessionMetrics
        (evidenceContext review.evidence) review.report = .ok review.evidence := by
  obtain ⟨canonical, isCanonical, found⟩ := bind_eq_ok.mp found
  obtain ⟨_, projected, found⟩ := bind_eq_ok.mp found
  obtain rfl := canonicalEvidence_eq isCanonical
  obtain ⟨_, found⟩ := not_taken found nofun
  exact ⟨(pure_eq_ok found).symm, checkProjection_eq projected⟩

/-- What every Seat of a report has to show for the capabilities of a
record. -/
structure Backed (capabilities : Plan.Capabilities) (report : SessionMetricsReport) : Prop where
  process : capabilities.process = true → ∀ seat ∈ report.seats, seat.processStarted = true
  window : capabilities.window = true → ∀ seat ∈ report.seats, seat.windowOwnershipVerified = true
  display :
    capabilities.display = true → ∀ seat ∈ report.seats, seat.displayPlacementVerified = true
  input :
    capabilities.input = true →
      report.isolationVerdict = .pass ∧ ∀ seat ∈ report.seats, seat.inputRouteReady = true
  controller : capabilities.controller = true → ∀ seat ∈ report.seats, seat.controller = .success
  audio : capabilities.audio = true → ∀ seat ∈ report.seats, seat.audio = .success
  recovery :
    capabilities.recovery = true →
      report.finalState = .returnedToWindows ∧
        report.rollbackAttempted = true ∧ report.rollbackVerified = true
  seats :
    capabilities ≠
        { process := false, window := false, display := false
          input := false, controller := false, audio := false, recovery := false } →
      report.seats ≠ [] ∧ ∀ seat ∈ report.seats, seat.processStarted = true

theorem deriveRuntimeRequirementCapabilities_backed (review : RuntimeRequirementAuthorityReview) :
    Backed (deriveRuntimeRequirementCapabilities review) review.report := by
  unfold deriveRuntimeRequirementCapabilities
  dsimp only
  split
  · exact ⟨nofun, nofun, nofun, nofun, nofun, nofun, nofun, fun some => absurd rfl some⟩
  next notEmpty =>
    split
    · exact ⟨nofun, nofun, nofun, nofun, nofun, nofun, nofun, fun some => absurd rfl some⟩
    next started =>
      rw [Bool.not_eq_true', Bool.not_eq_false, Bool.and_eq_true,
        Bool.and_eq_true, all_eq_true] at started
      exact
        { process := fun _ => started.1.2, window := all_eq_true.mp
          display := all_eq_true.mp
          input := fun route => by
            simp only [Bool.and_eq_true, decide_eq_true_eq, all_eq_true] at route
            exact ⟨route.1.1.2, route.2⟩
          controller := fun route => by
            simp only [Bool.and_eq_true, decide_eq_true_eq, all_eq_true] at route
            exact route.2
          audio := fun route => by
            simp only [Bool.and_eq_true, decide_eq_true_eq, all_eq_true] at route
            exact route.2
          recovery := fun route => by
            simp only [Bool.and_eq_true, decide_eq_true_eq] at route
            exact ⟨route.1.1.1.1, route.1.1.1.2, route.1.1.2⟩
          seats := fun _ => ⟨fun empty => notEmpty (isEmpty_iff.mpr empty), started.1.2⟩ }

section Replacing

variable {record : LocalRequirementEvidenceRecord}

theorem replaceRecord_others (records : List LocalRequirementEvidenceRecord) :
    (replaceRecord record records).filter (·.gameId ≠ record.gameId) =
      records.filter (·.gameId ≠ record.gameId) := by
  have absent : ¬(decide (record.gameId ≠ record.gameId)) = true := by
    rw [decide_eq_true_eq]
    exact not_not.mpr rfl
  induction records with
  | nil => exact filter_cons_of_neg absent
  | cons first rest ih =>
    unfold replaceRecord
    split
    next same =>
      have alsoAbsent : ¬(decide (first.gameId ≠ record.gameId)) = true := by
        rw [decide_eq_true_eq]
        exact not_not.mpr same
      rw [filter_cons, if_neg absent, filter_cons, if_neg alsoAbsent]
    next => rw [filter_cons, filter_cons, ih]

theorem find_replaceRecord_same (records : List LocalRequirementEvidenceRecord) :
    (replaceRecord record records).find? (·.gameId == record.gameId) = some record := by
  induction records with
  | nil => exact find?_cons_of_pos (beq_self_eq_true _)
  | cons first rest ih =>
    unfold replaceRecord
    split
    · exact find?_cons_of_pos (beq_self_eq_true _)
    next other =>
      rw [find?_cons_of_neg (by rwa [beq_iff_eq])]
      exact ih

end Replacing

structure Publication (review : RuntimeRequirementAuthorityReview)
    (loaded : RequirementStore (Option RequirementEvidenceDocument))
    (record : LocalRequirementEvidenceRecord)
    (candidate : RequirementEvidenceDocument) where
  document : RequirementEvidenceDocument
  gameVersionUtf8 : Option ByteString
  found : Option RequirementEvidenceDocument
  isLoaded : loaded = .ok found
  isDocument : found.getD {} = document
  report : SoundReport review.report
  projection :
    buildCompatibilityResultFromSessionMetrics
      (evidenceContext review.evidence) review.report = .ok review.evidence
  identity : validateCurrentIdentity review review.evidence = .ok gameVersionUtf8
  revision :
    nextRevision (findStoredRecord document review.game.game.gameId) review
      review.evidence gameVersionUtf8 = .ok record.revision
  isRecord : record = publishedRecord review review.evidence gameVersionUtf8 record.revision
  isCandidate : candidate = { document with records := replaceRecord record document.records }
  valid : validateRequirementEvidenceDocument candidate = .ok ()

variable {record : LocalRequirementEvidenceRecord}

theorem preparePublication_eq_ok {review : RuntimeRequirementAuthorityReview}
    {loaded : RequirementStore (Option RequirementEvidenceDocument)}
    {candidate : RequirementEvidenceDocument}
    (prepared : preparePublication review loaded = .ok (record, candidate)) :
    Nonempty (Publication review loaded record candidate) := by
  obtain ⟨_, report, prepared⟩ := bind_eq_ok.mp prepared
  obtain ⟨evidence, isEvidence, prepared⟩ := bind_eq_ok.mp prepared
  obtain ⟨gameVersionUtf8, identity, prepared⟩ := bind_eq_ok.mp prepared
  obtain ⟨rfl, projection⟩ := canonicalEvidenceForReport_eq isEvidence
  cases loaded with
  | error => cases prepared
  | ok found =>
    obtain ⟨revision, isRevision, prepared⟩ := bind_eq_ok.mp prepared
    unfold failure at prepared
    dsimp only at prepared
    split at prepared
    · cases prepared
    next valid =>
      obtain ⟨_, _, prepared⟩ := bind_eq_ok.mp prepared
      cases prepared
      exact ⟨{
        document := found.getD {}
        gameVersionUtf8, found
        isLoaded := rfl
        isDocument := rfl
        report := soundReport_of_validate report
        projection, identity
        revision := isRevision
        isRecord := rfl
        isCandidate := rfl
        valid }⟩

theorem saveStore_stored {faults : StoreFaults}
    {document : RequirementEvidenceDocument} {files after : StoreFiles}
    {result : RequirementStore Unit}
    (saved : saveStore faults document files = (result, after)) :
    (∃ text, result = .ok () ∧ encodeRequirementEvidenceDocumentJson document = .ok text ∧
        after.stored = some text) ∨
      (∃ diagnostic, result = .error diagnostic) ∧ after.stored = files.stored := by
  have cleared (fails : Bool) (files : StoreFiles) :
      (clearStaging fails files).stored = files.stored := by
    unfold clearStaging
    split
    · rfl
    · rfl
  unfold saveStore at saved
  split at saved
  · cases saved
    exact .inr ⟨⟨_, rfl⟩, rfl⟩
  next json isJson =>
    unfold writeStore storeFailure at saved
    dsimp only at saved
    split at saved
    · cases saved
      exact .inr ⟨⟨_, rfl⟩, rfl⟩
    split at saved
    · cases saved
      exact .inr ⟨⟨_, rfl⟩, cleared _ _⟩
    split at saved
    · cases saved
      exact .inr ⟨⟨_, rfl⟩, (cleared _ _).trans (cleared _ _)⟩
    split at saved
    · cases saved
      exact .inr ⟨⟨_, rfl⟩, (cleared _ _).trans (cleared _ _)⟩
    · cases saved
      exact .inl ⟨json, rfl, isJson, rfl⟩

section Publishing

variable {review : RuntimeRequirementAuthorityReview}
  {storePath : WideString} {faults : StoreFaults} {files after : StoreFiles}

theorem publish_eq_ok
    (published :
      publishRuntimeRequirementAuthority review storePath faults files = (.ok record, after)) :
    ∃ candidate text,
      Nonempty (Publication review (loadStore faults files) record candidate) ∧
        encodeRequirementEvidenceDocumentJson candidate = .ok text ∧
        after.stored = some text := by
  unfold publishRuntimeRequirementAuthority failure at published
  obtain ⟨_, published⟩ := not_taken published nofun
  split at published
  · cases published
  next found candidate prepared =>
    split at published
    · cases published
    next saved =>
      cases published
      rcases saveStore_stored saved with
        ⟨text, _, encoded, stored⟩ | ⟨⟨_, failed⟩, _⟩
      · exact ⟨candidate, text, preparePublication_eq_ok prepared, encoded, stored⟩
      · cases failed

theorem publish_error {diagnostic : RuntimeRequirementAuthorityDiagnostic}
    (failed :
      publishRuntimeRequirementAuthority review storePath faults files =
        (.error diagnostic, after)) :
    after.stored = files.stored := by
  unfold publishRuntimeRequirementAuthority failure at failed
  split at failed
  · cases failed
    rfl
  split at failed
  · cases failed
    rfl
  split at failed
  next saved =>
    cases failed
    rcases saveStore_stored saved with ⟨_, passed, _⟩ | ⟨_, same⟩
    · cases passed
    · exact same
  · cases failed

end Publishing

/-- What the publication of a record rests on, and how far the store that it
is written to differs from the store that was loaded. -/
structure Entailed (review : RuntimeRequirementAuthorityReview)
    (loaded : RequirementStore (Option RequirementEvidenceDocument))
    (record : LocalRequirementEvidenceRecord) (text : ByteString) : Prop where
  report :
    ∀ (Snapshot : Type) (build : Snapshot → Option InputMetricsReport)
      (snapshot : Snapshot), build snapshot = some review.report.input →
        buildSessionMetricsReport build (reportSource review.report snapshot) = .ok review.report
  evidence :
    buildCompatibilityResultFromSessionMetrics
      (evidenceContext review.evidence) review.report = .ok review.evidence
  capabilities : Backed record.capabilities review.report
  document :
    ∃ found candidate, loaded = .ok found ∧
      encodeRequirementEvidenceDocumentJson candidate = .ok text ∧
      findStoredRecord candidate review.game.game.gameId = some record ∧
      candidate.records.filter (·.gameId ≠ review.game.game.gameId) =
        (found.getD {}).records.filter (·.gameId ≠ review.game.game.gameId)

/-- A publication is entailed by its report, and a failure leaves the store
file as it was. -/
theorem publish_entailed (review : RuntimeRequirementAuthorityReview) (storePath : WideString)
    (faults : StoreFaults) (files : StoreFiles) :
    match
      publishRuntimeRequirementAuthority review storePath faults files
    with
    | (.ok record, after) =>
      ∃ text, after.stored = some text ∧ Entailed review (loadStore faults files) record text
    | (.error _, after) => after.stored = files.stored := by
  split
  next record after published =>
    obtain ⟨candidate, text, ⟨publication⟩, encoded, stored⟩ := publish_eq_ok published
    have sameGame : record.gameId = review.game.game.gameId := by
      rw [publication.isRecord]
      rfl
    have sameCapabilities : record.capabilities = deriveRuntimeRequirementCapabilities review := by
      rw [publication.isRecord]
      rfl
    have records : candidate.records = replaceRecord record publication.document.records :=
      congrArg RequirementEvidenceDocument.records publication.isCandidate
    refine ⟨text, stored, ?_, publication.projection, ?_, publication.found,
      candidate, publication.isLoaded, encoded, ?_, ?_⟩
    · intro Snapshot build snapshot counters
      exact buildSessionMetricsReport_eq publication.report build counters
    · rw [sameCapabilities]
      exact deriveRuntimeRequirementCapabilities_backed review
    · unfold findStoredRecord
      rw [records, ← sameGame]
      exact find_replaceRecord_same _
    · rw [records, publication.isDocument, ← sameGame]
      exact replaceRecord_others _
  next failed => exact publish_error failed

section Runs

/-- What one publication is called with. -/
structure PublicationCall where
  review : RuntimeRequirementAuthorityReview
  storePath : WideString
  faults : StoreFaults

def publishNext (files : StoreFiles) (call : PublicationCall) : StoreFiles :=
  (publishRuntimeRequirementAuthority call.review call.storePath call.faults files).2

/-- The document that the store file holds. -/
def storedDocument (files : StoreFiles) : RequirementStore RequirementEvidenceDocument :=
  match files.stored with
  | none => .ok {}
  | some json => decodeRequirementEvidenceDocumentJson json

/-- The record of a game stays, or one with a later revision takes its place. -/
def Advances (before after : RequirementEvidenceDocument) : Prop :=
  ∀ gameId record,
    findStoredRecord before gameId = some record →
      ∃ next, findStoredRecord after gameId = some next ∧
        (next = record ∨ record.revision < next.revision)

/-- What can be read later advances what could be read earlier. -/
def Later (earlier later : RequirementStore RequirementEvidenceDocument) : Prop :=
  ∀ after, later = .ok after → ∃ before, earlier = .ok before ∧ Advances before after

variable {before document candidate : RequirementEvidenceDocument}
  {first second third : RequirementStore RequirementEvidenceDocument}
  {files : StoreFiles} {faults : StoreFaults} {text : ByteString}

theorem Later.refl (stored : RequirementStore RequirementEvidenceDocument) :
    Later stored stored := by
  intro document same
  exact ⟨document, same, fun _ record found => ⟨record, found, .inl rfl⟩⟩

theorem Later.trans (early : Later first second) (late : Later second third) :
    Later first third := by
  intro after isAfter
  obtain ⟨between, isBetween, second⟩ := late after isAfter
  obtain ⟨before, isBefore, first⟩ := early between isBetween
  refine ⟨before, isBefore, fun gameId record found => ?_⟩
  obtain ⟨middle, found, kept⟩ := first gameId record found
  obtain ⟨next, found, keeps⟩ := second gameId middle found
  refine ⟨next, found, ?_⟩
  rcases kept with rfl | less
  · exact keeps
  · exact .inr (keeps.elim (fun same => same ▸ less) (UInt64.lt_trans less))

/-- What a save encoded is what is read back, if anything is. -/
theorem decode_encoded (encoded : encodeRequirementEvidenceDocumentJson candidate = .ok text)
    (decoded : decodeRequirementEvidenceDocumentJson text = .ok document) :
    document = candidate := by
  obtain ⟨valid, rfl, short⟩ := encode_eq_ok encoded
  obtain ⟨writing, isText, _, flat, isRead⟩ := (written_evidenceDocument valid).writing
  unfold decodeRequirementEvidenceDocumentJson storeFailure at decoded
  obtain ⟨_, decoded⟩ := check_eq_ok decoded
  obtain ⟨_, decoded⟩ := check_eq_ok decoded
  obtain ⟨value, parsed, decoded⟩ := bind_eq_ok.mp decoded
  rw [← isText] at parsed short
  obtain ⟨rfl, _⟩ := (parseJson_written writing (flat.trans (by decide)) short value).mp parsed
  rw [isRead, ok_bind, valid, ok_bind] at decoded
  exact (pure_eq_ok decoded).symm

theorem storedDocument_of_load {found : Option RequirementEvidenceDocument}
    (loaded : loadStore faults files = .ok found) :
    storedDocument files = .ok (found.getD {}) := by
  unfold loadStore storeFailure at loaded
  unfold storedDocument
  obtain ⟨_, loaded⟩ := not_taken loaded nofun
  cases stored : files.stored with
  | none =>
    rw [stored] at loaded
    cases loaded
    rfl
  | some json =>
  rw [stored] at loaded
  obtain ⟨_, loaded⟩ := not_taken loaded nofun
  obtain ⟨_, loaded⟩ := not_taken loaded nofun
  obtain ⟨_, loaded⟩ := not_taken loaded nofun
  obtain ⟨_, loaded⟩ := not_taken loaded nofun
  obtain ⟨_, loaded⟩ := not_taken loaded nofun
  obtain ⟨document, decoded, loaded⟩ := bind_eq_ok.mp loaded
  cases loaded
  exact decoded

theorem replaceRecord_advances {record : LocalRequirementEvidenceRecord}
    (later :
      ∀ previous, findStoredRecord before record.gameId = some previous →
        previous.revision < record.revision) :
    Advances before { before with records := replaceRecord record before.records } := by
  intro gameId previous found
  by_cases same : record.gameId = gameId
  · subst same
    exact ⟨record, find_replaceRecord_same _, .inr (later previous found)⟩
  · refine ⟨previous, ?_, .inl rfl⟩
    have others (records : List LocalRequirementEvidenceRecord) :
        records.find? (·.gameId == gameId) =
          (records.filter (·.gameId ≠ record.gameId)).find? (·.gameId == gameId) := by
      rw [find?_filter]
      congr 1
      grind
    unfold findStoredRecord at *
    rw [others, replaceRecord_others, ← others, found]

theorem nextRevision_later {review : RuntimeRequirementAuthorityReview}
    {evidence : CompatibilityResult} {version : Option ByteString} {revision : UInt64}
    {previous : LocalRequirementEvidenceRecord}
    (next : nextRevision (some previous) review evidence version = .ok revision) :
    previous.revision < revision := by
  unfold nextRevision failure at next
  obtain ⟨room, next⟩ := not_taken next nofun
  obtain ⟨_, next⟩ := not_taken next nofun
  cases next
  rw [UInt64.lt_iff_toNat_lt, UInt64.toNat_add]
  have small := previous.revision.toNat_lt
  have notMost : previous.revision.toNat ≠ 0xFFFFFFFFFFFFFFFF := fun most =>
    room (UInt64.toNat_inj.mp most)
  change _ < (_ + 1) % _
  omega

theorem publishNext_later (files : StoreFiles) (call : PublicationCall) :
    Later (storedDocument files) (storedDocument (publishNext files call)) := by
  rcases outcome : publishRuntimeRequirementAuthority call.review call.storePath call.faults files
    with ⟨result, after⟩
  have isNext : publishNext files call = after := congrArg Prod.snd outcome
  rw [isNext]
  cases result with
  | error diagnostic =>
    have same : storedDocument after = storedDocument files := by
      unfold storedDocument
      rw [publish_error outcome]
    rw [same]
    exact .refl _
  | ok record =>
    obtain ⟨candidate, text, ⟨publication⟩, encoded, stored⟩ := publish_eq_ok outcome
    have sameGame : record.gameId = call.review.game.game.gameId := by
      rw [publication.isRecord]
      rfl
    have revision := publication.revision
    have advances := replaceRecord_advances fun previous found =>
      nextRevision_later (by rwa [← sameGame, found] at revision)
    rw [← publication.isCandidate] at advances
    rw [storedDocument_of_load publication.isLoaded, publication.isDocument]
    intro document isDocument
    unfold storedDocument at isDocument
    rw [stored] at isDocument
    obtain rfl := decode_encoded encoded isDocument
    exact ⟨_, rfl, advances⟩

/-- Whatever is published and whatever fails, the record of a game stays or is
followed by one with a later revision, as long as the file can be read. -/
theorem publications_later (calls : List PublicationCall) (files : StoreFiles) :
    Later (storedDocument files) (storedDocument (calls.foldl publishNext files)) := by
  induction calls generalizing files with
  | nil => exact .refl _
  | cons call calls ih => exact (publishNext_later files call).trans (ih _)

end Runs

end HydraSeat.Requirement
