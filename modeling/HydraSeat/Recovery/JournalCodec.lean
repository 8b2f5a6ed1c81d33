import HydraSeat.Recovery.CrashJournal

/-!
# The files of the crash journal

A journal file and a safe-mode file share one header, which carries the
length and the checksum of the payload.
-/

namespace HydraSeat.Recovery

open Foundation Watchdog List

def kCrashJournalMagic : UInt32 := 0x31524a48

def kCrashJournalSchemaVersion : UInt16 := 1

def kCrashJournalHeaderBytes : Nat := 24

def kCrashJournalMaxFileBytes : Nat := 8 * 1024

def kCrashJournalHistoryDepth : Nat := 4

def kSafeModeMarkerMagic : UInt32 := 0x314d5348

def kSafeModeMarkerSchemaVersion : UInt16 := 1

def kSafeModeMarkerFileBytes : Nat := 88

def kJournalPayloadPrefixBytes : Nat := 80

def kJournalRecordBytes : Nat := 24

def kSnapshotReferenceBytes : Nat := 48

def kSafeModePayloadBytes : Nat := 64

inductive SafeModeReason where
  | incompleteSession | corruptJournal | recoveryRequired | journalWriteFailure | manualRecovery
  | unknown (value : UInt16)
  deriving DecidableEq

namespace SafeModeReason

def ofValue (value : UInt16) : SafeModeReason :=
  if value = 1 then .incompleteSession
  else if value = 2 then .corruptJournal
  else if value = 3 then .recoveryRequired
  else if value = 4 then .journalWriteFailure
  else if value = 5 then .manualRecovery
  else .unknown value

def value : SafeModeReason → UInt16
  | .incompleteSession => 1
  | .corruptJournal => 2
  | .recoveryRequired => 3
  | .journalWriteFailure => 4
  | .manualRecovery => 5
  | .unknown value => value

end SafeModeReason

def knownSafeModeReason : SafeModeReason → Bool
  | .unknown _ => false
  | _ => true

structure SafeModeMarker where
  sessionId : SessionId := Vector.replicate 16 0
  runtimeGeneration : UInt64 := 0
  reason : SafeModeReason := .incompleteSession
  diagnosticCode : UInt32 := 0
  journalHash : Hash256 := Vector.replicate 32 0
  deriving DecidableEq

def crcBit (crc : UInt32) : UInt32 := (crc >>> 1) ^^^ (0xedb88320 &&& (0 - (crc &&& 1)))

def crcByte (crc : UInt32) (byte : UInt8) : UInt32 := Nat.repeat crcBit 8 (crc ^^^ byte.toUInt32)

def crc32 (bytes : List UInt8) : UInt32 := ~~~(bytes.foldl crcByte 0xffffffff)

structure JournalHeader where
  magic : UInt32
  (version headerBytes : UInt16)
  (payloadBytes checksum : UInt32)
  reserved : UInt64

def writeJournalHeader (header : JournalHeader) : List UInt8 :=
  writeU32 header.magic ++ writeU16 header.version ++
    writeU16 header.headerBytes ++ writeU32 header.payloadBytes ++
    writeU32 header.checksum ++ writeU64 header.reserved

def readJournalHeader : Reader JournalHeader := do
  let magic ← readU32
  let version ← readU16
  let headerBytes ← readU16
  let payloadBytes ← readU32
  let checksum ← readU32
  let reserved ← readU64
  return ⟨magic, version, headerBytes, payloadBytes, checksum, reserved⟩

def headerOf (magic : UInt32) (version : UInt16) (payload : List UInt8) : JournalHeader where
  magic := magic
  version := version
  headerBytes := UInt16.ofNat kCrashJournalHeaderBytes
  payloadBytes := UInt32.ofNat payload.length
  checksum := crc32 payload
  reserved := 0

def encodeHeader (magic : UInt32) (version : UInt16) (payload : List UInt8) : List UInt8 :=
  writeJournalHeader (headerOf magic version payload)

/-- The payload behind an accepted header. -/
def decodeHeader (bytes : List UInt8) (expectedMagic : UInt32)
    (expectedVersion : UInt16) : Except String (List UInt8) :=
  if bytes.length < kCrashJournalHeaderBytes then .error "journal header is truncated"
  else
    match readJournalHeader bytes with
    | none => .error "journal header cannot be decoded"
    | some (header, payload) =>
      if header.magic ≠ expectedMagic then .error "journal magic mismatch"
      else if header.version ≠ expectedVersion then .error "journal schema version mismatch"
      else if header.headerBytes.toNat ≠ kCrashJournalHeaderBytes ∨ header.reserved ≠ 0 then
        .error "journal header reserved/size fields are invalid"
      else if header.payloadBytes.toNat ≠ payload.length then
        .error "journal payload length mismatch"
      else if crc32 payload ≠ header.checksum then .error "journal checksum mismatch"
      else .ok payload

structure JournalPrefix where
  sessionId : SessionId
  planHash : Hash256
  (runtimeGeneration leaseGeneration : UInt64)
  leaseTimeoutMilliseconds : UInt32
  (phaseValue resultValue recordCount snapshotCount : UInt16)
  reserved : UInt32

def writeJournalPrefix (front : JournalPrefix) : List UInt8 :=
  writeArray front.sessionId ++ writeArray front.planHash ++ writeU64 front.runtimeGeneration ++
    writeU64 front.leaseGeneration ++
    writeU32 front.leaseTimeoutMilliseconds ++
    writeU16 front.phaseValue ++ writeU16 front.resultValue ++
    writeU16 front.recordCount ++ writeU16 front.snapshotCount ++
    writeU32 front.reserved

def readJournalPrefix : Reader JournalPrefix := do
  let sessionId ← readArray 16
  let planHash ← readArray 32
  let runtimeGeneration ← readU64
  let leaseGeneration ← readU64
  let leaseTimeoutMilliseconds ← readU32
  let phaseValue ← readU16
  let resultValue ← readU16
  let recordCount ← readU16
  let snapshotCount ← readU16
  let reserved ← readU32
  return ⟨sessionId, planHash, runtimeGeneration, leaseGeneration,
    leaseTimeoutMilliseconds, phaseValue, resultValue, recordCount,
    snapshotCount, reserved⟩

/-- A record as it stands in a file, with its reserved field. -/
structure WireRecord where
  sequence : UInt64
  (kindValue recordReserved : UInt16)
  actionId : UInt32
  generation : UInt64

def CrashJournalRecord.wire (record : CrashJournalRecord) : WireRecord where
  sequence := record.sequence
  kindValue := record.kind.value
  recordReserved := 0
  actionId := record.actionId
  generation := record.generation

def WireRecord.record (wire : WireRecord) : CrashJournalRecord where
  sequence := wire.sequence
  kind := CrashJournalRecordKind.ofValue wire.kindValue
  actionId := wire.actionId
  generation := wire.generation

def writeWireRecord (wire : WireRecord) : List UInt8 :=
  writeU64 wire.sequence ++ writeU16 wire.kindValue ++
    writeU16 wire.recordReserved ++ writeU32 wire.actionId ++
    writeU64 wire.generation

def readWireRecord : Reader WireRecord := do
  let sequence ← readU64
  let kindValue ← readU16
  let recordReserved ← readU16
  let actionId ← readU32
  let generation ← readU64
  return ⟨sequence, kindValue, recordReserved, actionId, generation⟩

def writeSnapshot (snapshot : SnapshotReference) : List UInt8 :=
  writeU64 snapshot.snapshotId ++ writeArray snapshot.sha256 ++ writeU64 snapshot.generation

def readSnapshot : Reader SnapshotReference := do
  let snapshotId ← readU64
  let sha256 ← readArray 32
  let generation ← readU64
  return ⟨snapshotId, sha256, generation⟩

def CrashJournalState.front (state : CrashJournalState) : JournalPrefix where
  sessionId := state.sessionId
  planHash := state.planHash
  runtimeGeneration := state.runtimeGeneration
  leaseGeneration := state.lease.generation
  leaseTimeoutMilliseconds := state.lease.timeoutMilliseconds
  phaseValue := state.phase.value
  resultValue := state.finalResult.value
  recordCount := UInt16.ofNat state.records.length
  snapshotCount := UInt16.ofNat state.snapshots.length
  reserved := 0

def journalPayload (state : CrashJournalState) : List UInt8 :=
  writeJournalPrefix state.front ++ writeMany writeWireRecord (state.records.map (·.wire)) ++
    writeMany writeSnapshot state.snapshots

def journalPayloadBytes (recordCount snapshotCount : Nat) : Nat :=
  kJournalPayloadPrefixBytes + recordCount * kJournalRecordBytes +
    snapshotCount * kSnapshotReferenceBytes

/-- An empty result is the encoder's refusal. -/
def encodeCrashJournal (state : CrashJournalState) : List UInt8 :=
  if validateCrashJournalState state ≠ .ok () then []
  else if
      journalPayloadBytes state.records.length state.snapshots.length + kCrashJournalHeaderBytes >
        kCrashJournalMaxFileBytes then
    []
  else
    let payload := journalPayload state
    encodeHeader kCrashJournalMagic kCrashJournalSchemaVersion payload ++ payload

/-- The source stops at the first record with a nonzero reserved field or
at the end of the payload, whichever comes first. -/
def readRecords : Nat → List UInt8 → Option (List CrashJournalRecord × List UInt8)
  | 0, payload => some ([], payload)
  | count + 1, payload =>
    match readWireRecord payload with
    | none => none
    | some (wire, rest) =>
      if wire.recordReserved ≠ 0 then none
      else
        match readRecords count rest with
        | none => none
        | some (records, after) => some (wire.record :: records, after)

/-- What the decoder makes of the fields before it validates them. -/
def JournalPrefix.state (front : JournalPrefix) (records : List CrashJournalRecord)
    (snapshots : List SnapshotReference) : CrashJournalState where
  sessionId := front.sessionId
  planHash := front.planHash
  runtimeGeneration := front.runtimeGeneration
  lease :=
    { sessionId := front.sessionId, generation := front.leaseGeneration
      timeoutMilliseconds := front.leaseTimeoutMilliseconds }
  phase := CrashJournalPhase.ofValue front.phaseValue
  finalResult := CrashJournalFinalResult.ofValue front.resultValue
  records := records
  snapshots := snapshots

def decodeJournalPayload (payload : List UInt8) : Except String CrashJournalState :=
  if payload.length < kJournalPayloadPrefixBytes then .error "crash journal payload is truncated"
  else
    match readJournalPrefix payload with
    | none => .error "crash journal prefix cannot be decoded"
    | some (front, afterPrefix) =>
      if front.reserved ≠ 0 ∨ front.recordCount = 0 ∨
          front.recordCount.toNat > kCrashJournalMaxRecords ∨
          front.snapshotCount.toNat > kCrashJournalMaxSnapshots then
        .error "crash journal count/reserved fields are invalid"
      else if payload.length ≠
          journalPayloadBytes front.recordCount.toNat front.snapshotCount.toNat then
        .error "crash journal payload size does not match counts"
      else
        match readRecords front.recordCount.toNat afterPrefix with
        | none => .error "crash journal record cannot be decoded"
        | some (records, afterRecords) =>
          match readMany readSnapshot front.snapshotCount.toNat afterRecords with
          | none => .error "crash journal snapshot cannot be decoded"
          | some (snapshots, rest) =>
            if rest ≠ [] then .error "crash journal has trailing bytes"
            else
              let state := front.state records snapshots
              match validateCrashJournalState state with
              | .error text => .error text
              | .ok () => .ok state

def decodeCrashJournal (bytes : List UInt8) : Except String CrashJournalState :=
  if bytes.length > kCrashJournalMaxFileBytes then .error "crash journal exceeds file-size bound"
  else
    match decodeHeader bytes kCrashJournalMagic kCrashJournalSchemaVersion with
    | .error text => .error text
    | .ok payload => decodeJournalPayload payload

structure WireMarker where
  sessionId : SessionId
  runtimeGeneration : UInt64
  (reasonValue reserved : UInt16)
  diagnosticCode : UInt32
  journalHash : Hash256

def SafeModeMarker.wire (marker : SafeModeMarker) : WireMarker where
  sessionId := marker.sessionId
  runtimeGeneration := marker.runtimeGeneration
  reasonValue := marker.reason.value
  reserved := 0
  diagnosticCode := marker.diagnosticCode
  journalHash := marker.journalHash

def WireMarker.marker (wire : WireMarker) : SafeModeMarker where
  sessionId := wire.sessionId
  runtimeGeneration := wire.runtimeGeneration
  reason := SafeModeReason.ofValue wire.reasonValue
  diagnosticCode := wire.diagnosticCode
  journalHash := wire.journalHash

def writeWireMarker (wire : WireMarker) : List UInt8 :=
  writeArray wire.sessionId ++ writeU64 wire.runtimeGeneration ++
    writeU16 wire.reasonValue ++ writeU16 wire.reserved ++
    writeU32 wire.diagnosticCode ++ writeArray wire.journalHash

def readWireMarker : Reader WireMarker := do
  let sessionId ← readArray 16
  let runtimeGeneration ← readU64
  let reasonValue ← readU16
  let reserved ← readU16
  let diagnosticCode ← readU32
  let journalHash ← readArray 32
  return ⟨sessionId, runtimeGeneration, reasonValue, reserved, diagnosticCode, journalHash⟩

/-- A marker names a session and its generation, or neither. -/
def markerIdentityComplete (marker : SafeModeMarker) : Bool :=
  !isZeroSessionId marker.sessionId == (marker.runtimeGeneration != 0)

def encodeSafeModeMarker (marker : SafeModeMarker) : List UInt8 :=
  if !knownSafeModeReason marker.reason ∨ !markerIdentityComplete marker then []
  else
    let payload := writeWireMarker marker.wire
    encodeHeader kSafeModeMarkerMagic kSafeModeMarkerSchemaVersion payload ++ payload

def decodeSafeModeMarker (bytes : List UInt8) : Except String SafeModeMarker :=
  if bytes.length ≠ kSafeModeMarkerFileBytes then .error "safe-mode marker size mismatch"
  else
    match decodeHeader bytes kSafeModeMarkerMagic kSafeModeMarkerSchemaVersion with
    | .error text => .error text
    | .ok payload =>
      match readWireMarker payload with
      | some (wire, []) =>
        if wire.reserved ≠ 0 ∨ !knownSafeModeReason wire.marker.reason ∨
            !markerIdentityComplete wire.marker then
          .error "safe-mode marker fields are invalid"
        else .ok wire.marker
      | _ => .error "safe-mode marker cannot be decoded"

theorem readJournalHeader_reads : Reads readJournalHeader writeJournalHeader := by
  unfold writeJournalHeader
  simp only [append_assoc]
  apply ReadsOnly.reads
  refine .any readU32_reads fun magic => ?_
  refine .any readU16_reads fun version => ?_
  refine .any readU16_reads fun headerBytes => ?_
  refine .any readU32_reads fun payloadBytes => ?_
  refine .any readU32_reads fun checksum => ?_
  refine .last readU64_reads fun reserved => ?_
  exact .built fun value => by cases value; grind

theorem readJournalPrefix_reads : Reads readJournalPrefix writeJournalPrefix := by
  unfold writeJournalPrefix
  simp only [append_assoc]
  apply ReadsOnly.reads
  refine .any (readArray_reads 16) fun sessionId => ?_
  refine .any (readArray_reads 32) fun planHash => ?_
  refine .any readU64_reads fun runtimeGeneration => ?_
  refine .any readU64_reads fun leaseGeneration => ?_
  refine .any readU32_reads fun leaseTimeoutMilliseconds => ?_
  refine .any readU16_reads fun phaseValue => ?_
  refine .any readU16_reads fun resultValue => ?_
  refine .any readU16_reads fun recordCount => ?_
  refine .any readU16_reads fun snapshotCount => ?_
  refine .last readU32_reads fun reserved => ?_
  exact .built fun value => by cases value; grind

theorem readWireRecord_reads : Reads readWireRecord writeWireRecord := by
  unfold writeWireRecord
  simp only [append_assoc]
  apply ReadsOnly.reads
  refine .any readU64_reads fun sequence => ?_
  refine .any readU16_reads fun kindValue => ?_
  refine .any readU16_reads fun recordReserved => ?_
  refine .any readU32_reads fun actionId => ?_
  refine .last readU64_reads fun generation => ?_
  exact .built fun value => by cases value; grind

theorem readSnapshot_reads : Reads readSnapshot writeSnapshot := by
  unfold writeSnapshot
  simp only [append_assoc]
  apply ReadsOnly.reads
  refine .any readU64_reads fun snapshotId => ?_
  refine .any (readArray_reads 32) fun sha256 => ?_
  refine .last readU64_reads fun generation => ?_
  exact .built fun value => by cases value; grind

theorem readWireMarker_reads : Reads readWireMarker writeWireMarker := by
  unfold writeWireMarker
  simp only [append_assoc]
  apply ReadsOnly.reads
  refine .any (readArray_reads 16) fun sessionId => ?_
  refine .any readU64_reads fun runtimeGeneration => ?_
  refine .any readU16_reads fun reasonValue => ?_
  refine .any readU16_reads fun reserved => ?_
  refine .any readU32_reads fun diagnosticCode => ?_
  refine .last (readArray_reads 32) fun journalHash => ?_
  exact .built fun value => by cases value; grind

theorem CrashJournalPhase.ofValue_value
    {phase : CrashJournalPhase} (known : knownPhase phase = true) :
    CrashJournalPhase.ofValue phase.value = phase := by
  cases phase with
  | unknown value => cases known
  | _ => rfl

theorem CrashJournalFinalResult.ofValue_value {result : CrashJournalFinalResult}
    (known : knownFinalResult result = true) :
    CrashJournalFinalResult.ofValue result.value = result := by
  cases result with
  | unknown value => cases known
  | _ => rfl

theorem CrashJournalRecordKind.ofValue_value {kind : CrashJournalRecordKind}
    (known : knownRecordKind kind = true) :
    CrashJournalRecordKind.ofValue kind.value = kind := by
  cases kind with
  | unknown value => cases known
  | _ => rfl

theorem SafeModeReason.ofValue_value {reason : SafeModeReason}
    (known : knownSafeModeReason reason = true) :
    SafeModeReason.ofValue reason.value = reason := by
  cases reason with
  | unknown value => cases known
  | _ => rfl

theorem CrashJournalRecord.wire_record {record : CrashJournalRecord}
    (known : knownRecordKind record.kind = true) :
    record.wire.record = record := by
  unfold WireRecord.record CrashJournalRecord.wire
  rw [CrashJournalRecordKind.ofValue_value known]

theorem SafeModeMarker.wire_marker {marker : SafeModeMarker}
    (known : knownSafeModeReason marker.reason = true) :
    marker.wire.marker = marker := by
  unfold WireMarker.marker SafeModeMarker.wire
  rw [SafeModeReason.ofValue_value known]

theorem Replay.run_known {self final : Replay} {index : Nat} {records : List CrashJournalRecord}
    (replayed : self.run index records = .ok final) :
    ∀ record ∈ records, knownRecordKind record.kind = true := by
  induction records generalizing self index with
  | nil =>
    intro record member
    cases member
  | cons head records ih =>
    rw [Replay.run] at replayed
    split at replayed
    · cases replayed
    next next stepped =>
      intro record member
      rcases mem_cons.mp member with rfl | later
      · unfold Replay.step at stepped
        obtain ⟨identified, stepped⟩ := not_taken stepped nofun
        rw [not_or, not_or, Bool.not_eq_false] at identified
        exact identified.2.2
      · exact ih replayed record later

/-- What validation says about a state, field by field. -/
structure ValidJournal (state : CrashJournalState) : Prop where
  valid : validateCrashJournalState state = .ok ()
  session : isZeroSessionId state.sessionId = false
  generation : state.runtimeGeneration ≠ 0
  lease : state.lease.sessionId = state.sessionId
  phase : knownPhase state.phase = true
  result : knownFinalResult state.finalResult = true
  snapshotCount : state.snapshots.length ≤ kCrashJournalMaxSnapshots
  nonempty : state.records ≠ []
  recordCount : state.records.length ≤ kCrashJournalMaxRecords
  kinds : ∀ record ∈ state.records, knownRecordKind record.kind = true
  snapshots : validateSnapshots [] state.snapshots = .ok ()

variable {state : CrashJournalState}

theorem validJournal
    (valid : validateCrashJournalState state = .ok ()) :
    ValidJournal state := by
  have whole := valid
  unfold validateCrashJournalState at valid
  obtain ⟨identity, valid⟩ := not_taken valid nofun
  obtain ⟨lease, valid⟩ := not_taken valid nofun
  obtain ⟨counts, valid⟩ := not_taken valid nofun
  split at valid
  · cases valid
  next snapshots =>
    split at valid
    · cases valid
    next derived replayed =>
      unfold deriveStateFromRecords at replayed
      obtain ⟨sized, replayed⟩ := not_taken replayed nofun
      simp only [not_or, Bool.not_eq_true, Bool.not_eq_false, ne_eq, not_not, not_lt,
        Bool.not_eq_eq_eq_not, Bool.not_true] at *
      exact ⟨whole, identity.1, identity.2.2, lease.1,
        counts.1, counts.2.1, counts.2.2, sized.1, sized.2,
        Replay.run_known replayed, snapshots⟩

theorem decodeHeader_encodeHeader (magic : UInt32) (version : UInt16) {payload : List UInt8}
    (small : payload.length < 2 ^ 32) :
    decodeHeader (encodeHeader magic version payload ++ payload) magic version = .ok payload := by
  have headerLength : (encodeHeader magic version payload).length = kCrashJournalHeaderBytes := by
    simp [encodeHeader, writeJournalHeader, kCrashJournalHeaderBytes]
  have long :
      ¬ (encodeHeader magic version payload ++ payload).length < kCrashJournalHeaderBytes := by
    rw [length_append, headerLength]
    omega
  have read :
      readJournalHeader (encodeHeader magic version payload ++ payload) =
        some (headerOf magic version payload, payload) :=
    readJournalHeader_reads.read_write _ _
  have sized : (headerOf magic version payload).payloadBytes.toNat = payload.length :=
    UInt32.toNat_ofNat_of_lt' small
  unfold decodeHeader
  rw [if_neg long, read]
  dsimp only
  rw [if_neg (by simp [headerOf]), if_neg (by simp [headerOf]),
    if_neg (by simp [headerOf, kCrashJournalHeaderBytes]),
    if_neg (by simp [sized]), if_neg (by simp [headerOf])]

theorem readRecords_write {records : List CrashJournalRecord} (rest : List UInt8)
    (known : ∀ record ∈ records, knownRecordKind record.kind = true) :
    readRecords records.length (writeMany writeWireRecord (records.map (·.wire)) ++ rest) =
      some (records, rest) := by
  induction records with
  | nil => rfl
  | cons record records ih =>
    have read :
        readWireRecord (writeMany writeWireRecord ((record :: records).map (·.wire)) ++ rest) =
          some (record.wire, writeMany writeWireRecord (records.map (·.wire)) ++ rest) := by
      rw [map_cons, writeMany, flatMap_cons, append_assoc]
      exact readWireRecord_reads.read_write _ _
    rw [length_cons, readRecords, read]
    dsimp only
    rw [if_neg (fun reserved => reserved rfl),
      ih fun other member => known other (mem_cons_of_mem record member)]
    dsimp only
    rw [CrashJournalRecord.wire_record (known record mem_cons_self)]

theorem journalPayload_length (state : CrashJournalState) :
    (journalPayload state).length =
      journalPayloadBytes state.records.length state.snapshots.length := by
  have recordLength : ∀ wire, (writeWireRecord wire).length = kJournalRecordBytes := by
    intro wire
    simp [writeWireRecord, kJournalRecordBytes]
  have snapshotLength : ∀ snapshot, (writeSnapshot snapshot).length = kSnapshotReferenceBytes := by
    intro snapshot
    simp [writeSnapshot, kSnapshotReferenceBytes]
  have prefixLength : (writeJournalPrefix state.front).length = kJournalPayloadPrefixBytes := by
    simp [writeJournalPrefix, kJournalPayloadPrefixBytes]
  rw [journalPayload, length_append, length_append,
    prefixLength, writeMany_length recordLength,
    writeMany_length snapshotLength, length_map]
  rfl

theorem journalFile_fits (valid : ValidJournal state) :
    journalPayloadBytes state.records.length state.snapshots.length + kCrashJournalHeaderBytes ≤
      kCrashJournalMaxFileBytes := by
  have records := valid.recordCount
  have snapshots := valid.snapshotCount
  simp only [kCrashJournalMaxRecords, kCrashJournalMaxSnapshots] at records snapshots
  simp only [journalPayloadBytes, kJournalPayloadPrefixBytes,
    kJournalRecordBytes, kSnapshotReferenceBytes,
    kCrashJournalHeaderBytes, kCrashJournalMaxFileBytes]
  omega

theorem encodeCrashJournal_eq (valid : ValidJournal state) :
    encodeCrashJournal state =
      encodeHeader kCrashJournalMagic kCrashJournalSchemaVersion (journalPayload state) ++
        journalPayload state := by
  unfold encodeCrashJournal
  rw [if_neg (not_not.mpr valid.valid), if_neg (Nat.not_lt.mpr (journalFile_fits valid))]

theorem encodeCrashJournal_ne_nil (valid : ValidJournal state) :
    encodeCrashJournal state ≠ [] := by
  rw [encodeCrashJournal_eq valid]
  intro empty
  have lengths := congrArg length (append_eq_nil_iff.mp empty).1
  simp [encodeHeader, writeJournalHeader] at lengths

theorem state_front (valid : ValidJournal state) :
    state.front.state state.records state.snapshots = state := by
  have lease :
      (⟨state.sessionId, state.lease.generation, state.lease.timeoutMilliseconds⟩ : WatchdogLease) =
        state.lease := by
    rw [← valid.lease]
  unfold JournalPrefix.state CrashJournalState.front
  dsimp only
  rw [CrashJournalPhase.ofValue_value valid.phase,
    CrashJournalFinalResult.ofValue_value valid.result, lease]

theorem decodeJournalPayload_journalPayload (valid : ValidJournal state) :
    decodeJournalPayload (journalPayload state) = .ok state := by
  have recordBound := valid.recordCount
  have snapshotBound := valid.snapshotCount
  have nonempty := length_pos_iff.mpr valid.nonempty
  simp only [kCrashJournalMaxRecords, kCrashJournalMaxSnapshots] at recordBound snapshotBound
  have recordCount : state.front.recordCount.toNat = state.records.length :=
    UInt16.toNat_ofNat_of_lt' (by simp only [UInt16.size]; omega)
  have snapshotCount : state.front.snapshotCount.toNat = state.snapshots.length :=
    UInt16.toNat_ofNat_of_lt' (by simp only [UInt16.size]; omega)
  have counted :
      ¬ (state.front.reserved ≠ 0 ∨ state.front.recordCount = 0 ∨
        state.front.recordCount.toNat > kCrashJournalMaxRecords ∨
        state.front.snapshotCount.toNat > kCrashJournalMaxSnapshots) := by
    rw [recordCount, snapshotCount, not_or, not_or, not_or]
    refine ⟨fun reserved => reserved rfl, ?_, Nat.not_lt.mpr valid.recordCount,
      Nat.not_lt.mpr valid.snapshotCount⟩
    intro zero
    rw [zero] at recordCount
    exact absurd recordCount.symm (Nat.ne_of_gt nonempty)
  have front :
      readJournalPrefix (journalPayload state) =
        some (state.front,
          writeMany writeWireRecord (state.records.map (·.wire)) ++
            writeMany writeSnapshot state.snapshots) := by
    rw [journalPayload, append_assoc]
    exact readJournalPrefix_reads.read_write _ _
  have snapshots :
      readMany readSnapshot state.snapshots.length (writeMany writeSnapshot state.snapshots) =
        some (state.snapshots, []) :=
    (readMany_eq_some_iff readSnapshot_reads _ _ _ _).mpr ⟨rfl, (append_nil _).symm⟩
  unfold decodeJournalPayload
  rw [if_neg (by
      rw [journalPayload_length, journalPayloadBytes]
      omega), front]
  dsimp only
  rw [if_neg counted, recordCount, snapshotCount,
    if_neg (not_not.mpr (journalPayload_length state)),
    readRecords_write _ valid.kinds]
  dsimp only
  rw [snapshots]
  dsimp only
  rw [if_neg (not_not.mpr rfl), state_front valid, valid.valid]

theorem decodeCrashJournal_encodeCrashJournal (valid : ValidJournal state) :
    decodeCrashJournal (encodeCrashJournal state) = .ok state := by
  have fits := journalFile_fits valid
  have length := journalPayload_length state
  have headerLength :
      (encodeHeader kCrashJournalMagic kCrashJournalSchemaVersion
        (journalPayload state)).length = kCrashJournalHeaderBytes := by
    simp [encodeHeader, writeJournalHeader, kCrashJournalHeaderBytes]
  have small : (journalPayload state).length < 2 ^ 32 := by
    simp only [kCrashJournalMaxFileBytes] at fits
    omega
  unfold decodeCrashJournal
  rw [encodeCrashJournal_eq valid, if_neg (by
      rw [length_append, headerLength]
      omega), decodeHeader_encodeHeader _ _ small]
  exact decodeJournalPayload_journalPayload valid

theorem decodeCrashJournal_valid {bytes : List UInt8}
    (decoded : decodeCrashJournal bytes = .ok state) :
    ValidJournal state := by
  unfold decodeCrashJournal at decoded
  obtain ⟨_, decoded⟩ := not_taken decoded nofun
  split at decoded
  · cases decoded
  unfold decodeJournalPayload at decoded
  obtain ⟨_, decoded⟩ := not_taken decoded nofun
  split at decoded
  · cases decoded
  split at decoded
  · cases decoded
  split at decoded
  · cases decoded
  split at decoded
  · cases decoded
  split at decoded
  · cases decoded
  split at decoded
  · cases decoded
  dsimp only at decoded
  split at decoded
  · cases decoded
  next valid =>
    rw [← Except.ok.inj decoded]
    exact validJournal valid

theorem decodeSafeModeMarker_encodeSafeModeMarker {marker : SafeModeMarker}
    (accepted : encodeSafeModeMarker marker ≠ []) :
    decodeSafeModeMarker (encodeSafeModeMarker marker) = .ok marker := by
  unfold encodeSafeModeMarker at accepted ⊢
  split
  next refused =>
    rw [if_pos refused] at accepted
    exact absurd rfl accepted
  next fields =>
    simp only [not_or, Bool.not_eq_eq_eq_not, Bool.not_true, Bool.not_eq_false] at fields
    have payloadLength : (writeWireMarker marker.wire).length = kSafeModePayloadBytes := by
      simp [writeWireMarker, kSafeModePayloadBytes]
    have headerLength :
        (encodeHeader kSafeModeMarkerMagic kSafeModeMarkerSchemaVersion
          (writeWireMarker marker.wire)).length = kCrashJournalHeaderBytes := by
      simp [encodeHeader, writeJournalHeader, kCrashJournalHeaderBytes]
    have small : (writeWireMarker marker.wire).length < 2 ^ 32 := by
      rw [payloadLength, kSafeModePayloadBytes]
      omega
    have same := SafeModeMarker.wire_marker fields.1
    unfold decodeSafeModeMarker
    rw [if_neg (by
        rw [length_append, headerLength, payloadLength]
        simp [kSafeModeMarkerFileBytes, kCrashJournalHeaderBytes, kSafeModePayloadBytes]),
      decodeHeader_encodeHeader _ _ small]
    dsimp only
    rw [readWireMarker_reads.read_write_nil]
    dsimp only
    rw [same, if_neg (by simp [fields, SafeModeMarker.wire])]

end HydraSeat.Recovery
