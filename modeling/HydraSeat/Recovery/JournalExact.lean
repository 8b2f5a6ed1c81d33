import HydraSeat.Recovery.JournalCodec

/-!
# Recovery files have one spelling

A journal, a safe-mode marker and an attachment identity are accepted in
the spelling that their encoder gives them and in no other.
-/

namespace HydraSeat.Recovery

open Foundation Watchdog
open CrashJournalFinalResult CrashJournalPhase CrashJournalRecordKind List
  RecoveryProcessAttachmentIdentity SafeModeReason

variable {records : List CrashJournalRecord} {state : CrashJournalState}
  {identity : RecoveryProcessAttachmentIdentity}

theorem CrashJournalPhase.value_ofValue (value : UInt16) : (ofValue value).value = value := by
  unfold ofValue
  grind [value]

theorem CrashJournalFinalResult.value_ofValue (value : UInt16) : (ofValue value).value = value := by
  unfold ofValue
  grind [value]

theorem CrashJournalRecordKind.value_ofValue (value : UInt16) : (ofValue value).value = value := by
  by_cases last : value = 11
  · rw [last]
    rfl
  by_cases failure : value = 10
  · rw [failure]
    rfl
  · unfold ofValue
    rw [if_neg failure, if_neg last]
    grind [value]

theorem SafeModeReason.value_ofValue (value : UInt16) : (ofValue value).value = value := by
  unfold ofValue
  grind [value]

theorem WireRecord.record_wire {wire : WireRecord} (reserved : wire.recordReserved = 0) :
    wire.record.wire = wire := by
  unfold CrashJournalRecord.wire WireRecord.record
  rw [CrashJournalRecordKind.value_ofValue, ← reserved]

theorem WireMarker.marker_wire {wire : WireMarker} (reserved : wire.reserved = 0) :
    wire.marker.wire = wire := by
  unfold SafeModeMarker.wire WireMarker.marker
  rw [SafeModeReason.value_ofValue, ← reserved]

theorem decodeHeader_eq_ok_iff (magic : UInt32) (version : UInt16) (bytes payload : List UInt8) :
    decodeHeader bytes magic version = .ok payload ↔
      payload.length < 2 ^ 32 ∧ bytes = encodeHeader magic version payload ++ payload := by
  constructor
  · intro decoded
    unfold decodeHeader at decoded
    rw [except_check_eq_ok_iff] at decoded
    obtain ⟨_, continued⟩ := decoded
    cases read : readJournalHeader bytes with
    | none =>
      rw [read] at continued
      cases continued
    | some found =>
      obtain ⟨header, rest⟩ := found
      have split := (readJournalHeader_reads bytes header rest).mp read
      rw [read] at continued
      simp only [except_check_eq_ok_iff, not_or, not_not] at continued
      obtain ⟨magical, versioned, ⟨sized, reserved⟩, length, checked, returned⟩ := continued
      cases returned
      have headerBytes : header.headerBytes = UInt16.ofNat kCrashJournalHeaderBytes := by
        rw [← sized, UInt16.ofNat_toNat]
      have payloadBytes : header.payloadBytes = UInt32.ofNat payload.length := by
        rw [← length, UInt32.ofNat_toNat]
      have same : header = headerOf magic version payload := by
        cases header
        simp_all [headerOf]
      constructor
      · rw [← length]
        exact header.payloadBytes.toNat_lt
      · rw [split, same]
        rfl
  · rintro ⟨small, split⟩
    rw [split]
    exact decodeHeader_encodeHeader magic version small

theorem readRecords_eq_some {count : Nat} {payload rest : List UInt8}
    (read : readRecords count payload = some (records, rest)) :
    records.length = count ∧
      payload = writeMany writeWireRecord (records.map (·.wire)) ++ rest := by
  induction count generalizing payload records with
  | zero =>
    rw [readRecords] at read
    cases read
    exact ⟨rfl, rfl⟩
  | succ count ih =>
    rw [readRecords] at read
    cases first : readWireRecord payload with
    | none =>
      rw [first] at read
      cases read
    | some found =>
      obtain ⟨wire, middle⟩ := found
      have split := (readWireRecord_reads payload wire middle).mp first
      rw [first] at read
      dsimp only at read
      by_cases reserved : wire.recordReserved = 0
      · rw [if_neg (not_not.mpr reserved)] at read
        cases later : readRecords count middle with
        | none =>
          rw [later] at read
          cases read
        | some found =>
          obtain ⟨tail, after⟩ := found
          rw [later] at read
          cases read
          obtain ⟨length, splitTail⟩ := ih later
          refine ⟨congrArg Nat.succ length, ?_⟩
          rw [map_cons, writeMany_cons, WireRecord.record_wire reserved, append_assoc, ← splitTail]
          exact split
      · rw [if_pos reserved] at read
        cases read

theorem front_state {front : JournalPrefix} {snapshots : List SnapshotReference}
    (reserved : front.reserved = 0)
    (recordCount : records.length = front.recordCount.toNat)
    (snapshotCount : snapshots.length = front.snapshotCount.toNat) :
    (front.state records snapshots).front = front := by
  unfold CrashJournalState.front JournalPrefix.state
  dsimp only
  rw [CrashJournalPhase.value_ofValue,
    CrashJournalFinalResult.value_ofValue, recordCount, snapshotCount,
    UInt16.ofNat_toNat, UInt16.ofNat_toNat, ← reserved]

theorem decodeJournalPayload_eq_ok {payload : List UInt8}
    (decoded : decodeJournalPayload payload = .ok state) :
    payload = journalPayload state := by
  unfold decodeJournalPayload at decoded
  rw [except_check_eq_ok_iff] at decoded
  obtain ⟨_, decoded⟩ := decoded
  cases read : readJournalPrefix payload with
  | none =>
    rw [read] at decoded
    cases decoded
  | some found =>
    obtain ⟨front, afterPrefix⟩ := found
    have split := (readJournalPrefix_reads _ _ _).mp read
    rw [read] at decoded
    simp only [except_check_eq_ok_iff, not_or, not_not] at decoded
    obtain ⟨⟨reserved, _⟩, _, decoded⟩ := decoded
    cases listed : readRecords front.recordCount.toNat afterPrefix with
    | none =>
      rw [listed] at decoded
      cases decoded
    | some found =>
      obtain ⟨records, afterRecords⟩ := found
      obtain ⟨recordCount, splitRecords⟩ := readRecords_eq_some listed
      rw [listed] at decoded
      dsimp only at decoded
      cases taken : readMany readSnapshot front.snapshotCount.toNat afterRecords with
      | none =>
        rw [taken] at decoded
        cases decoded
      | some found =>
        obtain ⟨snapshots, rest⟩ := found
        obtain ⟨snapshotCount, splitSnapshots⟩ :=
          (readMany_eq_some_iff readSnapshot_reads _ _ _ _).mp taken
        rw [taken] at decoded
        dsimp only at decoded
        rw [except_check_eq_ok_iff, not_not] at decoded
        obtain ⟨noRest, validated⟩ := decoded
        have returned : front.state records snapshots = state := by
          cases valid : validateCrashJournalState (front.state records snapshots) with
          | error text =>
            rw [valid] at validated
            cases validated
          | ok done =>
            rw [valid] at validated
            exact Except.ok.inj validated
        have same := front_state reserved recordCount snapshotCount
        rw [← returned, journalPayload, same, split, splitRecords,
          splitSnapshots, noRest, append_nil,
          append_assoc]
        rfl

theorem decodeCrashJournal_spells :
    Spells decodeCrashJournal (fun state => validateCrashJournalState state = .ok ())
      encodeCrashJournal := by
  intro bytes state
  constructor
  · intro decoded
    have valid := decodeCrashJournal_valid decoded
    refine ⟨valid.valid, ?_⟩
    unfold decodeCrashJournal at decoded
    rw [except_check_eq_ok_iff] at decoded
    obtain ⟨_, decoded⟩ := decoded
    cases headed : decodeHeader bytes kCrashJournalMagic kCrashJournalSchemaVersion with
    | error text =>
      rw [headed] at decoded
      cases decoded
    | ok payload =>
      rw [headed] at decoded
      have split := (decodeHeader_eq_ok_iff _ _ _ _).mp headed
      rw [encodeCrashJournal_eq valid, ← decodeJournalPayload_eq_ok decoded]
      exact split.2
  · intro ⟨valid, split⟩
    rw [split]
    exact decodeCrashJournal_encodeCrashJournal (validJournal valid)

theorem encodeHeader_length (magic : UInt32) (version : UInt16) (payload : List UInt8) :
    (encodeHeader magic version payload).length = kCrashJournalHeaderBytes := by
  simp [encodeHeader, writeJournalHeader, kCrashJournalHeaderBytes]

theorem encodeCrashJournal_length (valid : ValidJournal state) :
    (encodeCrashJournal state).length =
      journalPayloadBytes state.records.length state.snapshots.length +
        kCrashJournalHeaderBytes := by
  rw [encodeCrashJournal_eq valid, length_append,
    encodeHeader_length, journalPayload_length, Nat.add_comm]

def ValidMarker (marker : SafeModeMarker) : Prop :=
  knownSafeModeReason marker.reason = true ∧ markerIdentityComplete marker = true

theorem encodeSafeModeMarker_eq {marker : SafeModeMarker} (valid : ValidMarker marker) :
    encodeSafeModeMarker marker =
      encodeHeader kSafeModeMarkerMagic kSafeModeMarkerSchemaVersion
          (writeWireMarker marker.wire) ++
        writeWireMarker marker.wire := by
  unfold encodeSafeModeMarker
  rw [if_neg (by simp [valid.1, valid.2])]

theorem decodeSafeModeMarker_spells :
    Spells decodeSafeModeMarker ValidMarker encodeSafeModeMarker := by
  intro bytes marker
  constructor
  · intro decoded
    unfold decodeSafeModeMarker at decoded
    rw [except_check_eq_ok_iff] at decoded
    obtain ⟨_, decoded⟩ := decoded
    cases headed : decodeHeader bytes kSafeModeMarkerMagic kSafeModeMarkerSchemaVersion with
    | error text =>
      rw [headed] at decoded
      cases decoded
    | ok payload =>
      rw [headed] at decoded
      dsimp only at decoded
      have split := (decodeHeader_eq_ok_iff _ _ _ _).mp headed
      cases read : decodeAll readWireMarker payload with
      | none =>
        rw [decodeAll] at read
        split at decoded
        next wire found =>
          rw [found] at read
          cases read
        next other => cases decoded
      | some wire =>
        rw [decodeAll_eq_some_iff] at read
        rw [read] at decoded
        have written := (readWireMarker_reads payload wire []).mp read
        simp only [except_check_eq_ok_iff, not_or, not_not, Bool.not_eq_eq_eq_not, Bool.not_true,
          Bool.not_eq_false] at decoded
        obtain ⟨⟨reserved, known, complete⟩, returned⟩ := decoded
        cases returned
        refine ⟨⟨known, complete⟩, ?_⟩
        rw [append_nil] at written
        rw [encodeSafeModeMarker_eq ⟨known, complete⟩, WireMarker.marker_wire reserved, ← written]
        exact split.2
  · intro ⟨valid, split⟩
    rw [split]
    apply decodeSafeModeMarker_encodeSafeModeMarker
    rw [encodeSafeModeMarker_eq valid]
    intro empty
    have length := congrArg List.length (append_eq_nil_iff.mp empty).1
    rw [encodeHeader_length] at length
    cases length

theorem readWireIdentity_reads : Reads readWireIdentity writeWireIdentity := by
  unfold writeWireIdentity
  simp only [append_assoc]
  apply ReadsOnly.reads
  refine .any readU32_reads fun magic => ?_
  refine .any readU16_reads fun version => ?_
  refine .any readU16_reads fun reserved16 => ?_
  refine .any readU32_reads fun seatId => ?_
  refine .any (readArray_reads 16) fun hostSessionId => ?_
  refine .any readU64_reads fun sessionGeneration => ?_
  refine .any readU64_reads fun seatGameGeneration => ?_
  refine .any readU32_reads fun processId => ?_
  refine .any readU32_reads fun reserved32 => ?_
  refine .any readU64_reads fun creationTime100ns => ?_
  refine .last readU64_reads fun recoveryEpoch => ?_
  exact .built fun value => by cases value; grind

def RecoveryProcessAttachmentIdentity.wire
    (identity : RecoveryProcessAttachmentIdentity) : WireIdentity where
  magic := kRecoveryProcessAttachmentMagic
  version := identity.schemaVersion
  reserved16 := 0
  seatId := identity.seatId
  hostSessionId := identity.hostSessionId
  sessionGeneration := identity.sessionGeneration
  seatGameGeneration := identity.seatGameGeneration
  processId := identity.process.processId
  reserved32 := 0
  creationTime100ns := identity.process.creationTime100ns
  recoveryEpoch := identity.recoveryEpoch

theorem writeWireIdentity_length (wire : WireIdentity) :
    (writeWireIdentity wire).length = kRecoveryProcessAttachmentIdentityBytes := by
  simp [writeWireIdentity, kRecoveryProcessAttachmentIdentityBytes]

theorem encodeRecoveryProcessAttachmentIdentity_eq
    (valid : validateRecoveryProcessAttachmentIdentity identity = .ok ()) :
    encodeRecoveryProcessAttachmentIdentity identity = writeWireIdentity identity.wire := by
  unfold encodeRecoveryProcessAttachmentIdentity
  rw [valid]
  rfl

theorem validIdentity_version
    (valid : validateRecoveryProcessAttachmentIdentity identity = .ok ()) :
    identity.schemaVersion = kRecoveryProcessAttachmentVersion := by
  unfold validateRecoveryProcessAttachmentIdentity at valid
  rw [except_check_eq_ok_iff] at valid
  exact not_not.mp valid.1

theorem decodeRecoveryProcessAttachmentIdentity_spells :
    Spells decodeRecoveryProcessAttachmentIdentity
      (fun identity => validateRecoveryProcessAttachmentIdentity identity = .ok ())
      encodeRecoveryProcessAttachmentIdentity := by
  intro bytes identity
  unfold decodeRecoveryProcessAttachmentIdentity
  rw [except_check_eq_ok_iff, not_not]
  constructor
  · intro ⟨_, decoded⟩
    cases read : decodeAll readWireIdentity bytes with
    | none =>
      rw [decodeAll] at read
      split at decoded
      next wire found =>
        rw [found] at read
        cases read
      next other => cases decoded
    | some wire =>
      rw [decodeAll_eq_some_iff] at read
      have split := (readWireIdentity_reads bytes wire []).mp read
      rw [read] at decoded
      simp only [except_check_eq_ok_iff, not_or, not_not] at decoded
      obtain ⟨⟨magic, _, reserved16, reserved32⟩, validated⟩ := decoded
      split at validated
      · cases validated
      next valid =>
        cases validated
        refine ⟨valid, ?_⟩
        rw [encodeRecoveryProcessAttachmentIdentity_eq valid, split, append_nil]
        unfold RecoveryProcessAttachmentIdentity.wire
        rw [← magic, ← reserved16, ← reserved32]
  · intro ⟨valid, split⟩
    rw [split, encodeRecoveryProcessAttachmentIdentity_eq valid,
      readWireIdentity_reads.read_write_nil]
    refine ⟨writeWireIdentity_length _, ?_⟩
    dsimp only
    rw [if_neg]
    · simp only [wire, valid]
    · have version := validIdentity_version valid
      simp [wire, version]

end HydraSeat.Recovery
