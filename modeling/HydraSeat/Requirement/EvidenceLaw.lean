import HydraSeat.Profile.DocumentLaw
import HydraSeat.Requirement.EvidenceDocument

/-!
# Which evidence is read back

The encoder bounds the records and the bytes of a document.  The decoder also
counts the values, and stops before the records are as many as are allowed
when each of them refers to the catalog.
-/

namespace HydraSeat.Requirement

open Foundation Bool Json List UInt8
open Plan
open Profile

variable {record : LocalRequirementEvidenceRecord} {document : RequirementEvidenceDocument}

theorem asObject_object (object : Value.Object) (label : String) :
    asObject (.object object) label = .ok object :=
  rfl

theorem written_compatibility (reference : Option CompatibilityReference) :
    Written parseCompatibility reference (referenceNodes reference) 1
      (compatibilityJson reference) := by
  cases reference with
  | none =>
    have isNull : parseCompatibility .null = .ok none := rfl
    exact (written_null isNull).deepen (Nat.zero_le 1)
  | some reference =>
    have members : WrittenMembers compatibilityFields _ _ 0 _ :=
      .leaf (written_text parseError "record_id" reference.recordId) <|
      .leaf (written_text parseError "provenance" reference.provenance) <|
      .leaf (written_u32 parseError "evidence_revision" " is out of range"
        " is out of range" reference.evidenceRevision) .nil
    refine members.record compatibilityFields_plain rfl fun object hasKeys held => ?_
    obtain ⟨recordId, provenance, revision, _⟩ := held
    unfold parseCompatibility required requireFields asString asU32
    dsimp only
    rw [asObject_object, ok_bind, checkKeys_of hasKeys, ok_bind, readMember_bind _ recordId,
      readMember_bind _ provenance, readMember_bind _ revision]
    rfl

theorem written_requirements (value : Requirements) :
    Written parseRequirements value 9 1 (requirementsJson value) := by
  have members : WrittenMembers requirementsFields _ _ 0 _ :=
    .leaf (written_flag parseError "display" value.display) <|
    .leaf (written_flag parseError "keyboard" value.keyboard) <|
    .leaf (written_flag parseError "mouse" value.mouse) <|
    .leaf (written_flag parseError "controller" value.controller) <|
    .leaf (written_flag parseError "audio_output" value.audioOutput) <|
    .leaf (written_flag parseError "window_ownership" value.windowOwnership) <|
    .leaf (written_flag parseError "recovery" value.recovery) <|
    .leaf (written_flag parseError "high_risk" value.highRisk) .nil
  refine members.record requirementsFields_plain rfl fun object hasKeys held => ?_
  obtain ⟨display, keyboard, mouse, controller, audio, window, recovery, highRisk, _⟩ := held
  unfold parseRequirements required requireFields asBool
  rw [asObject_object, ok_bind, checkKeys_of hasKeys, ok_bind, readMember_bind _ display,
    readMember_bind _ keyboard, readMember_bind _ mouse, readMember_bind _ controller,
    readMember_bind _ audio, readMember_bind _ window, readMember_bind _ recovery,
    readMember_bind _ highRisk]
  rfl

theorem written_capabilities (value : Capabilities) :
    Written parseCapabilities value 8 1 (capabilitiesJson value) := by
  have members : WrittenMembers capabilitiesFields _ _ 0 _ :=
    .leaf (written_flag parseError "process" value.process) <|
    .leaf (written_flag parseError "window" value.window) <|
    .leaf (written_flag parseError "display" value.display) <|
    .leaf (written_flag parseError "input" value.input) <|
    .leaf (written_flag parseError "controller" value.controller) <|
    .leaf (written_flag parseError "audio" value.audio) <|
    .leaf (written_flag parseError "recovery" value.recovery) .nil
  refine members.record capabilitiesFields_plain rfl fun object hasKeys held => ?_
  obtain ⟨process, window, display, input, controller, audio, recovery, _⟩ := held
  unfold parseCapabilities required requireFields asBool
  rw [asObject_object, ok_bind, checkKeys_of hasKeys, ok_bind, readMember_bind _ process,
    readMember_bind _ window, readMember_bind _ display, readMember_bind _ input,
    readMember_bind _ controller, readMember_bind _ audio, readMember_bind _ recovery]
  rfl

theorem parseSeatCount_eq {object : Value.Object} {count : UInt8}
    (lower : 1 ≤ count) (upper : count ≤ 2)
    (found : Holds object "validated_seat_count" (asU32 · "validated_seat_count") count.toUInt32) :
    parseSeatCount object kRequirementEvidenceStoreSchemaVersion = .ok count := by
  have inside : ¬(count.toUInt32 < 1 ∨ count.toUInt32 > 2) := by
    rw [gt_iff_lt, UInt32.lt_iff_toNat_lt, UInt32.lt_iff_toNat_lt, toNat_toUInt32]
    rw [le_iff_toNat_le] at lower upper
    change 1 ≤ _ at lower
    change _ ≤ 2 at upper
    change ¬(_ < 1 ∨ 2 < _)
    omega
  unfold parseSeatCount required
  rw [if_neg (by decide), readMember_bind _ found, if_neg inside, toUInt8_toUInt32]
  rfl

theorem seatCount_of_validRecord (valid : validRecord record = true) :
    1 ≤ record.validatedSeatCount ∧ record.validatedSeatCount ≤ 2 := by
  unfold validRecord at valid
  rw [and_eq_true, and_eq_true, decide_eq_true_eq, decide_eq_true_eq] at valid
  exact ⟨valid.1.2, valid.2⟩

def recordNodes (record : LocalRequirementEvidenceRecord) : Nat :=
  referenceNodes record.catalogCompatibility + 30

theorem written_evidenceRecord (valid : validRecord record = true) :
    Written (parseRecord kRequirementEvidenceStoreSchemaVersion) record
      (recordNodes record) 2 (recordJson record) := by
  obtain ⟨lower, upper⟩ := seatCount_of_validRecord valid
  have seatCount := written_u32 parseError "validated_seat_count" " is out of range"
    " is out of range" record.validatedSeatCount.toUInt32
  rw [toNat_toUInt32] at seatCount
  have members : WrittenMembers recordFields _ _ 1 _ :=
    .leaf (written_text parseError "record_id" record.recordId) <|
    .leaf (written_u64 parseError "revision" " is out of range" record.revision) <|
    .leaf (written_text parseError "game_id" record.gameId) <|
    .leaf (written_text parseError "provider_id" record.providerId) <|
    .leaf (written_optionalText parseError "provider_app_id" record.providerAppId) <|
    .leaf (written_optionalText parseError "game_version" record.gameVersionUtf8) <|
    .leaf (written_optionalText parseError "executable_sha256" record.executableSha256) <|
    .cons (written_compatibility record.catalogCompatibility) (by omega) <|
    .leaf (written_u64 parseError "provider_metadata_revision" " is out of range"
      record.providerMetadataRevision) <|
    .leaf (written_text parseError "evidence_result_id" record.evidenceResultId) <|
    .leaf (written_text parseError "evidence_provenance_id" record.evidenceProvenanceId) <|
    .leaf (written_u64 parseError "evidence_provenance_revision" " is out of range"
      record.evidenceProvenanceRevision) <|
    .leaf seatCount <|
    .cons (written_requirements record.requirements) (by omega) <|
    .cons (written_capabilities record.capabilities) (by omega) .nil
  refine members.record recordFields_plain (by unfold recordNodes; omega)
    fun object hasKeys held => ?_
  obtain ⟨recordId, revision, game, provider, appId, version, hash, compatibility, metadata,
    result, provenance, provenanceRevision, count, requirements, capabilities, _⟩ := held
  unfold parseRecord
  rw [if_neg (by decide), asObject_object, ok_bind]
  unfold required requireFields asString asU64 asOptionalString
  rw [checkKeys_of hasKeys, ok_bind, readMember_bind _ recordId, readMember_bind _ revision,
    readMember_bind _ game, readMember_bind _ provider, readMember_bind _ appId,
    readMember_bind _ version, readMember_bind _ hash, readMember_bind _ compatibility,
    readMember_bind _ metadata, readMember_bind _ result, readMember_bind _ provenance,
    readMember_bind _ provenanceRevision, parseSeatCount_eq lower upper count, ok_bind,
    readMember_bind _ requirements, readMember_bind _ capabilities]
  rfl

variable {records : List LocalRequirementEvidenceRecord}

theorem validateRecords_valid {recordIds gameIds : List ByteString}
    (passed : validateRecords recordIds gameIds records = .ok ()) :
    ∀ record ∈ records, validRecord record = true := by
  induction records generalizing recordIds gameIds with
  | nil => exact fun _ member => absurd member not_mem_nil
  | cons first rest ih =>
    unfold validateRecords storeFailure at passed
    obtain ⟨isFirst, passed⟩ := check_eq_ok passed
    obtain ⟨_, passed⟩ := check_eq_ok passed
    obtain ⟨_, passed⟩ := check_eq_ok passed
    rw [not_eq_true', not_eq_false] at isFirst
    intro record member
    rcases mem_cons.mp member with rfl | later
    · exact isFirst
    · exact ih passed record later

theorem valid_document (valid : validateRequirementEvidenceDocument document = .ok ()) :
    document.schemaVersion = kRequirementEvidenceStoreSchemaVersion ∧
      document.records.length ≤ kMaximumRequirementEvidenceRecords ∧
      ∀ record ∈ document.records, validRecord record = true := by
  unfold validateRequirementEvidenceDocument at valid
  obtain ⟨version, valid⟩ := check_eq_ok valid
  obtain ⟨few, valid⟩ := check_eq_ok valid
  exact ⟨not_not.mp version, Nat.not_lt.mp few, validateRecords_valid valid⟩

/-- The values of the document: 31 of each record, three more where it refers
to the catalog, and three of the document itself. -/
def documentNodes (document : RequirementEvidenceDocument) : Nat :=
  31 * document.records.length + 3 * document.records.countP (·.catalogCompatibility.isSome) + 3

theorem sum_recordNodes (records : List LocalRequirementEvidenceRecord) :
    (records.map recordNodes).sum =
      31 * records.length + 3 * records.countP (·.catalogCompatibility.isSome) := by
  induction records with
  | nil => rfl
  | cons first rest ih =>
    rw [map_cons, sum_cons, length_cons, countP_cons, ih, recordNodes]
    cases first.catalogCompatibility with
    | none =>
      rw [if_neg (by decide), referenceNodes]
      omega
    | some reference =>
      rw [if_pos (show (some reference).isSome = true from rfl), referenceNodes]
      omega

theorem written_evidenceDocument (valid : validateRequirementEvidenceDocument document = .ok ()) :
    Written parseDocument document (documentNodes document) 4 (documentJson document) := by
  obtain ⟨version, few, records⟩ := valid_document valid
  have items :
      WrittenItems (parseRecord kRequirementEvidenceStoreSchemaVersion)
        document.records _ 2 (document.records.map recordJson) :=
    writtenItems_map fun record member => written_evidenceRecord (records record member)
  have members : WrittenMembers ["schema_version", "records"] _ _ 3 _ :=
    .leaf (written_u32 parseError "schema_version" " is out of range" " is out of range"
      document.schemaVersion) <|
    .cons (written_items parseError "records" items) (by omega) .nil
  refine members.record (by decide)
    (by rw [sum_recordNodes]; unfold documentNodes; omega) fun object hasKeys held => ?_
  obtain ⟨isVersion, ⟨value, isValue, areRecords⟩, _⟩ := held
  obtain ⟨array, isArray, isRead⟩ := bind_eq_ok.mp areRecords
  have bounded : ¬array.length > kMaximumRequirementEvidenceRecords := by
    rw [← length_of_mapM isRead]
    exact Nat.not_lt.mpr few
  rw [version] at isVersion
  have found : required object "records" = .ok value := by
    unfold required readMember
    rw [isValue]
  unfold parseDocument
  rw [asObject_object, ok_bind]
  unfold requireFields asU32 asArray
  rw [checkKeys_of hasKeys, ok_bind]
  rw [found]
  unfold required
  rw [readMember_bind _ isVersion, if_neg (by decide), ok_bind, isArray, ok_bind,
    if_neg bounded, isRead, ok_bind, ← version]
  rfl

theorem encode_eq_ok {text : ByteString}
    (encoded : encodeRequirementEvidenceDocumentJson document = .ok text) :
    validateRequirementEvidenceDocument document = .ok () ∧ documentJson document = text ∧
      text.length ≤ kMaximumRequirementEvidenceStoreBytes := by
  obtain ⟨_, valid, encoded⟩ := bind_eq_ok.mp encoded
  obtain ⟨short, encoded⟩ := not_taken encoded nofun
  obtain rfl := pure_eq_ok encoded
  exact ⟨valid, rfl, Nat.not_lt.mp short⟩

/-- The values that the parser of the store counts up to. -/
def kMaximumNodes : Nat := 131072

theorem parseJson_written (writing : Writing) (flat : writing.depth ≤ 32)
    (short : writing.text.length ≤ kMaximumRequirementEvidenceStoreBytes)
    (value : Value) :
    parseJson writing.text = .ok value ↔ value = writing.value ∧ writing.nodes ≤ kMaximumNodes := by
  have law := writing.parse_iff ⟨32, 131072⟩ flat (short.trans_lt (by decide)) value
  unfold parseJson
  constructor
  · intro parsed
    split at parsed
    next found same =>
      cases parsed
      exact law.mp same
    next => cases parsed
  · intro few
    rw [law.mpr few]

section Example

variable {id : ByteString} {ids : List ByteString}

/-- Evidence for one game, with a reference to the catalog. -/
def catalogRecord (id : ByteString) : LocalRequirementEvidenceRecord where
  recordId := id
  revision := 1
  gameId := id
  providerId := "p"
  catalogCompatibility :=
    some {
      recordId := "c"
      provenance := "p"
      evidenceRevision := 1 }
  providerMetadataRevision := 1
  evidenceResultId := "r"
  evidenceProvenanceId := "p"
  evidenceProvenanceRevision := 1
  validatedSeatCount := 2

def fullIds : List ByteString := (List.range kMaximumRequirementEvidenceRecords).map decimal

theorem fullIds_length : fullIds.length = kMaximumRequirementEvidenceRecords := by
  unfold fullIds
  rw [length_map, length_range]

theorem fullIds_short : ∀ id ∈ fullIds, id.length ≤ 4 := by
  intro id member
  obtain ⟨value, small, rfl⟩ := mem_map.mp member
  rw [mem_range] at small
  unfold decimal
  rw [length_map]
  refine (Nat.length_toDigits_le_iff (by decide) (by decide)).mpr ?_
  exact small.trans (by decide)

theorem fullIds_valid : ∀ id ∈ fullIds, validIdentifier id = true := by
  intro id member
  have short := fullIds_short id member
  obtain ⟨value, _, rfl⟩ := mem_map.mp member
  have digits (ch : UInt8) (isDigit : ch ∈ decimal value) : isAlnum ch = true := by
    obtain ⟨lower, upper⟩ := decimal_digit isDigit
    have first : (0x30 : UInt8) ≤ ch := le_iff_toNat_le.mpr lower
    have last : ch ≤ (0x39 : UInt8) := le_iff_toNat_le.mpr upper
    unfold isAlnum
    rw [decide_eq_true first, decide_eq_true last]
    rfl
  have bounded : (decimal value).length ≤ Profile.kMaximumIdentifierBytes := short.trans (by decide)
  unfold validIdentifier
  rw [isEmpty_eq_false_iff.mpr (decimal_ne_nil value),
    decide_eq_true bounded, Bool.not_false, Bool.true_and, Bool.true_and,
    all_eq_true]
  intro ch isDigit
  rw [digits ch isDigit]
  rfl

end Example

end HydraSeat.Requirement
