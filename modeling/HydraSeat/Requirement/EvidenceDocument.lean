import HydraSeat.Json.Reading
import HydraSeat.Materialization.DecisionText
import HydraSeat.Plan.ProviderLaunchPlan

/-!
# The store of runtime requirement evidence

Each record says which local evidence justified the requirements and the
capabilities of one game.  The document is written and read as JSON.
-/

namespace HydraSeat.Requirement

open Foundation Json
open Plan (Requirements Capabilities)
open Profile
variable (document : RequirementEvidenceDocument) (value : ByteString)

def kLegacyRequirementEvidenceStoreSchemaVersion : UInt32 := 1

def kRequirementEvidenceStoreSchemaVersion : UInt32 := 2

def kMaximumRequirementEvidenceStoreBytes : Nat := 4 * 1024 * 1024

def kMaximumRequirementEvidenceRecords : Nat := kMaximumGames

def kMaximumCompatibilityIdentifierBytes : Nat := 128

def kMaximumCompatibilityVersionBytes : Nat := 96

structure LocalRequirementEvidenceRecord where
  recordId : ByteString := []
  revision : UInt64 := 0
  (gameId providerId : ByteString := [])
  (providerAppId gameVersionUtf8 executableSha256 : Option ByteString := none)
  catalogCompatibility : Option CompatibilityReference := none
  providerMetadataRevision : UInt64 := 0
  (evidenceResultId evidenceProvenanceId : ByteString := [])
  evidenceProvenanceRevision : UInt64 := 0
  validatedSeatCount : UInt8 := 0
  requirements : Requirements := {}
  capabilities : Capabilities := {}

structure RequirementEvidenceDocument where
  schemaVersion : UInt32 := kRequirementEvidenceStoreSchemaVersion
  records : List LocalRequirementEvidenceRecord := []

inductive RequirementStoreCode where
  | success | missing | tooLarge | parseError | unsupportedSchema | unknownField | invalidRecord
  | duplicateRecord | duplicateGameAuthority | readFailed | writeFailed | removeFailed

structure RequirementStoreDiagnostic where
  code : RequirementStoreCode := .success
  message : ByteString := []

abbrev RequirementStore := Except RequirementStoreDiagnostic

/-- A diagnostic that is returned, or an exception that is thrown. -/
def storeFailure {α : Type} (code : RequirementStoreCode)
    (message : ByteString) : RequirementStore α :=
  .error ⟨code, message⟩

/-- The loop of `validUtf8`: the sequences of `utf8ToWide` without their code
points. -/
def validUtf8Loop : Nat → ByteString → Bool
  | _, [] => true
  | 0, _ :: _ => false
  | fuel + 1, lead :: rest =>
    match Materialization.readSequence? lead rest with
    | none => false
    | some (_, tail) => validUtf8Loop fuel tail

def validUtf8 (input : ByteString) : Bool := validUtf8Loop input.length input

def isEvidenceByte (ch : UInt8) : Bool :=
  isAlnum ch || ch == 45 || ch == 95 || ch == 46 || ch == 58 || ch == 64 || ch == 43

def validEvidenceText (maximum : Nat) (value : ByteString) : Bool :=
  if value.isEmpty || value.length > maximum || !validUtf8 value then false
  else value.all isEvidenceByte

def validProfileIdentifier : Bool := validIdentifier value

def validEvidenceIdentifier : Bool := validEvidenceText kMaximumCompatibilityIdentifierBytes value

def validCompatibilityVersion : Bool := validEvidenceText kMaximumCompatibilityVersionBytes value

def validSha256 : Bool := value.length == 64 && value.all isXdigit

def validCompatibility (value : CompatibilityReference) : Bool :=
  validProfileIdentifier value.recordId &&
    validProfileIdentifier value.provenance && value.evidenceRevision != 0

def validRecord (record : LocalRequirementEvidenceRecord) : Bool :=
  validProfileIdentifier record.recordId && record.revision != 0 &&
    validProfileIdentifier record.gameId &&
    validProfileIdentifier record.providerId &&
    record.providerAppId.all validProfileIdentifier &&
    record.gameVersionUtf8.all validCompatibilityVersion &&
    record.executableSha256.all validSha256 &&
    record.catalogCompatibility.all validCompatibility &&
    record.providerMetadataRevision != 0 &&
    validEvidenceIdentifier record.evidenceResultId &&
    validEvidenceIdentifier record.evidenceProvenanceId &&
    record.evidenceProvenanceRevision != 0 &&
    1 ≤ record.validatedSeatCount && record.validatedSeatCount ≤ 2

/-- The loop over the records, with the ids so far. -/
def validateRecords : List ByteString → List ByteString →
    List LocalRequirementEvidenceRecord → RequirementStore Unit
  | _, _, [] => .ok ()
  | recordIds, gameIds, record :: rest => do
      if !validRecord record then
        storeFailure .invalidRecord
          (bytesOf ("runtime requirement evidence contains an invalid or " ++ "unbounded record"))
      if record.recordId ∈ recordIds then
        storeFailure .duplicateRecord "duplicate runtime requirement evidence record_id"
      if record.gameId ∈ gameIds then
        storeFailure .duplicateGameAuthority
          (bytesOf ("multiple stored requirement records claim authority " ++ "for one Game"))
      validateRecords (record.recordId :: recordIds) (record.gameId :: gameIds) rest

def validateRequirementEvidenceDocument : RequirementStore Unit := do
  if document.schemaVersion ≠ kRequirementEvidenceStoreSchemaVersion then
    storeFailure .unsupportedSchema
      (bytesOf ("unsupported runtime requirement evidence schema version"))
  if document.records.length > kMaximumRequirementEvidenceRecords then
    storeFailure .invalidRecord
      (bytesOf ("runtime requirement evidence record count exceeds the " ++ "bounded maximum"))
  validateRecords [] [] document.records

def compatibilityFields : List String := ["record_id", "provenance", "evidence_revision"]

theorem compatibilityFields_plain : plainKeys compatibilityFields = true := by decide

def compatibilityJson : Option CompatibilityReference → ByteString
  | none => "null"
  | some value =>
    objectText
      [("record_id", quote value.recordId), ("provenance", quote value.provenance),
        ("evidence_revision", decimal value.evidenceRevision.toNat)]

def requirementsFields : List String :=
  ["display", "keyboard", "mouse", "controller", "audio_output",
    "window_ownership", "recovery", "high_risk"]

theorem requirementsFields_plain : plainKeys requirementsFields = true := by decide

def requirementsJson (value : Requirements) : ByteString :=
  objectText
    [("display", flagText value.display),
      ("keyboard", flagText value.keyboard), ("mouse", flagText value.mouse),
      ("controller", flagText value.controller),
      ("audio_output", flagText value.audioOutput),
      ("window_ownership", flagText value.windowOwnership),
      ("recovery", flagText value.recovery),
      ("high_risk", flagText value.highRisk)]

def capabilitiesFields : List String :=
  ["process", "window", "display", "input", "controller", "audio", "recovery"]

theorem capabilitiesFields_plain : plainKeys capabilitiesFields = true := by decide

def capabilitiesJson (value : Capabilities) : ByteString :=
  objectText
    [("process", flagText value.process), ("window", flagText value.window),
      ("display", flagText value.display), ("input", flagText value.input),
      ("controller", flagText value.controller),
      ("audio", flagText value.audio),
      ("recovery", flagText value.recovery)]

def recordFields : List String :=
  ["record_id", "revision", "game_id", "provider_id", "provider_app_id",
    "game_version", "executable_sha256", "catalog_compatibility",
    "provider_metadata_revision", "evidence_result_id",
    "evidence_provenance_id", "evidence_provenance_revision",
    "validated_seat_count", "requirements", "capabilities"]

theorem recordFields_plain : plainKeys recordFields = true := by decide

def recordJson (record : LocalRequirementEvidenceRecord) : ByteString :=
  objectText
    [("record_id", quote record.recordId), ("revision", decimal record.revision.toNat),
      ("game_id", quote record.gameId),
      ("provider_id", quote record.providerId),
      ("provider_app_id", optionalText record.providerAppId),
      ("game_version", optionalText record.gameVersionUtf8),
      ("executable_sha256", optionalText record.executableSha256),
      ("catalog_compatibility", compatibilityJson record.catalogCompatibility),
      ("provider_metadata_revision", decimal record.providerMetadataRevision.toNat),
      ("evidence_result_id", quote record.evidenceResultId),
      ("evidence_provenance_id", quote record.evidenceProvenanceId),
      ("evidence_provenance_revision", decimal record.evidenceProvenanceRevision.toNat),
      ("validated_seat_count", decimal record.validatedSeatCount.toNat),
      ("requirements", requirementsJson record.requirements),
      ("capabilities", capabilitiesJson record.capabilities)]

def documentJson : ByteString :=
  objectText
    [("schema_version", decimal document.schemaVersion.toNat),
      ("records", bracketed (document.records.map recordJson))]

def encodeRequirementEvidenceDocumentJson : RequirementStore ByteString := do
  validateRequirementEvidenceDocument document
  if (documentJson document).length > kMaximumRequirementEvidenceStoreBytes then
    storeFailure .tooLarge
      (bytesOf ("encoded runtime requirement evidence exceeds the bounded " ++ "store size"))
  else
    return documentJson document

/-- `StoreError` of a parse error. -/
def parseError (message : ByteString) : RequirementStoreDiagnostic := ⟨.parseError, message⟩

def required (object : Value.Object) (key : String) : RequirementStore Value :=
  readMember (fun name => parseError ("missing required field: " ++ name)) object key

def requireFields (object : Value.Object) (expected : List String) : RequirementStore Unit :=
  checkKeys (fun name => ⟨.unknownField, "unknown field: " ++ name⟩)
    (parseError "object is missing one or more required fields")
    object expected

def asObject (value : Value) (label : String) : RequirementStore Value.Object :=
  readObject parseError label value

def asArray (value : Value) (label : String) : RequirementStore (List Value) :=
  readArray parseError label value

def asString (value : Value) (label : String) : RequirementStore ByteString :=
  readText parseError label value

def asOptionalString (value : Value) (label : String) : RequirementStore (Option ByteString) :=
  readOptionalText parseError label value

def asBool (value : Value) (label : String) : RequirementStore Bool :=
  readFlag parseError label value

def asU64 (value : Value) (label : String) : RequirementStore UInt64 :=
  readU64 parseError label " is out of range" value

def asU32 (value : Value) (label : String) : RequirementStore UInt32 :=
  readU32 parseError label " is out of range" " is out of range" value

def parseCompatibility (value : Value) : RequirementStore (Option CompatibilityReference) :=
  match value with
  | .null => .ok none
  | value => do
      let object ← asObject value "catalog_compatibility"
      requireFields object compatibilityFields
      let recordId ← asString (← required object "record_id") "record_id"
      let provenance ← asString (← required object "provenance") "provenance"
      let evidenceRevision ← asU32 (← required object "evidence_revision") "evidence_revision"
      return some { recordId, provenance, evidenceRevision }

def parseRequirements (value : Value) : RequirementStore Requirements := do
  let object ← asObject value "requirements"
  requireFields object requirementsFields
  let display ← asBool (← required object "display") "display"
  let keyboard ← asBool (← required object "keyboard") "keyboard"
  let mouse ← asBool (← required object "mouse") "mouse"
  let controller ← asBool (← required object "controller") "controller"
  let audioOutput ← asBool (← required object "audio_output") "audio_output"
  let windowOwnership ← asBool (← required object "window_ownership") "window_ownership"
  let recovery ← asBool (← required object "recovery") "recovery"
  let highRisk ← asBool (← required object "high_risk") "high_risk"
  return {
    display := display
    keyboard, mouse, controller, audioOutput, windowOwnership, recovery
    highRisk }

def parseCapabilities (value : Value) : RequirementStore Capabilities := do
  let object ← asObject value "capabilities"
  requireFields object capabilitiesFields
  let process ← asBool (← required object "process") "process"
  let window ← asBool (← required object "window") "window"
  let display ← asBool (← required object "display") "display"
  let input ← asBool (← required object "input") "input"
  let controller ← asBool (← required object "controller") "controller"
  let audio ← asBool (← required object "audio") "audio"
  let recovery ← asBool (← required object "recovery") "recovery"
  return { process, window, display, input, controller, audio, recovery }

/-- The Seat count of a record, which the legacy schema does not have. -/
def parseSeatCount (object : Value.Object) (schemaVersion : UInt32) : RequirementStore UInt8 :=
  if schemaVersion = kLegacyRequirementEvidenceStoreSchemaVersion then .ok 2
  else do
    let seatCount ← asU32 (← required object "validated_seat_count") "validated_seat_count"
    if seatCount < 1 ∨ seatCount > 2 then
      storeFailure .invalidRecord "validated_seat_count must be one or two"
    else
      return seatCount.toUInt8

def parseRecord (schemaVersion : UInt32) (value : Value) :
    RequirementStore LocalRequirementEvidenceRecord := do
  let object ← asObject value "requirement record"
  requireFields object
    (if schemaVersion = kLegacyRequirementEvidenceStoreSchemaVersion then
      recordFields.erase "validated_seat_count"
    else recordFields)
  let recordId ← asString (← required object "record_id") "record_id"
  let revision ← asU64 (← required object "revision") "revision"
  let gameId ← asString (← required object "game_id") "game_id"
  let providerId ← asString (← required object "provider_id") "provider_id"
  let providerAppId ← asOptionalString (← required object "provider_app_id") "provider_app_id"
  let gameVersionUtf8 ← asOptionalString (← required object "game_version") "game_version"
  let executableSha256 ← asOptionalString (← required object "executable_sha256")
    "executable_sha256"
  let catalogCompatibility ← parseCompatibility (← required object "catalog_compatibility")
  let providerMetadataRevision ← asU64 (← required object "provider_metadata_revision")
    "provider_metadata_revision"
  let evidenceResultId ← asString (← required object "evidence_result_id") "evidence_result_id"
  let evidenceProvenanceId ← asString (← required object "evidence_provenance_id")
    "evidence_provenance_id"
  let evidenceProvenanceRevision ← asU64 (← required object "evidence_provenance_revision")
    "evidence_provenance_revision"
  let validatedSeatCount ← parseSeatCount object schemaVersion
  let requirements ← parseRequirements (← required object "requirements")
  let capabilities ← parseCapabilities (← required object "capabilities")
  return {
    recordId := recordId
    revision, gameId, providerId, providerAppId, gameVersionUtf8
    executableSha256, catalogCompatibility, providerMetadataRevision
    evidenceResultId, evidenceProvenanceId, evidenceProvenanceRevision
    validatedSeatCount, requirements, capabilities }

def parseJson (json : ByteString) : RequirementStore Value :=
  match parse json ⟨32, 131072⟩ with
  | .ok value => .ok value
  | .error failure => .error (parseError (Profile.parserMessage failure))

def parseDocument (value : Value) : RequirementStore RequirementEvidenceDocument := do
  let object ← asObject value "runtime requirement evidence document"
  requireFields object ["schema_version", "records"]
  let encodedSchemaVersion ← asU32 (← required object "schema_version") "schema_version"
  if encodedSchemaVersion ≠ kLegacyRequirementEvidenceStoreSchemaVersion ∧
      encodedSchemaVersion ≠ kRequirementEvidenceStoreSchemaVersion then
    storeFailure .unsupportedSchema "unsupported runtime requirement evidence schema version"
  let records ← asArray (← required object "records") "records"
  if records.length > kMaximumRequirementEvidenceRecords then
    storeFailure .invalidRecord
      (bytesOf ("runtime requirement evidence record count exceeds the " ++ "bounded maximum"))
  let records ← records.mapM (parseRecord encodedSchemaVersion)
  return {
    schemaVersion := kRequirementEvidenceStoreSchemaVersion
    records := records }

def decodeRequirementEvidenceDocumentJson (json : ByteString) :
    RequirementStore RequirementEvidenceDocument := do
  if json.isEmpty then .error (parseError "runtime requirement evidence is empty")
  if json.length > kMaximumRequirementEvidenceStoreBytes then
    storeFailure .tooLarge
      (bytesOf ("runtime requirement evidence exceeds the bounded store " ++ "size"))
  let candidate ← parseDocument (← parseJson json)
  validateRequirementEvidenceDocument candidate
  return candidate

end HydraSeat.Requirement
