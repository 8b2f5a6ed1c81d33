import HydraSeat.Profile.LegacyJson

/-!
# The report of a migration

What the migration could not carry over is reported, each value with the
pointer to its place in the legacy document.  The report is bounded.
-/

namespace HydraSeat.Profile.Migration

open Json

def kProfileMigrationReportVersion : UInt32 := 1

def kLegacyWorkspaceSchemaVersion : UInt32 := 2

def kMaximumProfileMigrationDiagnostics : Nat := 256

def kMaximumProfileMigrationDiagnosticValueBytes : Nat := 16 * 1024

def kMaximumProfileMigrationReportBytes : Nat := 512 * 1024

def kMaximumDiagnosticPathBytes : Nat := 1024

def kMaximumDiagnosticNoteBytes : Nat := 2048

inductive ProfileMigrationDiagnosticKind where
  | droppedRuntimeField | unmappedLegacyField | legacyShareableResource | appliedLegacyDefault
  deriving DecidableEq

def ProfileMigrationDiagnosticKind.code : ProfileMigrationDiagnosticKind → Nat
  | .droppedRuntimeField => 0
  | .unmappedLegacyField => 1
  | .legacyShareableResource => 2
  | .appliedLegacyDefault => 3

def profileMigrationDiagnosticKindName : ProfileMigrationDiagnosticKind → String
  | .droppedRuntimeField => "dropped-runtime-field"
  | .unmappedLegacyField => "unmapped-legacy-field"
  | .legacyShareableResource => "legacy-shareable-resource"
  | .appliedLegacyDefault => "applied-legacy-default"

structure ProfileMigrationDiagnostic where
  kind : ProfileMigrationDiagnosticKind := .unmappedLegacyField
  (jsonPointer valueJson note : ByteString := [])

structure ProfileMigrationReport where
  reportVersion : UInt32 := kProfileMigrationReportVersion
  legacySchemaVersion : UInt32 := kLegacyWorkspaceSchemaVersion
  targetSchemaVersion : UInt32 := kProfileSchemaVersion
  (sourceByteCount sourceFnv1a64 : UInt64 := 0)
  migratedSeatCount : UInt32 := 0
  diagnostics : List ProfileMigrationDiagnostic := []

structure ProfileMigrationBundle where
  seats : SeatConfigDocument := {}
  players : PlayerProfileDocument := {}
  games : GameRecordDocument := {}
  setups : TwoPlayerSetupDocument := {}
  report : ProfileMigrationReport := {}

structure ProfileMigrationOutcome where
  result : ProfileMigrationResult := .success
  message : ByteString := []
  report : ProfileMigrationReport := {}

/-- `outcome` with a report. -/
def outcome (result : ProfileMigrationResult) (message : ByteString)
    (report : ProfileMigrationReport) : ProfileMigrationOutcome :=
  { result, message, report }

def jsonPointerToken (token : ByteString) : ByteString :=
  token.flatMap fun ch =>
    if ch = 0x7E then "~0"
    else if ch = 0x2F then "~1"
    else [ch]

def addDiagnostic (report : ProfileMigrationReport) (kind : ProfileMigrationDiagnosticKind)
    (path valueJson note : ByteString) : Attempt ProfileMigrationReport :=
  if report.diagnostics.length ≥ kMaximumProfileMigrationDiagnostics then
    fail .reportBoundsExceeded "too many unmapped legacy values for bounded migration report"
  else if path.isEmpty || path.length > kMaximumDiagnosticPathBytes ||
      valueJson.length > kMaximumProfileMigrationDiagnosticValueBytes ||
      note.length > kMaximumDiagnosticNoteBytes then
    fail .reportBoundsExceeded "unmapped legacy value exceeds migration report bounds"
  else
    .ok
      { report with
        diagnostics := report.diagnostics ++ [{ kind, jsonPointer := path, valueJson, note }] }

def reportUnknownFields (known : List String) (basePointer : ByteString) :
    ProfileMigrationReport → List (ByteString × Value) → Attempt ProfileMigrationReport
  | report, [] => .ok report
  | report, (key, value) :: rest => do
      if (known.map bytesOf).contains key then reportUnknownFields known basePointer report rest
      else
        let report ← addDiagnostic report .unmappedLegacyField
          (basePointer ++ "/" ++ jsonPointerToken key)
          (canonicalJson value)
          "legacy field has no v1 mapping and was not interpreted"
        reportUnknownFields known basePointer report rest

def diagnosticBefore (left right : ProfileMigrationDiagnostic) : Bool :=
  if left.jsonPointer ≠ right.jsonPointer then left.jsonPointer < right.jsonPointer
  else if left.kind ≠ right.kind then left.kind.code < right.kind.code
  else if left.valueJson ≠ right.valueJson then left.valueJson < right.valueJson
  else left.note < right.note

/-- `std::sort` of the diagnostics; those that are equal are the same. -/
def sortDiagnostics (diagnostics : List ProfileMigrationDiagnostic) :
    List ProfileMigrationDiagnostic :=
  diagnostics.insertionSort fun left right => diagnosticBefore right left = false

def fnv1a64 (bytes : ByteString) : UInt64 :=
  bytes.foldl (fun hash raw => (hash ^^^ raw.toUInt64) * 1099511628211) 14695981039346656037

def hex64 (value : UInt64) : ByteString :=
  (List.range 16).map fun index =>
    hexDigit ((value >>> UInt64.ofNat ((15 - index) * 4)) &&& 0x0F).toUInt8

def invalidDiagnostic (item : ProfileMigrationDiagnostic) : Bool :=
  item.jsonPointer.isEmpty || item.jsonPointer.length > kMaximumDiagnosticPathBytes ||
    item.valueJson.length > kMaximumProfileMigrationDiagnosticValueBytes ||
    item.note.length > kMaximumDiagnosticNoteBytes ||
    !validUtf8 item.jsonPointer || !validUtf8 item.valueJson ||
    !validUtf8 item.note

def validateReport (report : ProfileMigrationReport) : Attempt Unit :=
  if report.reportVersion ≠ kProfileMigrationReportVersion ∨
      report.legacySchemaVersion ≠ kLegacyWorkspaceSchemaVersion ∨
      report.targetSchemaVersion ≠ kProfileSchemaVersion then
    fail .reportBoundsExceeded "migration report version fields are invalid"
  else if report.sourceByteCount.toNat > kMaximumSchemaDocumentBytes ∨
      report.migratedSeatCount = 0 ∨
      report.migratedSeatCount.toNat > kMaximumPersistedSeats ∨
      report.diagnostics.length > kMaximumProfileMigrationDiagnostics then
    fail .reportBoundsExceeded "migration report count or source bounds are invalid"
  else if report.diagnostics.any invalidDiagnostic then
    fail .reportBoundsExceeded "migration diagnostic is invalid or exceeds bounds"
  else .ok ()

def encodeDiagnostic (item : ProfileMigrationDiagnostic) : ByteString :=
  objectText
    [("kind", quote (bytesOf (profileMigrationDiagnosticKindName item.kind))),
      ("path", quote item.jsonPointer),
      ("value_json", quote item.valueJson),
      ("note", quote item.note)]

def encodeProfileMigrationReport (report : ProfileMigrationReport) : Except ByteString ByteString :=
  match validateReport report with
  | .error exception => .error exception.message
  | .ok () =>
    let bytes := objectText
      [("report_version", decimal report.reportVersion.toNat),
        ("legacy_schema_version", decimal report.legacySchemaVersion.toNat),
        ("target_schema_version", decimal report.targetSchemaVersion.toNat),
        ("source_byte_count", decimal report.sourceByteCount.toNat),
        ("source_fnv1a64", quote (hex64 report.sourceFnv1a64)),
        ("migrated_seat_count", decimal report.migratedSeatCount.toNat),
        ("diagnostics", bracketed (report.diagnostics.map encodeDiagnostic))]
    if bytes.length > kMaximumProfileMigrationReportBytes then
      .error "encoded migration report exceeds bounded size"
    else .ok bytes

structure EncodedBundle where
  (seats players games setups report : ByteString := [])

/-- The text of one document, or why there is none. -/
def encodedOr (label : String) (encoded : Schema ByteString) : Except ByteString ByteString :=
  match encoded with
  | .ok text => .ok text
  | .error diagnostic => .error (bytesOf label ++ diagnostic.message)

def encodeBundle (bundle : ProfileMigrationBundle) : Except ByteString EncodedBundle := do
  let seats ← encodedOr "SeatConfigDocument encode failed: " (encodeSeatConfigDocument bundle.seats)
  let players ← encodedOr "PlayerProfileDocument encode failed: "
    (encodePlayerProfileDocument bundle.players)
  let games ← encodedOr "GameRecordDocument encode failed: " (encodeGameRecordDocument bundle.games)
  let setups ← encodedOr "TwoPlayerSetupDocument encode failed: "
    (encodeTwoPlayerSetupDocument bundle.setups)
  let report ← encodeProfileMigrationReport bundle.report
  return { seats, players, games, setups, report }

end HydraSeat.Profile.Migration
