import HydraSeat.Profile.MigrationReport

/-!
# The migration planner

`planLegacyWorkspaceMigration` makes the documents of the new schema out of a
legacy workspace document and reports what it could not carry over.
-/

namespace HydraSeat.Profile.Migration

open Json

def kMaximumLegacyShareableResources : Nat := 128

inductive LegacyResourceType where
  | display | keyboard | mouse | controller | audioOutput | audioInput
  deriving DecidableEq

def parseResourceType (type : ByteString) : Attempt LegacyResourceType :=
  if type = "display" then .ok .display
  else if type = "keyboard" then .ok .keyboard
  else if type = "mouse" then .ok .mouse
  else if type = "controller" then .ok .controller
  else if type = "audio_output" then .ok .audioOutput
  else if type = "audio_input" then .ok .audioInput
  else fail .legacyValidationError "unknown legacy shareable resource type"

def normalizeResourceId (value : WideString) : WideString := value.map lowerCase

structure ResourceKey where
  type : LegacyResourceType
  normalizedId : WideString
  deriving DecidableEq

def resourceKey (type : LegacyResourceType) (id : WideString) : ResourceKey :=
  ⟨type, normalizeResourceId id⟩

/-- The loop of `readDeviceArray`, with the normalized ids so far. -/
def readDevices (field : String) : List WideString → List Value → Attempt (List WideString)
  | _, [] => .ok []
  | normalized, item :: rest => do
      let utf8 ← asString item field
      let wide := fromUtf8 utf8
      if wide.isEmpty then
        fail .legacyValidationError (bytesOf field ++ " contains an empty device ID")
      if normalized.contains (normalizeResourceId wide) then
        fail .legacyValidationError (bytesOf field ++ " contains a duplicate device ID")
      let output ← readDevices field (normalizeResourceId wide :: normalized) rest
      return wide :: output

def readDeviceArray (value : Value) (field : String) : Attempt (List WideString) := do
  let array ← asArray value field
  if array.length > kMaximumDeviceIdsPerSeat then
    fail .legacyValidationError (bytesOf field ++ " exceeds v1 device count bound")
  readDevices field [] array

def readOptionalWide (value : Value) (field : String) : Attempt (Option WideString) :=
  match value with
  | .null => .ok none
  | value => do
      let result := fromUtf8 (← asString value field)
      if result.isEmpty then
        fail .legacyValidationError (bytesOf field ++ " must not be empty when present")
      return some result

def shareableNote : ByteString :=
  bytesOf ("legacy shareability has no v1 schema field; assignments were " ++
    "preserved and the declaration is retained here")

def readShareable (value : Value) : Attempt ResourceKey := do
  let item ← asObject value "shareable resource"
  let type ← parseResourceType (← asString (← required item "type") "shareable resource type")
  let id := fromUtf8 (← asString (← required item "id") "shareable resource id")
  if id.isEmpty then fail .legacyValidationError "shareable resource id must not be empty"
  return resourceKey type id

/-- The loop over the declarations, from an index on. -/
def readShareables (index : Nat) (shareableResources : List ResourceKey)
    (report : ProfileMigrationReport) :
    List Value → Attempt (List ResourceKey × ProfileMigrationReport)
  | [] => .ok (shareableResources, report)
  | item :: rest => do
      let key ← readShareable item
      let report ← addDiagnostic report .legacyShareableResource
        ("/shareable_resources/" ++ decimal index)
        (canonicalJson item) shareableNote
      readShareables (index + 1) (key :: shareableResources) report rest

def readShareableResources (root : Value.Object) (report : ProfileMigrationReport) :
    Attempt (List ResourceKey × ProfileMigrationReport) :=
  match root.lookup (bytesOf "shareable_resources") with
  | none => .ok ([], report)
  | some value => do
      let shareable ← asArray value "shareable_resources"
      if shareable.length > kMaximumLegacyShareableResources then
        fail .reportBoundsExceeded
          (bytesOf ("legacy shareable resource list exceeds migration " ++ "report bound"))
      readShareables 0 [] report shareable

def rootFields : List String :=
  ["schema_version", "management_seat_id", "shareable_resources", "seats"]

def seatFields : List String :=
  ["id", "name", "active", "target_hwnd", "displays", "primary_display",
    "keyboards", "mice", "controllers", "audio_output", "audio_input"]

/-- A resource and a Seat that owns it. -/
abbrev Owner := ResourceKey × UInt32

def ownersOf (seat : PersistedSeatConfig) : List Owner :=
  let owned (type : LegacyResourceType) (ids : List WideString) : List Owner :=
    ids.map fun id => (resourceKey type id, seat.seatId)
  owned .display seat.displayIds ++ owned .keyboard seat.keyboardIds ++
    owned .mouse seat.mouseIds ++ owned .controller seat.controllerIds ++
    owned .audioOutput seat.audioOutputEndpointId.toList ++
    owned .audioInput seat.audioInputEndpointId.toList

/-- The primary display of a Seat that has displays is one of them. -/
def checkPrimaryDisplay (seat : PersistedSeatConfig) : Attempt Unit :=
  match seat.primaryDisplayId with
  | some primary =>
    let wanted := normalizeResourceId primary
    if seat.displayIds.all (normalizeResourceId · != wanted) then
      fail .legacyValidationError "legacy primary_display is not assigned to its Seat"
    else .ok ()
  | none =>
    if !seat.displayIds.isEmpty then
      fail .legacyValidationError "legacy Seat with displays must declare primary_display"
    else .ok ()

def seatPointer (index : Nat) : ByteString := "/seats/" ++ decimal index

/-- The id of a Seat, which none of the Seats so far has. -/
def readSeatId (seatIds : List UInt32) (object : Value.Object) : Attempt UInt32 := do
  let rawId ← asUnsigned (← required object "id") "seat id"
  if rawId = 0 || rawId > 0xFFFFFFFF then
    fail .legacyValidationError "legacy Seat ID is out of range"
  let seatId := rawId.toUInt32
  if seatIds.contains seatId then
    fail .legacyValidationError "legacy profile contains duplicate Seat ID"
  return seatId

def targetNote : ByteString :=
  bytesOf ("transient legacy window identity was not migrated into stable " ++ "Seat persistence")

def readSeat (index : Nat) (seatIds : List UInt32)
    (report : ProfileMigrationReport) (value : Value) :
    Attempt (PersistedSeatConfig × ProfileMigrationReport) := do
  let object ← asObject value "seat"
  let seatId ← readSeatId seatIds object
  let name := fromUtf8 (← asString (← required object "name") "seat name")
  if name.isEmpty then fail .legacyValidationError "legacy Seat name must not be empty"
  let active ← asBool (← required object "active") "seat active"
  let targetHwnd ← required object "target_hwnd"
  let _ ← asUnsigned targetHwnd "target_hwnd"
  let report ← addDiagnostic report .droppedRuntimeField (seatPointer index ++ "/target_hwnd")
    (canonicalJson targetHwnd) targetNote
  let displayIds ← readDeviceArray (← required object "displays") "displays"
  let primaryDisplayId ← readOptionalWide (← required object "primary_display") "primary_display"
  let keyboardIds ← readDeviceArray (← required object "keyboards") "keyboards"
  let mouseIds ← readDeviceArray (← required object "mice") "mice"
  let controllerIds ← readDeviceArray (← required object "controllers") "controllers"
  let audioOutputEndpointId ← readOptionalWide (← required object "audio_output") "audio_output"
  let audioInputEndpointId ← readOptionalWide (← required object "audio_input") "audio_input"
  let seat : PersistedSeatConfig :=
    { seatId, name, displayIds, primaryDisplayId, keyboardIds, mouseIds
      controllerIds, audioOutputEndpointId, audioInputEndpointId, active }
  checkPrimaryDisplay seat
  let report ← reportUnknownFields seatFields (seatPointer index) report object
  return (seat, report)

/-- The loop over the Seats, from an index on, with the Seats so far. -/
def readSeats (index : Nat) (seats : List PersistedSeatConfig) (report : ProfileMigrationReport) :
    List Value → Attempt (List PersistedSeatConfig × ProfileMigrationReport)
  | [] => .ok (seats, report)
  | value :: rest => do
      let (seat, report) ← readSeat index (seats.map (·.seatId)) report value
      readSeats (index + 1) (seats ++ [seat]) report rest

/-- A resource has more than one owner and is not shareable. -/
def sharesUndeclared (shareableResources : List ResourceKey) (owners : List Owner) : Bool :=
  owners.any fun (resource, seatId) =>
    owners.any (fun (other, otherId) =>
      other == resource && otherId != seatId) &&
      !shareableResources.contains resource

def readManagementSeat (root : Value.Object)
    (seatIds : List UInt32) (report : ProfileMigrationReport) :
    Attempt (UInt32 × ProfileMigrationReport) :=
  match root.lookup (bytesOf "management_seat_id") with
  | some management => do
      let rawManagement ← asUnsigned management "management_seat_id"
      if rawManagement = 0 || rawManagement > 0xFFFFFFFF then
        fail .legacyValidationError "legacy management_seat_id is out of range"
      return (rawManagement.toUInt32, report)
  | none => do
      let managementSeatId :=
        if seatIds.contains 1 then 1 else seatIds.min?.getD 0
      let report ← addDiagnostic report .appliedLegacyDefault
        "/management_seat_id" (decimal managementSeatId.toNat)
        (bytesOf ("legacy management Seat default was applied " ++ "deterministically"))
      return (managementSeatId, report)

/-- The first of the empty documents that does not pass its check. -/
def checkEmptyDocuments (bundle : ProfileMigrationBundle) : Attempt Unit :=
  let validations : Schema Unit := do
    validatePlayerProfileDocument bundle.players
    validateGameRecordDocument bundle.games
    validateTwoPlayerSetupDocument bundle.setups
  match validations with
  | .ok () => .ok ()
  | .error diagnostic =>
    fail .legacyValidationError ("empty separated v1 document is invalid: " ++ diagnostic.message)

/-- The last steps: the checks of the documents and of the report. -/
def finishPlan (candidate : ProfileMigrationBundle) : Attempt ProfileMigrationBundle := do
  match validateSeatConfigDocument candidate.seats with
  | .error diagnostic =>
    fail .legacyValidationError ("migrated Seat document is invalid: " ++ diagnostic.message)
  | .ok () => do
      checkEmptyDocuments candidate
      let report :=
        { candidate.report with
          migratedSeatCount := UInt32.ofNat candidate.seats.seats.length
          diagnostics := sortDiagnostics candidate.report.diagnostics }
      validateReport report
      match encodeProfileMigrationReport report with
      | .error reportError => fail .reportBoundsExceeded reportError
      | .ok _ => return { candidate with report }

/-- What is made of the members of the root. -/
def planRoot (byteCount : Nat) (fingerprint : UInt64)
    (root : Value.Object) : Attempt ProfileMigrationBundle := do
  let schemaVersion ← asUnsigned (← required root "schema_version") "schema_version"
  if schemaVersion ≠ kLegacyWorkspaceSchemaVersion.toUInt64 then
    fail .legacyValidationError "unsupported legacy workspace schema_version"
  let report : ProfileMigrationReport :=
    { sourceByteCount := UInt64.ofNat byteCount, sourceFnv1a64 := fingerprint }
  let report ← reportUnknownFields rootFields [] report root
  let (shareableResources, report) ← readShareableResources root report
  let seatValues ← asArray (← required root "seats") "seats"
  if seatValues.isEmpty || seatValues.length > kMaximumPersistedSeats then
    fail .legacyValidationError
      (bytesOf ("legacy profile must contain one or two Seats for v1 " ++ "migration"))
  let (seats, report) ← readSeats 0 [] report seatValues
  if sharesUndeclared shareableResources (seats.flatMap ownersOf) then
    fail .legacyValidationError
      (bytesOf ("legacy resource is assigned to multiple Seats without a " ++
        "shareable declaration"))
  let seatIds := seats.map (·.seatId)
  let (managementSeatId, report) ← readManagementSeat root seatIds report
  if !seatIds.contains managementSeatId then
    fail .legacyValidationError
      (bytesOf ("legacy management_seat_id does not reference a " ++ "configured Seat"))
  let sorted := seats.insertionSort fun left right => left.seatId ≤ right.seatId
  finishPlan
    { seats := { managementSeatId, seats := sorted }
      report }

/-- The bundle that a legacy text makes. -/
def planBundle (legacyWorkspaceJson : ByteString) : Attempt ProfileMigrationBundle := do
  if legacyWorkspaceJson.length > kMaximumSchemaDocumentBytes then
    fail .sourceTooLarge "legacy workspace document exceeds bounded size"
  let rootValue ← parseLegacy legacyWorkspaceJson
  let root ← asObject rootValue "legacy workspace root"
  planRoot legacyWorkspaceJson.length (fnv1a64 legacyWorkspaceJson) root

/-- A bundle is replaced only by one that was planned. -/
def planLegacyWorkspaceMigration (legacyWorkspaceJson : ByteString)
    (bundle : ProfileMigrationBundle) :
    ProfileMigrationOutcome × ProfileMigrationBundle :=
  match planBundle legacyWorkspaceJson with
  | .error exception => (outcome exception.result exception.message {}, bundle)
  | .ok candidate =>
    (outcome .success "legacy workspace migration plan is valid" candidate.report, candidate)

end HydraSeat.Profile.Migration
