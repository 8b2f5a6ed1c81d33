import HydraSeat.Json.Fields
import HydraSeat.Profile.ProfileSchema

/-!
# The codec of profile documents

Each document is written as one JSON object and read back field by field.  A
text comes out of an encoder only if the document is valid and the text is not
too long.
-/

namespace HydraSeat.Profile

open Json

section Codec

variable {Item : Type}

/-- `encodeValidated`: an error stands for the empty text and the diagnostic
that is put out with it. -/
def encodeValidated (validate : Item → Schema Unit) (encode : Item → Schema ByteString)
    (document : Item) : Schema ByteString := do
  validate document
  let result ← encode document
  if result.length > kMaximumSchemaDocumentBytes then
    fail .documentTooLarge "encoded schema document exceeds maximum size"
  else
    return result

def decodeValidated (decode : Value → Schema Item) (validate : Item → Schema Unit)
    (json : ByteString) : Schema Item :=
  if json.length > kMaximumSchemaDocumentBytes then
    fail .documentTooLarge "schema document exceeds maximum size"
  else do
    let root ← parseJson json
    let candidate ← decode root
    validate candidate
    return candidate

def decodeItems (decode : Value → Schema Item) (field : String)
    (object : Value.Object) : Schema (List Item) := do
  let array ← asArray (← required object field) field
  array.mapM decode

end Codec

def schemaVersion (object : Value.Object) : Schema UInt32 := do
  let version ← asU32 (← required object "schema_version") "schema_version"
  if version ≠ kProfileSchemaVersion then
    fail .unsupportedVersion ("unsupported schema_version: " ++ decimal version.toNat)
  else
    return version

def boolText (value : Bool) : ByteString :=
  if value then "true" else "false"

def seatFields : List String :=
  ["seat_id", "name", "active", "display_ids", "primary_display_id",
    "keyboard_ids", "mouse_ids", "controller_ids",
    "audio_output_endpoint_id", "audio_input_endpoint_id"]

theorem seatFields_plain : plainKeys seatFields = true := by decide

def encodeSeat (seat : PersistedSeatConfig) : Schema ByteString := do
  let name ← quoteWide seat.name
  let displayIds ← writeWideArray seat.displayIds
  let primaryDisplayId ← writeOptionalWide seat.primaryDisplayId
  let keyboardIds ← writeWideArray seat.keyboardIds
  let mouseIds ← writeWideArray seat.mouseIds
  let controllerIds ← writeWideArray seat.controllerIds
  let audioOutput ← writeOptionalWide seat.audioOutputEndpointId
  let audioInput ← writeOptionalWide seat.audioInputEndpointId
  return objectText
    [("seat_id", decimal seat.seatId.toNat), ("name", name),
      ("active", boolText seat.active), ("display_ids", displayIds),
      ("primary_display_id", primaryDisplayId),
      ("keyboard_ids", keyboardIds), ("mouse_ids", mouseIds),
      ("controller_ids", controllerIds),
      ("audio_output_endpoint_id", audioOutput),
      ("audio_input_endpoint_id", audioInput)]

def decodeSeat (value : Value) : Schema PersistedSeatConfig := do
  let object ← asObject value "seat"
  exactFields object seatFields
  let seatId ← asU32 (← required object "seat_id") "seat_id"
  let name ← fromUtf8 (← asString (← required object "name") "name")
  let active ← asBool (← required object "active") "active"
  let displayIds ← readWideArray (← required object "display_ids") "display_ids"
  let primaryDisplayId ← readOptionalWide (← required object "primary_display_id")
    "primary_display_id"
  let keyboardIds ← readWideArray (← required object "keyboard_ids") "keyboard_ids"
  let mouseIds ← readWideArray (← required object "mouse_ids") "mouse_ids"
  let controllerIds ← readWideArray (← required object "controller_ids") "controller_ids"
  let audioOutputEndpointId ← readOptionalWide (← required object "audio_output_endpoint_id")
    "audio_output_endpoint_id"
  let audioInputEndpointId ← readOptionalWide (← required object "audio_input_endpoint_id")
    "audio_input_endpoint_id"
  return {
    seatId := seatId, name, displayIds, primaryDisplayId, keyboardIds
    mouseIds, controllerIds, audioOutputEndpointId, audioInputEndpointId
    active }

def accountFields : List String := ["provider_id", "account_ref"]

theorem accountFields_plain : plainKeys accountFields = true := by decide

def playerFields : List String :=
  ["player_id", "display_name", "preferred_locale", "provider_accounts"]

theorem playerFields_plain : plainKeys playerFields = true := by decide

def encodeAccount (account : ProviderAccountReference) : ByteString :=
  objectText
    [("provider_id", quoteUtf8 account.providerId), ("account_ref", quoteUtf8 account.accountRef)]

def decodeAccount (value : Value) : Schema ProviderAccountReference := do
  let object ← asObject value "provider_account"
  exactFields object accountFields
  let providerId ← asString (← required object "provider_id") "provider_id"
  let accountRef ← asString (← required object "account_ref") "account_ref"
  return { providerId, accountRef }

def encodePlayer (player : PlayerProfile) : Schema ByteString := do
  let displayName ← quoteWide player.displayName
  return objectText
    [("player_id", quoteUtf8 player.playerId), ("display_name", displayName),
      ("preferred_locale", quoteUtf8 player.preferredLocale),
      ("provider_accounts", bracketed (player.providerAccounts.map encodeAccount))]

def decodePlayer (value : Value) : Schema PlayerProfile := do
  let object ← asObject value "player"
  exactFields object playerFields
  let playerId ← asString (← required object "player_id") "player_id"
  let displayName ← fromUtf8 (← asString (← required object "display_name") "display_name")
  let preferredLocale ← asString (← required object "preferred_locale") "preferred_locale"
  let providerAccounts ← decodeItems decodeAccount "provider_accounts" object
  return { playerId, displayName, preferredLocale, providerAccounts }

def referenceFields : List String := ["record_id", "provenance", "evidence_revision"]

theorem referenceFields_plain : plainKeys referenceFields = true := by decide

def gameFields : List String :=
  ["game_id", "provider_id", "provider_app_id", "title", "install_root",
    "executable_candidates", "local_version", "executable_sha256",
    "compatibility", "origin"]

theorem gameFields_plain : plainKeys gameFields = true := by decide

def gameOriginName : GameOrigin → ByteString
  | .discovered => "discovered"
  | .manual => "manual"

def parseGameOrigin (value : ByteString) : Schema GameOrigin :=
  if value = "discovered" then .ok .discovered
  else if value = "manual" then .ok .manual
  else fail .invalidValue "unknown game origin"

def encodeCompatibilityReference (reference : CompatibilityReference) : ByteString :=
  objectText
    [("record_id", quoteUtf8 reference.recordId), ("provenance", quoteUtf8 reference.provenance),
      ("evidence_revision", decimal reference.evidenceRevision.toNat)]

def writeOptionalCompatibilityReference : Option CompatibilityReference → ByteString
  | some reference => encodeCompatibilityReference reference
  | none => "null"

def decodeOptionalCompatibilityReference (value : Value) : Schema (Option CompatibilityReference) :=
  match value with
  | .null => .ok none
  | value => do
      let object ← asObject value "compatibility"
      exactFields object referenceFields
      let recordId ← asString (← required object "record_id") "record_id"
      let provenance ← asString (← required object "provenance") "provenance"
      let evidenceRevision ← asU32 (← required object "evidence_revision") "evidence_revision"
      return some { recordId, provenance, evidenceRevision }

def encodeGame (game : GameRecord) : Schema ByteString := do
  let title ← quoteWide game.title
  let installRoot ← quoteWide game.installRoot
  let executableCandidates ← writeWideArray game.executableCandidates
  let localVersion ← writeOptionalWide game.localVersion
  return objectText
    [("game_id", quoteUtf8 game.gameId), ("provider_id", quoteUtf8 game.providerId),
      ("provider_app_id", writeOptionalString game.providerAppId),
      ("title", title), ("install_root", installRoot),
      ("executable_candidates", executableCandidates),
      ("local_version", localVersion),
      ("executable_sha256", writeOptionalString game.executableSha256),
      ("compatibility", writeOptionalCompatibilityReference game.compatibility),
      ("origin", quoteUtf8 (gameOriginName game.origin))]

def decodeGame (value : Value) : Schema GameRecord := do
  let object ← asObject value "game"
  exactFields object gameFields
  let gameId ← asString (← required object "game_id") "game_id"
  let providerId ← asString (← required object "provider_id") "provider_id"
  let providerAppId ← readOptionalString (← required object "provider_app_id") "provider_app_id"
  let title ← fromUtf8 (← asString (← required object "title") "title")
  let installRoot ← fromUtf8 (← asString (← required object "install_root") "install_root")
  let executableCandidates ← readWideArray (← required object "executable_candidates")
    "executable_candidates"
  let localVersion ← readOptionalWide (← required object "local_version") "local_version"
  let executableSha256 ← readOptionalString (← required object "executable_sha256")
    "executable_sha256"
  let compatibility ← decodeOptionalCompatibilityReference (← required object "compatibility")
  let origin ← parseGameOrigin (← asString (← required object "origin") "origin")
  return {
    gameId := gameId, providerId, providerAppId, title, installRoot
    executableCandidates, localVersion, executableSha256, compatibility
    origin }

def recipeFields : List String := ["arguments", "working_directory", "data_root"]

theorem recipeFields_plain : plainKeys recipeFields = true := by decide

def setupFields : List String :=
  ["setup_id", "game_id", "display_name", "compatibility", "instances"]

theorem setupFields_plain : plainKeys setupFields = true := by decide

def encodeRecipe (recipe : InstanceRecipe) : Schema ByteString := do
  let arguments ← writeWideArray recipe.arguments
  let workingDirectory ← writeOptionalWide recipe.workingDirectory
  let dataRoot ← writeOptionalWide recipe.dataRoot
  return objectText
    [("arguments", arguments), ("working_directory", workingDirectory), ("data_root", dataRoot)]

def decodeRecipe (value : Value) : Schema InstanceRecipe := do
  let object ← asObject value "instance_recipe"
  exactFields object recipeFields
  let arguments ← readWideArray (← required object "arguments") "arguments"
  let workingDirectory ← readOptionalWide (← required object "working_directory")
    "working_directory"
  let dataRoot ← readOptionalWide (← required object "data_root") "data_root"
  return { arguments, workingDirectory, dataRoot }

def encodeSetup (setup : TwoPlayerSetup) : Schema ByteString := do
  let displayName ← quoteWide setup.displayName
  let instances ← setup.instances.mapM encodeRecipe
  return objectText
    [("setup_id", quoteUtf8 setup.setupId),
      ("game_id", quoteUtf8 setup.gameId), ("display_name", displayName),
      ("compatibility", writeOptionalCompatibilityReference setup.compatibility),
      ("instances", bracketed instances)]

def decodeSetup (value : Value) : Schema TwoPlayerSetup := do
  let object ← asObject value "two_player_setup"
  exactFields object setupFields
  let setupId ← asString (← required object "setup_id") "setup_id"
  let gameId ← asString (← required object "game_id") "game_id"
  let displayName ← fromUtf8 (← asString (← required object "display_name") "display_name")
  let compatibility ← decodeOptionalCompatibilityReference (← required object "compatibility")
  let instances ← decodeItems decodeRecipe "instances" object
  return { setupId, gameId, displayName, compatibility, instances }

def bindingFields : List String := ["seat_id", "player_id", "game_id", "setup_id", "instance_index"]

theorem bindingFields_plain : plainKeys bindingFields = true := by decide

def encodeBinding (binding : RuntimeBinding) : ByteString :=
  objectText
    [("seat_id", decimal binding.seatId.toNat), ("player_id", quoteUtf8 binding.playerId),
      ("game_id", quoteUtf8 binding.gameId),
      ("setup_id", writeOptionalString binding.setupId),
      ("instance_index", decimal binding.instanceIndex.toNat)]

def decodeBinding (value : Value) : Schema RuntimeBinding := do
  let object ← asObject value "runtime_binding"
  exactFields object bindingFields
  let seatId ← asU32 (← required object "seat_id") "seat_id"
  let playerId ← asString (← required object "player_id") "player_id"
  let gameId ← asString (← required object "game_id") "game_id"
  let setupId ← readOptionalString (← required object "setup_id") "setup_id"
  let instanceIndex ← asU32 (← required object "instance_index") "instance_index"
  return { seatId, playerId, gameId, setupId, instanceIndex }

/-- A document of a version and an array. -/
def versioned (schemaVersion : UInt32) (field : String) (items : List ByteString) : ByteString :=
  objectText [("schema_version", decimal schemaVersion.toNat), (field, bracketed items)]

def seatDocumentFields : List String := ["schema_version", "management_seat_id", "seats"]

theorem seatDocumentFields_plain : plainKeys seatDocumentFields = true := by decide

def encodeSeatConfigDocument : SeatConfigDocument → Schema ByteString :=
  encodeValidated validateSeatConfigDocument fun document => do
    let seats ← document.seats.mapM encodeSeat
    return objectText
      [("schema_version", decimal document.schemaVersion.toNat),
        ("management_seat_id", decimal document.managementSeatId.toNat),
        ("seats", bracketed seats)]

def encodePlayerProfileDocument : PlayerProfileDocument → Schema ByteString :=
  encodeValidated validatePlayerProfileDocument fun document => do
    let players ← document.players.mapM encodePlayer
    return versioned document.schemaVersion "players" players

def encodeGameRecordDocument : GameRecordDocument → Schema ByteString :=
  encodeValidated validateGameRecordDocument fun document => do
    let games ← document.games.mapM encodeGame
    return versioned document.schemaVersion "games" games

def encodeTwoPlayerSetupDocument : TwoPlayerSetupDocument → Schema ByteString :=
  encodeValidated validateTwoPlayerSetupDocument fun document => do
    let setups ← document.setups.mapM encodeSetup
    return versioned document.schemaVersion "setups" setups

def encodeRuntimeSessionSelection : RuntimeSessionSelection → Schema ByteString :=
  encodeValidated localValidate fun selection =>
    return versioned selection.schemaVersion "bindings" (selection.bindings.map encodeBinding)

def decodeSeatConfigDocument : ByteString → Schema SeatConfigDocument :=
  decodeValidated
    (fun root => do
      let object ← asObject root "SeatConfigDocument"
      exactFields object seatDocumentFields
      let version ← schemaVersion object
      let managementSeatId ← asU32 (← required object "management_seat_id") "management_seat_id"
      let seats ← decodeItems decodeSeat "seats" object
      return { schemaVersion := version, managementSeatId, seats })
    validateSeatConfigDocument

/-- The version and the items of a document that has nothing else. -/
def decodeVersioned {Item : Type} (label field : String)
    (decode : Value → Schema Item) (root : Value) :
    Schema (UInt32 × List Item) := do
  let object ← asObject root label
  exactFields object ["schema_version", field]
  let version ← schemaVersion object
  let items ← decodeItems decode field object
  return (version, items)

def decodePlayerProfileDocument : ByteString → Schema PlayerProfileDocument :=
  decodeValidated
    (fun root => do
      let (version, players) ← decodeVersioned "PlayerProfileDocument" "players" decodePlayer root
      return { schemaVersion := version, players })
    validatePlayerProfileDocument

def decodeGameRecordDocument : ByteString → Schema GameRecordDocument :=
  decodeValidated
    (fun root => do
      let (version, games) ← decodeVersioned "GameRecordDocument" "games" decodeGame root
      return { schemaVersion := version, games })
    validateGameRecordDocument

def decodeTwoPlayerSetupDocument : ByteString → Schema TwoPlayerSetupDocument :=
  decodeValidated
    (fun root => do
      let (version, setups) ← decodeVersioned "TwoPlayerSetupDocument" "setups" decodeSetup root
      return { schemaVersion := version, setups })
    validateTwoPlayerSetupDocument

def decodeRuntimeSessionSelection : ByteString → Schema RuntimeSessionSelection :=
  decodeValidated
    (fun root => do
      let (version, bindings) ← decodeVersioned "RuntimeSessionSelection" "bindings" decodeBinding
        root
      return { schemaVersion := version, bindings })
    localValidate

end HydraSeat.Profile
