import HydraSeat.Profile.SchemaText

/-!
# The profile schema

The five documents that the profile layer keeps, with the checks that each
has to pass before it is written and after it was read.
-/

namespace HydraSeat.Profile

def kProfileSchemaVersion : UInt32 := 1

def kMaximumSchemaDocumentBytes : Nat := 4 * 1024 * 1024

def kMaximumIdentifierBytes : Nat := 128

def kMaximumLocaleBytes : Nat := 64

def kMaximumDisplayNameCodeUnits : Nat := 256

def kMaximumTitleCodeUnits : Nat := 512

def kMaximumPathCodeUnits : Nat := 32767

def kMaximumDeviceIdCodeUnits : Nat := 4096

def kMaximumDeviceIdsPerSeat : Nat := 32

def kMaximumProviderAccountsPerPlayer : Nat := 16

def kMaximumPlayers : Nat := 64

def kMaximumGames : Nat := 4096

def kMaximumExecutableCandidates : Nat := 32

def kMaximumSetups : Nat := 512

def kMaximumArgumentsPerInstance : Nat := 128

def kMaximumArgumentCodeUnits : Nat := 4096

def kMaximumRuntimeBindings : Nat := 2

def kMaximumPersistedSeats : Nat := 2

structure PersistedSeatConfig where
  seatId : UInt32 := 0
  name : WideString := []
  displayIds : List WideString := []
  primaryDisplayId : Option WideString := none
  (keyboardIds mouseIds controllerIds : List WideString := [])
  (audioOutputEndpointId audioInputEndpointId : Option WideString := none)
  active : Bool := true

structure SeatConfigDocument where
  schemaVersion : UInt32 := kProfileSchemaVersion
  managementSeatId : UInt32 := 1
  seats : List PersistedSeatConfig := []

structure ProviderAccountReference where
  (providerId accountRef : ByteString)

structure PlayerProfile where
  playerId : ByteString := []
  displayName : WideString := []
  preferredLocale : ByteString := []
  providerAccounts : List ProviderAccountReference := []

structure PlayerProfileDocument where
  schemaVersion : UInt32 := kProfileSchemaVersion
  players : List PlayerProfile := []

inductive GameOrigin where
  | discovered | manual

structure CompatibilityReference where
  (recordId provenance : ByteString := [])
  evidenceRevision : UInt32 := 0
  deriving DecidableEq

structure GameRecord where
  (gameId providerId : ByteString := [])
  providerAppId : Option ByteString := none
  (title installRoot : WideString := [])
  executableCandidates : List WideString := []
  localVersion : Option WideString := none
  executableSha256 : Option ByteString := none
  compatibility : Option CompatibilityReference := none
  origin : GameOrigin := .discovered

structure GameRecordDocument where
  schemaVersion : UInt32 := kProfileSchemaVersion
  games : List GameRecord := []

structure InstanceRecipe where
  arguments : List WideString := []
  (workingDirectory dataRoot : Option WideString := none)

structure TwoPlayerSetup where
  (setupId gameId : ByteString := [])
  displayName : WideString := []
  compatibility : Option CompatibilityReference := none
  instances : List InstanceRecipe := []

structure TwoPlayerSetupDocument where
  schemaVersion : UInt32 := kProfileSchemaVersion
  setups : List TwoPlayerSetup := []

structure RuntimeBinding where
  seatId : UInt32 := 0
  (playerId gameId : ByteString := [])
  setupId : Option ByteString := none
  instanceIndex : UInt32 := 0

structure RuntimeSessionSelection where
  schemaVersion : UInt32 := kProfileSchemaVersion
  bindings : List RuntimeBinding := []

def isAlnum (ch : UInt8) : Bool :=
  (0x30 ≤ ch && ch ≤ 0x39) || (0x41 ≤ ch && ch ≤ 0x5A) || (0x61 ≤ ch && ch ≤ 0x7A)

def isXdigit (ch : UInt8) : Bool :=
  (0x30 ≤ ch && ch ≤ 0x39) || (0x41 ≤ ch && ch ≤ 0x46) || (0x61 ≤ ch && ch ≤ 0x66)

def validIdentifier (value : ByteString) : Bool :=
  !value.isEmpty && value.length ≤ kMaximumIdentifierBytes &&
    value.all fun ch => isAlnum ch || ch == 0x2E || ch == 0x5F || ch == 0x2D || ch == 0x3A

def validLocale (value : ByteString) : Bool :=
  value.length ≤ kMaximumLocaleBytes && value.all fun ch => isAlnum ch || ch == 0x2D || ch == 0x5F

def validSha256 (value : ByteString) : Bool := value.length == 64 && value.all isXdigit

def lowerCase (unit : UInt16) : UInt16 :=
  if 65 ≤ unit ∧ unit ≤ 90 then unit - 65 + 97 else unit

def equivalentDeviceId (left right : WideString) : Bool := left.map lowerCase == right.map lowerCase

def validateWide (value : WideString) (maximum : Nat) (field : String)
    (allowEmpty : Bool) : Schema Unit :=
  if !allowEmpty && value.isEmpty then fail .invalidValue (bytesOf field ++ " must not be empty")
  else if value.length > maximum then
    fail .boundsExceeded (bytesOf field ++ " exceeds maximum length")
  else
    match toUtf8 value with
    | .error diagnostic => fail diagnostic.result (bytesOf field ++ ": " ++ diagnostic.message)
    | .ok _ => .ok ()

/-- Two entries of the list are one device. -/
def repeatsDevice : List WideString → Bool
  | [] => false
  | value :: rest => rest.any (equivalentDeviceId value) || repeatsDevice rest

def validateDeviceList (values : List WideString) (field : String) : Schema Unit := do
  if values.length > kMaximumDeviceIdsPerSeat then
    fail .boundsExceeded (bytesOf field ++ " contains too many entries")
  values.forM fun value => validateWide value kMaximumDeviceIdCodeUnits field false
  if repeatsDevice values then fail .duplicateId (bytesOf field ++ " contains duplicate device IDs")

/-- The first value that a set refuses, of those inserted one by one. -/
def firstRepeated? {α : Type} [DecidableEq α] : List α → List α → Option α
  | _, [] => none
  | seen, value :: rest =>
    if value ∈ seen then some value
    else firstRepeated? (value :: seen) rest

def uniqueIds (identifiers : List ByteString) (field : String) : Schema Unit :=
  match firstRepeated? [] identifiers with
  | some identifier => fail .duplicateId (bytesOf field ++ " contains duplicate ID: " ++ identifier)
  | none => .ok ()

def validateCompatibilityReference (reference : CompatibilityReference) : Schema Unit :=
  if !validIdentifier reference.recordId || !validIdentifier reference.provenance then
    fail .invalidValue "invalid compatibility record/provenance reference"
  else if reference.evidenceRevision = 0 then
    fail .invalidValue "compatibility evidence_revision must be nonzero"
  else .ok ()

def validateOptionalReference : Option CompatibilityReference → Schema Unit
  | some reference => validateCompatibilityReference reference
  | none => .ok ()

def validateOptionalWide (value : Option WideString) (maximum : Nat) (field : String) :
    Schema Unit :=
  match value with
  | some value => validateWide value maximum field false
  | none => .ok ()

/-- The checks of one Seat behind those of its id. -/
def validateSeat (seat : PersistedSeatConfig) : Schema Unit := do
  validateWide seat.name kMaximumDisplayNameCodeUnits "Seat name" false
  validateDeviceList seat.displayIds "display_ids"
  validateDeviceList seat.keyboardIds "keyboard_ids"
  validateDeviceList seat.mouseIds "mouse_ids"
  validateDeviceList seat.controllerIds "controller_ids"
  validateOptionalWide seat.primaryDisplayId kMaximumDeviceIdCodeUnits "primary_display_id"
  if seat.primaryDisplayId.any fun primary =>
      !seat.displayIds.any (equivalentDeviceId · primary) then
    fail .invalidValue "primary display must be a member of display_ids"
  validateOptionalWide seat.audioOutputEndpointId kMaximumDeviceIdCodeUnits "audio endpoint ID"
  validateOptionalWide seat.audioInputEndpointId kMaximumDeviceIdCodeUnits "audio endpoint ID"

/-- The loop over the Seats, with the ids so far. -/
def validateSeats : List UInt32 → List PersistedSeatConfig → Schema Unit
  | _, [] => .ok ()
  | seatIds, seat :: rest => do
      if seat.seatId = 0 then fail .invalidValue "Seat ID must be nonzero"
      if seat.seatId ∈ seatIds then fail .duplicateId "duplicate Seat ID"
      validateSeat seat
      validateSeats (seat.seatId :: seatIds) rest

def validateSeatConfigDocument (document : SeatConfigDocument) : Schema Unit := do
  if document.schemaVersion ≠ kProfileSchemaVersion then
    fail .unsupportedVersion "unsupported Seat schema version"
  if document.seats.isEmpty || document.seats.length > kMaximumPersistedSeats then
    fail .boundsExceeded "Seat document must contain one or two Seats"
  validateSeats [] document.seats
  if (document.seats.filter (·.active)).length > 2 then
    fail .boundsExceeded "v1 permits at most two active Seats"
  if document.managementSeatId = 0 ∨
      !document.seats.any (·.seatId == document.managementSeatId) then
    fail .crossReferenceError "management Seat must reference a persisted Seat"

/-- The loop over the accounts of a Player, with the providers so far. -/
def validateAccounts : List ByteString → List ProviderAccountReference → Schema Unit
  | _, [] => .ok ()
  | providers, account :: rest => do
      if !validIdentifier account.providerId || !validIdentifier account.accountRef then
        fail .invalidValue "invalid provider account reference"
      if account.providerId ∈ providers then
        fail .duplicateId "Player has duplicate provider account reference"
      validateAccounts (account.providerId :: providers) rest

def validatePlayer (player : PlayerProfile) : Schema Unit := do
  if !validIdentifier player.playerId then fail .invalidValue "invalid player_id"
  validateWide player.displayName kMaximumDisplayNameCodeUnits "Player display_name" false
  if !validLocale player.preferredLocale then fail .invalidValue "invalid preferred_locale"
  if player.providerAccounts.length > kMaximumProviderAccountsPerPlayer then
    fail .boundsExceeded "too many provider account references"
  validateAccounts [] player.providerAccounts

def validatePlayerProfileDocument (document : PlayerProfileDocument) : Schema Unit := do
  if document.schemaVersion ≠ kProfileSchemaVersion then
    fail .unsupportedVersion "unsupported Player schema version"
  if document.players.length > kMaximumPlayers then fail .boundsExceeded "too many Player profiles"
  document.players.forM validatePlayer
  uniqueIds (document.players.map (·.playerId)) "players"

/-- The loop over the candidates of a game, with those so far. -/
def validateCandidates : List WideString → List WideString → Schema Unit
  | _, [] => .ok ()
  | executables, executable :: rest => do
      validateWide executable kMaximumPathCodeUnits "executable candidate" false
      if executable ∈ executables then fail .duplicateId "duplicate executable candidate"
      validateCandidates (executable :: executables) rest

def validateGame (game : GameRecord) : Schema Unit := do
  if !validIdentifier game.gameId || !validIdentifier game.providerId then
    fail .invalidValue "invalid Game/provider ID"
  if game.providerAppId.any (!validIdentifier ·) then fail .invalidValue "invalid provider_app_id"
  validateWide game.title kMaximumTitleCodeUnits "Game title" false
  validateWide game.installRoot kMaximumPathCodeUnits "install_root" false
  if game.executableCandidates.isEmpty ||
      game.executableCandidates.length > kMaximumExecutableCandidates then
    fail .boundsExceeded "executable_candidates must contain 1..32 entries"
  validateCandidates [] game.executableCandidates
  validateOptionalWide game.localVersion kMaximumDisplayNameCodeUnits "local_version"
  if game.executableSha256.any (!validSha256 ·) then
    fail .invalidValue "executable_sha256 must contain 64 hexadecimal characters"
  validateOptionalReference game.compatibility

def validateGameRecordDocument (document : GameRecordDocument) : Schema Unit := do
  if document.schemaVersion ≠ kProfileSchemaVersion then
    fail .unsupportedVersion "unsupported Game schema version"
  if document.games.length > kMaximumGames then fail .boundsExceeded "too many Game records"
  document.games.forM validateGame
  uniqueIds (document.games.map (·.gameId)) "games"

def validateRecipe (recipe : InstanceRecipe) : Schema Unit := do
  if recipe.arguments.length > kMaximumArgumentsPerInstance then
    fail .boundsExceeded "instance recipe has too many arguments"
  recipe.arguments.forM fun argument =>
    validateWide argument kMaximumArgumentCodeUnits "instance argument" true
  validateOptionalWide recipe.workingDirectory kMaximumPathCodeUnits "instance path"
  validateOptionalWide recipe.dataRoot kMaximumPathCodeUnits "instance path"

def validateSetup (setup : TwoPlayerSetup) : Schema Unit := do
  if !validIdentifier setup.setupId || !validIdentifier setup.gameId then
    fail .invalidValue "invalid setup_id/game_id"
  validateWide setup.displayName kMaximumDisplayNameCodeUnits "setup display_name" false
  validateOptionalReference setup.compatibility
  if setup.instances.length ≠ 2 then
    fail .invalidValue "TwoPlayerSetup must contain exactly two instance recipes"
  setup.instances.forM validateRecipe

def validateTwoPlayerSetupDocument (document : TwoPlayerSetupDocument) : Schema Unit := do
  if document.schemaVersion ≠ kProfileSchemaVersion then
    fail .unsupportedVersion "unsupported setup schema version"
  if document.setups.length > kMaximumSetups then
    fail .boundsExceeded "too many TwoPlayerSetup records"
  document.setups.forM validateSetup
  uniqueIds (document.setups.map (·.setupId)) "setups"

/-- The loop over the bindings, with the Seats so far. -/
def validateBindings : List UInt32 → List RuntimeBinding → Schema Unit
  | _, [] => .ok ()
  | seats, binding :: rest => do
      if binding.seatId = 0 || !validIdentifier binding.playerId ||
          !validIdentifier binding.gameId ||
          binding.setupId.any (!validIdentifier ·) then
        fail .invalidValue "invalid runtime binding field"
      if binding.seatId ∈ seats then fail .duplicateId "duplicate runtime Seat binding"
      validateBindings (binding.seatId :: seats) rest

/-- `localValidate` of the codec of a selection, which knows no other
document. -/
def localValidate (selection : RuntimeSessionSelection) : Schema Unit := do
  if selection.schemaVersion ≠ kProfileSchemaVersion then
    fail .unsupportedVersion "unsupported runtime schema version"
  if selection.bindings.isEmpty || selection.bindings.length > kMaximumRuntimeBindings then
    fail .boundsExceeded "runtime selection must contain one or two bindings"
  validateBindings [] selection.bindings

end HydraSeat.Profile
