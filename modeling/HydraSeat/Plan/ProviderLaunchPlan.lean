import HydraSeat.Foundation.Bytes
import HydraSeat.Plan.ProviderAdapter
import HydraSeat.Profile.RuntimeSelection

/-!
# The provider-aware launch plan

The plan is compiled from the profile documents, a selection, the adapters of
the providers and the runtime requirements of the games.  The first check
that fails ends the compilation with one issue.
-/

namespace HydraSeat.Plan

open Foundation
open Profile
open Provider

def kProviderLaunchPlanSchemaVersion : UInt32 := 1

structure Requirements where
  display : Bool := true
  (keyboard mouse controller audioOutput : Bool := false)
  (windowOwnership recovery : Bool := true)
  highRisk : Bool := false
  deriving DecidableEq

structure Capabilities where
  (process window display input controller audio recovery : Bool := true)
  deriving DecidableEq

structure GameRuntimeRequirement where
  gameId : ByteString := []
  revision : UInt64 := 0
  validatedSeatCount : UInt8 := 0
  requirements : Requirements := {}
  capabilities : Capabilities := {}
  highRiskApproved : Bool := false
  compatibility : Option CompatibilityReference := none
  deriving DecidableEq

/-- The adapter may be missing; without an application it serves the whole
provider. -/
structure ProviderAdapterBinding where
  providerId : ByteString
  adapter : Option LauncherProviderAdapter
  providerAppId : Option ByteString := none

structure SeatProviderLaunchPlan where
  seatId : UInt32 := 0
  (playerId gameId : ByteString := [])
  setupId : Option ByteString := none
  instanceIndex : UInt32 := 0
  requirementRevision : UInt64 := 0
  compatibility : Option CompatibilityReference := none
  instanceRecipe : Option InstanceRecipe := none
  hardwareFingerprint : UInt64 := 0
  requirements : Requirements := {}
  capabilities : Capabilities := {}
  launchRequest : ProviderLaunchRequest := {}

structure ProviderAwareLaunchPlan where
  schemaVersion : UInt32 := kProviderLaunchPlanSchemaVersion
  fingerprint : UInt64 := 0
  seats : List SeatProviderLaunchPlan := []

inductive PlanIssueCode where
  | invalidSeatDocument | invalidPlayerDocument | invalidGameDocument | invalidSetupDocument
  | invalidRuntimeSelection | activeSeatCount | missingSeat | inactiveSeat | missingPlayer
  | missingGame | missingRequirement | duplicateRequirement | staleCompatibility | missingProvider
  | duplicateProvider | providerUnavailable | providerLaunchRejected | ambiguousAccountReference
  | missingTwoPlayerSetup | invalidTwoPlayerSetup | missingDisplay | missingKeyboard | missingMouse
  | missingController | missingAudioOutput | missingCapability | highRiskApprovalRequired
  | duplicateExclusiveHardware | validationSeatScopeExceeded
  deriving DecidableEq

structure PlanIssue where
  code : PlanIssueCode
  seatId : UInt32
  detail : ByteString

/-- A plan, or the one issue that a failed compilation reports. -/
abbrev Planned := Except PlanIssue

def failure {α : Type} (code : PlanIssueCode) (seatId : UInt32) (detail : ByteString) : Planned α :=
  .error ⟨code, seatId, detail⟩

/-- `StableHash` behind the bytes that were fed to it. -/
def stableHash (bytes : ByteString) : UInt64 :=
  bytes.foldl (fun hash byte => (hash ^^^ byte.toUInt64) * 1099511628211) 1469598103934665603

def hashBoolean (value : Bool) : ByteString := [if value then 1 else 0]

def hashText (value : ByteString) : ByteString := writeU64 (UInt64.ofNat value.length) ++ value

def hashWide (value : WideString) : ByteString :=
  writeU64 (UInt64.ofNat value.length) ++ value.flatMap fun unit => writeU32 unit.toUInt32

def hashOptional {α : Type} (hash : α → ByteString) : Option α → ByteString
  | none => hashBoolean false
  | some value => hashBoolean true ++ hash value

def hashWides (values : List WideString) : ByteString :=
  writeU64 (UInt64.ofNat values.length) ++ values.flatMap hashWide

def hashCompatibility : Option CompatibilityReference → ByteString :=
  hashOptional fun value =>
    hashText value.recordId ++ hashText value.provenance ++ writeU32 value.evidenceRevision

def hashRecipe : Option InstanceRecipe → ByteString :=
  hashOptional fun recipe =>
    hashWides recipe.arguments ++ hashOptional hashWide recipe.workingDirectory ++
      hashOptional hashWide recipe.dataRoot

def hashRequirements (value : Requirements) : ByteString :=
  [value.display, value.keyboard, value.mouse, value.controller,
    value.audioOutput, value.windowOwnership, value.recovery,
    value.highRisk].flatMap hashBoolean

def hashCapabilities (value : Capabilities) : ByteString :=
  [value.process, value.window, value.display, value.input,
    value.controller, value.audio, value.recovery].flatMap hashBoolean

def hashSortedWideRange (values : List WideString) : ByteString :=
  hashWides (values.insertionSort fun left right => left.map UInt16.toNat ≤ right.map UInt16.toNat)

def hardwareFingerprint (seat : PersistedSeatConfig) : UInt64 :=
  stableHash
    (writeU32 seat.seatId ++ hashSortedWideRange seat.displayIds ++
      hashOptional hashWide seat.primaryDisplayId ++
      hashSortedWideRange seat.keyboardIds ++
      hashSortedWideRange seat.mouseIds ++
      hashSortedWideRange seat.controllerIds ++
      hashOptional hashWide seat.audioOutputEndpointId ++
      hashOptional hashWide seat.audioInputEndpointId)

def targetKindCode : Provider.LaunchTargetKind → UInt32
  | .executable => 0
  | .providerUri => 1

def hashRequest (request : ProviderLaunchRequest) : ByteString :=
  hashText request.providerId ++ hashText request.gameId ++
    hashOptional hashText request.providerAppId ++
    hashOptional hashText request.accountRef ++
    writeU64 request.metadataRevision ++
    writeU32 (targetKindCode request.targetKind) ++
    hashWide request.target ++ hashWides request.arguments ++
    hashOptional hashWide request.workingDirectory ++
    hashText request.launchCorrelationId

def hashSeat (seat : SeatProviderLaunchPlan) : ByteString :=
  writeU32 seat.seatId ++ hashText seat.playerId ++ hashText seat.gameId ++
    hashOptional hashText seat.setupId ++ writeU32 seat.instanceIndex ++
    writeU64 seat.requirementRevision ++
    hashCompatibility seat.compatibility ++ hashRecipe seat.instanceRecipe ++
    writeU64 seat.hardwareFingerprint ++ hashRequirements seat.requirements ++
    hashCapabilities seat.capabilities ++ hashRequest seat.launchRequest

def fingerprint (seats : List SeatProviderLaunchPlan) : UInt64 :=
  stableHash
    (writeU32 kProviderLaunchPlanSchemaVersion ++
      writeU64 (UInt64.ofNat seats.length) ++ seats.flatMap hashSeat)

def preflightSeat (seat : PersistedSeatConfig)
    (requirement : GameRuntimeRequirement) : Planned Unit :=
  let needs := requirement.requirements
  let caps := requirement.capabilities
  if needs.display && seat.displayIds.isEmpty then
    failure .missingDisplay seat.seatId "selected game requires a display"
  else if seat.primaryDisplayId.any fun primary =>
      !seat.displayIds.contains primary then
    failure .missingDisplay seat.seatId "primary display is outside the Seat display group"
  else if needs.keyboard && seat.keyboardIds.isEmpty then
    failure .missingKeyboard seat.seatId "selected game requires a keyboard"
  else if needs.mouse && seat.mouseIds.isEmpty then
    failure .missingMouse seat.seatId "selected game requires a pointing device"
  else if needs.controller && seat.controllerIds.isEmpty then
    failure .missingController seat.seatId "selected game requires a controller"
  else if needs.audioOutput && seat.audioOutputEndpointId.isNone then
    failure .missingAudioOutput seat.seatId "selected game requires an audio output"
  else if !caps.process || (needs.windowOwnership && !caps.window) ||
      (needs.display && !caps.display) ||
      ((needs.keyboard || needs.mouse) && !caps.input) ||
      (needs.controller && !caps.controller) ||
      (needs.audioOutput && !caps.audio) ||
      (needs.recovery && !caps.recovery) then
    failure .missingCapability seat.seatId "required runtime capability is unavailable"
  else if needs.highRisk && !requirement.highRiskApproved then
    failure .highRiskApprovalRequired seat.seatId
      "selected compatibility path requires explicit approval"
  else .ok ()

/-- The ids that are inserted one by one into a set, unless one is there. -/
def assign : List WideString → List WideString → Option (List WideString)
  | seen, [] => some seen
  | seen, id :: rest => if id ∈ seen then none else assign (id :: seen) rest

/-- The sets of `preflightExclusiveHardware`. -/
structure AssignedHardware where
  (displays keyboards mice controllers audio : List WideString := [])

def assignFor (seatId : UInt32) (detail : ByteString)
    (seen ids : List WideString) : Planned (List WideString) :=
  match assign seen ids with
  | none => failure .duplicateExclusiveHardware seatId detail
  | some seen => .ok seen

def assignSeat (assigned : AssignedHardware) (seat : PersistedSeatConfig) :
    Planned AssignedHardware := do
  let displays ← assignFor seat.seatId "display identity is assigned to multiple selected Seats"
    assigned.displays seat.displayIds
  let keyboards ← assignFor seat.seatId "keyboard identity is assigned to multiple selected Seats"
    assigned.keyboards seat.keyboardIds
  let mice ← assignFor seat.seatId "mouse identity is assigned to multiple selected Seats"
    assigned.mice seat.mouseIds
  let controllers ← assignFor seat.seatId
    "controller identity is assigned to multiple selected Seats"
    assigned.controllers seat.controllerIds
  let audio ← assignFor seat.seatId "audio output is assigned to multiple selected Seats"
    assigned.audio seat.audioOutputEndpointId.toList
  return { displays, keyboards, mice, controllers, audio }

def preflightExclusiveHardware (seats : List PersistedSeatConfig) : Planned Unit := do
  let _ ← seats.foldlM assignSeat {}
  return ()

def findSeat (document : SeatConfigDocument) (seatId : UInt32) : Option PersistedSeatConfig :=
  document.seats.find? (·.seatId == seatId)

def findPlayer (document : PlayerProfileDocument) (playerId : ByteString) : Option PlayerProfile :=
  document.players.find? (·.playerId == playerId)

def findGame (document : GameRecordDocument) (gameId : ByteString) : Option GameRecord :=
  document.games.find? (·.gameId == gameId)

def findSetup (document : TwoPlayerSetupDocument) (setupId : ByteString) : Option TwoPlayerSetup :=
  document.setups.find? (·.setupId == setupId)

/-- The loop over the bindings of adapters: the adapter bound to exactly this
application if one was matched, the adapter of the whole provider if one is
known, and nothing at all when two bindings match. -/
def findProviderLoop (providerId : ByteString) (providerAppId : Option ByteString) :
    Option (Option LauncherProviderAdapter) →
    Option LauncherProviderAdapter → List ProviderAdapterBinding →
    Option (Option LauncherProviderAdapter)
  | exact, providerWide, [] => some (exact.getD providerWide)
  | exact, providerWide, binding :: rest =>
    if binding.providerId ≠ providerId then
      findProviderLoop providerId providerAppId exact providerWide rest
    else if binding.providerAppId.isSome then
      if binding.providerAppId ≠ providerAppId then
        findProviderLoop providerId providerAppId exact providerWide rest
      else if exact.isSome then none
      else findProviderLoop providerId providerAppId (some binding.adapter) providerWide rest
    else if providerWide.isSome then none
    else findProviderLoop providerId providerAppId exact binding.adapter rest

/-- The adapter, which may be missing; nothing when it is ambiguous. -/
def findProvider (providers : List ProviderAdapterBinding)
    (providerId : ByteString) (providerAppId : Option ByteString) :
    Option (Option LauncherProviderAdapter) :=
  findProviderLoop providerId providerAppId none none providers

structure PlanningInput where
  seats : SeatConfigDocument
  players : PlayerProfileDocument
  games : GameRecordDocument
  setups : TwoPlayerSetupDocument
  selection : RuntimeSessionSelection
  providers : List ProviderAdapterBinding
  requirements : List GameRuntimeRequirement

namespace PlanningInput

variable (input : PlanningInput) (binding : RuntimeBinding)

/-- `schemaFailure` of a document that is not valid. -/
def checked (validation : Schema Unit) (code : PlanIssueCode) (label : String) : Planned Unit :=
  match validation with
  | .ok () => .ok ()
  | .error diagnostic => failure code 0 (bytesOf label ++ ": " ++ diagnostic.message)

def validateDocuments : Planned Unit := do
  checked (validateSeatConfigDocument input.seats) .invalidSeatDocument "Seat document"
  checked (validatePlayerProfileDocument input.players) .invalidPlayerDocument "Player document"
  checked (validateGameRecordDocument input.games) .invalidGameDocument "Game document"
  checked (validateTwoPlayerSetupDocument input.setups) .invalidSetupDocument "Setup document"
  checked
    (validateRuntimeSessionSelection input.selection input.seats
      input.players input.games input.setups)
    .invalidRuntimeSelection "Runtime selection"
  if input.selection.bindings.isEmpty || input.selection.bindings.length > 2 then
    failure .activeSeatCount 0 "provider-aware plan requires one or two selected Seats"
  else .ok ()

def bindings : List RuntimeBinding :=
  input.selection.bindings.insertionSort fun left right => left.seatId ≤ right.seatId

def validatePair : Planned Unit :=
  match input.bindings with
  | [first, second] =>
    if first.gameId = second.gameId then
      if first.setupId.isNone || second.setupId.isNone || first.setupId ≠ second.setupId then
        failure .missingTwoPlayerSetup 0 "same-game two-Seat selection requires one shared setup"
      else if first.instanceIndex = second.instanceIndex then
        failure .invalidTwoPlayerSetup 0 "same-game Seats must select different setup instances"
      else .ok ()
    else if first.setupId.isSome || second.setupId.isSome then
      failure .invalidTwoPlayerSetup 0 "two-player setup cannot bind two different games"
    else .ok ()
  | _ => .ok ()

def selectSeat : Planned PersistedSeatConfig :=
  match findSeat input.seats binding.seatId with
  | none => failure .missingSeat binding.seatId "selected Seat is missing"
  | some seat =>
    if !seat.active then failure .inactiveSeat binding.seatId "selected Seat is inactive"
    else .ok seat

/-- The Seats that the bindings select, checked together. -/
def selectSeats : Planned (List PersistedSeatConfig) := do
  input.validateDocuments
  input.validatePair
  let selectedSeats ← input.bindings.mapM input.selectSeat
  preflightExclusiveHardware selectedSeats
  return selectedSeats

/-- The Player, the game and its requirement, as far as they are checked
before the Seat. -/
def selectGame : Planned (PlayerProfile × GameRecord × GameRuntimeRequirement) :=
  match findPlayer input.players binding.playerId with
  | none => failure .missingPlayer binding.seatId "selected Player is missing"
  | some player =>
  match findGame input.games binding.gameId with
  | none => failure .missingGame binding.seatId "selected Game is missing"
  | some game =>
  match input.requirements.filter (·.gameId == game.gameId) with
  | [] =>
    failure .missingRequirement binding.seatId
      "selected Game has no exact runtime requirement record"
  | _ :: _ :: _ =>
    failure .duplicateRequirement binding.seatId
      (bytesOf ("multiple runtime requirement records match the selected " ++ "Game"))
  | [requirement] =>
    let selectedGameSeatCount := UInt8.ofNat (input.bindings.countP (·.gameId == binding.gameId))
    if requirement.validatedSeatCount < 1 ∨ requirement.validatedSeatCount > 2 ∨
        selectedGameSeatCount > requirement.validatedSeatCount then
      failure .validationSeatScopeExceeded binding.seatId
        (bytesOf ("selected Game exceeds its trusted physical validation " ++ "Seat scope"))
    else if requirement.revision = 0 ∨ requirement.compatibility ≠ game.compatibility then
      failure .staleCompatibility binding.seatId
        (bytesOf ("runtime requirement evidence does not match the " ++ "selected Game"))
    else .ok (player, game, requirement)

def selectAdapter (game : GameRecord) : Planned LauncherProviderAdapter :=
  match findProvider input.providers game.providerId game.providerAppId with
  | none =>
    failure .duplicateProvider binding.seatId "multiple provider adapters match the selected Game"
  | some none => failure .missingProvider binding.seatId "selected Game provider is unavailable"
  | some (some adapter) =>
    if adapter.descriptor.providerId ≠ game.providerId ∨
        adapter.descriptor.availability ≠ .available then
      failure .providerUnavailable binding.seatId
        "provider snapshot is absent, offline, or mismatched"
    else .ok adapter

def resolveAccount (player : PlayerProfile)
    (providerId : ByteString) : Planned (Option ByteString) :=
  match player.providerAccounts.filter (·.providerId == providerId) with
  | [] => .ok none
  | [account] => .ok (some account.accountRef)
  | _ :: _ :: _ =>
    failure .ambiguousAccountReference binding.seatId
      (bytesOf ("Player has multiple account references for this " ++ "provider"))

def selectRecipe (game : GameRecord) : Planned (Option InstanceRecipe) :=
  match binding.setupId with
  | none => .ok none
  | some setupId =>
    match findSetup input.setups setupId with
    | none =>
      failure .invalidTwoPlayerSetup binding.seatId
        "selected setup does not match the Game/instance"
    | some setup =>
      if setup.gameId ≠ game.gameId ∨ setup.instances.length ≠ 2 ∨ binding.instanceIndex ≥ 2 then
        failure .invalidTwoPlayerSetup binding.seatId
          "selected setup does not match the Game/instance"
      else if setup.compatibility.isSome ∧ setup.compatibility ≠ game.compatibility then
        failure .staleCompatibility binding.seatId
          "two-player setup compatibility evidence is stale"
      else .ok setup.instances[binding.instanceIndex.toNat]?

def requestFor (adapter : LauncherProviderAdapter) (selection : LaunchSelection) :
    Planned ProviderLaunchRequest :=
  match requestLaunch adapter selection with
  | .ok request => .ok request
  | .error diagnostic =>
    failure .providerLaunchRejected binding.seatId
      (bytesOf (providerResultName diagnostic.result) ++ ": " ++ diagnostic.message)

/-- The plan of a Seat behind the checks of the Seat. -/
def planGame (seat : PersistedSeatConfig) (player : PlayerProfile) (game : GameRecord)
    (requirement : GameRuntimeRequirement) :
    Planned SeatProviderLaunchPlan := do
  let adapter ← input.selectAdapter binding game
  let account ← resolveAccount binding player game.providerId
  let recipe ← input.selectRecipe binding game
  let request ← requestFor binding adapter
    { providerId := game.providerId, gameId := game.gameId, providerAppId := game.providerAppId
      accountRef := account, expectedMetadataRevision := adapter.descriptor.metadataRevision
      instanceArguments := (recipe.map (·.arguments)).getD [] }
  return {
    seatId := binding.seatId
    playerId := binding.playerId
    gameId := binding.gameId
    setupId := binding.setupId
    instanceIndex := binding.instanceIndex
    requirementRevision := requirement.revision
    compatibility := requirement.compatibility
    instanceRecipe := recipe
    hardwareFingerprint := hardwareFingerprint seat
    requirements := requirement.requirements
    capabilities := requirement.capabilities
    launchRequest := request }

def planSeat (selected : RuntimeBinding × PersistedSeatConfig) :
    Planned SeatProviderLaunchPlan := do
  let (player, game, requirement) ← input.selectGame selected.1
  preflightSeat selected.2 requirement
  input.planGame selected.1 selected.2 player game requirement

def compileProviderAwareLaunchPlan : Planned ProviderAwareLaunchPlan := do
  let selectedSeats ← input.selectSeats
  let seats ← (input.bindings.zip selectedSeats).mapM input.planSeat
  return { fingerprint := fingerprint seats, seats }

end PlanningInput

/-- `recomputeProviderAwareLaunchPlanFingerprint`. -/
def recomputeFingerprint (plan : ProviderAwareLaunchPlan) : UInt64 :=
  if plan.schemaVersion ≠ kProviderLaunchPlanSchemaVersion then 0
  else fingerprint (plan.seats.insertionSort fun left right => left.seatId ≤ right.seatId)

end HydraSeat.Plan
