import HydraSeat.Profile.ProfileSchema

/-!
# A selection against the documents

What a runtime selection refers to: Seats, Players, games and setups that the
documents have.
-/

namespace HydraSeat.Profile

/-- What the loop over the bindings has seen. -/
structure SelectionSeen where
  seatIds : List UInt32 := []
  playerIds : List ByteString := []
  setupInstances : List (ByteString × UInt32) := []

/-- The setup of a binding; its instance is inserted. -/
def validateSelectedSetup (setups : TwoPlayerSetupDocument)
    (seen : SelectionSeen) (binding : RuntimeBinding) :
    Schema SelectionSeen :=
  match binding.setupId with
  | none =>
    if binding.instanceIndex ≠ 0 then
      fail .invalidValue "instance_index must be zero without a TwoPlayerSetup"
    else .ok seen
  | some setupId =>
    if !validIdentifier setupId then fail .invalidValue "invalid setup_id"
    else
      match setups.setups.find? (·.setupId == setupId) with
      | none =>
        fail .crossReferenceError
          (bytesOf ("runtime setup reference is missing or belongs to " ++ "another Game"))
      | some setup =>
        if setup.gameId ≠ binding.gameId then
          fail .crossReferenceError
            (bytesOf ("runtime setup reference is missing or belongs " ++ "to another Game"))
        else if binding.instanceIndex.toNat ≥ setup.instances.length then
          fail .crossReferenceError "runtime instance_index exceeds setup recipe count"
        else if (setupId, binding.instanceIndex) ∈ seen.setupInstances then
          fail .duplicateId "same setup instance is assigned more than once"
        else
          .ok
            { seen with
              setupInstances := (setupId, binding.instanceIndex) :: seen.setupInstances }

def validateSelectedBinding (seats : SeatConfigDocument)
    (players : PlayerProfileDocument) (games : GameRecordDocument)
    (setups : TwoPlayerSetupDocument) (seen : SelectionSeen)
    (binding : RuntimeBinding) : Schema SelectionSeen := do
  if !validIdentifier binding.playerId || !validIdentifier binding.gameId then
    fail .invalidValue "invalid runtime binding ID"
  if binding.seatId ∈ seen.seatIds then
    fail .duplicateId "runtime selection binds one Seat more than once"
  if binding.playerId ∈ seen.playerIds then
    fail .duplicateId "runtime selection binds one Player more than once"
  if !(seats.seats.find? (·.seatId == binding.seatId)).any (·.active) then
    fail .crossReferenceError "runtime binding references missing/inactive Seat"
  if !players.players.any (·.playerId == binding.playerId) then
    fail .crossReferenceError "runtime binding references missing Player"
  if !games.games.any (·.gameId == binding.gameId) then
    fail .crossReferenceError "runtime binding references missing Game"
  validateSelectedSetup setups
    { seen with
      seatIds := binding.seatId :: seen.seatIds, playerIds := binding.playerId :: seen.playerIds }
    binding

def validateRuntimeSessionSelection (selection : RuntimeSessionSelection)
    (seats : SeatConfigDocument) (players : PlayerProfileDocument)
    (games : GameRecordDocument) (setups : TwoPlayerSetupDocument) :
    Schema Unit := do
  if selection.schemaVersion ≠ kProfileSchemaVersion then
    fail .unsupportedVersion "unsupported runtime schema version"
  validateSeatConfigDocument seats
  validatePlayerProfileDocument players
  validateGameRecordDocument games
  validateTwoPlayerSetupDocument setups
  if selection.bindings.isEmpty || selection.bindings.length > kMaximumRuntimeBindings then
    fail .boundsExceeded "runtime selection must contain one or two bindings"
  let _ ← selection.bindings.foldlM (validateSelectedBinding seats players games setups) {}
  return ()

end HydraSeat.Profile
