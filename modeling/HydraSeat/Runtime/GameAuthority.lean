import HydraSeat.Runtime.SessionController

/-!
# What a game token can do without the game lease

Every operation that asks `ownsTokenLocked` refuses a game token whose lease
is not held.  The three controller calls compare the generation instead, and
a configuration lease keeps the generation alive.
-/

namespace HydraSeat.Runtime.SessionController

open Controller
open Foundation Request Seat

variable {self : SessionController} {token : ActivationToken} {request : Request}

/-- The token of a request that demands one of the game class. -/
def Request.gameToken? : Request → Option ActivationToken
  | .publishProcess token _ => some token
  | .bindTargetWindow token _ _ => some token
  | .clearTargetWindow token _ _ => some token
  | .pollController _ token _ => some token
  | .setControllerVibration _ token _ _ _ => some token
  | .virtualXInputMapping token => some token
  | .releaseSeatLease token =>
    if token.leaseClass = .gameProcess then some token else none
  | .acquireSeatLease _ _ => none
  | .bindController _ _ _ => none
  | .clearController _ => none

/-- The answer by which an operation refuses. -/
def Request.refusal : Request → Answer
  | .acquireSeatLease _ _ => .token {}
  | .pollController _ _ _ => .polled ⟨.invalidBinding, none⟩
  | .setControllerVibration _ _ _ _ _ => .vibration .invalidBinding
  | .virtualXInputMapping _ => .mapping none
  | .publishProcess _ _ => .accepted false
  | .bindTargetWindow _ _ _ => .accepted false
  | .clearTargetWindow _ _ _ => .accepted false
  | .bindController _ _ _ => .accepted false
  | .clearController _ => .accepted false
  | .releaseSeatLease _ => .accepted false

/-- The request is refused, reaches no device and changes nothing. -/
def Refused (self : SessionController) (request : Request) : Prop :=
  self.perform request = { answer := request.refusal, nativeCalls := [], state := self }

/-- The Seat that the token names, if there is one, has no game lease. -/
def GameLeaseInactive (self : SessionController) (token : ActivationToken) : Prop :=
  ∀ seat, ofId? token.seatId = some seat → (self.runtime seat).gameLeaseActive = false

/-- A valid game token of the current generation of its Seat, which a
configuration lease keeps open with a binding stored. -/
structure OutlivesGameLease (state : SessionController) (token : ActivationToken) (seat : Seat)
    (binding : SeatBinding) : Prop where
  valid : token.valid = true
  game : token.leaseClass = .gameProcess
  named : ofId? token.seatId = some seat
  generation : (state.runtime seat).generation = token.generation
  uiLease : (state.runtime seat).uiLeaseActive = true
  stored : (state.runtime seat).controllerBinding = some binding

/-- The check that a controller call makes of the stored binding itself. -/
def Request.admits : Request → SeatBinding → Bool
  | .pollController _ _ _, binding => reachesRuntimeSource binding
  | .setControllerVibration _ _ _ _ _, binding => reachesRuntimeSource binding
  | .virtualXInputMapping token, binding =>
    VirtualXInputMapping.valid ⟨token.seatId, token.generation, binding⟩
  | _, _ => false

/-- The request is a controller call that the stored binding admits under a
token that has outlived its game lease. -/
def UsesStaleAuthority (self : SessionController) (request : Request)
    (token : ActivationToken) : Prop :=
  ∃ seat binding, OutlivesGameLease self token seat binding ∧ request.admits binding = true

theorem boundController_eq_some_iff
    {binding : SeatBinding} (inactive : self.GameLeaseInactive token) :
    self.boundController token = some binding ↔
      ∃ seat, OutlivesGameLease self token seat binding := by
  unfold boundController
  constructor
  · intro bound
    obtain ⟨valid, bound⟩ := not_taken bound nofun
    simp only [Bool.or_eq_true, Bool.not_eq_true', not_or,
      Bool.not_eq_false, bne_iff_ne, ne_eq, not_not] at valid
    cases named : Seat.ofId? token.seatId with
    | none =>
      rw [named] at bound
      cases bound
    | some seat =>
      rw [named] at bound
      dsimp only at bound
      obtain ⟨current, bound⟩ := not_taken bound nofun
      simp only [SeatRuntime.snapshot, SeatRuntime.active,
        inactive seat named, Bool.or_false, Bool.or_eq_true,
        Bool.not_eq_true', not_or, Bool.not_eq_false, bne_iff_ne,
        ne_eq, not_not] at current bound
      exact ⟨seat, valid.1, valid.2, named, current.2, current.1, bound⟩
  · rintro ⟨seat, outlives⟩
    rw [if_neg (by simp [outlives.valid, outlives.game])]
    simp [outlives.named, SeatRuntime.snapshot, SeatRuntime.active,
      outlives.uiLease, outlives.generation, outlives.stored]

theorem boundController_eq_none_iff (inactive : self.GameLeaseInactive token) :
    self.boundController token = none ↔
      ∀ seat binding, ¬ OutlivesGameLease self token seat binding := by
  constructor
  · intro unbound seat binding outlives
    have bound := (boundController_eq_some_iff inactive).mpr ⟨seat, outlives⟩
    rw [unbound] at bound
    cases bound
  intro never
  cases bound : self.boundController token with
  | none => rfl
  | some binding =>
    obtain ⟨seat, outlives⟩ := (boundController_eq_some_iff inactive).mp bound
    exact absurd outlives (never seat binding)

theorem acceptance_refused {result : Bool × SessionController}
    (performed : self.perform request = accepting result)
    (refusal : request.refusal = .accepted false)
    (refused : result = (false, self)) :
    self.Refused request := by
  unfold Refused
  rw [performed, refused, refusal]
  rfl

section

variable (inactive : self.GameLeaseInactive token)
include inactive

theorem onSeat_refused {seat : Seat} {operation : SeatRuntime seat.id → Bool × SeatRuntime seat.id}
    (named : ofId? token.seatId = some seat)
    (effect :
      operation (self.runtime seat) = (false, self.runtime seat) ∨
        ((self.runtime seat).ownsToken token = true ∧ token.leaseClass = .gameProcess)) :
    self.onSeat seat operation = (false, self) := by
  rcases effect with refused | ⟨owned, game⟩
  · simp only [onSeat, refused, setRuntime_runtime]
  · rw [SeatRuntime.not_ownsToken_of_game_inactive (inactive seat named) game] at owned
    cases owned

theorem publishProcess_refused (process : ProcessIdentity) :
    self.publishProcess token process = (false, self) := by
  unfold publishProcess
  split
  · rfl
  cases named : ofId? token.seatId with
  | none => rfl
  | some seat =>
    dsimp only
    split
    · rfl
    apply onSeat_refused inactive named
    rcases (self.runtime seat).publishProcess_cases token process with
      refused | ⟨_, owned, game, _⟩
    · exact Or.inl refused
    · exact Or.inr ⟨owned, game⟩

theorem bindTargetWindow_refused (owner : ProcessIdentity) (hwnd : UInt64) :
    self.bindTargetWindow token owner hwnd = (false, self) := by
  unfold bindTargetWindow
  split
  · rfl
  cases named : ofId? token.seatId with
  | none => rfl
  | some seat =>
    dsimp only
    split
    · rfl
    apply onSeat_refused inactive named
    rcases (self.runtime seat).bindTargetWindow_cases token owner hwnd with
      refused | ⟨_, owned, game, _⟩
    · exact Or.inl refused
    · exact Or.inr ⟨owned, game⟩

theorem clearTargetWindow_refused (owner : ProcessIdentity) (expectedHwnd : UInt64) :
    self.clearTargetWindow token owner expectedHwnd = (false, self) := by
  unfold clearTargetWindow
  split
  · rfl
  cases named : ofId? token.seatId with
  | none => rfl
  | some seat =>
    apply onSeat_refused inactive named
    rcases (self.runtime seat).clearTargetWindow_cases token owner expectedHwnd with
      refused | ⟨owned, game, _⟩
    · exact Or.inl refused
    · exact Or.inr ⟨owned, game⟩

theorem releaseSeatLease_refused (game : token.leaseClass = .gameProcess) :
    self.releaseSeatLease token = (false, self) := by
  unfold releaseSeatLease
  cases named : ofId? token.seatId with
  | none => rfl
  | some seat =>
    apply onSeat_refused inactive named
    rcases (self.runtime seat).releaseLease_cases token with
      refused | ⟨owned, _⟩
    · exact Or.inl refused
    · exact Or.inr ⟨owned, game⟩

/-- A controller call whose answer is a function of the bound controller is
refused exactly when no admitted binding outlives the lease. -/
theorem controllerCall_refused_iff
    (unbound : self.boundController token = none → self.Refused request)
    (bound :
      ∀ binding, self.boundController token = some binding →
        (self.Refused request ↔ request.admits binding = false)) :
    self.Refused request ↔ ¬ self.UsesStaleAuthority request token := by
  cases current : self.boundController token with
  | none =>
    have never := (boundController_eq_none_iff inactive).mp current
    refine iff_of_true (unbound current) ?_
    rintro ⟨seat, binding, outlives, _⟩
    exact never seat binding outlives
  | some binding =>
    rw [bound binding current]
    obtain ⟨seat, outlives⟩ := (boundController_eq_some_iff inactive).mp current
    constructor
    · rintro inadmissible ⟨tested, testedBinding, testedOutlives, admitted⟩
      have same := (boundController_eq_some_iff inactive).mpr ⟨tested, testedOutlives⟩
      rw [current] at same
      rw [← Option.some.inj same, inadmissible] at admitted
      cases admitted
    · intro unused
      rw [Bool.eq_false_iff]
      exact fun admitted => unused ⟨seat, binding, outlives, admitted⟩

theorem pollController_refused_iff (native : NativeXInput) (inventory : InventorySnapshot) :
    self.Refused (.pollController native token inventory) ↔
      ¬ self.UsesStaleAuthority (.pollController native token inventory) token := by
  apply controllerCall_refused_iff inactive
  · intro unbound
    simp [Refused, perform, pollController, unbound, refusal]
  · intro binding bound
    rw [admits, ← pollBoundController_invalid_iff native binding inventory]
    simp [Refused, perform, pollController, bound, refusal, Prod.ext_iff]

theorem setControllerVibration_refused_iff (native : NativeXInput) (inventory : InventorySnapshot)
    (low high : UInt16) :
    self.Refused (.setControllerVibration native token inventory low high) ↔
      ¬ self.UsesStaleAuthority (.setControllerVibration native token inventory low high)
        token := by
  apply controllerCall_refused_iff inactive
  · intro unbound
    simp [Refused, perform, setControllerVibration, unbound, refusal]
  intro binding bound
  rw [admits,
    ← setBoundControllerVibration_invalid_iff native binding inventory
      low high]
  simp [Refused, perform, setControllerVibration, bound, refusal, Prod.ext_iff]

theorem virtualXInputMapping_refused_iff :
    self.Refused (.virtualXInputMapping token) ↔
      ¬ self.UsesStaleAuthority (.virtualXInputMapping token) token := by
  apply controllerCall_refused_iff inactive
  · intro unbound
    simp [Refused, perform, virtualXInputMapping, unbound, refusal]
  · intro binding bound
    simp [Refused, perform, virtualXInputMapping, bound, refusal, admits]

end

/-- An operation that asks for the lease never uses stale authority. -/
theorem not_usesStaleAuthority (token : ActivationToken)
    (never : ∀ binding, request.admits binding = false) :
    ¬ self.UsesStaleAuthority request token := by
  rintro ⟨seat, binding, _, admitted⟩
  rw [never binding] at admitted
  cases admitted

theorem refused_iff_of_game_inactive (demands : request.gameToken? = some token)
    (inactive : self.GameLeaseInactive token) :
    self.Refused request ↔ ¬ self.UsesStaleAuthority request token := by
  cases request with
  | acquireSeatLease seatId leaseClass | bindController tested binding inventory
  | clearController tested => cases demands
  | publishProcess tested process =>
    cases demands
    exact iff_of_true (acceptance_refused rfl rfl (publishProcess_refused inactive process))
      (not_usesStaleAuthority _ fun _ => rfl)
  | bindTargetWindow tested owner hwnd =>
    cases demands
    exact iff_of_true (acceptance_refused rfl rfl (bindTargetWindow_refused inactive owner hwnd))
      (not_usesStaleAuthority _ fun _ => rfl)
  | clearTargetWindow tested owner expectedHwnd =>
    cases demands
    exact iff_of_true
      (acceptance_refused rfl rfl (clearTargetWindow_refused inactive owner expectedHwnd))
      (not_usesStaleAuthority _ fun _ => rfl)
  | pollController native tested inventory =>
    cases demands
    exact pollController_refused_iff inactive native inventory
  | setControllerVibration native tested inventory low high =>
    cases demands
    exact setControllerVibration_refused_iff inactive native inventory low high
  | virtualXInputMapping tested =>
    cases demands
    exact virtualXInputMapping_refused_iff inactive
  | releaseSeatLease tested =>
    simp only [gameToken?] at demands
    split at demands
    next game =>
      cases demands
      exact iff_of_true (acceptance_refused rfl rfl (releaseSeatLease_refused inactive game))
        (not_usesStaleAuthority _ fun _ => rfl)
    · cases demands

/-- After any history, a request under a game token whose lease is not held
is refused and changes nothing, exactly when it is not a controller call
that a configuration lease and a stored binding let through. -/
theorem game_request_refused_iff (history : List Request) (request : Request)
    (token : ActivationToken)
    (demands : request.gameToken? = some token)
    (inactive : (runFrom step {} history).GameLeaseInactive token) :
    (runFrom step {} history).Refused request ↔
      ¬ (runFrom step {} history).UsesStaleAuthority request token :=
  refused_iff_of_game_inactive demands inactive

section StaleGameToken

def connectedPad : NativeXInput where
  getState := fun _ => (errorSuccess, { buttons := 4096 })
  setState := fun _ _ _ => errorSuccess

def slotZeroInventory : InventorySnapshot where
  authoritative := true
  sources := [scannedSource 0 true 1]

def releasedGameToken : ActivationToken := ⟨1, 1, .gameProcess⟩

/-- A game starts under an open configuration lease, binds slot zero and
ends; the configuration lease stays. -/
def gameEndsUnderConfiguration : List Request :=
  [.acquireSeatLease 1 .uiConfiguration, .acquireSeatLease 1 .gameProcess,
    .bindController releasedGameToken
      { seatId := 1, runtimeKey := xinputRuntimeKey 0, runtimeXInputSlot := some 0
        sourceGeneration := 1 } slotZeroInventory,
    .releaseSeatLease releasedGameToken]

theorem released_token_is_inactive :
    (runFrom step {} gameEndsUnderConfiguration).GameLeaseInactive releasedGameToken := by
  intro seat named
  have seatName : seat = .first := (Option.some.inj named).symm
  subst seatName
  decide

theorem released_token_still_polls :
    ¬ ∀ (history : List Request) (request : Request) (token : ActivationToken),
      request.gameToken? = some token →
        (runFrom step {} history).GameLeaseInactive token →
          (runFrom step {} history).Refused request := by
  intro always
  have refused := always gameEndsUnderConfiguration
    (.pollController connectedPad releasedGameToken slotZeroInventory)
    releasedGameToken rfl released_token_is_inactive
  have answer := congrArg Outcome.answer refused
  revert answer
  decide

theorem released_token_poll_refused_iff :
    (runFrom step {} gameEndsUnderConfiguration).Refused
        (.pollController connectedPad releasedGameToken slotZeroInventory) ↔
      ¬ (runFrom step {} gameEndsUnderConfiguration).UsesStaleAuthority
        (.pollController connectedPad releasedGameToken slotZeroInventory) releasedGameToken :=
  game_request_refused_iff gameEndsUnderConfiguration _
    releasedGameToken rfl released_token_is_inactive

end StaleGameToken

end HydraSeat.Runtime.SessionController
