import HydraSeat.Runtime.SeatRuntime
import HydraSeat.Foundation.Transition

/-!
# The session controller over both Seats

Every public operation of `SessionController` runs under its mutex, so an
interleaving of callers is a list of requests.  `perform` answers one
request; the runs of the controller are the runs of `step`.
-/

namespace HydraSeat.Runtime

open Controller
open Foundation

inductive Seat where
  | first | second
  deriving DecidableEq

namespace Seat

def id : Seat → UInt32
  | .first => 1
  | .second => 2

def other : Seat → Seat
  | .first => .second
  | .second => .first

def ofId? (seatId : UInt32) : Option Seat :=
  if seatId = 1 then some .first
  else if seatId = 2 then some .second
  else none

@[simp]
theorem ofId?_id (seat : Seat) : ofId? seat.id = some seat := by
  cases seat <;> rfl

theorem id_named (seat : Seat) : seat.id = 1 ∨ seat.id = 2 := by
  cases seat with
  | first => exact Or.inl rfl
  | second => exact Or.inr rfl

theorem id_eq_of_ofId? {seatId : UInt32} {seat : Seat} (named : ofId? seatId = some seat) :
    seatId = seat.id := by
  unfold ofId? at named
  split at named
  next equality =>
    rw [equality, ← Option.some.inj named]
    rfl
  · split at named
    next equality =>
      rw [equality, ← Option.some.inj named]
      rfl
    · cases named

end Seat

structure SessionController where
  seat1 : SeatRuntime 1 := {}
  seat2 : SeatRuntime 2 := {}
  deriving DecidableEq

namespace SessionController

variable (self : SessionController) (token : ActivationToken) (owner : ProcessIdentity)

/-- `seat` and `otherSeat` of the source, on a Seat that exists. -/
def runtime : (seat : Seat) → SeatRuntime seat.id
  | .first => self.seat1
  | .second => self.seat2

def setRuntime : (seat : Seat) → SeatRuntime seat.id → SessionController
  | .first, updated => { self with seat1 := updated }
  | .second, updated => { self with seat2 := updated }

@[simp]
theorem runtime_setRuntime_same (seat : Seat) (updated : SeatRuntime seat.id) :
    (self.setRuntime seat updated).runtime seat = updated := by
  cases seat <;> rfl

@[simp]
theorem runtime_setRuntime_other (seat : Seat) (updated : SeatRuntime seat.id) :
    (self.setRuntime seat updated).runtime seat.other = self.runtime seat.other := by
  cases seat <;> rfl

@[simp]
theorem setRuntime_runtime (seat : Seat) : self.setRuntime seat (self.runtime seat) = self := by
  cases seat <;> rfl

/-- Run an operation of one Seat inside the controller. -/
def onSeat {Answer : Type} (self : SessionController) (seat : Seat)
    (operation : SeatRuntime seat.id → Answer × SeatRuntime seat.id) :
    Answer × SessionController :=
  let (answer, updated) := operation (self.runtime seat)
  (answer, self.setRuntime seat updated)

def acquireSeatLease (seatId : UInt32)
    (leaseClass : LeaseClass) : ActivationToken × SessionController :=
  match Seat.ofId? seatId with
  | none => ({}, self)
  | some seat => self.onSeat seat (·.acquireLease leaseClass)

def publishProcess (process : ProcessIdentity) : Bool × SessionController :=
  if !process.valid then (false, self)
  else
    match Seat.ofId? token.seatId with
    | none => (false, self)
    | some seat =>
      let other := (self.runtime seat.other).snapshot
      if other.active && other.process == some process then (false, self)
      else self.onSeat seat (·.publishProcess token process)

def bindTargetWindow (hwnd : UInt64) : Bool × SessionController :=
  if !owner.valid || hwnd == 0 then (false, self)
  else
    match Seat.ofId? token.seatId with
    | none => (false, self)
    | some seat =>
      let other := (self.runtime seat.other).snapshot
      if other.active && other.targetHwnd == hwnd then (false, self)
      else self.onSeat seat (·.bindTargetWindow token owner hwnd)

def clearTargetWindow (expectedHwnd : UInt64) : Bool × SessionController :=
  if !owner.valid || expectedHwnd == 0 then (false, self)
  else
    match Seat.ofId? token.seatId with
    | none => (false, self)
    | some seat => self.onSeat seat (·.clearTargetWindow token owner expectedHwnd)

def bindController (binding : SeatBinding) (inventory : InventorySnapshot) :
    Bool × SessionController :=
  if binding.seatId != token.seatId || binding.runtimeKey.isEmpty ||
      !bindingMatchesInventory binding inventory then
    (false, self)
  else
    match Seat.ofId? token.seatId with
    | none => (false, self)
    | some seat =>
      let other := (self.runtime seat.other).snapshot
      if other.active && other.controllerBinding.any (sameControllerSource · binding) then
        (false, self)
      else self.onSeat seat (·.bindController token binding)

def clearController : Bool × SessionController :=
  match Seat.ofId? token.seatId with
  | none => (false, self)
  | some seat => self.onSeat seat (·.clearController token)

/-- The binding that the three controller calls read under a game token.
They compare the generation and do not ask for the game lease. -/
def boundController : Option SeatBinding :=
  if !token.valid || token.leaseClass != .gameProcess then none
  else
    match Seat.ofId? token.seatId with
    | none => none
    | some seat =>
      let current := (self.runtime seat).snapshot
      if !current.active || current.generation != token.generation then none
      else current.controllerBinding

def pollController (native : NativeXInput)
    (token : ActivationToken) (inventory : InventorySnapshot) :
    PollResult × List NativeCall :=
  match self.boundController token with
  | none => (⟨.invalidBinding, none⟩, [])
  | some binding => pollBoundController native binding inventory

def setControllerVibration (native : NativeXInput)
    (token : ActivationToken) (inventory : InventorySnapshot)
    (lowFrequencyMotor highFrequencyMotor : UInt16) :
    IoStatus × List NativeCall :=
  match self.boundController token with
  | none => (.invalidBinding, [])
  | some binding =>
    setBoundControllerVibration native binding inventory lowFrequencyMotor highFrequencyMotor

def virtualXInputMapping : Option VirtualXInputMapping :=
  match self.boundController token with
  | none => none
  | some binding =>
    let mapping : VirtualXInputMapping :=
      { seatId := token.seatId, activationGeneration := token.generation, source := binding }
    if !mapping.valid then none else some mapping

def releaseSeatLease : Bool × SessionController :=
  match Seat.ofId? token.seatId with
  | none => (false, self)
  | some seat => self.onSeat seat (·.releaseLease token)

def snapshot (seatId : UInt32) : Option SeatRuntimeSnapshot :=
  match Seat.ofId? seatId with
  | none => none
  | some seat => some (self.runtime seat).snapshot

/-- A call of one public operation with its arguments.  The controller
calls carry the answers of the native XInput calls at that moment. -/
inductive Request where
  | acquireSeatLease (seatId : UInt32) (leaseClass : LeaseClass)
  | publishProcess (token : ActivationToken) (process : ProcessIdentity)
  | bindTargetWindow (token : ActivationToken) (owner : ProcessIdentity) (hwnd : UInt64)
  | clearTargetWindow (token : ActivationToken) (owner : ProcessIdentity) (expectedHwnd : UInt64)
  | bindController (token : ActivationToken) (binding : SeatBinding) (inventory : InventorySnapshot)
  | clearController (token : ActivationToken)
  | pollController (native : NativeXInput) (token : ActivationToken) (inventory : InventorySnapshot)
  | setControllerVibration (native : NativeXInput) (token : ActivationToken)
      (inventory : InventorySnapshot)
      (lowFrequencyMotor highFrequencyMotor : UInt16)
  | virtualXInputMapping (token : ActivationToken)
  | releaseSeatLease (token : ActivationToken)

inductive Answer where
  | token (token : ActivationToken)
  | accepted (value : Bool)
  | polled (result : PollResult)
  | vibration (status : IoStatus)
  | mapping (value : Option VirtualXInputMapping)
  deriving DecidableEq

/-- The answer, the native calls made and the state left behind. -/
structure Outcome where
  answer : Answer
  nativeCalls : List NativeCall := []
  state : SessionController

def accepting (result : Bool × SessionController) : Outcome where
  answer := .accepted result.1
  state := result.2

def perform : Request → Outcome
  | .acquireSeatLease seatId leaseClass =>
    let result := self.acquireSeatLease seatId leaseClass
    { answer := .token result.1, state := result.2 }
  | .publishProcess token process => accepting (self.publishProcess token process)
  | .bindTargetWindow token owner hwnd => accepting (self.bindTargetWindow token owner hwnd)
  | .clearTargetWindow token owner expectedHwnd =>
    accepting (self.clearTargetWindow token owner expectedHwnd)
  | .bindController token binding inventory =>
    accepting (self.bindController token binding inventory)
  | .clearController token => accepting (self.clearController token)
  | .pollController native token inventory =>
    let result := self.pollController native token inventory
    { answer := .polled result.1, nativeCalls := result.2, state := self }
  | .setControllerVibration native token inventory low high =>
    let result := self.setControllerVibration native token inventory low high
    { answer := .vibration result.1, nativeCalls := result.2, state := self }
  | .virtualXInputMapping token =>
    { answer := .mapping (self.virtualXInputMapping token), state := self }
  | .releaseSeatLease token => accepting (self.releaseSeatLease token)

def step (request : Request) : SessionController := (self.perform request).state

/-- `Effect self request after`: `request` may lead from `self` to `after`,
under the guards listed with each case.  Every refused request and every
controller call is `unchanged`. -/
inductive Effect (self : SessionController) : Request → SessionController → Prop
  | unchanged (request : Request) : Effect self request self
  | opened (seat : Seat) (leaseClass : LeaseClass) (named : leaseClass.named = true)
      (idle : (self.runtime seat).active = false)
      (room : (self.runtime seat).generation ≠ maxGeneration) :
      Effect self (.acquireSeatLease seat.id leaseClass)
        (self.setRuntime seat ((self.runtime seat).openEpoch.setLease true leaseClass))
  | joined (seat : Seat) (leaseClass : LeaseClass) (named : leaseClass.named = true)
      (active : (self.runtime seat).active = true)
      (free : (self.runtime seat).leaseActive leaseClass = false) :
      Effect self (.acquireSeatLease seat.id leaseClass)
        (self.setRuntime seat ((self.runtime seat).setLease true leaseClass))
  | published (seat : Seat) (token : ActivationToken) (process : ProcessIdentity)
      (valid : process.valid = true)
      (owned : (self.runtime seat).ownsToken token = true)
      (game : token.leaseClass = .gameProcess)
      (stored : (self.runtime seat).process = none ∨ (self.runtime seat).process = some process)
      (free :
        (self.runtime seat.other).active = true →
          (self.runtime seat.other).process ≠ some process) :
      Effect self (.publishProcess token process)
        (self.setRuntime seat { self.runtime seat with process := some process })
  | windowBound (seat : Seat) (token : ActivationToken) (owner : ProcessIdentity) (hwnd : UInt64)
      (nonzero : hwnd ≠ 0)
      (owned : (self.runtime seat).ownsToken token = true)
      (game : token.leaseClass = .gameProcess)
      (stored : (self.runtime seat).process = some owner)
      (free :
        (self.runtime seat.other).active = true → (self.runtime seat.other).targetHwnd ≠ hwnd) :
      Effect self (.bindTargetWindow token owner hwnd)
        (self.setRuntime seat { self.runtime seat with targetHwnd := hwnd })
  | windowCleared (seat : Seat) (token : ActivationToken)
      (owner : ProcessIdentity) (expectedHwnd : UInt64)
      (owned : (self.runtime seat).ownsToken token = true)
      (game : token.leaseClass = .gameProcess)
      (stored : (self.runtime seat).process = some owner)
      (expected : (self.runtime seat).targetHwnd = expectedHwnd) :
      Effect self (.clearTargetWindow token owner expectedHwnd)
        (self.setRuntime seat { self.runtime seat with targetHwnd := 0 })
  | controllerBound (seat : Seat) (token : ActivationToken)
      (binding : SeatBinding) (inventory : InventorySnapshot)
      (bindingSeat : binding.seatId = seat.id)
      (key : binding.runtimeKey ≠ [])
      (present : bindingMatchesInventory binding inventory = true)
      (owned : (self.runtime seat).ownsToken token = true)
      (stored : (self.runtime seat).mayStoreController token binding = true)
      (free :
        ∀ held, (self.runtime seat.other).active = true →
          (self.runtime seat.other).controllerBinding = some held →
            sameControllerSource held binding = false) :
      Effect self (.bindController token binding inventory)
        (self.setRuntime seat { self.runtime seat with controllerBinding := some binding })
  | controllerCleared (seat : Seat) (token : ActivationToken)
      (owned : (self.runtime seat).ownsToken token = true)
      (ui : token.leaseClass = .uiConfiguration)
      (noGame : (self.runtime seat).gameLeaseActive = false) :
      Effect self (.clearController token)
        (self.setRuntime seat { self.runtime seat with controllerBinding := none })
  | released (seat : Seat) (token : ActivationToken)
      (owned : (self.runtime seat).ownsToken token = true) :
      Effect self (.releaseSeatLease token)
        (self.setRuntime seat ((self.runtime seat).dropLease token.leaseClass).closeEpoch)

theorem acquireSeatLease_effect (seatId : UInt32) (leaseClass : LeaseClass) :
    Effect self (.acquireSeatLease seatId leaseClass)
      (self.acquireSeatLease seatId leaseClass).2 := by
  unfold acquireSeatLease
  cases named : Seat.ofId? seatId with
  | none => exact .unchanged _
  | some seat =>
    rw [Seat.id_eq_of_ofId? named]
    rcases (self.runtime seat).acquireLease_cases leaseClass with
      refused | ⟨idle, room, known, _, accepted⟩ | ⟨active, free, known, _, accepted⟩
    · simp only [onSeat, refused, setRuntime_runtime]
      exact .unchanged _
    · simp only [onSeat, accepted]
      exact .opened seat leaseClass known idle room
    · simp only [onSeat, accepted]
      exact .joined seat leaseClass known active free

theorem publishProcess_effect (process : ProcessIdentity) :
    Effect self (.publishProcess token process) (self.publishProcess token process).2 := by
  unfold publishProcess
  split
  · exact .unchanged _
  cases named : Seat.ofId? token.seatId with
  | none => exact .unchanged _
  | some seat =>
    dsimp only
    split
    · exact .unchanged _
    next free =>
      rcases (self.runtime seat).publishProcess_cases token process with
        refused | ⟨valid, owned, game, stored, accepted⟩
      · simp only [onSeat, refused, setRuntime_runtime]
        exact .unchanged _
      · simp only [onSeat, accepted]
        refine .published seat token process valid owned game stored ?_
        intro active same
        exact free (by simp [SeatRuntime.snapshot, active, same])

theorem bindTargetWindow_effect (hwnd : UInt64) :
    Effect self (.bindTargetWindow token owner hwnd)
      (self.bindTargetWindow token owner hwnd).2 := by
  unfold bindTargetWindow
  split
  · exact .unchanged _
  cases named : Seat.ofId? token.seatId with
  | none => exact .unchanged _
  | some seat =>
    dsimp only
    split
    · exact .unchanged _
    next free =>
      rcases (self.runtime seat).bindTargetWindow_cases token owner hwnd with
        refused | ⟨nonzero, owned, game, stored, accepted⟩
      · simp only [onSeat, refused, setRuntime_runtime]
        exact .unchanged _
      · simp only [onSeat, accepted]
        refine .windowBound seat token owner hwnd nonzero owned game stored ?_
        intro active same
        exact free (by simp [SeatRuntime.snapshot, active, same])

theorem clearTargetWindow_effect (expectedHwnd : UInt64) :
    Effect self (.clearTargetWindow token owner expectedHwnd)
      (self.clearTargetWindow token owner expectedHwnd).2 := by
  unfold clearTargetWindow
  split
  · exact .unchanged _
  cases named : Seat.ofId? token.seatId with
  | none => exact .unchanged _
  | some seat =>
    dsimp only
    rcases (self.runtime seat).clearTargetWindow_cases token owner expectedHwnd with
      refused | ⟨owned, game, stored, expected, accepted⟩
    · simp only [onSeat, refused, setRuntime_runtime]
      exact .unchanged _
    · simp only [onSeat, accepted]
      exact .windowCleared seat token owner expectedHwnd owned game stored expected

/-- The guards of `bindController` that do not look at the other Seat. -/
structure BindGuards (before : SessionController) (seat : Seat) (token : ActivationToken)
    (binding : SeatBinding) (inventory : InventorySnapshot) : Prop where
  named : Seat.ofId? token.seatId = some seat
  bindingSeat : binding.seatId = token.seatId
  key : binding.runtimeKey ≠ []
  present : bindingMatchesInventory binding inventory = true
  owned : (before.runtime seat).ownsToken token = true
  stored : (before.runtime seat).mayStoreController token binding = true

/-- The other Seat is active and holds the same source, as the code
compares sources. -/
def OtherHoldsSource (seat : Seat) (binding : SeatBinding) : Prop :=
  (self.runtime seat.other).active = true ∧
    ∃ held,
      (self.runtime seat.other).controllerBinding = some held ∧
        sameControllerSource held binding = true

theorem bindController_accepted {self : SessionController} {seat : Seat} {token : ActivationToken}
    {binding : SeatBinding} {inventory : InventorySnapshot}
    (guards : BindGuards self seat token binding inventory)
    (free : ¬ self.OtherHoldsSource seat binding) :
    self.bindController token binding inventory =
      (true, self.setRuntime seat
        { self.runtime seat with controllerBinding := some binding }) := by
  have otherFree :
      ((self.runtime seat.other).snapshot.active &&
        (self.runtime seat.other).snapshot.controllerBinding.any
          (sameControllerSource · binding)) = false := by
    rw [Bool.eq_false_iff]
    intro both
    simp only [Bool.and_eq_true, Option.any_eq_true, SeatRuntime.snapshot] at both
    obtain ⟨active, held, stored, same⟩ := both
    exact free ⟨active, held, stored, same⟩
  have seatName := Seat.id_eq_of_ofId? guards.named
  have accepted :
      (self.runtime seat).bindController token binding =
        (true, { self.runtime seat with controllerBinding := some binding }) := by
    rcases (self.runtime seat).bindController_cases token binding with
      ⟨_, blocked⟩ | ⟨_, _, _, _, accepted⟩
    · exact absurd ⟨guards.bindingSeat.trans seatName, guards.key,
        guards.owned, guards.stored⟩ blocked
    · exact accepted
  unfold bindController
  rw [if_neg (by
    simp [guards.bindingSeat, guards.key, guards.present])]
  simp only [guards.named, otherFree, Bool.false_eq_true, if_false]
  simp only [onSeat, accepted]

theorem bindController_cases (binding : SeatBinding) (inventory : InventorySnapshot) :
    self.bindController token binding inventory = (false, self) ∨
      ∃ seat, BindGuards self seat token binding inventory ∧
        ¬ self.OtherHoldsSource seat binding := by
  by_cases outer :
      (binding.seatId != token.seatId || binding.runtimeKey.isEmpty ||
        !bindingMatchesInventory binding inventory) = true
  · left
    unfold bindController
    rw [if_pos outer]
  · cases named : Seat.ofId? token.seatId with
    | none =>
      left
      unfold bindController
      rw [if_neg outer, named]
    | some seat =>
      by_cases held : self.OtherHoldsSource seat binding
      · left
        obtain ⟨active, binding', stored, same⟩ := held
        unfold bindController
        rw [if_neg outer, named]
        simp [SeatRuntime.snapshot, active, stored, same]
      · simp only [Bool.or_eq_true, bne_iff_ne, ne_eq,
          List.isEmpty_iff, Bool.not_eq_true', not_or, not_not,
          Bool.not_eq_false] at outer
        obtain ⟨⟨bindingSeat, key⟩, present⟩ := outer
        rcases (self.runtime seat).bindController_cases token binding with
          ⟨refused, _⟩ | ⟨_, _, owned, mayStore, _⟩
        · left
          unfold bindController
          rw [if_neg (by simp [bindingSeat, key, present]), named]
          dsimp only
          split
          · rfl
          · simp only [onSeat, refused, setRuntime_runtime]
        · exact Or.inr ⟨seat, ⟨named, bindingSeat, key, present, owned, mayStore⟩, held⟩

theorem bindController_effect (binding : SeatBinding) (inventory : InventorySnapshot) :
    Effect self (.bindController token binding inventory)
      (self.bindController token binding inventory).2 := by
  rcases self.bindController_cases token binding inventory with
    refused | ⟨seat, guards, free⟩
  · rw [refused]
    exact .unchanged _
  rw [bindController_accepted guards free]
  refine .controllerBound seat token binding inventory
    (guards.bindingSeat.trans (Seat.id_eq_of_ofId? guards.named))
    guards.key guards.present guards.owned guards.stored ?_
  intro held active stored
  rw [Bool.eq_false_iff]
  exact fun same => free ⟨active, held, stored, same⟩

theorem clearController_effect :
    Effect self (.clearController token) (self.clearController token).2 := by
  unfold clearController
  cases named : Seat.ofId? token.seatId with
  | none => exact .unchanged _
  | some seat =>
    dsimp only
    rcases (self.runtime seat).clearController_cases token with
      refused | ⟨owned, ui, noGame, accepted⟩
    · simp only [onSeat, refused, setRuntime_runtime]
      exact .unchanged _
    · simp only [onSeat, accepted]
      exact .controllerCleared seat token owned ui noGame

theorem releaseSeatLease_effect :
    Effect self (.releaseSeatLease token) (self.releaseSeatLease token).2 := by
  unfold releaseSeatLease
  cases named : Seat.ofId? token.seatId with
  | none => exact .unchanged _
  | some seat =>
    dsimp only
    rcases (self.runtime seat).releaseLease_cases token with
      refused | ⟨owned, accepted⟩
    · simp only [onSeat, refused, setRuntime_runtime]
      exact .unchanged _
    · simp only [onSeat, accepted]
      exact .released seat token owned

theorem step_effect (request : Request) : Effect self request (self.step request) := by
  cases request with
  | acquireSeatLease seatId leaseClass => exact self.acquireSeatLease_effect seatId leaseClass
  | publishProcess token process => exact self.publishProcess_effect token process
  | bindTargetWindow token owner hwnd => exact self.bindTargetWindow_effect token owner hwnd
  | clearTargetWindow token owner expectedHwnd =>
    exact self.clearTargetWindow_effect token owner expectedHwnd
  | bindController token binding inventory =>
    exact self.bindController_effect token binding inventory
  | clearController token => exact self.clearController_effect token
  | pollController native token inventory
  | setControllerVibration native token inventory low high | virtualXInputMapping token =>
    exact .unchanged _
  | releaseSeatLease token => exact self.releaseSeatLease_effect token

end SessionController

end HydraSeat.Runtime
