import HydraSeat.Controller.Io
import Mathlib.Data.List.Basic

/-!
# The runtime state of one Seat

A Seat opens an activation epoch when the first of its two leases is
acquired and closes it when the last one is released.  Each operation below
is followed by a `_cases` theorem that says everything the operation can do;
later proofs use those theorems and leave the definitions folded.
-/

namespace HydraSeat.Runtime

open Controller

/-- Exact runtime process identity: the PID and the creation `FILETIME`. -/
structure ProcessIdentity where
  pid : UInt32 := 0
  creationIdentity : UInt64 := 0
  deriving DecidableEq

def ProcessIdentity.valid (process : ProcessIdentity) : Bool :=
  process.pid != 0 && process.creationIdentity != 0

/-- `LeaseClass` has an eight-bit underlying type, so a forged token may
carry a value that is neither enumerator. -/
inductive LeaseClass where
  | uiConfiguration | gameProcess
  | unnamed (value : UInt8)
  deriving DecidableEq

def LeaseClass.named : LeaseClass → Bool
  | .uiConfiguration => true
  | .gameProcess => true
  | .unnamed _ => false

structure ActivationToken where
  seatId : UInt32 := 0
  generation : UInt64 := 0
  leaseClass : LeaseClass := .gameProcess
  deriving DecidableEq

def ActivationToken.valid (token : ActivationToken) : Bool :=
  (token.seatId == 1 || token.seatId == 2) && token.generation != 0 && token.leaseClass.named

theorem ActivationToken.not_valid_default : ({} : ActivationToken).valid = false := by
  decide

structure SeatRuntimeSnapshot where
  seatId : UInt32 := 0
  generation : UInt64 := 0
  (active uiLeaseActive gameLeaseActive : Bool := false)
  process : Option ProcessIdentity := none
  targetHwnd : UInt64 := 0
  controllerBinding : Option SeatBinding := none

/-- A `SeatRuntime` never changes its `seatId_`, which is therefore part of
its type. -/
structure SeatRuntime (seatId : UInt32) where
  generation : UInt64 := 0
  (uiLeaseActive gameLeaseActive : Bool := false)
  process : Option ProcessIdentity := none
  targetHwnd : UInt64 := 0
  controllerBinding : Option SeatBinding := none
  deriving DecidableEq

def maxGeneration : UInt64 := 0xFFFFFFFFFFFFFFFF

namespace SeatRuntime

variable {seatId : UInt32} (self : SeatRuntime seatId) (token : ActivationToken)
variable (owner : ProcessIdentity)

def active : Bool := self.uiLeaseActive || self.gameLeaseActive

def leaseActive : LeaseClass → Bool
  | .uiConfiguration => self.uiLeaseActive
  | .gameProcess => self.gameLeaseActive
  | .unnamed _ => false

def setLease (value : Bool) : LeaseClass → SeatRuntime seatId
  | .uiConfiguration => { self with uiLeaseActive := value }
  | .gameProcess => { self with gameLeaseActive := value }
  | .unnamed _ => self

def snapshot : SeatRuntimeSnapshot where
  seatId := seatId
  generation := self.generation
  active := self.active
  uiLeaseActive := self.uiLeaseActive
  gameLeaseActive := self.gameLeaseActive
  process := self.process
  targetHwnd := self.targetHwnd
  controllerBinding := self.controllerBinding

/-- `ownsTokenLocked`. -/
def ownsToken : Bool :=
  if !token.valid || token.seatId != seatId || token.generation != self.generation then false
  else self.leaseActive token.leaseClass

/-- The state in which a new activation epoch starts. -/
def openEpoch : SeatRuntime seatId :=
  { self with
    generation := self.generation + 1, process := none, targetHwnd := 0, controllerBinding := none }

def acquireLease (leaseClass : LeaseClass) : ActivationToken × SeatRuntime seatId :=
  if seatId ≠ 1 ∧ seatId ≠ 2 then ({}, self)
  else if !leaseClass.named || self.leaseActive leaseClass then ({}, self)
  else if !self.uiLeaseActive && !self.gameLeaseActive then
    if self.generation = maxGeneration then ({}, self)
    else (⟨seatId, self.openEpoch.generation, leaseClass⟩, self.openEpoch.setLease true leaseClass)
  else (⟨seatId, self.generation, leaseClass⟩, self.setLease true leaseClass)

def publishProcess (process : ProcessIdentity) : Bool × SeatRuntime seatId :=
  if !process.valid then (false, self)
  else if !self.ownsToken token || token.leaseClass != .gameProcess then (false, self)
  else if self.process.any (· != process) then (false, self)
  else (true, { self with process := some process })

def bindTargetWindow (hwnd : UInt64) : Bool × SeatRuntime seatId :=
  if !owner.valid || hwnd == 0 then (false, self)
  else if !self.ownsToken token || token.leaseClass != .gameProcess ||
      self.process != some owner then
    (false, self)
  else (true, { self with targetHwnd := hwnd })

def clearTargetWindow (expectedHwnd : UInt64) : Bool × SeatRuntime seatId :=
  if !owner.valid || expectedHwnd == 0 then (false, self)
  else if !self.ownsToken token || token.leaseClass != .gameProcess || self.process != some owner ||
      self.targetHwnd != expectedHwnd then
    (false, self)
  else (true, { self with targetHwnd := 0 })

/-- A stored binding may only be replaced under the UI lease and while no
game owns the Seat. -/
def mayStoreController (binding : SeatBinding) : Bool :=
  !self.controllerBinding.any (· != binding) ||
    (token.leaseClass == .uiConfiguration && !self.gameLeaseActive)

def bindController (binding : SeatBinding) : Bool × SeatRuntime seatId :=
  if binding.seatId != seatId || binding.runtimeKey.isEmpty then (false, self)
  else if !self.ownsToken token then (false, self)
  else if !self.mayStoreController token binding then (false, self)
  else (true, { self with controllerBinding := some binding })

def clearController : Bool × SeatRuntime seatId :=
  if !self.ownsToken token || token.leaseClass != .uiConfiguration || self.gameLeaseActive then
    (false, self)
  else (true, { self with controllerBinding := none })

/-- What `releaseLease` does to the lease of one class. -/
def dropLease : LeaseClass → SeatRuntime seatId
  | .uiConfiguration => { self with uiLeaseActive := false }
  | .gameProcess =>
    { self with gameLeaseActive := false, process := none, targetHwnd := 0 }
  | .unnamed _ => self

/-- What `releaseLease` does once no lease is left. -/
def closeEpoch : SeatRuntime seatId :=
  if !self.uiLeaseActive && !self.gameLeaseActive then
    { self with process := none, targetHwnd := 0, controllerBinding := none }
  else self

def releaseLease : Bool × SeatRuntime seatId :=
  if !self.ownsToken token then (false, self)
  else (true, (self.dropLease token.leaseClass).closeEpoch)

theorem ownsToken_iff :
    self.ownsToken token = true ↔
      token.valid = true ∧ token.seatId = seatId ∧ token.generation = self.generation ∧
        self.leaseActive token.leaseClass = true := by
  unfold ownsToken
  by_cases valid : token.valid = true
  · by_cases seat : token.seatId = seatId
    · by_cases generation : token.generation = self.generation
      · simp [valid, seat, generation]
      · simp [valid, seat, generation]
    · simp [valid, seat]
  · simp [valid]

theorem active_of_leaseActive {self : SeatRuntime seatId} {leaseClass : LeaseClass}
    (held : self.leaseActive leaseClass = true) :
    self.active = true := by
  cases leaseClass with
  | uiConfiguration | gameProcess =>
    simp [leaseActive] at held
    simp [active, held]
  | unnamed value => simp [leaseActive] at held

theorem active_of_ownsToken {self : SeatRuntime seatId} {token : ActivationToken}
    (owned : self.ownsToken token = true) :
    self.active = true :=
  active_of_leaseActive ((ownsToken_iff self token).mp owned).2.2.2

theorem not_ownsToken_of_game_inactive {self : SeatRuntime seatId} {token : ActivationToken}
    (inactive : self.gameLeaseActive = false)
    (game : token.leaseClass = .gameProcess) :
    self.ownsToken token = false := by
  rw [Bool.eq_false_iff]
  intro owned
  have held := ((ownsToken_iff self token).mp owned).2.2.2
  rw [game] at held
  simp [leaseActive, inactive] at held

theorem acquireLease_cases (leaseClass : LeaseClass) :
    self.acquireLease leaseClass = ({}, self) ∨
      (self.active = false ∧ self.generation ≠ maxGeneration ∧
        leaseClass.named = true ∧ (seatId = 1 ∨ seatId = 2) ∧
        self.acquireLease leaseClass =
          (⟨seatId, self.generation + 1, leaseClass⟩, self.openEpoch.setLease true leaseClass)) ∨
      (self.active = true ∧ self.leaseActive leaseClass = false ∧
        leaseClass.named = true ∧ (seatId = 1 ∨ seatId = 2) ∧
        self.acquireLease leaseClass =
          (⟨seatId, self.generation, leaseClass⟩, self.setLease true leaseClass)) := by
  unfold acquireLease
  by_cases seat : seatId ≠ 1 ∧ seatId ≠ 2
  · exact Or.inl (if_pos seat)
  rw [if_neg seat]
  have named : seatId = 1 ∨ seatId = 2 := by
    by_contra neither
    exact seat (not_or.mp neither)
  by_cases refused : (!leaseClass.named || self.leaseActive leaseClass) = true
  · exact Or.inl (if_pos refused)
  rw [if_neg refused]
  simp only [Bool.or_eq_true, Bool.not_eq_true', not_or,
    Bool.not_eq_false, Bool.not_eq_true] at refused
  by_cases idle : (!self.uiLeaseActive && !self.gameLeaseActive) = true
  · rw [if_pos idle]
    have inactive : self.active = false := by
      simpa [active] using idle
    by_cases full : self.generation = maxGeneration
    · exact Or.inl (if_pos full)
    · rw [if_neg full]
      exact Or.inr (Or.inl ⟨inactive, full, refused.1, named, rfl⟩)
  · rw [if_neg idle]
    have held : self.active = true := by
      cases ui : self.uiLeaseActive <;>
        cases game : self.gameLeaseActive <;>
          simp_all [active]
    exact Or.inr (Or.inr ⟨held, refused.2, refused.1, named, rfl⟩)

theorem publishProcess_cases (process : ProcessIdentity) :
    self.publishProcess token process = (false, self) ∨
      (process.valid = true ∧ self.ownsToken token = true ∧ token.leaseClass = .gameProcess ∧
        (self.process = none ∨ self.process = some process) ∧
        self.publishProcess token process = (true, { self with process := some process })) := by
  unfold publishProcess
  split
  · exact Or.inl rfl
  next valid =>
    split
    · exact Or.inl rfl
    next owned =>
      split
      · exact Or.inl rfl
      next stored =>
        simp only [Bool.or_eq_true, Bool.not_eq_true', not_or,
          Bool.not_eq_false, bne_iff_ne, ne_eq, not_not] at valid owned
        refine Or.inr ⟨valid, owned.1, owned.2, ?_, rfl⟩
        cases current : self.process with
        | none => exact Or.inl rfl
        | some held =>
          simp [current] at stored
          exact Or.inr (congrArg some stored)

theorem bindTargetWindow_cases (hwnd : UInt64) :
    self.bindTargetWindow token owner hwnd = (false, self) ∨
      (hwnd ≠ 0 ∧ self.ownsToken token = true ∧ token.leaseClass = .gameProcess ∧
        self.process = some owner ∧
        self.bindTargetWindow token owner hwnd = (true, { self with targetHwnd := hwnd })) := by
  unfold bindTargetWindow
  split
  · exact Or.inl rfl
  next valid =>
    split
    · exact Or.inl rfl
    next owned =>
      simp only [Bool.or_eq_true, Bool.not_eq_true', not_or,
        Bool.not_eq_false, bne_iff_ne, beq_iff_eq, ne_eq, not_not]
        at valid owned
      exact Or.inr ⟨valid.2, owned.1.1, owned.1.2, owned.2, rfl⟩

theorem clearTargetWindow_cases (expectedHwnd : UInt64) :
    self.clearTargetWindow token owner expectedHwnd = (false, self) ∨
      (self.ownsToken token = true ∧ token.leaseClass = .gameProcess ∧ self.process = some owner ∧
        self.targetHwnd = expectedHwnd ∧
        self.clearTargetWindow token owner expectedHwnd =
          (true, { self with targetHwnd := 0 })) := by
  unfold clearTargetWindow
  split
  · exact Or.inl rfl
  split
  · exact Or.inl rfl
  next owned =>
    simp only [Bool.or_eq_true, Bool.not_eq_true', not_or,
      Bool.not_eq_false, bne_iff_ne, ne_eq, not_not] at owned
    exact Or.inr ⟨owned.1.1.1, owned.1.1.2, owned.1.2, owned.2, rfl⟩

/-- `bindController` stores the binding exactly when its guards hold. -/
theorem bindController_cases (binding : SeatBinding) :
    (self.bindController token binding = (false, self) ∧
        ¬ (binding.seatId = seatId ∧ binding.runtimeKey ≠ [] ∧ self.ownsToken token = true ∧
          self.mayStoreController token binding = true)) ∨
      (binding.seatId = seatId ∧ binding.runtimeKey ≠ [] ∧ self.ownsToken token = true ∧
        self.mayStoreController token binding = true ∧
        self.bindController token binding =
          (true, { self with controllerBinding := some binding })) := by
  unfold bindController
  by_cases seat : binding.seatId = seatId
  · by_cases key : binding.runtimeKey = []
    · exact Or.inl ⟨by simp [key], fun holds => holds.2.1 key⟩
    by_cases owned : self.ownsToken token = true
    · by_cases stored : self.mayStoreController token binding = true
      · exact Or.inr ⟨seat, key, owned, stored, by simp [seat, key, owned, stored]⟩
      · exact Or.inl ⟨by simp [seat, key, owned, stored], fun holds => stored holds.2.2.2⟩
    · exact Or.inl ⟨by simp [seat, key, owned], fun holds => owned holds.2.2.1⟩
  · exact Or.inl ⟨by simp [seat], fun holds => seat holds.1⟩

theorem clearController_cases :
    self.clearController token = (false, self) ∨
      (self.ownsToken token = true ∧ token.leaseClass = .uiConfiguration ∧
        self.gameLeaseActive = false ∧
        self.clearController token = (true, { self with controllerBinding := none })) := by
  unfold clearController
  split
  · exact Or.inl rfl
  next owned =>
    simp only [Bool.or_eq_true, Bool.not_eq_true', not_or,
      Bool.not_eq_false, bne_iff_ne, ne_eq, not_not,
      Bool.not_eq_true] at owned
    exact Or.inr ⟨owned.1.1, owned.1.2, owned.2, rfl⟩

theorem releaseLease_cases :
    self.releaseLease token = (false, self) ∨
      (self.ownsToken token = true ∧
        self.releaseLease token = (true, (self.dropLease token.leaseClass).closeEpoch)) := by
  unfold releaseLease
  split
  · exact Or.inl rfl
  next owned =>
    simp only [Bool.not_eq_true', Bool.not_eq_false] at owned
    exact Or.inr ⟨owned, rfl⟩

end SeatRuntime

end HydraSeat.Runtime
