import HydraSeat.Foundation.Transition
import HydraSeat.Runtime.SeatRuntime
import Mathlib.Order.Basic

/-!
# Activation epochs of a Seat

Every epoch has a generation of its own.  A token whose epoch is over is
stale, and no operation makes it current again: the generation never goes
back and an idle Seat only leaves its generation for a greater one.
-/

namespace HydraSeat.Runtime

open Controller
open Foundation ActivationToken

namespace SeatRuntime

variable {seatId : UInt32}
variable {operation : Operation} {token : ActivationToken} (self : SeatRuntime seatId)

/-- A call of a public operation of a Seat. -/
inductive Operation where
  | acquireLease (leaseClass : LeaseClass)
  | publishProcess (token : ActivationToken) (process : ProcessIdentity)
  | bindTargetWindow (token : ActivationToken) (owner : ProcessIdentity) (hwnd : UInt64)
  | clearTargetWindow (token : ActivationToken) (owner : ProcessIdentity) (expectedHwnd : UInt64)
  | bindController (token : ActivationToken) (binding : SeatBinding)
  | clearController (token : ActivationToken)
  | releaseLease (token : ActivationToken)

/-- The token that the operation has to own. -/
def Operation.token? : Operation → Option ActivationToken
  | .acquireLease _ => none
  | .publishProcess token _ => some token
  | .bindTargetWindow token _ _ => some token
  | .clearTargetWindow token _ _ => some token
  | .bindController token _ => some token
  | .clearController token => some token
  | .releaseLease token => some token

/-- Whether the operation succeeded, and the Seat after it. -/
def perform : Operation → Bool × SeatRuntime seatId
  | .acquireLease leaseClass =>
    ((self.acquireLease leaseClass).1.valid, (self.acquireLease leaseClass).2)
  | .publishProcess token process => self.publishProcess token process
  | .bindTargetWindow token owner hwnd => self.bindTargetWindow token owner hwnd
  | .clearTargetWindow token owner expectedHwnd => self.clearTargetWindow token owner expectedHwnd
  | .bindController token binding => self.bindController token binding
  | .clearController token => self.clearController token
  | .releaseLease token => self.releaseLease token

def step (operation : Operation) : SeatRuntime seatId := (self.perform operation).2

theorem nextGeneration_toNat {generation : UInt64} (room : generation ≠ maxGeneration) :
    (generation + 1).toNat = generation.toNat + 1 := by
  have below : generation.toNat < 2 ^ 64 := generation.toNat_lt
  have notLast : generation.toNat ≠ 2 ^ 64 - 1 := by
    intro last
    apply room
    apply UInt64.toNat_inj.mp
    exact last
  rw [UInt64.toNat_add]
  apply Nat.mod_eq_of_lt
  have one : (1 : UInt64).toNat = 1 := rfl
  omega

/-- The Seat stays in its epoch, or stays idle. -/
structure Settled (before after : SeatRuntime seatId) : Prop where
  generation : after.generation = before.generation
  idle : before.active = false → after.active = false

theorem settled_of_fields {before after : SeatRuntime seatId}
    (generation : after.generation = before.generation)
    (uiLease : after.uiLeaseActive = before.uiLeaseActive)
    (gameLease : after.gameLeaseActive = before.gameLeaseActive) :
    Settled before after := by
  refine ⟨generation, ?_⟩
  intro idle
  unfold active
  rw [uiLease, gameLease]
  exact idle

theorem releaseLease_settled (token : ActivationToken) :
    Settled self (self.releaseLease token).2 := by
  obtain same | ⟨owned, released⟩ := self.releaseLease_cases token
  · rw [same]
    exact settled_of_fields rfl rfl rfl
  rw [released]
  have held := active_of_ownsToken owned
  constructor
  · unfold closeEpoch
    split <;> cases token.leaseClass <;> rfl
  · intro idle
    rw [held] at idle
    cases idle

theorem step_settled (demanded : operation.token? = some token) :
    Settled self (self.step operation) := by
  have kept : Settled self self := settled_of_fields rfl rfl rfl
  cases operation with
  | acquireLease leaseClass => cases demanded
  | publishProcess used process =>
    change Settled self (self.publishProcess used process).2
    obtain same | ⟨_, _, _, _, stored⟩ := self.publishProcess_cases used process
    · rw [same]
      exact kept
    · rw [stored]
      exact settled_of_fields rfl rfl rfl
  | bindTargetWindow used owner hwnd =>
    change Settled self (self.bindTargetWindow used owner hwnd).2
    obtain same | ⟨_, _, _, _, stored⟩ := self.bindTargetWindow_cases used owner hwnd
    · rw [same]
      exact kept
    · rw [stored]
      exact settled_of_fields rfl rfl rfl
  | clearTargetWindow used owner expectedHwnd =>
    change Settled self (self.clearTargetWindow used owner expectedHwnd).2
    obtain same | ⟨_, _, _, _, stored⟩ := self.clearTargetWindow_cases used owner expectedHwnd
    · rw [same]
      exact kept
    · rw [stored]
      exact settled_of_fields rfl rfl rfl
  | bindController used binding =>
    change Settled self (self.bindController used binding).2
    obtain ⟨same, _⟩ | ⟨_, _, _, _, stored⟩ := self.bindController_cases used binding
    · rw [same]
      exact kept
    · rw [stored]
      exact settled_of_fields rfl rfl rfl
  | clearController used =>
    change Settled self (self.clearController used).2
    obtain same | ⟨_, _, _, stored⟩ := self.clearController_cases used
    · rw [same]
      exact kept
    · rw [stored]
      exact settled_of_fields rfl rfl rfl
  | releaseLease used => exact self.releaseLease_settled used

theorem acquireLease_epoch_cases (leaseClass : LeaseClass) :
    Settled self (self.acquireLease leaseClass).2 ∨
      (self.active = false ∧ self.generation ≠ maxGeneration ∧
        (self.acquireLease leaseClass).1.valid = true ∧
        (self.acquireLease leaseClass).2.generation = self.generation + 1) := by
  obtain same | ⟨idle, room, named, seat, opened⟩ |
      ⟨held, _, _, _, joined⟩ := self.acquireLease_cases leaseClass
  · rw [same]
    exact Or.inl (settled_of_fields rfl rfl rfl)
  · have next := nextGeneration_toNat room
    have positive : self.generation + 1 ≠ 0 := by
      intro zero
      rw [zero] at next
      have none : (0 : UInt64).toNat = 0 := rfl
      omega
    have after : (self.openEpoch.setLease true leaseClass).generation = self.generation + 1 := by
      cases leaseClass <;> rfl
    rw [opened]
    refine Or.inr ⟨idle, room, ?_, after⟩
    simp [valid, seat, positive, named]
  · rw [joined]
    refine Or.inl ⟨?_, ?_⟩
    · cases leaseClass <;> rfl
    · intro idle
      rw [held] at idle
      cases idle

/-- The Seat settles, or an acquisition finds it idle and opens the next
epoch. -/
theorem step_epoch_cases (operation : Operation) :
    Settled self (self.step operation) ∨
      ∃ leaseClass,
        operation = .acquireLease leaseClass ∧ (self.perform operation).1 = true ∧
          self.active = false ∧
          self.generation ≠ maxGeneration ∧
          (self.step operation).generation = self.generation + 1 := by
  cases operation with
  | acquireLease leaseClass =>
    obtain settled | ⟨idle, room, valid, opened⟩ := self.acquireLease_epoch_cases leaseClass
    · exact Or.inl settled
    · exact Or.inr ⟨leaseClass, rfl, valid, idle, room, opened⟩
  | _ => exact Or.inl (self.step_settled rfl)

theorem step_generation_le (operation : Operation) :
    self.generation.toNat ≤ (self.step operation).generation.toNat := by
  obtain settled | ⟨_, _, _, _, room, opened⟩ := self.step_epoch_cases operation
  · rw [settled.generation]
  · have next := nextGeneration_toNat room
    rw [opened]
    omega

theorem runFrom_generation_le (operations : List Operation) :
    self.generation.toNat ≤ (runFrom step self operations).generation.toNat := by
  induction operations generalizing self with
  | nil => exact Nat.le_refl _
  | cons operation operations ih =>
    have first := self.step_generation_le operation
    have rest := ih (self.step operation)
    rw [runFrom_cons]
    omega

def Stale (token : ActivationToken) (self : SeatRuntime seatId) : Prop :=
  token.generation.toNat < self.generation.toNat ∨
    (token.generation.toNat = self.generation.toNat ∧ self.active = false)

theorem step_stale {self : SeatRuntime seatId} (stale : Stale token self) (operation : Operation) :
    Stale token (self.step operation) := by
  have before : token.generation.toNat ≤ self.generation.toNat := by
    cases stale with
    | inl past => exact Nat.le_of_lt past
    | inr last => exact Nat.le_of_eq last.1
  obtain settled | ⟨_, _, _, _, room, opened⟩ := self.step_epoch_cases operation
  · cases stale with
    | inl past =>
      apply Or.inl
      rw [settled.generation]
      exact past
    | inr last =>
      apply Or.inr
      rw [settled.generation]
      exact ⟨last.1, settled.idle last.2⟩
  · have next := nextGeneration_toNat room
    apply Or.inl
    rw [opened]
    omega

theorem runFrom_stale {self : SeatRuntime seatId}
    (stale : Stale token self) (operations : List Operation) :
    Stale token (runFrom step self operations) := by
  have preserved :
      ∀ (state : SeatRuntime seatId) (operation : Operation),
        Stale token state → Stale token (state.step operation) :=
    fun _ operation before => step_stale before operation
  exact runFrom_preserves preserved operations stale

theorem not_ownsToken_of_stale {self : SeatRuntime seatId} (stale : Stale token self) :
    self.ownsToken token = false := by
  rw [Bool.eq_false_iff]
  intro owned
  have held := active_of_ownsToken owned
  have current := ((ownsToken_iff self token).mp owned).2.2.1
  cases stale with
  | inl past =>
    rw [current] at past
    exact absurd past (Nat.lt_irrefl _)
  | inr last =>
    rw [last.2] at held
    cases held

/-- An operation whose token is not owned is refused and changes
nothing. -/
theorem perform_refused {self : SeatRuntime seatId} (demanded : operation.token? = some token)
    (unowned : self.ownsToken token = false) :
    self.perform operation = (false, self) := by
  have impossible :
      ∀ {owner : ActivationToken}, owner = token → self.ownsToken owner = true → False := by
    intro owner same owned
    rw [same, unowned] at owned
    cases owned
  cases operation with
  | acquireLease leaseClass => cases demanded
  | publishProcess used process =>
    have same := Option.some.inj demanded
    obtain refused | ⟨_, owned, _⟩ := self.publishProcess_cases used process
    · exact refused
    · exact (impossible same owned).elim
  | bindTargetWindow used owner hwnd =>
    have same := Option.some.inj demanded
    obtain refused | ⟨_, owned, _⟩ := self.bindTargetWindow_cases used owner hwnd
    · exact refused
    · exact (impossible same owned).elim
  | clearTargetWindow used owner expectedHwnd =>
    have same := Option.some.inj demanded
    obtain refused | ⟨owned, _⟩ := self.clearTargetWindow_cases used owner expectedHwnd
    · exact refused
    · exact (impossible same owned).elim
  | bindController used binding =>
    have same := Option.some.inj demanded
    obtain ⟨refused, _⟩ | ⟨_, _, owned, _⟩ := self.bindController_cases used binding
    · exact refused
    · exact (impossible same owned).elim
  | clearController used =>
    have same := Option.some.inj demanded
    obtain refused | ⟨owned, _⟩ := self.clearController_cases used
    · exact refused
    · exact (impossible same owned).elim
  | releaseLease used =>
    have same := Option.some.inj demanded
    obtain refused | ⟨owned, _⟩ := self.releaseLease_cases used
    · exact refused
    · exact (impossible same owned).elim

/-- The epochs of a Seat over every run that starts in `start`. -/
structure EpochLaw (start : SeatRuntime seatId) : Prop where
  monotone :
    ∀ earlier later : List Operation,
      (runFrom step start earlier).generation ≤ (runFrom step start (earlier ++ later)).generation
  opened :
    ∀ (operations : List Operation) (leaseClass : LeaseClass),
      let reached := runFrom step start operations
      let acquired := reached.acquireLease leaseClass
      reached.active = false →
      acquired.1.valid = true →
        acquired.2.generation.toNat = reached.generation.toNat + 1 ∧
          acquired.1.generation = acquired.2.generation
  otherwise :
    ∀ (operations : List Operation) (operation : Operation),
      let reached := runFrom step start operations
      (reached.step operation).generation ≠ reached.generation →
        ∃ leaseClass,
          operation = .acquireLease leaseClass ∧
            (reached.perform operation).1 = true ∧ reached.active = false
  stale :
    ∀ (before during after : List Operation) (leaseClass : LeaseClass)
      (token : ActivationToken) (operation : Operation),
      let issued := (runFrom step start before).acquireLease leaseClass
      let closed := runFrom step issued.2 during
      let reached := runFrom step closed after
      issued.1.valid = true →
      closed.active = false →
      token.generation = issued.1.generation →
      operation.token? = some token → reached.perform operation = (false, reached)
  exhausted :
    ∀ (operations : List Operation) (leaseClass : LeaseClass),
      let reached := runFrom step start operations
      reached.generation = maxGeneration →
      reached.active = false → reached.acquireLease leaseClass = ({}, reached)

theorem acquireLease_generation {self : SeatRuntime seatId} {leaseClass : LeaseClass}
    (accepted : (self.acquireLease leaseClass).1.valid = true) :
    (self.acquireLease leaseClass).1.generation = (self.acquireLease leaseClass).2.generation := by
  obtain same | ⟨_, _, _, _, opened⟩ | ⟨_, _, _, _, joined⟩ := self.acquireLease_cases leaseClass
  · rw [same, not_valid_default] at accepted
    cases accepted
  · rw [opened]
    cases leaseClass <;> rfl
  · rw [joined]
    cases leaseClass <;> rfl

theorem epochLaw (start : SeatRuntime seatId) : EpochLaw start where
  monotone := by
    intro earlier later
    rw [runFrom_append, UInt64.le_iff_toNat_le]
    exact runFrom_generation_le (runFrom step start earlier) later
  opened := by
    intro operations leaseClass reached acquired idle accepted
    obtain same | ⟨_, room, _, _, opened⟩ | ⟨held, _⟩ := reached.acquireLease_cases leaseClass
    · have refused : acquired.1.valid = false :=
        (congrArg (fun result => result.1.valid) same).trans not_valid_default
      rw [refused] at accepted
      cases accepted
    · have next := nextGeneration_toNat room
      have left := acquireLease_generation accepted
      have issued : acquired.1.generation = reached.generation + 1 :=
        congrArg (fun result => result.1.generation) opened
      refine ⟨?_, left⟩
      rw [← next, ← issued]
      exact congrArg UInt64.toNat left.symm
    · rw [idle] at held
      cases held
  otherwise := by
    intro operations operation reached changed
    obtain settled | ⟨leaseClass, acquires, succeeded, idle, _⟩ :=
      reached.step_epoch_cases operation
    · exact absurd settled.generation changed
    · exact ⟨leaseClass, acquires, succeeded, idle⟩
  stale := by
    intro before during after leaseClass token operation issued closed
      reached accepted idle sameEpoch demanded
    have left := acquireLease_generation accepted
    have later := runFrom_generation_le issued.2 during
    have stale : Stale token closed := by
      unfold Stale
      rw [sameEpoch, left]
      have ordered := Nat.lt_or_eq_of_le later
      exact ordered.imp_right fun same => ⟨same, idle⟩
    apply perform_refused demanded
    exact not_ownsToken_of_stale (runFrom_stale stale after)
  exhausted := by
    intro operations leaseClass reached full idle
    obtain same | ⟨_, room, _⟩ | ⟨held, _⟩ := reached.acquireLease_cases leaseClass
    · exact same
    · exact absurd full room
    · rw [idle] at held
      cases held

end SeatRuntime

end HydraSeat.Runtime
