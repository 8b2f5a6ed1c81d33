import HydraSeat.Runtime.HostEffect

/-!
# Coherent Seats

What a Seat holds rests on a lease: a process on the game lease, a target
window on its process, a controller binding on an active epoch.  Every
request of the session controller keeps that, and so does every call of the
host.
-/

namespace HydraSeat.Runtime

open Controller
open Foundation

namespace SeatRuntime

variable {seatId : UInt32}
variable {token : ActivationToken}

structure Coherent (runtime : SeatRuntime seatId) : Prop where
  numbered : runtime.Numbered
  process :
    ∀ process, runtime.process = some process →
      runtime.gameLeaseActive = true ∧ process.valid = true
  window : runtime.targetHwnd ≠ 0 → runtime.process.isSome = true
  controller : runtime.controllerBinding.isSome = true → runtime.active = true

variable {self : SeatRuntime seatId}

theorem Coherent.of_empty
    (numbered : self.Numbered) (process : self.process = none)
    (window : self.targetHwnd = 0)
    (controller : self.controllerBinding = none) :
    self.Coherent where
  numbered := numbered
  process := by
    intro stored held
    rw [process] at held
    cases held
  window := by
    intro nonzero
    exact absurd window nonzero
  controller := by
    intro bound
    rw [controller] at bound
    cases bound

theorem coherent_default : ({} : SeatRuntime seatId).Coherent := by
  apply Coherent.of_empty
  · intro active
    cases active
  · rfl
  · rfl
  · rfl

theorem gameLeaseActive_of_ownsToken
    (owned : self.ownsToken token = true)
    (game : token.leaseClass = .gameProcess) :
    self.gameLeaseActive = true := by
  have held := ((ownsToken_iff self token).mp owned).2.2.2
  rw [game] at held
  exact held

theorem Coherent.openEpoch
    (room : self.generation ≠ maxGeneration) (leaseClass : LeaseClass) :
    (self.openEpoch.setLease true leaseClass).Coherent := by
  have nonzero := nextGeneration_ne_zero room
  cases leaseClass <;>
    exact Coherent.of_empty (fun _ => nonzero) rfl rfl rfl

theorem Coherent.setLease
    (coherent : self.Coherent) (active : self.active = true)
    (leaseClass : LeaseClass) :
    (self.setLease true leaseClass).Coherent := by
  have nonzero := coherent.numbered active
  cases leaseClass with
  | uiConfiguration =>
    exact
      { numbered := fun _ => nonzero, process := coherent.process, window := coherent.window
        controller := fun _ => rfl }
  | gameProcess =>
    exact
      { numbered := fun _ => nonzero
        process := fun process held => ⟨rfl, (coherent.process process held).2⟩
        window := coherent.window, controller := fun _ => Bool.or_true _ }
  | unnamed value => exact coherent

theorem Coherent.releaseLease (coherent : self.Coherent)
    (owned : self.ownsToken token = true) :
    (self.dropLease token.leaseClass).closeEpoch.Coherent := by
  have nonzero := coherent.numbered (active_of_ownsToken owned)
  have generation : (self.dropLease token.leaseClass).closeEpoch.generation ≠ 0 := by
    rw [closeEpoch_generation, dropLease_generation]
    exact nonzero
  unfold closeEpoch at generation ⊢
  by_cases idle :
      (!(self.dropLease token.leaseClass).uiLeaseActive &&
        !(self.dropLease token.leaseClass).gameLeaseActive) = true
  · rw [if_pos idle] at generation ⊢
    exact Coherent.of_empty (fun _ => generation) rfl rfl rfl
  rw [if_neg idle] at generation ⊢
  have active : (self.dropLease token.leaseClass).active = true := by
    unfold SeatRuntime.active
    by_contra inactive
    apply idle
    simpa using inactive
  refine ⟨fun _ => generation, ?_, ?_, fun _ => active⟩
  · intro process held
    cases leaseClass : token.leaseClass with
    | uiConfiguration =>
      rw [leaseClass] at held
      exact coherent.process process held
    | gameProcess =>
      rw [leaseClass] at held
      cases held
    | unnamed value =>
      rw [leaseClass] at held
      exact coherent.process process held
  · intro nonzeroWindow
    cases leaseClass : token.leaseClass with
    | uiConfiguration =>
      rw [leaseClass] at nonzeroWindow
      exact coherent.window nonzeroWindow
    | gameProcess =>
      rw [leaseClass] at nonzeroWindow
      exact absurd rfl nonzeroWindow
    | unnamed value =>
      rw [leaseClass] at nonzeroWindow
      exact coherent.window nonzeroWindow

end SeatRuntime

namespace SessionController

variable {self : SessionController}

def Coherent (session : SessionController) : Prop := ∀ seat, (session.runtime seat).Coherent

theorem coherent_default : ({} : SessionController).Coherent := by
  intro seat
  cases seat with
  | first | second => exact SeatRuntime.coherent_default

theorem Coherent.setRuntime {seat : Seat} {updated : SeatRuntime seat.id}
    (coherent : self.Coherent) (updatedCoherent : updated.Coherent) :
    (self.setRuntime seat updated).Coherent := by
  intro tested
  by_cases same : tested = seat
  · cases same
    rw [runtime_setRuntime_same]
    exact updatedCoherent
  · rw [setRuntime_runtime_of_ne self updated same]
    exact coherent tested

theorem Coherent.of_effect {after : SessionController} {request : Request}
    (effect : Effect self request after) (coherent : self.Coherent) :
    after.Coherent := by
  cases effect with
  | unchanged => exact coherent
  | opened seat leaseClass named idle room =>
    apply coherent.setRuntime
    exact SeatRuntime.Coherent.openEpoch room leaseClass
  | joined seat leaseClass named active free =>
    apply coherent.setRuntime
    exact (coherent seat).setLease active leaseClass
  | published seat token process valid owned game =>
    have lease := SeatRuntime.gameLeaseActive_of_ownsToken owned game
    apply coherent.setRuntime
    refine ⟨(coherent seat).numbered, ?_, fun _ => rfl, (coherent seat).controller⟩
    intro stored held
    rw [← Option.some.inj held]
    exact ⟨lease, valid⟩
  | windowBound seat token owner hwnd nonzero owned game stored =>
    have present : (self.runtime seat).process.isSome = true := by
      rw [stored]
      rfl
    apply coherent.setRuntime
    exact ⟨(coherent seat).numbered, (coherent seat).process,
      fun _ => present, (coherent seat).controller⟩
  | windowCleared seat token owner expectedHwnd =>
    apply coherent.setRuntime
    exact ⟨(coherent seat).numbered, (coherent seat).process,
      fun bad => absurd rfl bad, (coherent seat).controller⟩
  | controllerBound seat token binding inventory same key present owned =>
    have active := SeatRuntime.active_of_ownsToken owned
    apply coherent.setRuntime
    exact ⟨(coherent seat).numbered, (coherent seat).process,
      (coherent seat).window, fun _ => active⟩
  | controllerCleared seat token =>
    apply coherent.setRuntime
    exact ⟨(coherent seat).numbered, (coherent seat).process,
      (coherent seat).window, fun bound => Bool.noConfusion bound⟩
  | released seat token owned =>
    apply coherent.setRuntime
    exact (coherent seat).releaseLease owned

theorem Coherent.runFrom (coherent : self.Coherent) (requests : List Request) :
    (Foundation.runFrom step self requests).Coherent := by
  have preserved :
      ∀ (state : SessionController) (request : Request),
        state.Coherent → (state.step request).Coherent :=
    fun state request before => before.of_effect (state.step_effect request)
  exact runFrom_preserves preserved requests coherent

end SessionController

namespace RuntimeHost

variable {host : RuntimeHost}

structure Coherent (host : RuntimeHost) : Prop where
  controller : host.controller.Coherent
  revision : host.authorityRevision ≠ 0

theorem coherent_created (seatHardwareStore : Bool) : (created seatHardwareStore).Coherent where
  controller := SessionController.coherent_default
  revision := by
    intro zero
    cases zero

theorem Coherent.numbered (coherent : host.Coherent) : host.controller.Numbered :=
  fun seat => (coherent.controller seat).numbered

theorem Coherent.step (coherent : host.Coherent) (operation : HostOperation) :
    (host.step operation).Coherent where
  controller := by
    obtain ⟨requests, reached⟩ := host.step_controller operation
    rw [reached]
    exact coherent.controller.runFrom requests
  revision := by
    have effect := host.step_effect coherent.numbered operation
    obtain ⟨_, same⟩ | counted | ⟨candidate, _, _, loaded⟩ := effect.revision_cases
    · rw [same]
      exact coherent.revision
    · rw [counted]
      exact nextRevision_ne_zero _ coherent.revision
    · rw [loaded]
      exact coherent.revision

theorem Coherent.runFrom (coherent : host.Coherent) (operations : List HostOperation) :
    (Foundation.runFrom RuntimeHost.step host operations).Coherent :=
  runFrom_preserves (fun _ operation before => before.step operation) operations coherent

theorem Coherent.backendRun {before after : RuntimeHost}
    (coherent : before.Coherent) (run : BackendRun before after) :
    after.Coherent :=
  run.preserves (fun _ operation reached _ => reached.step operation) coherent

end RuntimeHost

end HydraSeat.Runtime
