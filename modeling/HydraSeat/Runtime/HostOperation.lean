import HydraSeat.Runtime.UiLeases

/-!
# Runs of the runtime host

A run of the host is a list of calls of its public operations.  The calls
that only read are left out: they have no next state.
-/

namespace HydraSeat.Runtime

open Controller
open Foundation Bool

/-- A call of a public operation that may change the host, with what the
outside world answers to it. -/
inductive HostOperation where
  | loadPersistentSeatHardware (load : Except ByteString SeatHardwareConfigurations)
  | controllerInventorySnapshot (scanned : ScannedControllers)
  | observePhysicalInput (type : DeviceType) (devicePath stableId : WideString)
  | setSeatGamePresentation (seatId : UInt32) (titleUtf8 providerIdUtf8 : ByteString)
  | configureSeatHardware (uiLease : ActivationToken) (configuration : SeatHardwareConfiguration)
      (detected : DetectedHardware)
      (save : SeatHardwareConfigurations → Except ByteString Unit)
  | acquireUiLease (seatId : UInt32)
  | releaseUiLease (token : ActivationToken)
  | pairController (uiLease : ActivationToken) (persistentControllerId : ByteString)
      (runtimeXInputSlot : UInt8) (scanned : ScannedControllers)
  | beginSeatActivation (seatId : UInt32)
  | publishProcess (activation : ActivationToken) (process : ProcessIdentity)
  | bindTargetWindow (activation : ActivationToken) (owner : ProcessIdentity) (hwnd : UInt64)
  | clearTargetWindow (activation : ActivationToken) (owner : ProcessIdentity)
      (expectedHwnd : UInt64)
  | bindController (activation : ActivationToken) (binding : SeatBinding)
      (inventory : InventorySnapshot)
  | endSeatActivation (activation : ActivationToken)

namespace RuntimeHost

open SessionController

def step (self : RuntimeHost) : HostOperation → RuntimeHost
  | .loadPersistentSeatHardware load => (self.loadPersistentSeatHardware load).2
  | .controllerInventorySnapshot scanned => (self.controllerInventorySnapshot scanned).2
  | .observePhysicalInput type devicePath stableId =>
    self.observePhysicalInput type devicePath stableId
  | .setSeatGamePresentation seatId titleUtf8 providerIdUtf8 =>
    (self.setSeatGamePresentation seatId titleUtf8 providerIdUtf8).2
  | .configureSeatHardware uiLease configuration detected save =>
    (self.configureSeatHardware uiLease configuration detected save).2
  | .acquireUiLease seatId => (self.acquireUiLease seatId).2
  | .releaseUiLease token => (self.releaseUiLease token).2
  | .pairController uiLease persistentControllerId runtimeXInputSlot scanned =>
    (self.pairController uiLease persistentControllerId runtimeXInputSlot scanned).2
  | .beginSeatActivation seatId => (self.beginSeatActivation seatId).2
  | .publishProcess activation process => (self.publishProcess activation process).2
  | .bindTargetWindow activation owner hwnd => (self.bindTargetWindow activation owner hwnd).2
  | .clearTargetWindow activation owner expectedHwnd =>
    (self.clearTargetWindow activation owner expectedHwnd).2
  | .bindController activation binding inventory =>
    (self.bindController activation binding inventory).2
  | .endSeatActivation activation => (self.endSeatActivation activation).2

/-- The calls that the backend makes of its own accord: no call on behalf
of a client, and an activation is ended with its own token. -/
def backendCall : HostOperation → Bool
  | .configureSeatHardware _ _ _ _ => false
  | .acquireUiLease _ => false
  | .releaseUiLease _ => false
  | .pairController _ _ _ _ => false
  | .endSeatActivation activation => activation.leaseClass == .gameProcess
  | _ => true

theorem backendCall_keeps (self : RuntimeHost) {operation : HostOperation}
    (backend : backendCall operation = true) :
    KeepsUiLeases self (self.step operation) := by
  cases operation with
  | loadPersistentSeatHardware load => exact self.loadPersistentSeatHardware_keeps load
  | controllerInventorySnapshot scanned => exact self.controllerInventorySnapshot_keeps scanned
  | observePhysicalInput type devicePath stableId =>
    exact self.observePhysicalInput_keeps type devicePath stableId
  | setSeatGamePresentation seatId titleUtf8 providerIdUtf8 =>
    exact self.setSeatGamePresentation_keeps seatId titleUtf8 providerIdUtf8
  | configureSeatHardware uiLease configuration detected save | acquireUiLease seatId
  | releaseUiLease token => exact absurd backend false_ne_true
  | pairController uiLease persistentControllerId runtimeXInputSlot scanned =>
    exact absurd backend false_ne_true
  | beginSeatActivation seatId => exact self.beginSeatActivation_keeps seatId
  | publishProcess activation process => exact self.publishProcess_keeps activation process
  | bindTargetWindow activation owner hwnd =>
    exact self.bindTargetWindow_keeps activation owner hwnd
  | clearTargetWindow activation owner expectedHwnd =>
    exact self.clearTargetWindow_keeps activation owner expectedHwnd
  | bindController activation binding inventory =>
    exact self.bindController_keeps activation binding inventory
  | endSeatActivation activation =>
    have game : activation.leaseClass = .gameProcess := beq_iff_eq.mp backend
    exact self.endSeatActivation_keeps activation game

/-- The host after some calls of the backend. -/
def BackendRun (before after : RuntimeHost) : Prop :=
  ∃ operations : List HostOperation,
    (∀ operation ∈ operations, backendCall operation = true) ∧
      runFrom step before operations = after

namespace BackendRun

theorem refl (self : RuntimeHost) : BackendRun self self := by
  refine ⟨[], ?_, rfl⟩
  intro operation member
  cases member

theorem of_call (self : RuntimeHost) {operation : HostOperation}
    (backend : backendCall operation = true) :
    BackendRun self (self.step operation) := by
  refine ⟨[operation], ?_, rfl⟩
  intro called member
  rw [List.mem_singleton.mp member]
  exact backend

theorem trans {first second third : RuntimeHost} (earlier : BackendRun first second)
    (later : BackendRun second third) :
    BackendRun first third := by
  obtain ⟨earlierCalls, earlierBackend, reached⟩ := earlier
  obtain ⟨laterCalls, laterBackend, ended⟩ := later
  refine ⟨earlierCalls ++ laterCalls, ?_, ?_⟩
  · intro operation member
    cases List.mem_append.mp member with
    | inl inEarlier => exact earlierBackend operation inEarlier
    | inr inLater => exact laterBackend operation inLater
  · rw [runFrom_append, reached]
    exact ended

theorem preserves {before after : RuntimeHost} {invariant : RuntimeHost → Prop}
    (preserved :
      ∀ host operation, invariant host →
        backendCall operation = true → invariant (host.step operation))
    (run : BackendRun before after) (start : invariant before) :
    invariant after := by
  obtain ⟨operations, backend, reached⟩ := run
  have throughout := throughout_of_along preserved start (along_of_forall_mem backend before)
  rw [← reached]
  exact throughout_end throughout

theorem keeps {before after : RuntimeHost}
    (run : BackendRun before after) : KeepsUiLeases before after := by
  apply run.preserves
  · intro host operation kept backend
    exact kept.trans (host.backendCall_keeps backend)
  · exact .refl before

end BackendRun

section BackendCalls

variable (self : RuntimeHost) (activation : ActivationToken)

theorem beginSeatActivation_run (seatId : UInt32) :
    BackendRun self (self.beginSeatActivation seatId).2 :=
  have backend : backendCall (.beginSeatActivation seatId) = true := rfl
  .of_call self backend

theorem publishProcess_run (process : ProcessIdentity) :
    BackendRun self (self.publishProcess activation process).2 :=
  have backend : backendCall (.publishProcess activation process) = true := rfl
  .of_call self backend

theorem bindTargetWindow_run (owner : ProcessIdentity) (hwnd : UInt64) :
    BackendRun self (self.bindTargetWindow activation owner hwnd).2 :=
  have backend : backendCall (.bindTargetWindow activation owner hwnd) = true := rfl
  .of_call self backend

theorem clearTargetWindow_run (owner : ProcessIdentity) (expectedHwnd : UInt64) :
    BackendRun self (self.clearTargetWindow activation owner expectedHwnd).2 :=
  have backend : backendCall (.clearTargetWindow activation owner expectedHwnd) = true := rfl
  .of_call self backend

theorem bindController_run (binding : SeatBinding) (inventory : InventorySnapshot) :
    BackendRun self (self.bindController activation binding inventory).2 :=
  have backend : backendCall (.bindController activation binding inventory) = true := rfl
  .of_call self backend

theorem endSeatActivation_run (game : activation.leaseClass = .gameProcess) :
    BackendRun self (self.endSeatActivation activation).2 :=
  have backend : backendCall (.endSeatActivation activation) = true := beq_iff_eq.mpr game
  .of_call self backend

theorem controllerInventorySnapshot_run (scanned : ScannedControllers) :
    BackendRun self (self.controllerInventorySnapshot scanned).2 :=
  have backend : backendCall (.controllerInventorySnapshot scanned) = true := rfl
  .of_call self backend

end BackendCalls

/-- The request that a call makes of the session controller, if any.  A
hardware assignment clears the controller only on its way to a new one. -/
theorem step_controller (self : RuntimeHost) (operation : HostOperation) :
    ∃ requests : List Request,
      (self.step operation).controller =
        runFrom SessionController.step self.controller requests := by
  by_cases backend : backendCall operation = true
  · obtain ⟨requests, _, performed⟩ := self.backendCall_keeps backend
    exact ⟨requests, performed⟩
  cases operation with
  | acquireUiLease seatId =>
    refine ⟨[.acquireSeatLease seatId .uiConfiguration], ?_⟩
    exact noteMutation_controller _ _
  | releaseUiLease token =>
    change ∃ requests, (self.releaseUiLease token).2.controller = _
    unfold releaseUiLease
    split
    · exact ⟨[], rfl⟩
    · refine ⟨[.releaseSeatLease token], ?_⟩
      exact noteMutation_controller _ _
  | endSeatActivation activation =>
    refine ⟨[.releaseSeatLease activation], ?_⟩
    exact self.endSeatActivation_controller activation
  | configureSeatHardware uiLease configuration detected save =>
    obtain ⟨requests, _, performed⟩ :=
      self.configureSeatHardware_keeps uiLease configuration detected save
    exact ⟨requests, performed⟩
  | pairController uiLease persistentControllerId runtimeXInputSlot scanned =>
    obtain ⟨requests, _, performed⟩ := self.pairController_keeps uiLease persistentControllerId
      runtimeXInputSlot scanned
    exact ⟨requests, performed⟩
  | _ => exact absurd rfl backend

end RuntimeHost

end HydraSeat.Runtime
