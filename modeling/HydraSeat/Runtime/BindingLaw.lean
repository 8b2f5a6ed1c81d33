import HydraSeat.Runtime.Coherence

/-!
# Bindings follow the configured controller

A binding that a pairing made names the configured controller of its Seat,
and a committed assignment of another controller clears it.  A load clears
nothing, and a pairing matches ids up to their canonical form and stores the
scanned spelling.
-/

namespace HydraSeat.Runtime

open Controller
open Foundation PerSeat

namespace SessionController

variable {seat : Seat} {binding : SeatBinding}

def controllerBinding (self : SessionController) (seat : Seat) : Option SeatBinding :=
  (self.runtime seat).controllerBinding

theorem controllerBinding_setRuntime (self : SessionController)
    (updated : SeatRuntime seat.id) (tested : Seat) :
    (self.setRuntime seat updated).controllerBinding tested =
      if tested = seat then updated.controllerBinding
      else self.controllerBinding tested := by
  unfold controllerBinding
  by_cases same : tested = seat
  · cases same
    rw [runtime_setRuntime_same, if_pos rfl]
  · rw [setRuntime_runtime_of_ne self updated same, if_neg same]

theorem controllerBinding_kept {self : SessionController} {updated : SeatRuntime seat.id}
    (keeps :
      updated.controllerBinding = none ∨ updated.controllerBinding = self.controllerBinding seat)
    {tested : Seat}
    (held : (self.setRuntime seat updated).controllerBinding tested = some binding) :
    self.controllerBinding tested = some binding := by
  rw [controllerBinding_setRuntime] at held
  by_cases same : tested = seat
  · rw [if_pos same] at held
    cases keeps with
    | inl cleared =>
      rw [cleared] at held
      cases held
    | inr kept =>
      rw [same, ← kept]
      exact held
  · rw [if_neg same] at held
    exact held

theorem releaseLease_controllerBinding {seatId : UInt32} (self : SeatRuntime seatId)
    (leaseClass : LeaseClass) :
    (self.dropLease leaseClass).closeEpoch.controllerBinding = none ∨
      (self.dropLease leaseClass).closeEpoch.controllerBinding = self.controllerBinding := by
  have dropped : (self.dropLease leaseClass).controllerBinding = self.controllerBinding := by
    cases leaseClass <;> rfl
  unfold SeatRuntime.closeEpoch
  split
  · exact Or.inl rfl
  · exact Or.inr dropped

theorem controllerBinding_of_effect {self after : SessionController} {request : Request}
    (effect : Effect self request after)
    (binds : ∀ token binding inventory, request ≠ .bindController token binding inventory)
    (held : after.controllerBinding seat = some binding) :
    self.controllerBinding seat = some binding := by
  cases effect with
  | unchanged => exact held
  | opened target leaseClass named idle room =>
    refine controllerBinding_kept (Or.inl ?_) held
    cases leaseClass <;> rfl
  | joined target leaseClass named active free =>
    refine controllerBinding_kept (Or.inr ?_) held
    cases leaseClass <;> rfl
  | published target token process | windowBound target token owner hwnd
  | windowCleared target token owner expectedHwnd =>
    refine controllerBinding_kept (Or.inr ?_) held
    rfl
  | controllerBound target token stored inventory => exact absurd rfl (binds token stored inventory)
  | controllerCleared target token => exact controllerBinding_kept (Or.inl rfl) held
  | released target token owned =>
    exact controllerBinding_kept (releaseLease_controllerBinding _ _) held

end SessionController

namespace RuntimeHost

open SessionController

variable {before : RuntimeHost} {uiLease : ActivationToken}
  {configuration : SeatHardwareConfiguration} {detected : DetectedHardware} {seat : Seat}
  {controller : SessionController} {binding : SeatBinding}
variable (operations : List HostOperation) (self : RuntimeHost)

def controllerBinding (seat : Seat) : Option SeatBinding := self.controller.controllerBinding seat

def configuredController (seat : Seat) : WideString :=
  (self.hardwareConfigurations.get seat).controllerId

/-- No binding is made but by `pairController`. -/
def PairsOnly : Prop :=
  ∀ activation binding inventory,
    HostOperation.bindController activation binding inventory ∉ operations

/-- A pairing of the run found the slot of the binding connected in an
authoritative scan. -/
def ScannedSlot (binding : SeatBinding) : Prop :=
  ∃ uiLease persistentControllerId slot scanned,
    ∃ inventory : ControllerInventory,
      HostOperation.pairController uiLease persistentControllerId slot scanned ∈ operations ∧
        binding.runtimeXInputSlot = some slot ∧
        let scan := inventory.scan scanned.connected scanned.physical
        scan.1.authoritative = true ∧
          ∃ source ∈ scan.1.sources,
            source.runtimeXInputSlot = some slot ∧ source.connected = true ∧
              source.runtimeKey = binding.runtimeKey

/-- A binding made in the run, of the controller its Seat is configured
for. -/
def Follows (host : RuntimeHost) : Prop :=
  ∀ seat binding, host.controllerBinding seat = some binding →
    binding.persistentControllerId = some (host.configuredController seat) ∧
      ScannedSlot operations binding

/-- An assignment of another controller leaves the Seat without a binding,
unless the rollback on disk failed. -/
def ClearsBinding (host : RuntimeHost) (uiLease : ActivationToken)
    (configuration : SeatHardwareConfiguration)
    (detected : DetectedHardware)
    (save : SeatHardwareConfigurations → Except ByteString Unit) : Prop :=
  let after := (host.configureSeatHardware uiLease configuration detected save).2
  ∀ seat, after.configuredController seat ≠ host.configuredController seat →
    ¬ RollbackFailed host uiLease save → after.controllerBinding seat = none

structure BindingLaw (seatHardwareStore : Bool) (operations : List HostOperation) : Prop where
  follows :
    ∀ earlier, earlier <+: operations →
      Follows earlier (runFrom step (created seatHardwareStore) earlier)
  clears :
    ∀ earlier uiLease configuration detected save,
      earlier ++ [.configureSeatHardware uiLease configuration detected save] <+: operations →
        ClearsBinding (runFrom step (created seatHardwareStore) earlier)
          uiLease configuration detected save

/-- A load keeps the controller of every Seat that holds a binding, and a
scan spells the controller to be paired as it is configured. -/
def KeepsSpelling (host : RuntimeHost) : HostOperation → Prop
  | .loadPersistentSeatHardware (.ok candidate) =>
    host.seatHardwareStore = true →
      ∀ seat, (host.controllerBinding seat).isSome = true →
        (candidate.get seat).controllerId = host.configuredController seat
  | .pairController _ persistentControllerId _ scanned =>
    let configured := widenCharacters persistentControllerId
    ∀ physical ∈ (host.controllerInventorySnapshot scanned).1.physicalControllers,
      canonicalId physical.persistentId = canonicalId configured →
        physical.persistentId = configured
  | _ => True

theorem Committed.clearController (committed : Committed before uiLease configuration detected seat)
    (coherent : before.Coherent) :
    before.controller.clearController uiLease =
      (true, before.controller.setRuntime seat
        { before.controller.runtime seat with controllerBinding := none }) := by
  have active : (before.controller.runtime seat).active = true := by
    simp [SeatRuntime.active, committed.held]
  have nonzero := coherent.numbered seat active
  have owned : (before.controller.runtime seat).ownsToken uiLease = true := by
    rw [SeatRuntime.ownsToken_iff]
    refine ⟨?_, committed.sameSeat, committed.current.symm, ?_⟩
    · have inRange := seat.id_named
      rw [committed.current] at nonzero
      simp [ActivationToken.valid, committed.sameSeat, inRange, nonzero,
        committed.ui, LeaseClass.named]
    · rw [committed.ui]
      exact committed.held
  unfold SessionController.clearController
  rw [committed.sameSeat, Seat.ofId?_id]
  simp [onSeat, SeatRuntime.clearController, owned, committed.ui, committed.noGame]

/-- The rollback on disk is never needed. -/
theorem Committed.not_rollbackFailed {save : SeatHardwareConfigurations → Except ByteString Unit}
    (committed : Committed before uiLease configuration detected seat)
    (coherent : before.Coherent) :
    ¬ RollbackFailed before uiLease save := by
  intro rollback
  have refused := rollback.refused
  rw [committed.clearController coherent] at refused
  cases refused

@[simp]
theorem noteMutation_controllerBinding (changed : Bool) (seat : Seat) :
    (self.noteMutation changed).controllerBinding seat = self.controllerBinding seat := by
  unfold controllerBinding
  rw [noteMutation_controller]

@[simp]
theorem noteMutation_configuredController (changed : Bool) (seat : Seat) :
    (self.noteMutation changed).configuredController seat = self.configuredController seat := by
  unfold configuredController
  rw [noteMutation_hardwareConfigurations]

/-- What a published assignment leaves of bindings and configured
controllers. -/
theorem published_kept (committed : Committed before uiLease configuration detected seat)
    (coherent : before.Coherent)
    (unbound : Unbound before uiLease seat configuration controller)
    {tested : Seat}
    (held : controller.controllerBinding tested = some binding) :
    before.controllerBinding tested = some binding ∧
      ((before.hardwareConfigurations.set seat configuration).get
        tested).controllerId = before.configuredController tested := by
  obtain ⟨sameId, sameController⟩ | cleared := unbound
  · rw [sameController] at held
    refine ⟨held, ?_⟩
    by_cases same : tested = seat
    · rw [same, get_set_same]
      exact sameId.symm
    · rw [get_set_of_ne _ configuration same]
      rfl
  · rw [committed.clearController coherent] at cleared
    have reached := congrArg Prod.snd cleared
    dsimp only at reached
    rw [← reached, controllerBinding_setRuntime] at held
    by_cases same : tested = seat
    · rw [if_pos same] at held
      cases held
    · rw [if_neg same] at held
      refine ⟨held, ?_⟩
      rw [get_set_of_ne _ configuration same]
      rfl

theorem Paired.controllerBinding {persistentControllerId : ByteString} {runtimeXInputSlot : UInt8}
    {inventory : InventorySnapshot}
    (pair :
      Paired before uiLease persistentControllerId runtimeXInputSlot
        inventory seat binding controller) (tested : Seat) :
    controller.controllerBinding tested = if tested = seat then some binding
      else before.controllerBinding tested := by
  have bound := pair.bound
  obtain refused | ⟨target, guards, free⟩ :=
    before.controller.bindController_cases uiLease binding inventory
  · rw [refused] at bound
    cases bound
  rw [bindController_accepted guards free] at bound
  have reached := congrArg Prod.snd bound
  have named := guards.named
  rw [pair.sameSeat, Seat.ofId?_id] at named
  have sameSeat := Option.some.inj named
  subst sameSeat
  dsimp only at reached
  rw [← reached, controllerBinding_setRuntime]
  rfl

section Invariant

variable {operations : List HostOperation} {host : RuntimeHost}
variable {operation : HostOperation}

theorem Follows.of_kept {after : RuntimeHost} (follows : Follows operations host)
    (kept :
      ∀ seat binding, after.controllerBinding seat = some binding →
        host.controllerBinding seat = some binding ∧
          after.configuredController seat = host.configuredController seat) :
    Follows operations after := by
  intro seat binding held
  obtain ⟨heldBefore, same⟩ := kept seat binding held
  rw [same]
  exact follows seat binding heldBefore

theorem request?_ne_bindController (pairsOnly : PairsOnly operations)
    (member : operation ∈ operations) {request : Request}
    (asked : request? operation = some request)
    (token : ActivationToken) (binding : SeatBinding)
    (inventory : InventorySnapshot) :
    request ≠ .bindController token binding inventory := by
  intro binds
  rw [binds] at asked
  cases operation with
  | bindController activation stored scan => exact pairsOnly activation stored scan member
  | _ => cases asked

theorem Follows.step (coherent : host.Coherent) (follows : Follows operations host)
    (pairsOnly : PairsOnly operations)
    (member : operation ∈ operations)
    (spelling : KeepsSpelling host operation) :
    Follows operations (host.step operation) := by
  have effect := host.step_effect coherent.numbered operation
  generalize host.step operation = after at effect
  cases effect with
  | silent operation after same revision | observed type devicePath stableId after same revision =>
    apply follows.of_kept
    intro seat binding held
    unfold RuntimeHost.controllerBinding at held
    rw [same.controller] at held
    refine ⟨held, ?_⟩
    unfold configuredController
    rw [same.hardwareConfigurations]
  | loaded candidate stored =>
    apply follows.of_kept
    intro seat binding held
    have heldBefore : host.controllerBinding seat = some binding := held
    refine ⟨held, ?_⟩
    apply spelling stored seat
    rw [heldBefore]
    rfl
  | presented seatId title provider infos =>
    apply follows.of_kept
    intro seat binding held
    rw [noteMutation_controllerBinding] at held
    exact ⟨held, noteMutation_configuredController _ _ _⟩
  | configured uiLease configuration detected save target answer after committed outcome =>
    cases outcome with
    | refused text => exact follows
    | published controller saved unbound =>
      apply follows.of_kept
      intro seat binding held
      rw [noteMutation_controllerBinding] at held
      rw [noteMutation_configuredController]
      exact published_kept committed coherent unbound held
    | followed text saved rollback => exact absurd rollback (committed.not_rollbackFailed coherent)
  | paired uiLease persistentControllerId runtimeXInputSlot scanned target
      binding controller pair =>
      have matched := pairingMatch_of_ok pair.pairing
      intro seat held holds
      rw [noteMutation_controllerBinding] at holds
      rw [noteMutation_configuredController]
      have holds : controller.controllerBinding seat = some held := holds
      rw [pair.controllerBinding] at holds
      by_cases same : seat = target
      · rw [if_pos same] at holds
        obtain ⟨physical, connected, sameId, stored⟩ := matched.physical
        have spelled := spelling physical connected sameId
        rw [← Option.some.inj holds, same, stored, spelled]
        refine ⟨?_, ?_⟩
        · exact congrArg some pair.configured.symm
        · exact ⟨uiLease, persistentControllerId, runtimeXInputSlot,
            scanned, host.controllerInventory, member, matched.slot,
            pair.authoritative, matched.source⟩
      · rw [if_neg same] at holds
        exact follows seat held holds
  | requested operation request infos asked =>
    apply follows.of_kept
    intro seat binding held
    rw [noteMutation_controllerBinding] at held
    refine ⟨?_, noteMutation_configuredController _ _ _⟩
    exact controllerBinding_of_effect (host.controller.step_effect request)
      (request?_ne_bindController pairsOnly member asked) held

end Invariant

/-- An assignment that reaches the disk and is not taken back has cleared
the binding of the controller it replaces. -/
theorem clearsBinding {host : RuntimeHost} (coherent : host.Coherent) (uiLease : ActivationToken)
    (configuration : SeatHardwareConfiguration)
    (detected : DetectedHardware)
    (save : SeatHardwareConfigurations → Except ByteString Unit) :
    ClearsBinding host uiLease configuration detected save := by
  intro seat changed kept
  cases found : host.committedSeat? uiLease configuration detected with
  | none =>
    rw [configureSeatHardware_uncommitted found] at changed
    exact absurd rfl changed
  | some target =>
    have committed := committed_of_committedSeat? found
    have outcome := host.commitSeatHardware_outcome uiLease target configuration save
    rw [configureSeatHardware_committed found] at changed ⊢
    generalize host.commitSeatHardware uiLease target configuration save = result
      at outcome changed ⊢
    cases outcome with
    | refused text => exact absurd rfl changed
    | published controller saved unbound =>
      rw [noteMutation_configuredController] at changed
      rw [noteMutation_controllerBinding]
      cases held : controller.controllerBinding seat with
      | none => exact held
      | some binding =>
        have unchanged := (published_kept committed coherent unbound held).2
        exact absurd unchanged changed
    | followed text saved rollback => exact absurd rollback kept

theorem follows_runFrom (seatHardwareStore : Bool) {operations : List HostOperation}
    (pairsOnly : PairsOnly operations)
    (spelling : Along step KeepsSpelling (created seatHardwareStore) operations) :
    Follows operations (runFrom step (created seatHardwareStore) operations) := by
  have throughout :
      Throughout step (fun host => host.Coherent ∧ Follows operations host)
        (created seatHardwareStore) operations := by
    apply throughout_of_along_mem
    · intro host operation ⟨coherent, follows⟩ member spelled
      exact ⟨coherent.step operation, follows.step coherent pairsOnly member spelled⟩
    · refine ⟨coherent_created seatHardwareStore, ?_⟩
      intro seat binding held
      cases seat <;> cases held
    · exact spelling
  exact (throughout_end throughout).2

/-- A run whose loads and scans keep the spelling of the configured
controllers keeps the binding law. -/
theorem bindingLaw (seatHardwareStore : Bool) {operations : List HostOperation}
    (pairsOnly : PairsOnly operations)
    (spelling : Along step KeepsSpelling (created seatHardwareStore) operations) :
    BindingLaw seatHardwareStore operations where
  follows := by
    intro earlier isInitial
    apply follows_runFrom
    · intro activation binding inventory member
      exact pairsOnly activation binding inventory (isInitial.subset member)
    · exact along_of_initial isInitial spelling
  clears := by
    intro earlier uiLease configuration detected save _
    apply clearsBinding
    exact (coherent_created seatHardwareStore).runFrom earlier

/-- A file assigns a controller to the first Seat and the only connected
slot is paired with it. -/
def pairingRun (persistentControllerId : String) : List HostOperation :=
  [.loadPersistentSeatHardware
      (.ok ⟨{ seatId := 1, controllerId := wideOf persistentControllerId }, { seatId := 2 }⟩),
    .acquireUiLease 1,
    .pairController ⟨1, 1, .uiConfiguration⟩ (bytesOf persistentControllerId) 0
      { connected := fun slot => slot == 0
        physical := .ok [{ persistentId := wideOf "CONTAINER:A" }] }]

theorem bindingLaw_pairingRun : BindingLaw true (pairingRun "CONTAINER:A") := by
  apply bindingLaw true
  · intro activation binding inventory member
    simp [pairingRun] at member
  refine ⟨?_, trivial, ?_, trivial⟩
  · intro _ seat held
    cases seat <;> cases held
  intro physical scanned _
  have only : physical = { persistentId := wideOf "CONTAINER:A" } := List.mem_singleton.mp scanned
  rw [only]
  decide

/-- The binding carries the spelling of the scan, not that of the file. -/
theorem pairing_respelled : ¬ BindingLaw true (pairingRun "container:A") := by
  intro law
  have followed := law.follows (pairingRun "container:A") (List.prefix_refl _) .first
  have bound :
      ((runFrom step (created true)
        (pairingRun "container:A")).controllerBinding .first).map
          (·.persistentControllerId) = some (some (wideOf "CONTAINER:A")) :=
    by decide
  obtain ⟨binding, held, spelled⟩ := Option.map_eq_some_iff.mp bound
  have configured := (followed binding held).1
  rw [spelled] at configured
  revert configured
  decide

end RuntimeHost

end HydraSeat.Runtime
