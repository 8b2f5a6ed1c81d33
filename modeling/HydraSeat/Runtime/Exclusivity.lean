import HydraSeat.Runtime.SessionController

/-!
# Cross-Seat exclusivity

Processes and target windows stay separate in every run.  Controller
bindings stay separate exactly in the runs that never bind an XInput source
which the other Seat holds under another identity: `sameControllerSource`
compares persistent ids alone whenever both bindings carry one.
-/

namespace HydraSeat.Runtime.SessionController

open Controller
open Foundation

variable {left right : UInt32} (self : SessionController)

/-- Two active Seats own neither one process nor one window together. -/
structure SeparateTargets {left right : UInt32}
    (mine : SeatRuntime left) (theirs : SeatRuntime right) : Prop where
  process :
    mine.active = true → theirs.active = true →
      ∀ process, mine.process = some process → theirs.process ≠ some process
  window :
    mine.active = true → theirs.active = true →
      mine.targetHwnd ≠ 0 → theirs.targetHwnd ≠ mine.targetHwnd

/-- Two active Seats never hold one XInput runtime source together. -/
def SeparateControllers {left right : UInt32}
    (mine : SeatRuntime left) (theirs : SeatRuntime right) : Prop :=
  mine.active = true → theirs.active = true →
    ∀ held stored, mine.controllerBinding = some held →
      theirs.controllerBinding = some stored → ¬ SameXInputRuntimeSource held stored

structure Exclusive (state : SessionController) : Prop where
  targets : SeparateTargets state.seat1 state.seat2
  controllers : SeparateControllers state.seat1 state.seat2

variable {theirs : SeatRuntime right}

theorem SeparateTargets.symm {mine : SeatRuntime left}
    (separate : SeparateTargets mine theirs) :
    SeparateTargets theirs mine where
  process := by
    intro theirActive mineActive process theirProcess mineProcess
    exact separate.process mineActive theirActive process mineProcess theirProcess
  window := by
    intro theirActive mineActive nonzero same
    exact separate.window mineActive theirActive (same ▸ nonzero) same.symm

theorem SeparateControllers.symm {mine : SeatRuntime left}
    (separate : SeparateControllers mine theirs) :
    SeparateControllers theirs mine := by
  intro theirActive mineActive held stored theirBinding mineBinding same
  exact separate mineActive theirActive stored held mineBinding theirBinding same.symm

theorem separateTargets_iff (seat : Seat) :
    SeparateTargets self.seat1 self.seat2 ↔
      SeparateTargets (self.runtime seat) (self.runtime seat.other) := by
  cases seat with
  | first => exact Iff.rfl
  | second => exact ⟨SeparateTargets.symm, SeparateTargets.symm⟩

theorem separateControllers_iff (seat : Seat) :
    SeparateControllers self.seat1 self.seat2 ↔
      SeparateControllers (self.runtime seat) (self.runtime seat.other) := by
  cases seat with
  | first => exact Iff.rfl
  | second => exact ⟨SeparateControllers.symm, SeparateControllers.symm⟩

theorem setRuntime_separateTargets_iff (seat : Seat) (updated : SeatRuntime seat.id) :
    SeparateTargets (self.setRuntime seat updated).seat1 (self.setRuntime seat updated).seat2 ↔
      SeparateTargets updated (self.runtime seat.other) := by
  rw [separateTargets_iff _ seat, runtime_setRuntime_same, runtime_setRuntime_other]

theorem setRuntime_separateControllers_iff (seat : Seat) (updated : SeatRuntime seat.id) :
    SeparateControllers (self.setRuntime seat updated).seat1 (self.setRuntime seat updated).seat2 ↔
      SeparateControllers updated (self.runtime seat.other) := by
  rw [separateControllers_iff _ seat, runtime_setRuntime_same, runtime_setRuntime_other]

/-- Whatever the updated Seat holds, it held before, while active. -/
structure ClaimsNothing {seatId : UInt32} (before after : SeatRuntime seatId) : Prop where
  process :
    ∀ process, after.process = some process → before.active = true ∧ before.process = some process
  window : after.targetHwnd ≠ 0 → before.active = true ∧ after.targetHwnd = before.targetHwnd
  controller :
    ∀ binding, after.controllerBinding = some binding →
      before.active = true ∧ before.controllerBinding = some binding

theorem ClaimsNothing.targets {before after : SeatRuntime left}
    (claims : ClaimsNothing before after)
    (separate : SeparateTargets before theirs) :
    SeparateTargets after theirs where
  process := by
    intro _ theirActive process held
    obtain ⟨active, heldBefore⟩ := claims.process process held
    exact separate.process active theirActive process heldBefore
  window := by
    intro _ theirActive nonzero
    obtain ⟨active, same⟩ := claims.window nonzero
    rw [same] at nonzero ⊢
    exact separate.window active theirActive nonzero

theorem ClaimsNothing.controllers {before after : SeatRuntime left}
    (claims : ClaimsNothing before after)
    (separate : SeparateControllers before theirs) :
    SeparateControllers after theirs := by
  intro _ theirActive held stored heldAfter storedTheirs
  obtain ⟨active, heldBefore⟩ := claims.controller held heldAfter
  exact separate active theirActive held stored heldBefore storedTheirs

section Updates

variable {seatId : UInt32} (before : SeatRuntime seatId)

theorem openEpoch_claimsNothing (leaseClass : LeaseClass) :
    ClaimsNothing before (before.openEpoch.setLease true leaseClass) := by
  constructor
  · intro process held
    cases leaseClass <;>
      simp [SeatRuntime.openEpoch, SeatRuntime.setLease] at held
  · intro nonzero
    cases leaseClass <;>
      simp [SeatRuntime.openEpoch, SeatRuntime.setLease] at nonzero
  · intro binding held
    cases leaseClass <;>
      simp [SeatRuntime.openEpoch, SeatRuntime.setLease] at held

section

variable (active : before.active = true)
include active

theorem setLease_claimsNothing (leaseClass : LeaseClass) :
    ClaimsNothing before (before.setLease true leaseClass) := by
  cases leaseClass <;>
    exact ⟨fun _ held => ⟨active, held⟩, fun _ => ⟨active, rfl⟩, fun _ held => ⟨active, held⟩⟩

theorem windowCleared_claimsNothing : ClaimsNothing before { before with targetHwnd := 0 } := by
  constructor
  · exact fun _ held => ⟨active, held⟩
  · exact fun nonzero => absurd rfl nonzero
  · exact fun _ held => ⟨active, held⟩

theorem controllerCleared_claimsNothing :
    ClaimsNothing before { before with controllerBinding := none } := by
  constructor
  · exact fun _ held => ⟨active, held⟩
  · exact fun _ => ⟨active, rfl⟩
  · intro binding held
    cases held

theorem dropLease_claimsNothing (leaseClass : LeaseClass) :
    ClaimsNothing before (before.dropLease leaseClass) := by
  cases leaseClass with
  | uiConfiguration =>
    exact ⟨fun _ held => ⟨active, held⟩, fun _ => ⟨active, rfl⟩, fun _ held => ⟨active, held⟩⟩
  | gameProcess =>
    constructor
    · intro process held
      cases held
    · exact fun nonzero => absurd rfl nonzero
    · exact fun _ held => ⟨active, held⟩
  | unnamed value =>
    exact ⟨fun _ held => ⟨active, held⟩, fun _ => ⟨active, rfl⟩, fun _ held => ⟨active, held⟩⟩

end

theorem closeEpoch_claimsNothing
    {after : SeatRuntime seatId} (claims : ClaimsNothing before after) :
    ClaimsNothing before after.closeEpoch := by
  unfold SeatRuntime.closeEpoch
  split
  · constructor
    · intro process held
      cases held
    · exact fun nonzero => absurd rfl nonzero
    · intro binding held
      cases held
  · exact claims

end Updates

theorem step_separateTargets (self : SessionController) (request : Request)
    (separate : SeparateTargets self.seat1 self.seat2) :
    SeparateTargets (self.step request).seat1 (self.step request).seat2 := by
  have effect := self.step_effect request
  generalize self.step request = after at effect ⊢
  cases effect with
  | unchanged => exact separate
  | opened seat leaseClass named idle room =>
    rw [setRuntime_separateTargets_iff]
    exact (openEpoch_claimsNothing _ leaseClass).targets
      ((separateTargets_iff self seat).mp separate)
  | joined seat leaseClass named active free =>
    rw [setRuntime_separateTargets_iff]
    exact (setLease_claimsNothing _ active leaseClass).targets
      ((separateTargets_iff self seat).mp separate)
  | published seat token process valid owned game stored free =>
    rw [setRuntime_separateTargets_iff]
    have seatSeparate := (separateTargets_iff self seat).mp separate
    constructor
    · intro _ theirActive tested held
      rw [← Option.some.inj held]
      exact free theirActive
    · intro mineActive theirActive
      exact seatSeparate.window mineActive theirActive
  | windowBound seat token owner hwnd nonzero owned game stored free =>
    rw [setRuntime_separateTargets_iff]
    have seatSeparate := (separateTargets_iff self seat).mp separate
    constructor
    · intro mineActive theirActive
      exact seatSeparate.process mineActive theirActive
    · intro _ theirActive _
      exact free theirActive
  | windowCleared seat token owner hwnd owned game stored expected =>
    rw [setRuntime_separateTargets_iff]
    exact (windowCleared_claimsNothing _ (SeatRuntime.active_of_ownsToken owned)).targets
      ((separateTargets_iff self seat).mp separate)
  | controllerBound seat token binding inventory _ _ _ _ _ _ =>
    rw [setRuntime_separateTargets_iff]
    have seatSeparate := (separateTargets_iff self seat).mp separate
    exact ⟨seatSeparate.process, seatSeparate.window⟩
  | controllerCleared seat token owned ui noGame =>
    rw [setRuntime_separateTargets_iff]
    exact (controllerCleared_claimsNothing _ (SeatRuntime.active_of_ownsToken owned)).targets
      ((separateTargets_iff self seat).mp separate)
  | released seat token owned =>
    rw [setRuntime_separateTargets_iff]
    have active := SeatRuntime.active_of_ownsToken owned
    exact (closeEpoch_claimsNothing _ (dropLease_claimsNothing _ active token.leaseClass)).targets
      ((separateTargets_iff self seat).mp separate)

/-- The request binds a controller, passes every check of the source, and
the other active Seat holds the same XInput runtime source. -/
def BindsSharedSource (self : SessionController) (request : Request) : Prop :=
  ∃ seat token binding inventory,
    request = .bindController token binding inventory ∧
      BindGuards self seat token binding inventory ∧
      ¬ self.OtherHoldsSource seat binding ∧
      (self.runtime seat.other).active = true ∧
      ∃ held,
        (self.runtime seat.other).controllerBinding = some held ∧
          SameXInputRuntimeSource binding held

theorem step_separateControllers_iff (self : SessionController) (request : Request)
    (separate : SeparateControllers self.seat1 self.seat2) :
    SeparateControllers (self.step request).seat1 (self.step request).seat2 ↔
      ¬ self.BindsSharedSource request := by
  constructor
  · rintro after ⟨seat, token, binding, inventory, rfl, guards, free,
      theirActive, held, stored, same⟩
    have result :
        self.step (.bindController token binding inventory) =
          self.setRuntime seat { self.runtime seat with controllerBinding := some binding } :=
      congrArg Prod.snd (bindController_accepted guards free)
    rw [result, setRuntime_separateControllers_iff] at after
    exact after (SeatRuntime.active_of_ownsToken guards.owned) theirActive
      binding held rfl stored same
  · intro harmless
    have effect := self.step_effect request
    generalize self.step request = after at effect ⊢
    cases effect with
    | unchanged => exact separate
    | opened seat leaseClass named idle room =>
      rw [setRuntime_separateControllers_iff]
      exact (openEpoch_claimsNothing _ leaseClass).controllers
        ((separateControllers_iff self seat).mp separate)
    | joined seat leaseClass named active free =>
      rw [setRuntime_separateControllers_iff]
      exact (setLease_claimsNothing _ active leaseClass).controllers
        ((separateControllers_iff self seat).mp separate)
    | published seat token process valid owned game stored free
    | windowBound seat token owner hwnd nonzero owned game stored free
    | windowCleared seat token owner hwnd owned game stored expected =>
      rw [setRuntime_separateControllers_iff]
      exact (separateControllers_iff self seat).mp separate
    | controllerBound seat token binding inventory bindingSeat key present owned stored free =>
      rw [setRuntime_separateControllers_iff]
      intro _ theirActive held theirs heldAfter theirStored same
      have tokenSeat := ((SeatRuntime.ownsToken_iff _ token).mp owned).2.1
      apply harmless
      refine ⟨seat, token, binding, inventory, rfl, ?_, ?_, theirActive, theirs, theirStored, ?_⟩
      · exact ⟨by rw [tokenSeat, Seat.ofId?_id],
          bindingSeat.trans tokenSeat.symm, key, present, owned, stored⟩
      · rintro ⟨_, tested, testedStored, sameSource⟩
        rw [free tested theirActive testedStored] at sameSource
        cases sameSource
      · rw [Option.some.inj heldAfter]
        exact same
    | controllerCleared seat token owned ui noGame =>
      rw [setRuntime_separateControllers_iff]
      exact (controllerCleared_claimsNothing _ (SeatRuntime.active_of_ownsToken owned)).controllers
        ((separateControllers_iff self seat).mp separate)
    | released seat token owned =>
      rw [setRuntime_separateControllers_iff]
      have active := SeatRuntime.active_of_ownsToken owned
      exact (closeEpoch_claimsNothing _
          (dropLease_claimsNothing _ active token.leaseClass)).controllers
        ((separateControllers_iff self seat).mp separate)

/-- The Seats stay exclusive throughout a run exactly when no request of the
run binds a source that the other Seat holds under another identity. -/
theorem exclusive_throughout_iff (requests : List Request) :
    Throughout step Exclusive {} requests ↔
      Along step (fun self request => ¬ self.BindsSharedSource request) {} requests := by
  have exactly :
      ∀ self request, True → Exclusive self →
        (Exclusive (step self request) ↔ ¬ self.BindsSharedSource request) := by
    intro self request _ exclusive
    constructor
    · intro after
      exact (step_separateControllers_iff self request exclusive.controllers).mp after.controllers
    · intro harmless
      exact ⟨step_separateTargets self request exclusive.targets,
        (step_separateControllers_iff self request exclusive.controllers).mpr harmless⟩
  have start : Exclusive {} := by
    constructor
    · constructor
      · intro inactive
        cases inactive
      · intro inactive
        cases inactive
    · intro inactive
      cases inactive
  exact throughout_iff_along (fun _ _ _ => trivial) exactly requests trivial start

section SharedSlot

/-- Two physical controllers and one connected XInput slot. -/
def twoPadsOneSlot : InventorySnapshot where
  authoritative := true
  sources := [scannedSource 0 true 1]
  physicalControllers :=
    [{ persistentId := wideOf "CONTAINER:{A}" }, { persistentId := wideOf "CONTAINER:{B}" }]

/-- Each Seat opens a configuration lease and stores the pairing of its own
physical controller with slot zero. -/
def pairBothWithSlotZero : List Request :=
  let bind (seatId : UInt32) (pad : String) : Request :=
    .bindController ⟨seatId, 1, .uiConfiguration⟩
      ((pairPhysicalControllerToXInput seatId (wideOf pad) 0
        twoPadsOneSlot).binding.getD {}) twoPadsOneSlot
  [.acquireSeatLease 1 .uiConfiguration, .acquireSeatLease 2 .uiConfiguration,
    bind 1 "CONTAINER:{A}", bind 2 "CONTAINER:{B}"]

/-- What `pairBothWithSlotZero` leaves in the Seat of one pad. -/
def pairedWithSlotZero (seatId : UInt32) (pad : String) : SeatRuntime seatId where
  generation := 1
  uiLeaseActive := true
  controllerBinding := some
    { seatId := seatId, runtimeKey := xinputRuntimeKey 0
      persistentControllerId := some (wideOf pad), runtimeXInputSlot := some 0
      sourceGeneration := 1 }

theorem paired_seats_share_slot_zero :
    ¬ ∀ requests : List Request, Throughout step Exclusive {} requests := by
  intro always
  have final := throughout_end (always pairBothWithSlotZero)
  have reached :
      runFrom step {} pairBothWithSlotZero =
        { seat1 := pairedWithSlotZero 1 "CONTAINER:{A}"
          seat2 := pairedWithSlotZero 2 "CONTAINER:{B}" } := by
    decide
  rw [reached] at final
  exact final.controllers rfl rfl _ _ rfl rfl ⟨rfl, rfl, Or.inl rfl⟩

end SharedSlot

end HydraSeat.Runtime.SessionController
