import HydraSeat.Runtime.RuntimeHost

/-!
# UI leases of the host

The current UI token of a Seat is the token that `acquireUiLease` returned
when it opened the lease.  Only two host operations change it; all the
others perform requests that keep every UI lease.
-/

namespace HydraSeat.Runtime

open Controller
open Foundation RuntimeHost Seat SeatRuntime SessionController

namespace SeatRuntime

variable {seatId : UInt32}
variable {leaseClass : LeaseClass} (self : SeatRuntime seatId)

def heldUiLease : Option ActivationToken :=
  if self.uiLeaseActive then some ⟨seatId, self.generation, .uiConfiguration⟩
  else none

/-- An open activation epoch has a number. -/
def Numbered : Prop := self.active = true → self.generation ≠ 0

theorem heldUiLease_eq_some_iff (token : ActivationToken) :
    self.heldUiLease = some token ↔
      self.uiLeaseActive = true ∧ token = ⟨seatId, self.generation, .uiConfiguration⟩ := by
  unfold heldUiLease
  by_cases active : self.uiLeaseActive = true
  · simp [active, eq_comm]
  · simp [active]

theorem heldUiLease_isSome : self.heldUiLease.isSome = self.uiLeaseActive := by
  unfold heldUiLease
  cases self.uiLeaseActive <;> rfl

theorem heldUiLease_eq_none_iff : self.heldUiLease = none ↔ self.uiLeaseActive = false := by
  rw [← heldUiLease_isSome, Option.isSome_eq_false_iff, Option.isNone_iff_eq_none]

theorem closeEpoch_uiLeaseActive : self.closeEpoch.uiLeaseActive = self.uiLeaseActive := by
  unfold closeEpoch
  split <;> rfl

theorem closeEpoch_generation : self.closeEpoch.generation = self.generation := by
  unfold closeEpoch
  split <;> rfl

theorem closeEpoch_active : self.closeEpoch.active = self.active := by
  unfold closeEpoch
  split <;> rfl

theorem closeEpoch_heldUiLease : self.closeEpoch.heldUiLease = self.heldUiLease := by
  unfold heldUiLease
  rw [closeEpoch_uiLeaseActive, closeEpoch_generation]

theorem dropLease_generation (leaseClass : LeaseClass) :
    (self.dropLease leaseClass).generation = self.generation := by
  cases leaseClass <;> rfl

theorem dropLease_heldUiLease (notUi : leaseClass ≠ .uiConfiguration) :
    (self.dropLease leaseClass).heldUiLease = self.heldUiLease := by
  cases leaseClass with
  | uiConfiguration => exact absurd rfl notUi
  | gameProcess | unnamed value => rfl

theorem active_of_dropLease {self : SeatRuntime seatId}
    (active : (self.dropLease leaseClass).active = true) :
    self.active = true := by
  cases leaseClass with
  | uiConfiguration =>
    simp only [dropLease, SeatRuntime.active, Bool.or_eq_true] at active ⊢
    exact active.imp_left Bool.noConfusion
  | gameProcess =>
    simp only [dropLease, SeatRuntime.active, Bool.or_eq_true] at active ⊢
    exact active.imp_right Bool.noConfusion
  | unnamed value => exact active

theorem uiLeaseActive_of_idle {self : SeatRuntime seatId} (idle : self.active = false) :
    self.uiLeaseActive = false := by
  simp only [active, Bool.or_eq_false_iff] at idle
  exact idle.1

/-- Opening or joining an epoch under another class keeps the UI lease. -/
theorem setLease_heldUiLease (notUi : leaseClass ≠ .uiConfiguration) :
    (self.setLease true leaseClass).heldUiLease = self.heldUiLease := by
  cases leaseClass with
  | uiConfiguration => exact absurd rfl notUi
  | gameProcess | unnamed value => rfl

theorem openEpoch_heldUiLease {self : SeatRuntime seatId} (idle : self.active = false) :
    self.openEpoch.heldUiLease = self.heldUiLease := by
  have inactive := uiLeaseActive_of_idle idle
  have inactiveAfter : self.openEpoch.uiLeaseActive = false := inactive
  rw [(heldUiLease_eq_none_iff self).mpr inactive,
    (heldUiLease_eq_none_iff self.openEpoch).mpr inactiveAfter]

theorem nextGeneration_ne_zero {generation : UInt64} (room : generation ≠ maxGeneration) :
    generation + 1 ≠ 0 := by
  intro wrapped
  apply room
  have shifted : generation + 1 - 1 = 0 - 1 := congrArg (· - 1) wrapped
  rw [UInt64.add_sub_cancel] at shifted
  rw [shifted]
  rfl

theorem ownsToken_ui_iff {self : SeatRuntime seatId} (named : seatId = 1 ∨ seatId = 2)
    (numbered : self.Numbered) {token : ActivationToken}
    (ui : token.leaseClass = .uiConfiguration) :
    self.ownsToken token = true ↔ self.heldUiLease = some token := by
  rw [ownsToken_iff, heldUiLease_eq_some_iff, ui]
  constructor
  · intro ⟨_, seat, generation, held⟩
    refine ⟨held, ?_⟩
    cases token
    simp only at seat generation ui
    rw [seat, generation, ui]
  · intro ⟨held, same⟩
    have active : self.active = true := by
      simp only [SeatRuntime.active, held, Bool.true_or]
    have nonzero := numbered active
    rw [same]
    refine ⟨?_, rfl, rfl, held⟩
    have inRange : (seatId == 1 || seatId == 2) = true := by
      simpa using named
    simp [ActivationToken.valid, inRange, nonzero, LeaseClass.named]

end SeatRuntime

namespace SessionController

variable {self after : SessionController} {request : Request}

/-- The request names no UI lease to open or close. -/
def Request.KeepsUiLeases : Request → Prop
  | .acquireSeatLease _ leaseClass => leaseClass ≠ .uiConfiguration
  | .releaseSeatLease token => token.leaseClass ≠ .uiConfiguration
  | _ => True

def heldUiLease (self : SessionController) (seat : Seat) : Option ActivationToken :=
  (self.runtime seat).heldUiLease

def Numbered (self : SessionController) : Prop := ∀ seat, (self.runtime seat).Numbered

theorem setRuntime_runtime_of_ne (self : SessionController) {seat tested : Seat}
    (updated : SeatRuntime seat.id) (different : tested ≠ seat) :
    (self.setRuntime seat updated).runtime tested = self.runtime tested := by
  cases seat <;> cases tested <;>
    first | rfl | exact absurd rfl different

theorem heldUiLease_setRuntime (self : SessionController) (seat : Seat)
    (updated : SeatRuntime seat.id) (tested : Seat) :
    (self.setRuntime seat updated).heldUiLease tested = if tested = seat then updated.heldUiLease
      else self.heldUiLease tested := by
  unfold heldUiLease
  by_cases same : tested = seat
  · cases same
    rw [if_pos rfl, runtime_setRuntime_same]
  · rw [if_neg same, setRuntime_runtime_of_ne self updated same]

theorem heldUiLease_setRuntime_eq (self : SessionController) (seat : Seat)
    {updated : SeatRuntime seat.id}
    (kept : updated.heldUiLease = (self.runtime seat).heldUiLease)
    (tested : Seat) :
    (self.setRuntime seat updated).heldUiLease tested = self.heldUiLease tested := by
  rw [heldUiLease_setRuntime]
  by_cases same : tested = seat
  · rw [if_pos same, same]
    exact kept
  · rw [if_neg same]

theorem numbered_setRuntime {seat : Seat} {updated : SeatRuntime seat.id}
    (numbered : self.Numbered) (updatedNumbered : updated.Numbered) :
    (self.setRuntime seat updated).Numbered := by
  intro tested
  by_cases same : tested = seat
  · cases same
    rw [runtime_setRuntime_same]
    exact updatedNumbered
  · rw [setRuntime_runtime_of_ne self updated same]
    exact numbered tested

theorem heldUiLease_of_effect (effect : Effect self request after)
    (keeps : request.KeepsUiLeases) (tested : Seat) :
    after.heldUiLease tested = self.heldUiLease tested := by
  cases effect with
  | unchanged => rfl
  | opened seat leaseClass named idle room =>
    apply heldUiLease_setRuntime_eq
    rw [SeatRuntime.setLease_heldUiLease _ keeps, SeatRuntime.openEpoch_heldUiLease idle]
  | joined seat leaseClass named active free =>
    apply heldUiLease_setRuntime_eq
    exact SeatRuntime.setLease_heldUiLease _ keeps
  | published seat token process | windowBound seat token owner hwnd
  | windowCleared seat token owner expectedHwnd | controllerBound seat token binding inventory
  | controllerCleared seat token =>
    apply heldUiLease_setRuntime_eq
    rfl
  | released seat token owned =>
    apply heldUiLease_setRuntime_eq
    rw [SeatRuntime.closeEpoch_heldUiLease, SeatRuntime.dropLease_heldUiLease _ keeps]

theorem numbered_of_effect (effect : Effect self request after) (numbered : self.Numbered) :
    after.Numbered := by
  cases effect with
  | unchanged => exact numbered
  | opened seat leaseClass named idle room =>
    apply numbered_setRuntime numbered
    intro _
    have generation :
        ((self.runtime seat).openEpoch.setLease true
          leaseClass).generation = (self.runtime seat).generation + 1 := by
      cases leaseClass <;> rfl
    rw [generation]
    exact SeatRuntime.nextGeneration_ne_zero room
  | joined seat leaseClass named active free =>
    apply numbered_setRuntime numbered
    intro _
    have generation :
        ((self.runtime seat).setLease true leaseClass).generation =
          (self.runtime seat).generation := by
      cases leaseClass <;> rfl
    rw [generation]
    exact numbered seat active
  | published seat token process | windowBound seat token owner hwnd =>
    exact numbered_setRuntime numbered (numbered seat)
  | windowCleared seat token owner expectedHwnd | controllerBound seat token binding inventory =>
    exact numbered_setRuntime numbered (numbered seat)
  | controllerCleared seat token => exact numbered_setRuntime numbered (numbered seat)
  | released seat token owned =>
    apply numbered_setRuntime numbered
    intro active
    rw [SeatRuntime.closeEpoch_active] at active
    rw [SeatRuntime.closeEpoch_generation, SeatRuntime.dropLease_generation]
    exact numbered seat (active_of_dropLease active)

theorem heldUiLease_runFrom {requests : List Request}
    (keeps : ∀ request ∈ requests, request.KeepsUiLeases)
    (self : SessionController) (seat : Seat) :
    (runFrom step self requests).heldUiLease seat = self.heldUiLease seat := by
  induction requests generalizing self with
  | nil => rfl
  | cons request requests ih =>
    have first : (self.step request).heldUiLease seat = self.heldUiLease seat :=
      heldUiLease_of_effect (self.step_effect request) (keeps request List.mem_cons_self) seat
    have rest := ih (fun later member => keeps later (List.mem_cons_of_mem _ member))
      (self.step request)
    rw [runFrom_cons, rest, first]

theorem numbered_runFrom (requests : List Request)
    (numbered : self.Numbered) :
    (runFrom step self requests).Numbered := by
  have preserved :
      ∀ (state : SessionController) (request : Request),
        state.Numbered → (state.step request).Numbered :=
    fun state request => numbered_of_effect (state.step_effect request)
  exact runFrom_preserves preserved requests numbered

end SessionController

namespace RuntimeHost

open SessionController

def heldUiLease (self : RuntimeHost) (seat : Seat) : Option ActivationToken :=
  self.controller.heldUiLease seat

@[simp]
theorem noteMutation_controller (self : RuntimeHost) (changed : Bool) :
    (self.noteMutation changed).controller = self.controller := by
  unfold noteMutation
  split <;> rfl

@[simp]
theorem noteMutation_hardwareConfigurations (self : RuntimeHost) (changed : Bool) :
    (self.noteMutation changed).hardwareConfigurations = self.hardwareConfigurations := by
  unfold noteMutation
  split <;> rfl

/-- From `before` to `after` the controller answered requests, none of
which opens or closes a UI lease. -/
def KeepsUiLeases (before after : RuntimeHost) : Prop :=
  ∃ requests : List Request,
    (∀ request ∈ requests, request.KeepsUiLeases) ∧
      after.controller = runFrom SessionController.step before.controller requests

namespace KeepsUiLeases

variable {before after : RuntimeHost}

theorem of_controller_eq (same : after.controller = before.controller) :
    KeepsUiLeases before after :=
  ⟨[], fun _ member => absurd member List.not_mem_nil, same⟩

theorem refl (host : RuntimeHost) : KeepsUiLeases host host := of_controller_eq rfl

theorem of_request (request : Request) (keeps : request.KeepsUiLeases)
    (performed : after.controller = before.controller.step request) :
    KeepsUiLeases before after := by
  refine ⟨[request], ?_, performed⟩
  intro member isRequest
  rw [List.mem_singleton.mp isRequest]
  exact keeps

theorem trans {first second third : RuntimeHost} (earlier : KeepsUiLeases first second)
    (later : KeepsUiLeases second third) :
    KeepsUiLeases first third := by
  obtain ⟨earlierRequests, earlierKeep, reached⟩ := earlier
  obtain ⟨laterRequests, laterKeep, ended⟩ := later
  refine ⟨earlierRequests ++ laterRequests, ?_, ?_⟩
  · intro request member
    cases List.mem_append.mp member with
    | inl inEarlier => exact earlierKeep request inEarlier
    | inr inLater => exact laterKeep request inLater
  · rw [runFrom_append, ← reached]
    exact ended

theorem heldUiLease_eq (keeps : KeepsUiLeases before after) (seat : Seat) :
    after.heldUiLease seat = before.heldUiLease seat := by
  obtain ⟨requests, allKeep, reached⟩ := keeps
  unfold heldUiLease
  rw [reached]
  exact heldUiLease_runFrom allKeep before.controller seat

theorem numbered (keeps : KeepsUiLeases before after)
    (numberedBefore : before.controller.Numbered) :
    after.controller.Numbered := by
  obtain ⟨requests, _, reached⟩ := keeps
  rw [reached]
  exact numbered_runFrom requests numberedBefore

end KeepsUiLeases

section GameCalls

variable (self : RuntimeHost) (activation : ActivationToken)

theorem beginSeatActivation_keeps (seatId : UInt32) :
    KeepsUiLeases self (self.beginSeatActivation seatId).2 := by
  apply KeepsUiLeases.of_request (.acquireSeatLease seatId .gameProcess)
  · exact LeaseClass.noConfusion
  · exact noteMutation_controller _ _

theorem publishProcess_keeps (process : ProcessIdentity) :
    KeepsUiLeases self (self.publishProcess activation process).2 :=
  .of_request (.publishProcess activation process) trivial (noteMutation_controller _ _)

theorem bindTargetWindow_keeps (owner : ProcessIdentity) (hwnd : UInt64) :
    KeepsUiLeases self (self.bindTargetWindow activation owner hwnd).2 :=
  .of_request (.bindTargetWindow activation owner hwnd) trivial (noteMutation_controller _ _)

theorem clearTargetWindow_keeps (owner : ProcessIdentity) (expectedHwnd : UInt64) :
    KeepsUiLeases self (self.clearTargetWindow activation owner expectedHwnd).2 :=
  .of_request (.clearTargetWindow activation owner expectedHwnd) trivial
    (noteMutation_controller _ _)

theorem bindController_keeps (binding : SeatBinding) (inventory : InventorySnapshot) :
    KeepsUiLeases self (self.bindController activation binding inventory).2 :=
  .of_request (.bindController activation binding inventory) trivial (noteMutation_controller _ _)

theorem endSeatActivation_controller :
    (self.endSeatActivation activation).2.controller =
      self.controller.step (.releaseSeatLease activation) := by
  unfold endSeatActivation
  rw [noteMutation_controller]
  dsimp only
  split <;> rfl

theorem endSeatActivation_hardwareConfigurations :
    (self.endSeatActivation activation).2.hardwareConfigurations = self.hardwareConfigurations := by
  unfold endSeatActivation
  rw [noteMutation_hardwareConfigurations]
  dsimp only
  split <;> rfl

theorem endSeatActivation_keeps (game : activation.leaseClass = .gameProcess) :
    KeepsUiLeases self (self.endSeatActivation activation).2 := by
  apply KeepsUiLeases.of_request (.releaseSeatLease activation)
  · intro ui
    rw [game] at ui
    cases ui
  · exact endSeatActivation_controller self activation

end GameCalls

section UiCalls

variable (self : RuntimeHost)
variable {token : ActivationToken}

theorem controllerInventorySnapshot_keeps (scanned : ScannedControllers) :
    KeepsUiLeases self (self.controllerInventorySnapshot scanned).2 :=
  .of_controller_eq rfl

theorem setSeatGamePresentation_keeps (seatId : UInt32) (titleUtf8 providerIdUtf8 : ByteString) :
    KeepsUiLeases self (self.setSeatGamePresentation seatId titleUtf8 providerIdUtf8).2 := by
  apply KeepsUiLeases.of_controller_eq
  unfold setSeatGamePresentation
  split
  · rfl
  split
  · rfl
  split
  · rfl
  · dsimp only
    split
    · rfl
    · exact noteMutation_controller _ _

theorem observePhysicalInput_keeps (type : DeviceType) (devicePath stableId : WideString) :
    KeepsUiLeases self (self.observePhysicalInput type devicePath stableId) := by
  apply KeepsUiLeases.of_controller_eq
  unfold observePhysicalInput
  split
  · rfl
  · split
    · rfl
    · dsimp only
      split <;> exact noteMutation_controller _ _

theorem loadPersistentSeatHardware_keeps (load : Except ByteString SeatHardwareConfigurations) :
    KeepsUiLeases self (self.loadPersistentSeatHardware load).2 := by
  apply KeepsUiLeases.of_controller_eq
  unfold loadPersistentSeatHardware
  split
  · rfl
  · cases load <;> rfl

theorem commitSeatHardware_keeps (uiLease : ActivationToken) (seat : Seat)
    (configuration : SeatHardwareConfiguration)
    (save : SeatHardwareConfigurations → Except ByteString Unit) :
    KeepsUiLeases self (self.commitSeatHardware uiLease seat configuration save).2 := by
  have cleared :
      KeepsUiLeases self { self with controller := (self.controller.clearController uiLease).2 } :=
    .of_request (.clearController uiLease) trivial rfl
  have published (host : RuntimeHost) (configurations : SeatHardwareConfigurations) :
      KeepsUiLeases host
        (({ host with hardwareConfigurations := configurations }).noteMutation true) :=
    .of_controller_eq (noteMutation_controller _ _)
  unfold commitSeatHardware
  dsimp only
  split
  · exact .refl self
  split
  next changed =>
    split
    · exact cleared.trans (published _ _)
    split
    · split
      · exact cleared
      · exact cleared.trans (published _ _)
    · exact cleared
  next same => exact published _ _

theorem configureSeatHardware_keeps (uiLease : ActivationToken)
    (configuration : SeatHardwareConfiguration)
    (detected : DetectedHardware)
    (save : SeatHardwareConfigurations → Except ByteString Unit) :
    KeepsUiLeases self (self.configureSeatHardware uiLease configuration detected save).2 := by
  unfold configureSeatHardware
  dsimp only
  split
  · exact .refl self
  split
  · exact .refl self
  split
  · exact .refl self
  split
  · exact .refl self
  split
  · exact .refl self
  · split
    · exact .refl self
    · exact self.commitSeatHardware_keeps uiLease _ _ save

theorem pairController_keeps (uiLease : ActivationToken) (persistentControllerId : ByteString)
    (runtimeXInputSlot : UInt8) (scanned : ScannedControllers) :
    KeepsUiLeases self
      (self.pairController uiLease persistentControllerId runtimeXInputSlot scanned).2 := by
  have scan := self.controllerInventorySnapshot_keeps scanned
  unfold pairController
  split
  · exact .refl self
  dsimp only
  split
  · exact scan
  split
  · exact scan
  split
  · exact scan
  split
  · exact scan
  split
  next binding paired =>
    exact .of_request (.bindController uiLease binding _) trivial (noteMutation_controller _ _)
  · exact scan

/-- What an accepted `acquireUiLease` leaves. -/
structure UiAcquired (before : RuntimeHost) (seat : Seat)
    (token : ActivationToken) (after : RuntimeHost) : Prop where
  tokenSeat : token.seatId = seat.id
  free : before.heldUiLease seat = none
  held :
    ∀ tested, after.heldUiLease tested =
      if tested = seat then some token else before.heldUiLease tested
  numbered : after.controller.Numbered

theorem UiAcquired.token_valid {before after : RuntimeHost} {seat : Seat}
    (acquired : UiAcquired before seat token after) :
    token.valid = true := by
  have held : after.heldUiLease seat = some token := by
    rw [acquired.held, if_pos rfl]
  have current := (SeatRuntime.heldUiLease_eq_some_iff _ token).mp held
  have ui : token.leaseClass = .uiConfiguration := by
    rw [current.2]
  have owned := (ownsToken_ui_iff seat.id_named (acquired.numbered seat) ui).mpr held
  exact ((ownsToken_iff _ token).mp owned).1

theorem acquireUiLease_numbered (numbered : self.controller.Numbered) (seatId : UInt32) :
    (self.acquireUiLease seatId).2.controller.Numbered := by
  have performed :
      (self.acquireUiLease seatId).2.controller =
        self.controller.step (.acquireSeatLease seatId .uiConfiguration) :=
    noteMutation_controller _ _
  rw [performed]
  exact numbered_of_effect (self.controller.step_effect _) numbered

theorem acquireUiLease_cases (numbered : self.controller.Numbered) (seatId : UInt32) :
    ((self.acquireUiLease seatId).1.valid = false ∧ (self.acquireUiLease seatId).2 = self) ∨
      ∃ seat, seatId = seat.id ∧
        UiAcquired self seat (self.acquireUiLease seatId).1 (self.acquireUiLease seatId).2 := by
  have numberedAfter := self.acquireUiLease_numbered numbered seatId
  have invalid := ActivationToken.not_valid_default
  have refused
      (same : self.controller.acquireSeatLease seatId .uiConfiguration = ({}, self.controller)) :
      (self.acquireUiLease seatId).1.valid = false ∧ (self.acquireUiLease seatId).2 = self := by
    unfold acquireUiLease
    rw [same]
    exact ⟨invalid, by simp [onController, noteMutation, invalid]⟩
  unfold acquireSeatLease at refused
  cases named : ofId? seatId with
  | none =>
    rw [named] at refused
    exact Or.inl (refused rfl)
  | some seat =>
    rw [named] at refused
    have isSeat := id_eq_of_ofId? named
    have acquired {token : ActivationToken} {updated : SeatRuntime seat.id}
        (accepted : (self.controller.runtime seat).acquireLease .uiConfiguration = (token, updated))
        (tokenSeat : token.seatId = seat.id)
        (inactive : (self.controller.runtime seat).uiLeaseActive = false)
        (opened : updated.heldUiLease = some token) :
        UiAcquired self seat (self.acquireUiLease seatId).1 (self.acquireUiLease seatId).2 := by
      have performed :
          self.controller.acquireSeatLease seatId .uiConfiguration =
            (token, self.controller.setRuntime seat updated) := by
        unfold acquireSeatLease
        rw [named]
        simp only [onSeat, accepted]
      have controllerAfter :
          (self.acquireUiLease seatId).2.controller = self.controller.setRuntime seat updated := by
        unfold acquireUiLease
        rw [performed]
        exact noteMutation_controller _ _
      have tokenAfter : (self.acquireUiLease seatId).1 = token := by
        unfold acquireUiLease
        rw [performed]
        rfl
      refine ⟨?_, ?_, ?_, numberedAfter⟩
      · rw [tokenAfter]
        exact tokenSeat
      · exact (heldUiLease_eq_none_iff _).mpr inactive
      · intro tested
        unfold heldUiLease
        rw [controllerAfter, heldUiLease_setRuntime, tokenAfter, opened]
    rcases (self.controller.runtime seat).acquireLease_cases .uiConfiguration with
      same | ⟨idle, _, _, _, accepted⟩ | ⟨_, free, _, _, accepted⟩
    · apply Or.inl
      apply refused
      simp only [onSeat, same, setRuntime_runtime]
    · refine Or.inr ⟨seat, isSeat, acquired accepted rfl ?_ rfl⟩
      exact uiLeaseActive_of_idle idle
    · exact Or.inr ⟨seat, isSeat, acquired accepted rfl free rfl⟩

theorem releaseUiLease_held (numbered : self.controller.Numbered) {seat : Seat}
    (held : self.heldUiLease seat = some token) :
    (self.releaseUiLease token).1 = true ∧
      (self.releaseUiLease token).2.controller.Numbered ∧
        ∀ tested, (self.releaseUiLease token).2.heldUiLease tested =
          if tested = seat then none else self.heldUiLease tested := by
  have current := (SeatRuntime.heldUiLease_eq_some_iff _ token).mp held
  have ui : token.leaseClass = .uiConfiguration := by
    rw [current.2]
  have tokenSeat : ofId? token.seatId = some seat := by
    rw [current.2]
    exact ofId?_id seat
  have owned := (ownsToken_ui_iff seat.id_named (numbered seat) ui).mpr held
  have performed :
      self.controller.releaseSeatLease token =
        (true, self.controller.setRuntime seat
          (((self.controller.runtime seat).dropLease .uiConfiguration).closeEpoch)) := by
    unfold releaseSeatLease
    rw [tokenSeat]
    simp only [onSeat, releaseLease, owned, ui]
    rfl
  have releases :
      self.releaseUiLease token =
        self.onController id (self.controller.releaseSeatLease token) := by
    unfold releaseUiLease
    rw [if_neg (not_not.mpr ui)]
  have stepped :
      (self.releaseUiLease token).2.controller =
        self.controller.step (.releaseSeatLease token) := by
    rw [releases]
    exact noteMutation_controller _ _
  refine ⟨?_, ?_, ?_⟩
  · rw [releases, performed]
    rfl
  · rw [stepped]
    exact numbered_of_effect (self.controller.step_effect _) numbered
  intro tested
  have dropped :
      (((self.controller.runtime seat).dropLease
        .uiConfiguration).closeEpoch).heldUiLease = none := by
    rw [closeEpoch_heldUiLease]
    rfl
  unfold heldUiLease
  rw [releases, performed]
  simp only [onController, noteMutation_controller, heldUiLease_setRuntime, dropped]

end UiCalls

end RuntimeHost

end HydraSeat.Runtime
