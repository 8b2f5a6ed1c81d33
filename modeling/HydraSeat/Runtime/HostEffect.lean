import HydraSeat.Runtime.EpochLaw
import HydraSeat.Runtime.HostOperation

/-!
# What one call of the host can do

A refused request leaves the session controller as it is.  From that follows
the inversion of `RuntimeHost.step`: a call is silent, notes a newly observed
device, loads the stored configuration, or changes the authority and counts
it.
-/

namespace HydraSeat.Runtime

open Controller
open Foundation ActivationToken SeatRuntime

namespace SessionController

/-- A request that is refused changes nothing. -/
def RefusedUnchanged (self : SessionController) (result : Bool × SessionController) : Prop :=
  result.1 = false → result.2 = self

variable (self : SessionController) (token : ActivationToken)

theorem refusedUnchanged_same (answer : Bool) : self.RefusedUnchanged (answer, self) := by
  intro _
  rfl

theorem onSeat_refusedUnchanged {seat : Seat}
    {operation : SeatRuntime seat.id → Bool × SeatRuntime seat.id}
    (keeps :
      operation (self.runtime seat) = (false, self.runtime seat) ∨
        (operation (self.runtime seat)).1 = true) :
    self.RefusedUnchanged (self.onSeat seat operation) := by
  intro refused
  unfold onSeat at refused ⊢
  cases keeps with
  | inl same =>
    rw [same]
    exact self.setRuntime_runtime seat
  | inr accepted =>
    have answered : (operation (self.runtime seat)).1 = false := refused
    rw [accepted] at answered
    cases answered

theorem acquireSeatLease_refusedUnchanged (numbered : self.Numbered) (seatId : UInt32)
    (leaseClass : LeaseClass)
    (refused : (self.acquireSeatLease seatId leaseClass).1.valid = false) :
    (self.acquireSeatLease seatId leaseClass).2 = self := by
  unfold acquireSeatLease at refused ⊢
  cases named : Seat.ofId? seatId with
  | none => rfl
  | some seat =>
    rw [named] at refused
    simp only [onSeat] at refused ⊢
    have valid {generation : UInt64} (known : leaseClass.named = true) (nonzero : generation ≠ 0) :
        valid ⟨seat.id, generation, leaseClass⟩ = true := by
      have inRange := seat.id_named
      simp [valid, inRange, nonzero, known]
    obtain same | ⟨_, room, known, _, opened⟩ | ⟨active, _, known, _, joined⟩ :=
      (self.runtime seat).acquireLease_cases leaseClass
    · rw [same, setRuntime_runtime]
    · have nonzero := nextGeneration_ne_zero room
      rw [opened, valid known nonzero] at refused
      cases refused
    · have nonzero := numbered seat active
      rw [joined, valid known nonzero] at refused
      cases refused

theorem publishProcess_refusedUnchanged (process : ProcessIdentity) :
    self.RefusedUnchanged (self.publishProcess token process) := by
  unfold publishProcess
  split
  · exact self.refusedUnchanged_same false
  split
  · exact self.refusedUnchanged_same false
  next seat named =>
    dsimp only
    split
    · exact self.refusedUnchanged_same false
    apply onSeat_refusedUnchanged
    obtain same | ⟨_, _, _, _, accepted⟩ := (self.runtime seat).publishProcess_cases token process
    · exact Or.inl same
    · exact Or.inr (congrArg Prod.fst accepted)

theorem bindTargetWindow_refusedUnchanged (owner : ProcessIdentity) (hwnd : UInt64) :
    self.RefusedUnchanged (self.bindTargetWindow token owner hwnd) := by
  unfold bindTargetWindow
  split
  · exact self.refusedUnchanged_same false
  split
  · exact self.refusedUnchanged_same false
  next seat named =>
    dsimp only
    split
    · exact self.refusedUnchanged_same false
    apply onSeat_refusedUnchanged
    obtain same | ⟨_, _, _, _, accepted⟩ :=
      (self.runtime seat).bindTargetWindow_cases token owner hwnd
    · exact Or.inl same
    · exact Or.inr (congrArg Prod.fst accepted)

theorem clearTargetWindow_refusedUnchanged (owner : ProcessIdentity) (expectedHwnd : UInt64) :
    self.RefusedUnchanged (self.clearTargetWindow token owner expectedHwnd) := by
  unfold clearTargetWindow
  split
  · exact self.refusedUnchanged_same false
  split
  · exact self.refusedUnchanged_same false
  next seat named =>
    apply onSeat_refusedUnchanged
    obtain same | ⟨_, _, _, _, accepted⟩ :=
      (self.runtime seat).clearTargetWindow_cases token owner expectedHwnd
    · exact Or.inl same
    · exact Or.inr (congrArg Prod.fst accepted)

theorem bindController_refusedUnchanged (binding : SeatBinding) (inventory : InventorySnapshot) :
    self.RefusedUnchanged (self.bindController token binding inventory) := by
  obtain same | ⟨seat, guards, free⟩ := self.bindController_cases token binding inventory
  · rw [same]
    exact self.refusedUnchanged_same false
  · rw [bindController_accepted guards free]
    intro refused
    cases refused

theorem releaseSeatLease_refusedUnchanged :
    self.RefusedUnchanged (self.releaseSeatLease token) := by
  unfold releaseSeatLease
  split
  · exact self.refusedUnchanged_same false
  next seat named =>
    apply onSeat_refusedUnchanged
    obtain same | ⟨_, accepted⟩ := (self.runtime seat).releaseLease_cases token
    · exact Or.inl same
    · exact Or.inr (congrArg Prod.fst accepted)

/-- An accepted `clearController` leaves the Seat without a binding. -/
theorem clearController_cases :
    self.clearController token = (false, self) ∨
      ∃ seat, Seat.ofId? token.seatId = some seat ∧
        self.clearController token =
          (true, self.setRuntime seat { self.runtime seat with controllerBinding := none }) := by
  unfold clearController
  cases named : Seat.ofId? token.seatId with
  | none => exact Or.inl rfl
  | some seat =>
    simp only [onSeat]
    obtain same | ⟨_, _, _, accepted⟩ := (self.runtime seat).clearController_cases token
    · rw [same, setRuntime_runtime]
      exact Or.inl rfl
    · rw [accepted]
      exact Or.inr ⟨seat, rfl, rfl⟩

end SessionController

namespace RuntimeHost

open SessionController

variable {self : RuntimeHost} {uiLease : ActivationToken}
  {configuration : SeatHardwareConfiguration} {detected : DetectedHardware}

/-- Everything of the authority that a client can ask for, and whether it
has a configuration file. -/
structure SameAuthority (before after : RuntimeHost) : Prop where
  controller : after.controller = before.controller
  hardwareConfigurations : after.hardwareConfigurations = before.hardwareConfigurations
  seatRuntimeInfo : after.seatRuntimeInfo = before.seatRuntimeInfo
  seatHardwareStore : after.seatHardwareStore = before.seatHardwareStore

theorem SameAuthority.refl (host : RuntimeHost) : SameAuthority host host := ⟨rfl, rfl, rfl, rfl⟩

theorem SameAuthority.trans {first second third : RuntimeHost}
    (earlier : SameAuthority first second)
    (later : SameAuthority second third) :
    SameAuthority first third where
  controller := later.controller.trans earlier.controller
  hardwareConfigurations := later.hardwareConfigurations.trans earlier.hardwareConfigurations
  seatRuntimeInfo := later.seatRuntimeInfo.trans earlier.seatRuntimeInfo
  seatHardwareStore := later.seatHardwareStore.trans earlier.seatHardwareStore

/-- The revision behind one more mutation.  It stops at the maximum. -/
def nextRevision (revision : UInt64) : UInt64 :=
  if revision = maximumCount then revision else revision + 1

theorem noteMutation_true (self : RuntimeHost) :
    self.noteMutation true =
      { self with authorityRevision := nextRevision self.authorityRevision } := by
  unfold noteMutation nextRevision
  by_cases full : self.authorityRevision = maximumCount
  · rw [if_pos full, if_neg (by simp [full])]
  · simp [full]

theorem nextRevision_ne_zero (revision : UInt64) (nonzero : revision ≠ 0) :
    nextRevision revision ≠ 0 := by
  unfold nextRevision
  by_cases full : revision = maximumCount
  · rw [if_pos full]
    exact nonzero
  · rw [if_neg full]
    exact nextGeneration_ne_zero full

theorem nextRevision_toNat {revision : UInt64} (room : revision ≠ maximumCount) :
    (nextRevision revision).toNat = revision.toNat + 1 := by
  rw [nextRevision, if_neg room]
  exact nextGeneration_toNat room

theorem le_nextRevision (revision : UInt64) : revision.toNat ≤ (nextRevision revision).toNat := by
  by_cases full : revision = maximumCount
  · rw [nextRevision, if_pos full]
  · rw [nextRevision_toNat full]
    omega

/-- The Seat whose assignment a call of `configureSeatHardware` goes on to
commit, if it passes every check and asks for a change. -/
def committedSeat? (self : RuntimeHost) (uiLease : ActivationToken)
    (configuration : SeatHardwareConfiguration)
    (detected : DetectedHardware) : Option Seat :=
  if uiLease.leaseClass ≠ .uiConfiguration ∨ configuration.seatId ≠ uiLease.seatId then none
  else
    (Seat.ofId? configuration.seatId).filter fun seat =>
      let snapshot := (self.controller.runtime seat).snapshot
      snapshot.uiLeaseActive && snapshot.generation == uiLease.generation &&
        !snapshot.gameLeaseActive &&
        (self.rejectedHardware? seat configuration detected).isNone &&
        self.hardwareConfigurations.get seat != configuration

/-- What the checks of a committed assignment have established. -/
structure Committed (before : RuntimeHost) (uiLease : ActivationToken)
    (configuration : SeatHardwareConfiguration)
    (detected : DetectedHardware) (seat : Seat) : Prop where
  ui : uiLease.leaseClass = .uiConfiguration
  named : configuration.seatId = seat.id
  sameSeat : uiLease.seatId = seat.id
  held : (before.controller.runtime seat).uiLeaseActive = true
  current : (before.controller.runtime seat).generation = uiLease.generation
  noGame : (before.controller.runtime seat).gameLeaseActive = false
  admitted : before.rejectedHardware? seat configuration detected = none
  different : before.hardwareConfigurations.get seat ≠ configuration

theorem committed_of_committedSeat? {seat : Seat}
    (found : self.committedSeat? uiLease configuration detected = some seat) :
    Committed self uiLease configuration detected seat := by
  unfold committedSeat? at found
  by_cases invalid : uiLease.leaseClass ≠ .uiConfiguration ∨ configuration.seatId ≠ uiLease.seatId
  · rw [if_pos invalid] at found
    cases found
  rw [if_neg invalid] at found
  rw [not_or, not_not, not_not] at invalid
  obtain ⟨named, checks⟩ := Option.filter_eq_some_iff.mp found
  have isSeat := Seat.id_eq_of_ofId? named
  simp only [snapshot, Bool.and_eq_true, beq_iff_eq,
    Bool.not_eq_true', Option.isNone_iff_eq_none, bne_iff_ne,
    ne_eq] at checks
  obtain ⟨⟨⟨⟨held, current⟩, noGame⟩, admitted⟩, different⟩ := checks
  exact
    { ui := invalid.1, named := isSeat, sameSeat := invalid.2 ▸ isSeat, held := held
      current := current, noGame := noGame, admitted := admitted, different := different }

theorem configureSeatHardware_committed {seat : Seat}
    (found : self.committedSeat? uiLease configuration detected = some seat)
    (save : SeatHardwareConfigurations → Except ByteString Unit) :
    self.configureSeatHardware uiLease configuration detected save =
      self.commitSeatHardware uiLease seat configuration save := by
  have committed := committed_of_committedSeat? found
  unfold configureSeatHardware
  simp [SeatRuntime.snapshot, committed.ui, committed.named,
    committed.sameSeat, committed.held, committed.current,
    committed.noGame, committed.admitted, committed.different]

/-- What is left to an assignment that is not committed: it is refused, or
it asks for what is stored already. -/
theorem configureSeatHardware_uncommitted_cases
    (missing : self.committedSeat? uiLease configuration detected = none)
    (save : SeatHardwareConfigurations → Except ByteString Unit) :
    (∃ text, self.configureSeatHardware uiLease configuration detected save = (.error text, self)) ∨
      self.configureSeatHardware uiLease configuration detected save = (.ok (), self) ∧
        self.seatHardwareConfiguration configuration.seatId = some configuration := by
  unfold committedSeat? at missing
  unfold configureSeatHardware
  by_cases invalid : uiLease.leaseClass ≠ .uiConfiguration ∨ configuration.seatId ≠ uiLease.seatId
  · rw [if_pos invalid]
    exact Or.inl ⟨_, rfl⟩
  rw [if_neg invalid] at missing ⊢
  cases named : Seat.ofId? configuration.seatId with
  | none => exact Or.inl ⟨_, rfl⟩
  | some seat =>
    have unmet := Option.filter_eq_none_iff.mp missing seat named
    dsimp only
    split
    · exact Or.inl ⟨_, rfl⟩
    next held =>
      split
      · exact Or.inl ⟨_, rfl⟩
      next noGame =>
        split
        · exact Or.inl ⟨_, rfl⟩
        next admitted =>
          split
          next same =>
            refine Or.inr ⟨rfl, ?_⟩
            rw [seatHardwareConfiguration, named, Option.map_some, same]
          next different =>
            exfalso
            apply unmet
            simp only [Bool.or_eq_true, not_or, Bool.not_eq_true',
              Bool.not_eq_false, bne_iff_ne, ne_eq, not_not,
              Bool.not_eq_true] at held noGame
            simp [held.1, held.2, noGame, admitted, different]

theorem configureSeatHardware_uncommitted
    (missing : self.committedSeat? uiLease configuration detected = none)
    (save : SeatHardwareConfigurations → Except ByteString Unit) :
    (self.configureSeatHardware uiLease configuration detected save).2 = self := by
  obtain ⟨text, refused⟩ | ⟨accepted, _⟩ := configureSeatHardware_uncommitted_cases missing save
  · rw [refused]
  · rw [accepted]

/-- The binding of the Seat does not survive another controller. -/
def Unbound (before : RuntimeHost) (uiLease : ActivationToken)
    (seat : Seat) (configuration : SeatHardwareConfiguration)
    (controller : SessionController) : Prop :=
  ((before.hardwareConfigurations.get seat).controllerId =
      configuration.controllerId ∧ controller = before.controller) ∨
    before.controller.clearController uiLease = (true, controller)

/-- The rollback on disk failed, so memory follows the disk. -/
structure RollbackFailed (before : RuntimeHost) (uiLease : ActivationToken)
    (save : SeatHardwareConfigurations → Except ByteString Unit) :
    Prop where
  stored : before.seatHardwareStore = true
  refused : before.controller.clearController uiLease = (false, before.controller)
  failed : ∃ text, save before.hardwareConfigurations = .error text

inductive CommitOutcome (before : RuntimeHost) (uiLease : ActivationToken) (seat : Seat)
    (configuration : SeatHardwareConfiguration)
    (save : SeatHardwareConfigurations → Except ByteString Unit) :
    Except ByteString Unit × RuntimeHost → Prop
  | refused (text : ByteString) :
      CommitOutcome before uiLease seat configuration save (.error text, before)
  | published (controller : SessionController)
      (saved :
        before.seatHardwareStore = true →
          save (before.hardwareConfigurations.set seat configuration) = .ok ())
      (unbound : Unbound before uiLease seat configuration controller) :
      CommitOutcome before uiLease seat configuration save
        (.ok (),
          ({ before with
            controller := controller
            hardwareConfigurations := before.hardwareConfigurations.set seat
              configuration }).noteMutation true)
  | followed (text : ByteString)
      (saved : save (before.hardwareConfigurations.set seat configuration) = .ok ())
      (rollback : RollbackFailed before uiLease save) :
      CommitOutcome before uiLease seat configuration save
        (.error text,
          ({ before with
            hardwareConfigurations := before.hardwareConfigurations.set seat
              configuration }).noteMutation true)

theorem commitSeatHardware_outcome (self : RuntimeHost) (uiLease : ActivationToken) (seat : Seat)
    (configuration : SeatHardwareConfiguration)
    (save : SeatHardwareConfigurations → Except ByteString Unit) :
    CommitOutcome self uiLease seat configuration save
      (self.commitSeatHardware uiLease seat configuration save) := by
  unfold commitSeatHardware
  dsimp only
  split
  · exact .refused _
  next saved =>
    have stored :
        self.seatHardwareStore = true →
          save (self.hardwareConfigurations.set seat configuration) = .ok () := by
      intro store
      rw [if_pos store] at saved
      exact saved
    by_cases changed :
        ((self.hardwareConfigurations.get seat).controllerId != configuration.controllerId) = true
    · simp only [if_pos changed]
      obtain refused | ⟨_, _, cleared⟩ := self.controller.clearController_cases uiLease
      · rw [refused]
        dsimp only
        rw [if_neg Bool.false_ne_true]
        by_cases store : self.seatHardwareStore = true
        · rw [if_pos store]
          cases rollback : save self.hardwareConfigurations with
          | ok => exact .refused _
          | error text => exact .followed _ (stored store) ⟨store, refused, text, rollback⟩
        · rw [if_neg store]
          exact .refused _
      · rw [cleared]
        exact .published _ stored (Or.inr cleared)
    · simp only [if_neg changed]
      have same :
          (self.hardwareConfigurations.get seat).controllerId = configuration.controllerId := by
        simpa using changed
      exact .published self.controller stored (Or.inl ⟨same, rfl⟩)

variable {save : SeatHardwareConfigurations → Except ByteString Unit}

theorem configureSeatHardware_stored
    (accepted : (self.configureSeatHardware uiLease configuration detected save).1 = .ok ()) :
    (self.configureSeatHardware uiLease configuration detected
        save).2.seatHardwareConfiguration configuration.seatId =
      some configuration := by
  cases found : self.committedSeat? uiLease configuration detected with
  | some seat =>
    have committed := committed_of_committedSeat? found
    have outcome := self.commitSeatHardware_outcome uiLease seat configuration save
    rw [configureSeatHardware_committed found] at accepted ⊢
    generalize self.commitSeatHardware uiLease seat configuration save = result
      at outcome accepted ⊢
    cases outcome with
    | refused text => cases accepted
    | published controller saved unbound =>
      rw [seatHardwareConfiguration, committed.named, Seat.ofId?_id,
        Option.map_some, noteMutation_hardwareConfigurations,
        PerSeat.get_set_same]
    | followed text saved rollback => cases accepted
  | none =>
    obtain ⟨text, refused⟩ | ⟨same, stored⟩ := configureSeatHardware_uncommitted_cases found save
    · rw [refused] at accepted
      cases accepted
    · rw [same]
      exact stored

/-- The request that a call makes of the session controller before it
counts a mutation. -/
def request? : HostOperation → Option Request
  | .acquireUiLease seatId => some (.acquireSeatLease seatId .uiConfiguration)
  | .releaseUiLease token => some (.releaseSeatLease token)
  | .beginSeatActivation seatId => some (.acquireSeatLease seatId .gameProcess)
  | .publishProcess activation process => some (.publishProcess activation process)
  | .bindTargetWindow activation owner hwnd => some (.bindTargetWindow activation owner hwnd)
  | .clearTargetWindow activation owner expectedHwnd =>
    some (.clearTargetWindow activation owner expectedHwnd)
  | .bindController activation binding inventory =>
    some (.bindController activation binding inventory)
  | .endSeatActivation activation => some (.releaseSeatLease activation)
  | _ => none

/-- A controller paired under the UI lease of `seat`. -/
structure Paired (before : RuntimeHost) (uiLease : ActivationToken)
    (persistentControllerId : ByteString) (runtimeXInputSlot : UInt8)
    (inventory : InventorySnapshot) (seat : Seat)
    (binding : SeatBinding) (controller : SessionController) :
    Prop where
  authoritative : inventory.authoritative = true
  sameSeat : uiLease.seatId = seat.id
  configured :
    (before.hardwareConfigurations.get seat).controllerId = widenCharacters persistentControllerId
  pairing :
    pairPhysicalControllerToXInput uiLease.seatId
        (widenCharacters persistentControllerId) runtimeXInputSlot
        inventory =
      ⟨.ok, some binding⟩
  bound : before.controller.bindController uiLease binding inventory = (true, controller)

inductive Effect (before : RuntimeHost) : HostOperation → RuntimeHost → Prop
  | silent (operation : HostOperation) (after : RuntimeHost) (same : SameAuthority before after)
      (revision : after.authorityRevision = before.authorityRevision) :
      Effect before operation after
  | observed (type : DeviceType) (devicePath stableId : WideString)
      (after : RuntimeHost) (same : SameAuthority before after)
      (revision : after.authorityRevision = nextRevision before.authorityRevision) :
      Effect before (.observePhysicalInput type devicePath stableId) after
  | loaded (candidate : SeatHardwareConfigurations) (stored : before.seatHardwareStore = true) :
      Effect before (.loadPersistentSeatHardware (.ok candidate))
        { before with hardwareConfigurations := candidate }
  | presented (seatId : UInt32) (title provider : ByteString)
      (infos : PerSeat (Option HostIpc.SeatRuntimeInfo)) :
      Effect before (.setSeatGamePresentation seatId title provider)
        (({ before with seatRuntimeInfo := infos }).noteMutation true)
  | configured (uiLease : ActivationToken) (configuration : SeatHardwareConfiguration)
      (detected : DetectedHardware)
      (save : SeatHardwareConfigurations → Except ByteString Unit)
      (seat : Seat) (answer : Except ByteString Unit)
      (after : RuntimeHost)
      (committed : Committed before uiLease configuration detected seat)
      (outcome : CommitOutcome before uiLease seat configuration save (answer, after)) :
      Effect before (.configureSeatHardware uiLease configuration detected save) after
  | paired (uiLease : ActivationToken)
      (persistentControllerId : ByteString) (runtimeXInputSlot : UInt8)
      (scanned : ScannedControllers) (seat : Seat)
      (binding : SeatBinding) (controller : SessionController)
      (pair :
        Paired before uiLease persistentControllerId runtimeXInputSlot
          (before.controllerInventorySnapshot scanned).1 seat binding
          controller) :
      Effect before (.pairController uiLease persistentControllerId runtimeXInputSlot scanned)
        (({ (before.controllerInventorySnapshot scanned).2 with
          controller := controller }).noteMutation true)
  | requested (operation : HostOperation) (request : Request)
      (infos : PerSeat (Option HostIpc.SeatRuntimeInfo))
      (asked : request? operation = some request) :
      Effect before operation
        (({ before with
          controller := before.controller.step request
          seatRuntimeInfo := infos }).noteMutation true)

theorem Effect.unchanged (host : RuntimeHost) (operation : HostOperation) :
    Effect host operation host :=
  .silent operation host (.refl host) rfl

theorem onController_effect {before : RuntimeHost} {operation : HostOperation}
    {request : Request} {Answer : Type} {changed : Answer → Bool}
    {result : Answer × SessionController}
    (asked : request? operation = some request)
    (performed : result.2 = before.controller.step request)
    (refused : changed result.1 = false → result.2 = before.controller) :
    Effect before operation (before.onController changed result).2 := by
  unfold onController
  dsimp only
  cases answered : changed result.1 with
  | false =>
    apply Effect.silent
    · exact ⟨refused answered, rfl, rfl, rfl⟩
    · rfl
  | true =>
    rw [performed]
    exact .requested operation request before.seatRuntimeInfo asked

section Steps

theorem loadPersistentSeatHardware_effect {load : Except ByteString SeatHardwareConfigurations} :
    Effect self (.loadPersistentSeatHardware load) (self.loadPersistentSeatHardware load).2 := by
  unfold loadPersistentSeatHardware
  by_cases stored : self.seatHardwareStore = true
  · rw [if_neg (by simp [stored])]
    cases load with
    | error text => exact .unchanged self _
    | ok candidate => exact .loaded candidate stored
  · rw [if_pos (by simp [stored])]
    exact .unchanged self _

theorem observePhysicalInput_effect {type : DeviceType} {devicePath stableId : WideString} :
    Effect self (.observePhysicalInput type devicePath stableId)
      (self.observePhysicalInput type devicePath stableId) := by
  have observed (host : RuntimeHost) (fresh : Bool) (same : SameAuthority self host)
      (revision : host.authorityRevision = self.authorityRevision) :
      Effect self (.observePhysicalInput type devicePath stableId) (host.noteMutation fresh) := by
    cases fresh with
    | false => exact .silent _ host same revision
    | true =>
      rw [noteMutation_true, revision]
      exact .observed type devicePath stableId _
        ⟨same.controller, same.hardwareConfigurations,
          same.seatRuntimeInfo, same.seatHardwareStore⟩ rfl
  unfold observePhysicalInput
  split
  · exact .unchanged self _
  split
  · exact .unchanged self _
  · dsimp only
    split
    · exact observed _ _ ⟨rfl, rfl, rfl, rfl⟩ rfl
    · exact observed _ _ ⟨rfl, rfl, rfl, rfl⟩ rfl

theorem setSeatGamePresentation_effect {seatId : UInt32} {titleUtf8 providerIdUtf8 : ByteString} :
    Effect self (.setSeatGamePresentation seatId titleUtf8 providerIdUtf8)
      (self.setSeatGamePresentation seatId titleUtf8 providerIdUtf8).2 := by
  unfold setSeatGamePresentation
  split
  · exact .unchanged self _
  split
  · exact .unchanged self _
  split
  · exact .unchanged self _
  · dsimp only
    split
    · exact .unchanged self _
    · exact .presented seatId titleUtf8 providerIdUtf8 _

theorem configureSeatHardware_effect :
    Effect self (.configureSeatHardware uiLease configuration detected save)
      (self.configureSeatHardware uiLease configuration detected save).2 := by
  cases found : self.committedSeat? uiLease configuration detected with
  | none =>
    rw [configureSeatHardware_uncommitted found]
    exact .unchanged self _
  | some seat =>
    rw [configureSeatHardware_committed found]
    have outcome := self.commitSeatHardware_outcome uiLease seat configuration save
    exact .configured uiLease configuration detected save seat _ _
      (committed_of_committedSeat? found) outcome

theorem pairController_effect {persistentControllerId : ByteString} {runtimeXInputSlot : UInt8}
    {scanned : ScannedControllers} :
    Effect self (.pairController uiLease persistentControllerId runtimeXInputSlot scanned)
      (self.pairController uiLease persistentControllerId runtimeXInputSlot scanned).2 := by
  have scan :
      Effect self (.pairController uiLease persistentControllerId runtimeXInputSlot scanned)
        (self.controllerInventorySnapshot scanned).2 :=
    .silent _ _ ⟨rfl, rfl, rfl, rfl⟩ rfl
  unfold pairController
  split
  · exact .unchanged self _
  dsimp only
  split
  · exact scan
  next authoritative =>
    split
    · exact scan
    next seat named =>
      split
      · exact scan
      split
      · exact scan
      next configured =>
        split
        next binding pairing =>
          simp only [Bool.or_eq_true, not_or, bne_iff_ne, ne_eq, not_not] at configured
          have refusedUnchanged := self.controller.bindController_refusedUnchanged uiLease
            binding (self.controllerInventorySnapshot scanned).1
          unfold onController
          dsimp only [id]
          cases bound :
              (self.controller.bindController uiLease binding
                (self.controllerInventorySnapshot scanned).1) with
          | mk answer controller =>
            rw [bound] at refusedUnchanged
            cases answer with
            | false =>
              have bindingCall :
                  (self.controllerInventorySnapshot
                    scanned).2.controller.bindController uiLease binding
                      (self.controllerInventorySnapshot scanned).1 = (false, controller) :=
                bound
              rw [bindingCall]
              apply Effect.silent
              · exact ⟨refusedUnchanged rfl, rfl, rfl, rfl⟩
              · rfl
            | true =>
              have bindingCall :
                  (self.controllerInventorySnapshot
                    scanned).2.controller.bindController uiLease binding
                      (self.controllerInventorySnapshot scanned).1 = (true, controller) :=
                bound
              rw [bindingCall]
              exact .paired uiLease persistentControllerId
                runtimeXInputSlot scanned seat binding controller
                { authoritative := by simpa using authoritative
                  sameSeat := Seat.id_eq_of_ofId? named, configured := configured.2
                  pairing := pairing, bound := bound }
        · exact scan

theorem releaseUiLease_effect :
    Effect self (.releaseUiLease uiLease) (self.releaseUiLease uiLease).2 := by
  unfold releaseUiLease
  split
  · exact .unchanged self _
  · exact onController_effect rfl rfl (self.controller.releaseSeatLease_refusedUnchanged uiLease)

theorem endSeatActivation_effect {activation : ActivationToken} :
    Effect self (.endSeatActivation activation) (self.endSeatActivation activation).2 := by
  have refused := self.controller.releaseSeatLease_refusedUnchanged activation
  have performed :
      (self.controller.releaseSeatLease activation).2 =
        self.controller.step (.releaseSeatLease activation) :=
    rfl
  unfold endSeatActivation
  cases released : self.controller.releaseSeatLease activation with
  | mk changed controller =>
    rw [released] at refused performed
    dsimp only at performed ⊢
    cases changed with
    | false =>
      apply Effect.silent
      · exact ⟨refused rfl, rfl, rfl, rfl⟩
      · rfl
    | true =>
      rw [performed]
      split
      · exact .requested _ _ _ rfl
      · exact .requested _ _ self.seatRuntimeInfo rfl

theorem step_effect (numbered : self.controller.Numbered) (operation : HostOperation) :
    Effect self operation (self.step operation) := by
  have acquired (seatId : UInt32) (leaseClass : LeaseClass) :=
    self.controller.acquireSeatLease_refusedUnchanged numbered seatId leaseClass
  cases operation with
  | loadPersistentSeatHardware => exact loadPersistentSeatHardware_effect
  | controllerInventorySnapshot => exact .silent _ _ ⟨rfl, rfl, rfl, rfl⟩ rfl
  | observePhysicalInput => exact observePhysicalInput_effect
  | setSeatGamePresentation => exact setSeatGamePresentation_effect
  | configureSeatHardware => exact configureSeatHardware_effect
  | acquireUiLease | beginSeatActivation => exact onController_effect rfl rfl (acquired _ _)
  | releaseUiLease => exact releaseUiLease_effect
  | pairController => exact pairController_effect
  | publishProcess =>
    exact onController_effect rfl rfl (self.controller.publishProcess_refusedUnchanged _ _)
  | bindTargetWindow =>
    exact onController_effect rfl rfl (self.controller.bindTargetWindow_refusedUnchanged _ _ _)
  | clearTargetWindow =>
    exact onController_effect rfl rfl (self.controller.clearTargetWindow_refusedUnchanged _ _ _)
  | bindController =>
    exact onController_effect rfl rfl (self.controller.bindController_refusedUnchanged _ _ _)
  | endSeatActivation => exact endSeatActivation_effect

end Steps

theorem Effect.revision_cases {before after : RuntimeHost} {operation : HostOperation}
    (effect : Effect before operation after) :
    (SameAuthority before after ∧ after.authorityRevision = before.authorityRevision) ∨
      after.authorityRevision = nextRevision before.authorityRevision ∨
      ∃ candidate,
        operation = .loadPersistentSeatHardware (.ok candidate) ∧ before.seatHardwareStore = true ∧
          after = { before with hardwareConfigurations := candidate } := by
  have counted (host : RuntimeHost) (revision : host.authorityRevision = before.authorityRevision) :
      (host.noteMutation true).authorityRevision = nextRevision before.authorityRevision := by
    rw [noteMutation_true, revision]
  cases effect with
  | silent operation after same revision => exact Or.inl ⟨same, revision⟩
  | observed type devicePath stableId after same revision => exact Or.inr (Or.inl revision)
  | loaded candidate stored => exact Or.inr (Or.inr ⟨candidate, rfl, stored, rfl⟩)
  | presented seatId title provider infos => exact Or.inr (Or.inl (counted _ rfl))
  | configured uiLease configuration detected save seat answer after committed outcome =>
    cases outcome with
    | refused text => exact Or.inl ⟨.refl before, rfl⟩
    | published controller saved unbound | followed text saved rollback =>
      exact Or.inr (Or.inl (counted _ rfl))
  | paired uiLease persistentControllerId runtimeXInputSlot scanned seat binding controller pair =>
    exact Or.inr (Or.inl (counted _ rfl))
  | requested operation request infos asked => exact Or.inr (Or.inl (counted _ rfl))

end RuntimeHost

end HydraSeat.Runtime
