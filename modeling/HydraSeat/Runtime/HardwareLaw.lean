import HydraSeat.Runtime.Coherence
import HydraSeat.Runtime.SeatHardwareStore

/-!
# Memory and disk hold one pair of configurations

Only a load and a committed assignment change the configurations of the
Seats, and the pair in memory is then the last one that the store loaded or
saved.  An assignment keeps the devices of both Seats apart and waits for
the game of its Seat to end; a load does neither check.
-/

namespace HydraSeat.Runtime

open Foundation

namespace RuntimeHost

open SeatHardwareStore

/-- The pairs that the store saved for a committed assignment, in order. -/
def savedPairs (self : RuntimeHost) (uiLease : ActivationToken)
    (seat : Seat) (configuration : SeatHardwareConfiguration)
    (save : SeatHardwareConfigurations → Except ByteString Unit) :
    List SeatHardwareConfigurations :=
  let previous := self.hardwareConfigurations
  let candidate := previous.set seat configuration
  let controllerChanged := (previous.get seat).controllerId != configuration.controllerId
  let saved (pair : SeatHardwareConfigurations) : List SeatHardwareConfigurations :=
    match save pair with
    | .ok () => [pair]
    | .error _ => []
  if !self.seatHardwareStore || (saved candidate).isEmpty then []
  else if controllerChanged && !(self.controller.clearController uiLease).1 then
    candidate :: saved previous
  else [candidate]

/-- The pairs that one call loads from the store or saves in it, in
order. -/
def persistedBy (self : RuntimeHost) : HostOperation → List SeatHardwareConfigurations
  | .loadPersistentSeatHardware (.ok candidate) =>
    if self.seatHardwareStore then [candidate] else []
  | .configureSeatHardware uiLease configuration detected save =>
    match self.committedSeat? uiLease configuration detected with
    | none => []
    | some seat => self.savedPairs uiLease seat configuration save
  | _ => []

end RuntimeHost

/-- A host and the last pair that its store loaded or saved. -/
structure HostLedger where
  host : RuntimeHost
  last : Option SeatHardwareConfigurations := none

def HostLedger.step (ledger : HostLedger) (operation : HostOperation) : HostLedger where
  host := ledger.host.step operation
  last := (ledger.host.persistedBy operation).getLast?.or ledger.last

theorem HostLedger.runFrom_host (ledger : HostLedger) (operations : List HostOperation) :
    (runFrom HostLedger.step ledger operations).host =
      runFrom RuntimeHost.step ledger.host operations := by
  induction operations generalizing ledger with
  | nil => rfl
  | cons operation operations ih => exact ih (ledger.step operation)

namespace RuntimeHost

open SeatHardwareStore

variable {self : RuntimeHost} {before after : RuntimeHost} {operation : HostOperation}
  {host : RuntimeHost} {seat : Seat} {configuration : SeatHardwareConfiguration}

theorem commitSeatHardware_followsDisk (stored : self.seatHardwareStore = true)
    (uiLease : ActivationToken) (seat : Seat)
    (configuration : SeatHardwareConfiguration)
    (save : SeatHardwareConfigurations → Except ByteString Unit) :
    some (self.commitSeatHardware uiLease seat configuration save).2.hardwareConfigurations =
      (self.savedPairs uiLease seat configuration save).getLast?.or
        (some self.hardwareConfigurations) := by
  have answered (pair : SeatHardwareConfigurations) :
      (∃ text, save pair = .error text) ∨ save pair = .ok () := by
    cases save pair with
    | error text => exact Or.inl ⟨text, rfl⟩
    | ok => exact Or.inr rfl
  unfold commitSeatHardware savedPairs
  obtain ⟨text, saved⟩ | saved := answered (self.hardwareConfigurations.set seat configuration)
  · simp [stored, saved]
  by_cases changed :
      (self.hardwareConfigurations.get seat).controllerId = configuration.controllerId
  · simp [stored, saved, changed]
  obtain refused | ⟨_, _, cleared⟩ := self.controller.clearController_cases uiLease
  · obtain ⟨text, rollback⟩ | rollback := answered self.hardwareConfigurations
    · simp [stored, saved, changed, refused, rollback]
    · simp [stored, saved, changed, refused, rollback]
  · simp [stored, saved, changed, cleared]

theorem configureSeatHardware_followsDisk (stored : self.seatHardwareStore = true)
    (uiLease : ActivationToken)
    (configuration : SeatHardwareConfiguration)
    (detected : DetectedHardware)
    (save : SeatHardwareConfigurations → Except ByteString Unit) :
    some (self.configureSeatHardware uiLease configuration detected save).2.hardwareConfigurations =
      (self.persistedBy
        (.configureSeatHardware uiLease configuration detected
          save)).getLast?.or (some self.hardwareConfigurations) := by
  cases found : self.committedSeat? uiLease configuration detected with
  | none =>
    simp only [persistedBy, found]
    rw [configureSeatHardware_uncommitted found]
    rfl
  | some seat =>
    simp only [persistedBy, found]
    rw [configureSeatHardware_committed found]
    exact commitSeatHardware_followsDisk stored uiLease seat configuration save

/-- A call that may change the configurations. -/
def configures : HostOperation → Bool
  | .loadPersistentSeatHardware _ => true
  | .configureSeatHardware _ _ _ _ => true
  | _ => false

theorem Effect.hardwareConfigurations (effect : Effect before operation after)
    (other : configures operation = false) :
    after.hardwareConfigurations = before.hardwareConfigurations := by
  cases effect with
  | silent operation after same revision | observed type devicePath stableId after same revision =>
    exact same.hardwareConfigurations
  | loaded candidate stored => cases other
  | presented seatId title provider infos => exact noteMutation_hardwareConfigurations _ _
  | configured uiLease configuration detected save seat answer after committed outcome =>
    cases other
  | paired uiLease persistentControllerId runtimeXInputSlot scanned seat binding controller pair =>
    exact noteMutation_hardwareConfigurations _ _
  | requested operation request infos asked => exact noteMutation_hardwareConfigurations _ _

theorem Effect.seatHardwareStore (effect : Effect before operation after) :
    after.seatHardwareStore = before.seatHardwareStore := by
  have noted (host : RuntimeHost) :
      (host.noteMutation true).seatHardwareStore = host.seatHardwareStore := by
    rw [noteMutation_true]
  cases effect with
  | silent operation after same revision | observed type devicePath stableId after same revision =>
    exact same.seatHardwareStore
  | loaded candidate stored => rfl
  | presented seatId title provider infos => exact noted _
  | configured uiLease configuration detected save seat answer after committed outcome =>
    cases outcome with
    | refused text => rfl
    | published controller saved unbound | followed text saved rollback => exact noted _
  | paired uiLease persistentControllerId runtimeXInputSlot scanned seat binding controller pair =>
    exact noted _
  | requested operation request infos asked => exact noted _

theorem step_followsDisk (coherent : host.Coherent) (stored : host.seatHardwareStore = true)
    (operation : HostOperation) :
    some (host.step operation).hardwareConfigurations =
      (host.persistedBy operation).getLast?.or (some host.hardwareConfigurations) := by
  by_cases other : configures operation = false
  · have effect := host.step_effect coherent.numbered operation
    rw [effect.hardwareConfigurations other]
    cases operation with
    | loadPersistentSeatHardware load | configureSeatHardware uiLease configuration detected save =>
      cases other
    | _ => rfl
  · cases operation with
    | loadPersistentSeatHardware load =>
      change some (host.loadPersistentSeatHardware load).2.hardwareConfigurations = _
      cases load with
      | error text | ok candidate => simp [loadPersistentSeatHardware, stored, persistedBy]
    | configureSeatHardware uiLease configuration detected save =>
      exact configureSeatHardware_followsDisk stored uiLease configuration detected save
    | _ => exact absurd rfl other

theorem persistedBy_of_unstored (unstored : host.seatHardwareStore = false)
    (operation : HostOperation) :
    host.persistedBy operation = [] := by
  cases operation with
  | loadPersistentSeatHardware load =>
    cases load with
    | error text => rfl
    | ok candidate => simp [persistedBy, unstored]
  | configureSeatHardware uiLease configuration detected save =>
    unfold persistedBy
    dsimp only
    split
    · rfl
    · simp [savedPairs, unstored]
  | _ => rfl

theorem validPair_set {pair : SeatHardwareConfigurations} (valid : ValidPair pair)
    (named : configuration.seatId = seat.id)
    (separate : ShareNothing configuration (pair.get seat.other)) :
    ValidPair (pair.set seat configuration) := by
  refine ⟨?_, ?_⟩
  · intro tested
    by_cases same : tested = seat
    · rw [same, PerSeat.get_set_same]
      exact named
    · rw [PerSeat.get_set_of_ne pair configuration same]
      exact valid.seatId tested
  · cases seat with
    | first => exact separate
    | second => exact separate.symm

theorem checks_eq_none_iff {Text : Type} {bad : Bool} {text : Text} {rest : Option Text} :
    (if bad = true then some text else rest) = none ↔ bad = false ∧ rest = none := by
  cases bad with
  | false | true => simp

theorem shareNothing_of_admitted {detected : DetectedHardware}
    (admitted : host.rejectedHardware? seat configuration detected = none) :
    ShareNothing configuration (host.hardwareConfigurations.get seat.other) := by
  unfold rejectedHardware? at admitted
  simp only [checks_eq_none_iff, conflicts_eq_false_iff] at admitted
  obtain ⟨_, _, _, _, display, keyboard, mouse, controller, _⟩ := admitted
  exact ⟨display, keyboard, mouse, controller⟩

/-- A load that leaves the configuration of every Seat with a running game
as it is. -/
def LoadsOutsideGames (host : RuntimeHost) : HostOperation → Prop
  | .loadPersistentSeatHardware (.ok candidate) =>
    host.seatHardwareStore = true →
      ∀ seat, (host.controller.runtime seat).gameLeaseActive = true →
        candidate.get seat = host.hardwareConfigurations.get seat
  | _ => True

/-- Every file that the run loads passes the validation of the store. -/
def LoadsValidPairs (operations : List HostOperation) : Prop :=
  ∀ candidate,
    HostOperation.loadPersistentSeatHardware (.ok candidate) ∈ operations →
      validateExclusive candidate = .ok ()

/-- `configureSeatHardware` failed and changed nothing, or the rollback on
disk failed and memory follows the disk. -/
def FailsUnchanged (host : RuntimeHost) (uiLease : ActivationToken)
    (configuration : SeatHardwareConfiguration)
    (detected : DetectedHardware)
    (save : SeatHardwareConfigurations → Except ByteString Unit) : Prop :=
  let result := host.configureSeatHardware uiLease configuration detected save
  (∃ text, result.1 = .error text) →
    result.2.hardwareConfigurations = host.hardwareConfigurations ∨
      (RollbackFailed host uiLease save ∧ save result.2.hardwareConfigurations = .ok ())

structure HardwareLaw (seatHardwareStore : Bool) (operations : List HostOperation) : Prop where
  followsDisk :
    ∀ earlier pair, earlier <+: operations →
      (runFrom HostLedger.step ⟨created seatHardwareStore, none⟩ earlier).last = some pair →
      (runFrom step (created seatHardwareStore) earlier).hardwareConfigurations = pair
  separate :
    LoadsValidPairs operations →
      ∀ earlier, earlier <+: operations →
        let pair := (runFrom step (created seatHardwareStore) earlier).hardwareConfigurations
        ShareNothing pair.first pair.second
  frozen :
    ∀ earlier operation seat, earlier ++ [operation] <+: operations →
      let host := runFrom step (created seatHardwareStore) earlier
      (host.controller.runtime seat).gameLeaseActive = true →
        (host.step operation).hardwareConfigurations.get seat = host.hardwareConfigurations.get seat
  refused :
    ∀ earlier uiLease configuration detected save,
      earlier ++ [.configureSeatHardware uiLease configuration detected save] <+: operations →
        FailsUnchanged (runFrom step (created seatHardwareStore) earlier)
          uiLease configuration detected save

theorem failsUnchanged (host : RuntimeHost) (uiLease : ActivationToken)
    (configuration : SeatHardwareConfiguration)
    (detected : DetectedHardware)
    (save : SeatHardwareConfigurations → Except ByteString Unit) :
    FailsUnchanged host uiLease configuration detected save := by
  intro ⟨text, failed⟩
  cases found : host.committedSeat? uiLease configuration detected with
  | none =>
    apply Or.inl
    exact congrArg hardwareConfigurations (configureSeatHardware_uncommitted found save)
  | some seat =>
    have outcome := host.commitSeatHardware_outcome uiLease seat configuration save
    rw [configureSeatHardware_committed found] at failed ⊢
    generalize host.commitSeatHardware uiLease seat configuration save = result at outcome failed ⊢
    cases outcome with
    | refused text => exact Or.inl rfl
    | published controller saved unbound => cases failed
    | followed text saved rollback =>
      apply Or.inr
      refine ⟨rollback, ?_⟩
      rw [noteMutation_hardwareConfigurations]
      exact saved

theorem step_frozen (coherent : host.Coherent) (outside : LoadsOutsideGames host operation)
    (playing : (host.controller.runtime seat).gameLeaseActive = true) :
    (host.step operation).hardwareConfigurations.get seat =
      host.hardwareConfigurations.get seat := by
  have effect := host.step_effect coherent.numbered operation
  generalize host.step operation = after at effect
  cases effect with
  | silent operation after same revision | observed type devicePath stableId after same revision =>
    rw [same.hardwareConfigurations]
  | loaded candidate stored => exact outside stored seat playing
  | presented seatId title provider infos | requested operation request infos asked
  | paired uiLease persistentControllerId runtimeXInputSlot scanned target binding controller pair =>
    exact congrArg (PerSeat.get · seat) (noteMutation_hardwareConfigurations _ _)
  | configured uiLease configuration detected save target answer after committed outcome =>
    have different : seat ≠ target := by
      intro same
      rw [same, committed.noGame] at playing
      cases playing
    cases outcome with
    | refused text => rfl
    | published controller saved unbound | followed text saved rollback =>
      rw [noteMutation_hardwareConfigurations]
      exact PerSeat.get_set_of_ne _ configuration different

/-- A valid pair stays valid: an assignment is checked against the other
Seat. -/
theorem step_validPair (coherent : host.Coherent) (valid : ValidPair host.hardwareConfigurations)
    (loads :
      ∀ candidate,
        operation = .loadPersistentSeatHardware (.ok candidate) →
          validateExclusive candidate = .ok ()) :
    ValidPair (host.step operation).hardwareConfigurations := by
  have effect := host.step_effect coherent.numbered operation
  generalize host.step operation = after at effect
  cases effect with
  | silent operation after same revision | observed type devicePath stableId after same revision =>
    rw [same.hardwareConfigurations]
    exact valid
  | loaded candidate stored =>
    exact (validateExclusive_eq_ok_iff candidate).mp (loads candidate rfl)
  | presented seatId title provider infos =>
    rw [noteMutation_hardwareConfigurations]
    exact valid
  | configured uiLease configuration detected save seat answer after committed outcome =>
    have assigned := validPair_set valid committed.named
      (shareNothing_of_admitted committed.admitted)
    cases outcome with
    | refused text => exact valid
    | published controller saved unbound | followed text saved rollback =>
      rw [noteMutation_hardwareConfigurations]
      exact assigned
  | paired uiLease persistentControllerId runtimeXInputSlot scanned seat binding controller pair
  | requested operation request infos asked =>
    rw [noteMutation_hardwareConfigurations]
    exact valid

/-- The pair in memory is the last one that the store loaded or saved. -/
structure FollowsDisk (ledger : HostLedger) : Prop where
  coherent : ledger.host.Coherent
  memory :
    ∀ pair, ledger.last = some pair →
      ledger.host.seatHardwareStore = true ∧ ledger.host.hardwareConfigurations = pair

theorem FollowsDisk.step {ledger : HostLedger}
    (follows : FollowsDisk ledger) (operation : HostOperation) :
    FollowsDisk (ledger.step operation) where
  coherent := follows.coherent.step operation
  memory := by
    intro pair last
    have effect := ledger.host.step_effect follows.coherent.numbered operation
    have store : (ledger.step operation).host.seatHardwareStore = ledger.host.seatHardwareStore :=
      effect.seatHardwareStore
    have lastIs : (ledger.host.persistedBy operation).getLast?.or ledger.last = some pair := last
    rw [store]
    cases stored : ledger.host.seatHardwareStore with
    | false =>
      rw [persistedBy_of_unstored stored operation] at lastIs
      have before := (follows.memory pair lastIs).1
      rw [stored] at before
      cases before
    | true =>
      refine ⟨rfl, ?_⟩
      have memory := step_followsDisk follows.coherent stored operation
      cases persisted : (ledger.host.persistedBy operation).getLast? with
      | none =>
        rw [persisted] at lastIs memory
        have before := (follows.memory pair lastIs).2
        rw [← before]
        exact Option.some.inj memory
      | some written =>
        rw [persisted] at lastIs memory
        rw [← Option.some.inj lastIs]
        exact Option.some.inj memory

theorem runFrom_followsDisk (seatHardwareStore : Bool) (operations : List HostOperation) :
    FollowsDisk (runFrom HostLedger.step ⟨created seatHardwareStore, none⟩ operations) := by
  apply runFrom_preserves
  · intro ledger operation follows
    exact follows.step operation
  · refine ⟨coherent_created seatHardwareStore, ?_⟩
    intro pair last
    cases last

theorem runFrom_validPair (seatHardwareStore : Bool) {operations : List HostOperation}
    (loads : LoadsValidPairs operations) :
    Throughout step (fun host => host.Coherent ∧ ValidPair host.hardwareConfigurations)
      (created seatHardwareStore) operations := by
  have validLoads :
      Along step
        (fun _ operation =>
          ∀ candidate,
            operation = .loadPersistentSeatHardware (.ok candidate) →
              validateExclusive candidate = .ok ())
        (created seatHardwareStore) operations := by
    apply along_of_forall_mem
    intro operation member candidate loading
    rw [loading] at member
    exact loads candidate member
  refine throughout_of_along ?_ ?_ validLoads
  · intro host operation ⟨coherent, valid⟩ valids
    exact ⟨coherent.step operation, step_validPair coherent valid valids⟩
  · exact ⟨coherent_created seatHardwareStore, validPair_empty⟩

/-- The hardware law holds in a run exactly when the run loads no other
configuration for a Seat whose game is running. -/
theorem hardwareLaw_iff (seatHardwareStore : Bool) (operations : List HostOperation) :
    HardwareLaw seatHardwareStore operations ↔
      Along step LoadsOutsideGames (created seatHardwareStore) operations := by
  have reached (earlier : List HostOperation) :=
    (coherent_created seatHardwareStore).runFrom earlier
  rw [along_iff_initial]
  constructor
  · intro law earlier operation isInitial
    cases operation with
    | loadPersistentSeatHardware load =>
      cases load with
      | error text => trivial
      | ok candidate =>
        intro stored seat playing
        have kept := law.frozen earlier _ seat isInitial playing
        change ((runFrom step (created seatHardwareStore)
          earlier).loadPersistentSeatHardware (.ok candidate)).2.hardwareConfigurations.get seat = _
          at kept
        simpa [loadPersistentSeatHardware, stored] using kept
    | _ => trivial
  · intro outside
    constructor
    · intro earlier pair _ last
      have follows := runFrom_followsDisk seatHardwareStore earlier
      have memory := (follows.memory pair last).2
      rw [HostLedger.runFrom_host] at memory
      exact memory
    · intro loads earlier isInitial
      have throughout := runFrom_validPair seatHardwareStore loads
      have visited := (throughout_iff_initial _ operations).mp throughout earlier isInitial
      exact visited.2.separate
    · intro earlier operation seat isInitial host playing
      exact step_frozen (reached earlier) (outside earlier operation isInitial) playing
    · intro earlier uiLease configuration detected save _
      exact failsUnchanged _ uiLease configuration detected save

def rewiredFile : SeatHardwareConfigurations :=
  ⟨{ seatId := 1, keyboardId := wideOf "keys" }, { seatId := 2 }⟩

theorem load_during_game :
    ¬ HardwareLaw true [.beginSeatActivation 1, .loadPersistentSeatHardware (.ok rewiredFile)] := by
  intro law
  have kept := law.frozen [.beginSeatActivation 1]
    (.loadPersistentSeatHardware (.ok rewiredFile)) .first
    (List.prefix_refl _) (by decide)
  revert kept
  decide

end RuntimeHost

end HydraSeat.Runtime
