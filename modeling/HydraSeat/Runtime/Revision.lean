import HydraSeat.Runtime.Coherence

/-!
# The authority revision as a change detector

Every call that changes the authority counts a mutation, except a load of the
stored configuration.  So two moments of a run with one revision below the
maximum show the same authority exactly when no load of the run replaced the
configurations by others.
-/

namespace HydraSeat.Runtime.RuntimeHost

open Foundation
open HostIpc

variable {first second : RuntimeHost} {host : RuntimeHost}

/-- What clients see of the authority at one moment. -/
structure SameAnswers (first second : RuntimeHost) : Prop where
  seat1 : second.snapshot.seat1 = first.snapshot.seat1
  seat2 : second.snapshot.seat2 = first.snapshot.seat2
  seatHardwareConfiguration :
    ∀ seatId, second.seatHardwareConfiguration seatId = first.seatHardwareConfiguration seatId
  seatRuntimeInfo : ∀ seatId, second.seatRuntimeInfoOf seatId = first.seatRuntimeInfoOf seatId

theorem SameAuthority.answers (same : SameAuthority first second) : SameAnswers first second where
  seat1 := by
    unfold snapshot
    rw [same.controller]
  seat2 := by
    unfold snapshot
    rw [same.controller]
  seatHardwareConfiguration := by
    intro seatId
    unfold seatHardwareConfiguration
    rw [same.hardwareConfigurations]
  seatRuntimeInfo := by
    intro seatId
    unfold seatRuntimeInfoOf
    rw [same.seatRuntimeInfo]

theorem SameAnswers.hardwareConfigurations (same : SameAnswers first second) :
    second.hardwareConfigurations = first.hardwareConfigurations := by
  have configuration (seat : Seat) :
      second.hardwareConfigurations.get seat = first.hardwareConfigurations.get seat := by
    have answered := same.seatHardwareConfiguration seat.id
    simp only [RuntimeHost.seatHardwareConfiguration, Seat.ofId?_id, Option.map_some] at answered
    exact Option.some.inj answered
  have left := configuration .first
  have right := configuration .second
  cases secondPair : second.hardwareConfigurations
  cases firstPair : first.hardwareConfigurations
  rw [secondPair, firstPair] at left right
  exact congrArg₂ PerSeat.mk left right

/-- The law that the revision promises for every two moments of a run. -/
structure DetectsChanges (start : RuntimeHost) (operations : List HostOperation) : Prop where
  monotone :
    ∀ earlier later, earlier ++ later <+: operations →
      (runFrom step start earlier).authorityRevision.toNat ≤
        (runFrom step start (earlier ++ later)).authorityRevision.toNat
  detects :
    ∀ earlier later, earlier ++ later <+: operations → let first := runFrom step start earlier
      let second := runFrom step start (earlier ++ later)
      second.snapshot.authorityRevision = first.snapshot.authorityRevision →
        first.snapshot.authorityRevision ≠ maximumCount → SameAnswers first second

/-- A call that does not load other configurations than those in memory
while the revision is below its maximum. -/
def LoadsNothingNew (host : RuntimeHost) : HostOperation → Prop
  | .loadPersistentSeatHardware (.ok candidate) =>
    host.seatHardwareStore = true →
      host.authorityRevision ≠ maximumCount → candidate = host.hardwareConfigurations
  | _ => True

theorem step_revision_le (coherent : host.Coherent) (operation : HostOperation) :
    host.authorityRevision.toNat ≤ (host.step operation).authorityRevision.toNat := by
  have effect := host.step_effect coherent.numbered operation
  obtain ⟨_, same⟩ | counted | ⟨candidate, _, _, loaded⟩ := effect.revision_cases
  · rw [same]
  · rw [counted]
    exact le_nextRevision host.authorityRevision
  · rw [loaded]

/-- A step that keeps a revision below the maximum keeps the authority. -/
theorem step_sameAuthority (coherent : host.Coherent)
    {operation : HostOperation} (quiet : LoadsNothingNew host operation)
    (room : host.authorityRevision ≠ maximumCount)
    (kept : (host.step operation).authorityRevision.toNat = host.authorityRevision.toNat) :
    SameAuthority host (host.step operation) := by
  have effect := host.step_effect coherent.numbered operation
  obtain ⟨same, _⟩ | counted | ⟨candidate, loads, stored, loaded⟩ := effect.revision_cases
  · exact same
  · have next := nextRevision_toNat room
    rw [counted] at kept
    omega
  · rw [loads] at quiet
    rw [loaded]
    exact ⟨rfl, quiet stored room, rfl, rfl⟩

theorem runFrom_revision_le (coherent : host.Coherent) (operations : List HostOperation) :
    host.authorityRevision.toNat ≤ (runFrom step host operations).authorityRevision.toNat := by
  induction operations generalizing host with
  | nil => exact Nat.le_refl _
  | cons operation operations ih =>
    have first := step_revision_le coherent operation
    have rest := ih (coherent.step operation)
    exact Nat.le_trans first rest

theorem runFrom_sameAuthority (coherent : host.Coherent) {operations : List HostOperation}
    (quiet : Along step LoadsNothingNew host operations)
    (room : host.authorityRevision ≠ maximumCount)
    (kept : (runFrom step host operations).authorityRevision.toNat = host.authorityRevision.toNat) :
    SameAuthority host (runFrom step host operations) := by
  induction operations generalizing host with
  | nil => exact .refl host
  | cons operation operations ih =>
    have nextCoherent := coherent.step operation
    have first := step_revision_le coherent operation
    have rest := runFrom_revision_le nextCoherent operations
    rw [runFrom_cons] at kept ⊢
    have stepKept :
        (host.step operation).authorityRevision.toNat = host.authorityRevision.toNat := by
      omega
    have stepRoom : (host.step operation).authorityRevision ≠ maximumCount := by
      rw [UInt64.toNat_inj.mp stepKept]
      exact room
    have firstSame := step_sameAuthority coherent quiet.1 room stepKept
    have restSame := ih nextCoherent quiet.2 stepRoom (by omega)
    exact firstSame.trans restSame

/-- The revision of a host detects every change of a run exactly when the
run loads nothing new. -/
theorem detectsChanges_iff (seatHardwareStore : Bool) (operations : List HostOperation) :
    DetectsChanges (created seatHardwareStore) operations ↔
      Along step LoadsNothingNew (created seatHardwareStore) operations := by
  have reached (earlier : List HostOperation) :=
    (coherent_created seatHardwareStore).runFrom earlier
  rw [along_iff_initial]
  constructor
  · intro detector earlier operation isInitial
    have detects := detector.detects earlier [operation] isInitial
    cases operation with
    | loadPersistentSeatHardware load =>
      cases load with
      | error text => trivial
      | ok candidate =>
        intro stored room
        let first := runFrom step (created seatHardwareStore) earlier
        have loaded :
            runFrom step (created seatHardwareStore)
                (earlier ++ [.loadPersistentSeatHardware (.ok candidate)]) =
              { first with hardwareConfigurations := candidate } := by
          have store : first.seatHardwareStore = true := stored
          rw [runFrom_append]
          change (first.loadPersistentSeatHardware (.ok candidate)).2 = _
          simp [loadPersistentSeatHardware, store]
        rw [loaded] at detects
        exact (detects rfl room).hardwareConfigurations
    | _ => trivial
  · intro quiet
    constructor
    · intro earlier later _
      rw [runFrom_append]
      exact runFrom_revision_le (reached earlier) later
    intro earlier later isInitial first second kept room
    have laterQuiet : Along step LoadsNothingNew first later := by
      rw [along_iff_initial]
      intro initial operation inLater
      have inRun : earlier ++ initial ++ [operation] <+: operations := by
        rw [List.append_assoc]
        exact ((List.prefix_append_right_inj earlier).mpr inLater).trans isInitial
      have met := quiet (earlier ++ initial) operation inRun
      rw [runFrom_append] at met
      exact met
    have reachedSecond : second = runFrom step first later := runFrom_append _ earlier later
    rw [reachedSecond] at kept ⊢
    have same := runFrom_sameAuthority (reached earlier) laterQuiet room
      (congrArg UInt64.toNat kept)
    exact same.answers

def configuredFile : SeatHardwareConfigurations where
  first := { seatId := 1, controllerId := wideOf "pad" }
  second := { seatId := 2 }

theorem load_not_detected :
    ¬ DetectsChanges (created true) [.loadPersistentSeatHardware (.ok configuredFile)] := by
  intro detector
  have same := detector.detects [] [.loadPersistentSeatHardware (.ok configuredFile)]
    (List.prefix_refl _) rfl (by decide)
  have answered := same.seatHardwareConfiguration 1
  revert answered
  decide

end HydraSeat.Runtime.RuntimeHost
