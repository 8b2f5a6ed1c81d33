import HydraSeat.Launch.LifecycleLaws

/-!
# Activation epochs

Every start hands an epoch to the factory: the generation that the Seat will
have if the start goes through.
-/

namespace HydraSeat.Launch

open Foundation
open Foundation.Command List SeatGameLifecycle UInt64

variable {State : Type}

def epochOf (seatId : UInt32) : LifecycleEntry State → Option UInt64
  | ⟨_, .createForBinding seat _ expectedGeneration, _⟩ =>
    if seat = seatId then some expectedGeneration else none
  | _ => none

def epochs (seatId : UInt32) (calls : List (LifecycleEntry State)) : List UInt64 :=
  calls.filterMap (epochOf seatId)

/-- The answer that makes a start fail. -/
def falters : LifecycleEntry State → Bool
  | ⟨_, .createForBinding _ _ _, answer⟩ =>
    match (answer : Attempt (Option SeatGameInstance)) with
    | .returned (some _) _ => false
    | _ => true
  | ⟨_, .start _ _ _, answer⟩ =>
    match (answer : Attempt Bool) with
    | .returned true _ => false
    | _ => true
  | ⟨_, .running _, answer⟩ => !(answer : Bool)
  | _ => false

/-- Where an instance is asked for, it is made, it starts and it runs. -/
def GoesThrough (calls : List (LifecycleEntry State)) : Prop :=
  ¬ Unmade calls → ∀ call ∈ calls, falters call = false

section Epochs

variable {env : Environment lifecycleInterface State}
  {self after : SeatGameLifecycle} {entry : Entry}
  {calls more : List (LifecycleEntry State)} {seatId : UInt32}

theorem Unmade.epochs (unmade : Unmade calls) (seatId : UInt32) : epochs seatId calls = [] := by
  refine filterMap_eq_nil_iff.mpr ?_
  rintro ⟨before, request, answer⟩ member
  cases request with
  | createForBinding => cases unmade _ member
  | _ => rfl

theorem epochs_append : epochs seatId (calls ++ more) = epochs seatId calls ++ epochs seatId more :=
  filterMap_append

structure Launches (entry : Entry) (calls : List (LifecycleEntry State))
    (after : SeatGameLifecycle) : Prop where
  creation :
    ∃ earlier before binding answer later,
      calls =
          earlier ++
            (⟨before, .createForBinding entry.state.seatId binding
              (entry.state.generation + 1), answer⟩ : LifecycleEntry State) :: later ∧
        Unmade earlier ∧ Unmade later
  succeeds :
    (∀ call ∈ calls, falters call = false) →
      ∃ now, after.find entry.state.seatId = some now ∧
        now.state.generation = entry.state.generation + 1

theorem Launches.prepend (launches : Launches entry calls after)
    {earlier : List (LifecycleEntry State)} (unmade : Unmade earlier) :
    Launches entry (earlier ++ calls) after where
  creation := by
    obtain ⟨first, before, binding, answer, later, rfl, firstUnmade,
      laterUnmade⟩ := launches.creation
    exact ⟨earlier ++ first, before, binding, answer, later,
      (append_assoc _ _ _).symm, unmade.append firstUnmade,
      laterUnmade⟩
  succeeds through := launches.succeeds fun call member => through call (mem_append_right _ member)

theorem Launches.epochs (launches : Launches entry calls after) (seatId : UInt32) :
    epochs seatId calls = if entry.state.seatId = seatId then [entry.state.generation + 1]
      else [] := by
  obtain ⟨earlier, before, binding, answer, later, rfl, first, rest⟩ := launches.creation
  rw [epochs_append, first.epochs, nil_append]
  unfold Launch.epochs
  rw [filterMap_cons, epochOf]
  split
  next nothing =>
    obtain ⟨other, nothing⟩ := not_taken nothing nofun
    rw [if_neg other]
    exact rest.epochs seatId
  next epoch isEpoch =>
    split at isEpoch
    next same =>
      cases isEpoch
      rw [if_pos same]
      exact congrArg _ (rest.epochs seatId)
    · cases isEpoch

theorem Launches.not_unmade (launches : Launches entry calls after) : ¬ Unmade calls := by
  obtain ⟨earlier, before, binding, answer, later, rfl, _⟩ := launches.creation
  intro unmade
  cases unmade _ (mem_append_right _ mem_cons_self)

theorem find_started (found : self.find entry.state.seatId = some entry) (game : SeatGameInstance) :
    (self.started entry game).2.find entry.state.seatId = some (playing entry game) := by
  have replaced := replace_find self (playing entry game) entry.state.seatId
  rw [found, Option.map_some] at replaced
  exact replaced.trans (congrArg some (if_pos rfl))

theorem startCreated_succeeds (binding : SeatGameBinding) (game : SeatGameInstance)
    (error : ByteString) (state : State)
    (found : self.find entry.state.seatId = some entry) :
    Meets env (self.startCreated entry binding game error) state
      fun calls outcome _ =>
        (∀ call ∈ calls, falters call = false) →
          ∃ now, outcome.2.find entry.state.seatId = some now ∧
            now.state.generation = entry.state.generation + 1 := by
  refine meets_ask fun attempt middle _ => ?_
  cases attempt with
  | threw | threwUnknown =>
    intro calls outcome last _ through
    cases through _ mem_cons_self
  | returned started error =>
    cases started with
    | false =>
      intro calls outcome last _ through
      cases through _ mem_cons_self
    | true =>
      refine meets_ask fun running between _ => ?_
      cases running with
      | true => exact meets_pure fun _ => ⟨_, find_started found game, rfl⟩
      | false =>
        intro calls outcome last _ through
        cases through _ (mem_cons_of_mem _ mem_cons_self)

theorem startPlanned_launches (found : self.find entry.state.seatId = some entry)
    (binding : SeatGameBinding) (state : State) :
    Meets env (self.startPlanned entry binding) state
      fun calls outcome _ => Launches entry calls outcome.2 := by
  have failed {answer : Attempt (Option SeatGameInstance)} {outcome : LifecycleOutcome}
      (falls :
        falters
            (⟨state, .createForBinding entry.state.seatId binding
              (entry.state.generation + 1), answer⟩ : LifecycleEntry State) =
          true) :
      Launches entry
        [(⟨state, .createForBinding entry.state.seatId binding
          (entry.state.generation + 1), answer⟩ : LifecycleEntry State)]
        outcome.2 := by
    refine ⟨⟨[], _, _, _, [], rfl, .nil, .nil⟩, fun through => ?_⟩
    rw [through _ mem_cons_self] at falls
    cases falls
  refine meets_ask fun answer middle _ => ?_
  cases answer with
  | threw | threwUnknown => exact meets_pure (failed rfl)
  | returned value error =>
    cases value with
    | none => exact meets_pure (failed rfl)
    | some game =>
      refine meets_mono
        (meets_and (startCreated_meets binding game error middle)
          (startCreated_succeeds binding game error middle found))
        fun calls outcome last law => ?_
      obtain ⟨⟨now, created⟩, succeeds⟩ := law
      refine ⟨⟨[], _, _, _, calls, rfl, .nil, created.unmade⟩, fun through => ?_⟩
      exact succeeds fun call member => through call (mem_cons_of_mem _ member)

theorem startBody_launches (found : self.find seatId = some entry) (state : State) :
    Meets env (self.startBody entry) state
      fun calls outcome _ => Unmade calls ∨ Launches entry calls outcome.2 := by
  rw [← find_seatId found] at found
  refine meets_bind (playingRuns_meets entry state) fun calls running between unmade => ?_
  split
  · refine meets_pure (.inl ?_)
    rw [append_nil]
    exact unmade
  split
  next binding _ _ =>
    exact meets_mono (startPlanned_launches found binding between)
      fun more outcome last launches => .inr (launches.prepend unmade)
  · refine meets_pure (.inl ?_)
    rw [append_nil]
    exact unmade

abbrev MakesNothing {α : Type} (program : LifecycleProgram α) : Prop :=
  Only (fun request : LifecycleCall => request.makes = false) program

theorem MakesNothing.unmade {α : Type} {program : LifecycleProgram α}
    (nothing : MakesNothing program) (state : State) :
    Meets env program state fun calls _ _ => Unmade calls :=
  meets_mono (meets_keeps nothing (fun _ _ _ _ _ _ _ => trivial) trivial)
    fun _ _ _ kept call member => (kept.2 call member).2

theorem stopVerified_only (game : SeatGameInstance) (error : ByteString) :
    MakesNothing (stopVerified game error) := by
  refine only_bind (only_ask rfl) fun stopped => ?_
  dsimp only
  split
  · exact only_pure
  · exact only_ask rfl

theorem cleanUp_only {game : SeatGameInstance} {strandedText : String}
    {phase : SeatGamePhase} {releasedText : ByteString}
    {releasedCode : SeatGameResultCode} :
    MakesNothing (self.cleanUp entry game strandedText phase releasedText releasedCode) := by
  refine only_bind (stopVerified_only game []) fun stopped => ?_
  dsimp only
  split
  · exact only_pure
  · exact only_pure

theorem assignBody_only (binding : SeatGameBinding) :
    MakesNothing (self.assignBody entry binding) := by
  unfold assignBody
  apply only_refused
  split
  · exact only_pure
  · exact only_pure

theorem stopBody_only : MakesNothing (self.stopBody entry) := by
  unfold stopBody
  apply only_refused
  apply only_refused
  split
  · split
    · exact only_pure
    · exact only_pure
  · exact cleanUp_only

theorem observeBody_only (expectedGeneration : UInt64) (cleanExit : Bool)
    (diagnostic : ByteString) :
    MakesNothing (self.observeBody entry expectedGeneration cleanExit diagnostic) := by
  unfold observeBody
  apply only_refused
  split
  · refine only_bind (only_ask rfl) fun running => ?_
    split
    · exact only_pure
    · exact cleanUp_only
  · exact only_pure

theorem reconcileEntry_only (changed : Bool) (entry : Entry) :
    MakesNothing (reconcileEntry changed entry) := by
  unfold reconcileEntry
  split
  · refine only_bind (only_ask rfl) fun running => ?_
    apply only_refused
    refine only_bind (stopVerified_only _ _) fun stopped => ?_
    dsimp only
    split
    · exact only_pure
    · exact only_pure
  · exact only_pure

theorem emergencyEntry_only (progress : EmergencyProgress) (entry : Entry) :
    MakesNothing (emergencyEntry progress entry) := by
  unfold emergencyEntry
  split
  · exact only_pure
  refine only_bind (stopVerified_only _ _) fun stopped => ?_
  dsimp only
  split
  · exact only_pure
  · exact only_pure

theorem forEntries_only {σ : Type} {body : σ → Entry → LifecycleProgram (σ × Entry)}
    (nothing : ∀ progress entry, MakesNothing (body progress entry))
    (progress : σ) (entries : List Entry) :
    MakesNothing (forEntries body progress entries) := by
  induction entries generalizing progress with
  | nil => exact only_pure
  | cons entry entries ih =>
    refine only_bind (nothing progress entry) fun first => ?_
    refine only_bind (ih first.1) fun rest => ?_
    exact only_pure

theorem emergencyStopAllLocked_only : MakesNothing self.emergencyStopAllLocked := by
  refine only_bind (forEntries_only emergencyEntry_only _ _) fun all => ?_
  exact only_pure

theorem command_only (correlationId : UInt64)
    {body : SeatGameLifecycle → LifecycleProgram LifecycleOutcome}
    (nothing : ∀ remembered, MakesNothing (body remembered)) :
    MakesNothing (self.command correlationId body) := by
  refine only_bind (only_ask rfl) fun locked => ?_
  apply only_refused
  apply only_refused
  split
  · exact only_pure
  · exact nothing _

theorem seatCommand_only (correlationId : UInt64)
    {body : SeatGameLifecycle → Entry → LifecycleProgram LifecycleOutcome}
    (nothing : ∀ remembered entry, MakesNothing (body remembered entry)) :
    MakesNothing (self.seatCommand seatId correlationId body) := by
  refine command_only correlationId fun remembered => ?_
  split
  · exact only_pure
  · exact nothing _ _

theorem start_launches (seatId : UInt32) (correlationId : UInt64) (state : State) :
    Meets env (self.start seatId correlationId) state
      fun calls outcome _ =>
        Unmade calls ∨ ∃ entry, self.find seatId = some entry ∧ Launches entry calls outcome.2 := by
  refine meets_ask fun locked middle _ => ?_
  have first : Unmade [(⟨state, .tryLock, locked⟩ : LifecycleEntry State)] := Unmade.nil.cons rfl
  split
  · exact meets_pure (.inl first)
  split
  · exact meets_pure (.inl first)
  split
  · exact meets_pure (.inl first)
  next remembered remembers =>
    obtain ⟨correlations, rfl⟩ := rememberCorrelation_eq remembers
    dsimp only
    split
    · exact meets_pure (.inl first)
    next entry found =>
      refine meets_mono (startBody_launches found middle) fun calls outcome last law => ?_
      exact law.imp (fun unmade => unmade.cons rfl)
        fun launches => ⟨entry, found, launches.prepend first⟩

theorem perform_launches (operation : LifecycleOperation) (state : State) :
    Meets env (self.perform operation) state
      fun calls outcome _ =>
        Unmade calls ∨
          ∃ seatId entry, operation.seat? = some seatId ∧ self.find seatId = some entry ∧
            Launches entry calls outcome.2 := by
  have without (nothing : MakesNothing (self.perform operation)) :
      Meets env (self.perform operation) state
        fun calls outcome _ =>
          Unmade calls ∨
            ∃ seatId entry, operation.seat? = some seatId ∧ self.find seatId = some entry ∧
              Launches entry calls outcome.2 :=
    meets_mono (nothing.unmade state) fun _ _ _ unmade => .inl unmade
  cases operation with
  | assign seatId binding correlationId =>
    exact without (seatCommand_only correlationId fun _ _ => assignBody_only binding)
  | start seatId correlationId =>
    exact meets_mono (start_launches seatId correlationId state)
      fun calls outcome last launches => launches.imp_right
        fun ⟨entry, found, launches⟩ => ⟨seatId, entry, rfl, found, launches⟩
  | stop seatId correlationId =>
    exact without (seatCommand_only correlationId fun _ _ => stopBody_only)
  | observeTargetExit seatId expectedGeneration cleanExit diagnostic correlationId =>
    exact without (seatCommand_only correlationId fun _ _ =>
      observeBody_only expectedGeneration cleanExit diagnostic)
  | reconcile correlationId =>
    refine without (command_only correlationId fun remembered => ?_)
    refine only_bind (forEntries_only reconcileEntry_only _ _) fun all => ?_
    exact only_pure
  | emergencyStopAll correlationId =>
    exact without (command_only correlationId fun _ => emergencyStopAllLocked_only)
  | shutdown => exact without emergencyStopAllLocked_only

def numbered (count : Nat) : List UInt64 :=
  (List.range count).map fun index => UInt64.ofNat (index + 1)

/-- A Seat has had as many epochs as its generation says. -/
structure Counted (lifecycle : SeatGameLifecycle) (history : List (LifecycleEntry State)) :
    Prop where
  sound : Sound lifecycle
  counted :
    ∀ seatId, ∃ count, epochs seatId history = numbered count ∧
      ∀ entry, lifecycle.find seatId = some entry → entry.state.generation = UInt64.ofNat count

theorem numbered_nodup {count : Nat} (short : count ≤ 2 ^ 64) : (numbered count).Nodup := by
  refine List.Nodup.map_on ?_ nodup_range
  intro left leftMember right rightMember same
  rw [mem_range] at leftMember rightMember
  have sameNat := congrArg UInt64.toNat same
  rw [toNat_ofNat', toNat_ofNat'] at sameNat
  omega

theorem numbered_succ (count : Nat) :
    numbered (count + 1) = numbered count ++ [UInt64.ofNat count + 1] := by
  unfold numbered
  rw [range_succ, map_append, map_singleton]
  congr 2
  exact ofNat_add count 1

theorem Counted.step {history : List (LifecycleEntry State)} {operation : LifecycleOperation}
    (counted : Counted self history)
    (law : LifecycleLaw self operation calls after)
    (launches :
      Unmade calls ∨
        ∃ seatId entry, operation.seat? = some seatId ∧
          self.find seatId = some entry ∧ Launches entry calls after)
    (through : GoesThrough calls) :
    Counted after (history ++ calls) := by
  refine ⟨law.sound, fun seatId => ?_⟩
  obtain ⟨count, past, generation⟩ := counted.counted seatId
  have unchanged (nothing : epochs seatId calls = [])
      (same :
        ∀ now, after.find seatId = some now →
          ∃ was, self.find seatId = some was ∧ now.state.generation = was.state.generation) :
      ∃ count, epochs seatId (history ++ calls) = numbered count ∧
        ∀ entry, after.find seatId = some entry → entry.state.generation = UInt64.ofNat count := by
    refine ⟨count, ?_, ?_⟩
    · rw [epochs_append, nothing, append_nil]
      exact past
    · intro now found
      obtain ⟨was, wasFound, sameGeneration⟩ := same now found
      exact sameGeneration.trans (generation was wasFound)
  rcases launches with unmade | ⟨started, entry, addressed, found, launches⟩
  · refine unchanged (unmade.epochs seatId) fun now found => ?_
    cases before : self.find seatId with
    | none =>
      rw [law.absent seatId before] at found
      cases found
    | some was =>
      obtain ⟨other, otherFound, step⟩ := law.seats seatId was before
      rw [found] at otherFound
      cases otherFound
      exact ⟨was, rfl, step.generation unmade⟩
  · have isStarted := find_seatId found
    by_cases same : seatId = started
    · subst same
      refine ⟨count + 1, ?_, ?_⟩
      · rw [epochs_append, past, launches.epochs, if_pos isStarted,
          generation entry found, numbered_succ]
      intro now nowFound
      obtain ⟨next, nextFound, nextGeneration⟩ := launches.succeeds (through launches.not_unmade)
      rw [isStarted, nowFound] at nextFound
      cases nextFound
      rw [nextGeneration, generation entry found]
      exact (ofNat_add count 1).symm
    · have others := law.others started addressed seatId same
      refine unchanged ?_ fun now nowFound => ?_
      · rw [launches.epochs, isStarted, if_neg (Ne.symm same)]
      · rw [others] at nowFound
        exact ⟨now, nowFound, rfl⟩

end Epochs

section Life

variable {env : Environment lifecycleInterface State}
  {outside : State → State → Prop} {start world : State}
  {lifecycle : SeatGameLifecycle} {activeSeats : List UInt32}
  {factory : Bool} {deeds : List (GameDeed State)}

theorem addSeats_generation {entries all : List Entry}
    (added : addSeats activeSeats entries = some all)
    (fresh : ∀ entry ∈ entries, entry.state.generation = 0) :
    ∀ entry ∈ all, entry.state.generation = 0 := by
  induction activeSeats generalizing entries with
  | nil =>
    cases added
    exact fresh
  | cons seatId activeSeats ih =>
    rw [addSeats] at added
    obtain ⟨_, added⟩ := not_taken added (by simp)
    refine ih added ?_
    intro entry member
    rcases mem_orderedInsert _ |>.mp member with rfl | before
    · rfl
    · exact fresh entry before

theorem create_generation {entry : Entry} (member : entry ∈ (create activeSeats factory).entries) :
    entry.state.generation = 0 := by
  unfold create at member
  split at member
  · cases member
  split at member
  · cases member
  split at member
  · cases member
  next entries added =>
    have fresh := addSeats_generation added (fun other none => (nomatch none)) entry
    split at member
    · exact fresh member
    · exact fresh member

/-- In a life whose starts all go through, no epoch of a Seat comes twice. -/
theorem epochs_unique
    (life : Lived perform env outside (.create activeSeats factory) start lifecycle world deeds)
    (through : ∀ deed ∈ deeds, GoesThrough deed.entries) (seatId : UInt32)
    (short : (epochs seatId (historyOf deeds)).length ≤ 2 ^ 64) :
    (epochs seatId (historyOf deeds)).Nodup := by
  have counted : Counted lifecycle (historyOf deeds) := by
    refine life.invariant (fun lifecycle _ deeds => Counted lifecycle (historyOf deeds))
      ?_ ?_ ?_ through
    · intro lifecycle operation state deeds counted
      refine meets_mono
        (meets_and (perform_law counted.sound operation state) (perform_launches operation state))
        fun calls outcome last law through => ?_
      rw [historyOf_concat]
      exact counted.step law.1 law.2 through
    · intro lifecycle first last deeds counted _
      exact counted
    · refine ⟨create_sound activeSeats factory, fun seatId => ⟨0, rfl, fun entry found => ?_⟩⟩
      exact create_generation (find_mem found)
  obtain ⟨count, are, _⟩ := counted.counted seatId
  rw [are] at short ⊢
  apply numbered_nodup
  unfold numbered at short
  rw [length_map, length_range] at short
  exact short

end Life

/-- Two starts of a Seat that both go through. -/
theorem sample_epochs_unique :
    (epochs 1
      (historyOf
        (sampleGameDeeds
          [.assign 1 sampleBinding 1, .start 1 2, .stop 1 3,
            .assign 1 sampleBinding 4, .start 1 5]))).Nodup := by
  have steady :
      ((sampleGameDeeds
          [.assign 1 sampleBinding 1, .start 1 2, .stop 1 3,
            .assign 1 sampleBinding 4, .start 1 5]).all fun deed =>
        deed.entries.all fun call => !falters call) = true := by
    decide
  refine epochs_unique (sampleGameDeeds_life _) ?_ 1 (by decide)
  intro deed member _ call callMember
  have calm := all_eq_true.mp (all_eq_true.mp steady deed member) call callMember
  rw [Bool.not_eq_true'] at calm
  exact calm

def refusingFactory (asked : Nat) : (request : LifecycleCall) → request.Answer × Nat
  | .createForBinding _ _ _ => (.returned (if asked = 0 then none else some asked) [], asked + 1)
  | request => obligingGames asked request

/-- A start that fails leaves its epoch to the next one. -/
theorem failed_start_repeats_epoch :
    ¬ ∀ (env : Environment lifecycleInterface Nat) (lifecycle : SeatGameLifecycle) (world : Nat)
        (deeds : List (GameDeed Nat)) (seatId : UInt32),
      Lived perform env Eq (.create [1, 2] true) 0 lifecycle world deeds →
      (epochs seatId (historyOf deeds)).Nodup := by
  intro claim
  have unique := claim (handled refusingFactory) _ _ _ 1
    (Lived.start.script (fun _ _ => rfl)
      [.assign 1 sampleBinding 1, .start 1 2, .assign 1 sampleBinding 3, .start 1 4])
  revert unique
  decide

end HydraSeat.Launch
