import HydraSeat.Foundation.Transition
import HydraSeat.GateC.XInputContext

/-!
# What one operation does to the virtual controllers

An operation is refused and changes nothing, or it stores one slot and its
own sequence.  Everything about runs follows from what it stores.
-/

namespace HydraSeat.GateC

open Foundation

namespace VirtualXInputContext

open VirtualXInputSlot

variable {source : ControllerSourceIdentity} {index : SlotIndex} {self : VirtualXInputContext}

/-- The checks of `mapLogicalSlot` before it maps a slot anew. -/
structure Maps (context : VirtualXInputContext) (sequence : UInt64) (logicalSlot : UInt8)
    (source : ControllerSourceIdentity) (sourceGeneration : UInt64)
    (index : SlotIndex) : Prop where
  named : slotIndex? logicalSlot = some index
  valid : validControllerSourceIdentity source = true ∧ sourceGeneration ≠ 0
  sequenced : context.sequenceAccepted sequence = true
  alone : ∀ other, other ≠ index → (context.slots other).carries source = false
  fresh :
    (context.slots index).carries source = true →
      (context.slots index).validateGeneration sourceGeneration true = .success
  moved :
    (context.slots index).carries source = true →
      ¬ ((context.slots index).mapping.source = source ∧
        (context.slots index).mapping.sourceGeneration = sourceGeneration)
  room : (context.slots index).mapping.mappingGeneration ≠ maximumGeneration

/-- The checks of `unmapLogicalSlot`. -/
structure Unmaps (context : VirtualXInputContext) (sequence : UInt64) (logicalSlot : UInt8)
    (index : SlotIndex) : Prop where
  named : slotIndex? logicalSlot = some index
  sequenced : context.sequenceAccepted sequence = true
  room : (context.slots index).mapping.mappingGeneration ≠ maximumGeneration

inductive Change (self : VirtualXInputContext) : Operation → SlotIndex → VirtualXInputSlot → Prop
  | kept {sequence sourceGeneration : UInt64} {logicalSlot : UInt8}
      {source : ControllerSourceIdentity} (index : SlotIndex)
      (carried : (self.slots index).carries source = true)
      (fresh : (self.slots index).validateGeneration sourceGeneration true = .success)
      (current : (self.slots index).mapping.sourceGeneration = sourceGeneration) :
      Change self (.mapLogicalSlot sequence logicalSlot source sourceGeneration)
        index (self.slots index)
  | mapped {sequence sourceGeneration : UInt64} {logicalSlot : UInt8}
      {source : ControllerSourceIdentity} (index : SlotIndex)
      (maps : self.Maps sequence logicalSlot source sourceGeneration index) :
      Change self (.mapLogicalSlot sequence logicalSlot source sourceGeneration) index
        (remapped logicalSlot source sourceGeneration
          ((self.slots index).mapping.mappingGeneration + 1))
  | unmapped {sequence : UInt64} {logicalSlot : UInt8} (index : SlotIndex)
      (unmaps : self.Unmaps sequence logicalSlot index) :
      Change self (.unmapLogicalSlot sequence logicalSlot) index
        (tombstone logicalSlot ((self.slots index).mapping.mappingGeneration + 1))
  | state {sequence sourceGeneration : UInt64} {source : ControllerSourceIdentity}
      {gamepad : NormalizedXInputGamepad} (index : SlotIndex)
      (carried : (self.slots index).carries source = true)
      (fresh : (self.slots index).validateGeneration sourceGeneration true = .success) :
      Change self (.applySourceState sequence source sourceGeneration gamepad)
        index ((self.slots index).withState sourceGeneration gamepad)
  | snapshot {sequence sourceGeneration : UInt64} {source : ControllerSourceIdentity}
      {gamepad : NormalizedXInputGamepad}
      {capabilities : Option NormalizedXInputCapabilities}
      {battery : Option NormalizedXInputBattery} (index : SlotIndex)
      (carried : (self.slots index).carries source = true)
      (fresh : (self.slots index).validateGeneration sourceGeneration true = .success)
      (room :
        (self.slots index).mapping.source ≠ source →
          (self.slots index).mapping.mappingGeneration ≠ maximumGeneration) :
      Change self
        (.applySourceSnapshot sequence source sourceGeneration gamepad capabilities battery)
        index
        ((self.slots index).withSnapshot source sourceGeneration gamepad capabilities battery)
  | capabilities {sequence sourceGeneration : UInt64} {source : ControllerSourceIdentity}
      {capabilities : NormalizedXInputCapabilities} (index : SlotIndex)
      (carried : (self.slots index).carries source = true)
      (fresh : (self.slots index).validateGeneration sourceGeneration false = .success) :
      Change self (.applySourceCapabilities sequence source sourceGeneration capabilities) index
        { self.slots index with capabilities, capabilitiesAvailable := true }
  | battery {sequence sourceGeneration : UInt64} {source : ControllerSourceIdentity}
      {battery : NormalizedXInputBattery} (index : SlotIndex)
      (carried : (self.slots index).carries source = true)
      (fresh : (self.slots index).validateGeneration sourceGeneration false = .success) :
      Change self (.applySourceBattery sequence source sourceGeneration battery) index
        { self.slots index with battery, batteryAvailable := true }
  | disconnected {sequence sourceGeneration : UInt64}
      {source : ControllerSourceIdentity} (index : SlotIndex)
      (carried : (self.slots index).carries source = true)
      (fresh : (self.slots index).validateGeneration sourceGeneration false = .success)
      (connected : (self.slots index).connected = true) :
      Change self (.disconnectSource sequence source sourceGeneration)
        index (self.slots index).withoutConnection
  | vibrated {sequence : UInt64} {request : VirtualXInputVibrationRequest} (index : SlotIndex) :
      Change self (.routeVibration sequence request) index
        { self.slots index with vibration := (self.slots index).vibrationRoute sequence request }

/-- The operation is refused, or it stores a change. -/
inductive Outcome (self : VirtualXInputContext) (operation : Operation) :
    VirtualXInputResult × VirtualXInputContext → Prop
  | refused {result : VirtualXInputResult} (reason : result ≠ .success) :
      Outcome self operation (result, self)
  | committed {index : SlotIndex} {slot : VirtualXInputSlot}
      (accepted : self.sequenceAccepted operation.sequence = true)
      (change : Change self operation index slot) :
      Outcome self operation (.success, self.commit index slot operation.sequence)

theorem carries_of_findSource (found : self.findSource source = some index) :
    (self.slots index).carries source = true := by
  have carried := List.find?_some found
  exact carried

theorem commit_slots_self (self : VirtualXInputContext) (index : SlotIndex) (sequence : UInt64) :
    self.commit index (self.slots index) sequence =
      { self with lastAppliedSequence := sequence } := by
  simp [commit]

variable {sequence sourceGeneration : UInt64} {logicalSlot : UInt8}
  {gamepad : NormalizedXInputGamepad}

theorem remapSlot_outcome
    (maps :
      (self.slots index).mapping.mappingGeneration ≠ maximumGeneration →
        self.Maps sequence logicalSlot source sourceGeneration index) :
    Outcome self (.mapLogicalSlot sequence logicalSlot source sourceGeneration)
      (self.remapSlot sequence logicalSlot index source sourceGeneration) := by
  unfold remapSlot
  dsimp only
  split
  · exact .refused (by decide)
  next room =>
    have checked := maps room
    exact .committed checked.sequenced (.mapped index checked)

theorem mapLogicalSlot_outcome :
    Outcome self (.mapLogicalSlot sequence logicalSlot source sourceGeneration)
      (self.mapLogicalSlot sequence logicalSlot source sourceGeneration) := by
  unfold mapLogicalSlot
  cases named : slotIndex? logicalSlot with
  | none => exact .refused (by decide)
  | some index =>
    dsimp only
    split
    · exact .refused (by decide)
    next wellFormed =>
      have valid : validControllerSourceIdentity source = true ∧ sourceGeneration ≠ 0 := by
        simpa using wellFormed
      split
      · exact .refused (by decide)
      next accepted =>
        rw [Bool.not_eq_true', Bool.not_eq_false] at accepted
        split
        · exact .refused (by decide)
        next duplicated =>
          have alone : ∀ other, other ≠ index → (self.slots other).carries source = false := by
            intro other different
            simp only [List.any_eq_true, List.mem_finRange, true_and,
              Bool.and_eq_true, bne_iff_ne, ne_eq, not_exists, not_and,
              Bool.not_eq_true] at duplicated
            exact duplicated other different
          split
          next carried =>
            split
            next stale => exact .refused stale
            next notStale =>
              have fresh := not_not.mp notStale
              split
              next current =>
                rw [← commit_slots_self self index sequence]
                exact .committed accepted (.kept index carried fresh current.2)
              next moved =>
                apply remapSlot_outcome
                exact fun room => ⟨named, valid, accepted, alone,
                  fun _ => fresh, fun _ => moved, room⟩
          next free =>
            apply remapSlot_outcome
            exact fun room => ⟨named, valid, accepted, alone, fun carried => absurd carried free,
              fun carried => absurd carried free, room⟩

theorem unmapLogicalSlot_outcome :
    Outcome self (.unmapLogicalSlot sequence logicalSlot)
      (self.unmapLogicalSlot sequence logicalSlot) := by
  unfold unmapLogicalSlot
  cases named : slotIndex? logicalSlot with
  | none => exact .refused (by decide)
  | some index =>
    dsimp only
    split
    · exact .refused (by decide)
    next accepted =>
      rw [Bool.not_eq_true', Bool.not_eq_false] at accepted
      split
      · exact .refused (by decide)
      next room => exact .committed accepted (.unmapped index ⟨named, accepted, room⟩)

theorem foundSource_outcome {operation : Operation}
    {next : SlotIndex → VirtualXInputResult × VirtualXInputContext}
    (later :
      ∀ index, self.sequenceAccepted operation.sequence = true →
        self.findSource source = some index → Outcome self operation (next index)) :
    Outcome self operation
      (if !self.sequenceAccepted operation.sequence then (.staleSequence, self)
      else
        match self.findSource source with
        | none => (.notMapped, self)
        | some index => next index) := by
  split
  · exact .refused (by decide)
  next accepted =>
    rw [Bool.not_eq_true', Bool.not_eq_false] at accepted
    cases found : self.findSource source with
    | none => exact .refused (by decide)
    | some index => exact later index accepted found

theorem applySourceState_outcome :
    Outcome self (.applySourceState sequence source sourceGeneration gamepad)
      (self.applySourceState sequence source sourceGeneration gamepad) := by
  unfold applySourceState
  split
  · exact .refused (by decide)
  refine foundSource_outcome fun index accepted found => ?_
  dsimp only
  split
  · exact .refused (by decide)
  split
  next stale => exact .refused stale
  next fresh =>
    exact .committed accepted (.state index (carries_of_findSource found) (not_not.mp fresh))

theorem applySourceSnapshot_outcome {capabilities : Option NormalizedXInputCapabilities}
    {battery : Option NormalizedXInputBattery} :
    Outcome self
      (.applySourceSnapshot sequence source sourceGeneration gamepad capabilities battery)
      (self.applySourceSnapshot sequence source sourceGeneration gamepad capabilities battery) := by
  unfold applySourceSnapshot
  split
  · exact .refused (by decide)
  split
  · exact .refused (by decide)
  refine foundSource_outcome fun index accepted found => ?_
  dsimp only
  split
  next stale => exact .refused stale
  next fresh =>
    split
    · exact .refused (by decide)
    next room =>
      exact .committed accepted
        (.snapshot index (carries_of_findSource found) (not_not.mp fresh)
          (fun moved exhausted => room ⟨moved, exhausted⟩))

theorem applySourceCapabilities_outcome {capabilities : NormalizedXInputCapabilities} :
    Outcome self (.applySourceCapabilities sequence source sourceGeneration capabilities)
      (self.applySourceCapabilities sequence source sourceGeneration capabilities) := by
  unfold applySourceCapabilities
  split
  · exact .refused (by decide)
  split
  · exact .refused (by decide)
  refine foundSource_outcome fun index accepted found => ?_
  dsimp only
  split
  · exact .refused (by decide)
  split
  next stale => exact .refused stale
  next fresh =>
    split
    · exact .refused (by decide)
    · exact .committed accepted
        (.capabilities index (carries_of_findSource found) (not_not.mp fresh))

theorem applySourceBattery_outcome {battery : NormalizedXInputBattery} :
    Outcome self (.applySourceBattery sequence source sourceGeneration battery)
      (self.applySourceBattery sequence source sourceGeneration battery) := by
  unfold applySourceBattery
  split
  · exact .refused (by decide)
  split
  · exact .refused (by decide)
  refine foundSource_outcome fun index accepted found => ?_
  dsimp only
  split
  · exact .refused (by decide)
  split
  next stale => exact .refused stale
  next fresh =>
    split
    · exact .refused (by decide)
    · exact .committed accepted (.battery index (carries_of_findSource found) (not_not.mp fresh))

theorem disconnectSource_outcome :
    Outcome self (.disconnectSource sequence source sourceGeneration)
      (self.disconnectSource sequence source sourceGeneration) := by
  unfold disconnectSource
  split
  · exact .refused (by decide)
  refine foundSource_outcome fun index accepted found => ?_
  dsimp only
  split
  next stale => exact .refused stale
  next fresh =>
    split
    · exact .refused (by decide)
    next connected =>
      rw [Bool.not_eq_true', Bool.not_eq_false] at connected
      exact .committed accepted
        (.disconnected index (carries_of_findSource found) (not_not.mp fresh) connected)

theorem routeVibration_outcome {request : VirtualXInputVibrationRequest} :
    Outcome self (.routeVibration sequence request)
      ((self.routeVibration sequence request).1, (self.routeVibration sequence request).2.2) := by
  unfold routeVibration
  cases slotIndex? request.logicalSlot with
  | none => exact .refused nofun
  | some index =>
    dsimp only
    split
    · exact .refused nofun
    next accepted =>
      rw [Bool.not_eq_true', Bool.not_eq_false] at accepted
      split
      · exact .refused nofun
      split
      · exact .refused nofun
      split
      · exact .refused nofun
      split
      · exact .refused nofun
      split
      · exact .refused nofun
      split
      · exact .refused nofun
      · exact .committed accepted (.vibrated index)

theorem perform_outcome (self : VirtualXInputContext) (operation : Operation) :
    Outcome self operation (self.perform operation) := by
  cases operation with
  | mapLogicalSlot => exact mapLogicalSlot_outcome
  | unmapLogicalSlot => exact unmapLogicalSlot_outcome
  | applySourceState => exact applySourceState_outcome
  | applySourceSnapshot => exact applySourceSnapshot_outcome
  | applySourceCapabilities => exact applySourceCapabilities_outcome
  | applySourceBattery => exact applySourceBattery_outcome
  | disconnectSource => exact disconnectSource_outcome
  | routeVibration => exact routeVibration_outcome

theorem step_cases (self : VirtualXInputContext) (operation : Operation) :
    ((self.perform operation).1 ≠ .success ∧ self.step operation = self) ∨
      ((self.perform operation).1 = .success ∧ self.sequenceAccepted operation.sequence = true ∧
        ∃ index slot, Change self operation index slot ∧
          self.step operation = self.commit index slot operation.sequence) := by
  have outcome := self.perform_outcome operation
  unfold step
  generalize self.perform operation = answered at outcome ⊢
  cases outcome with
  | refused reason => exact Or.inl ⟨reason, rfl⟩
  | committed accepted change => exact Or.inr ⟨rfl, accepted, _, _, change, rfl⟩

theorem sameControllerSourceIdentity_iff (left right : ControllerSourceIdentity) :
    sameControllerSourceIdentity left right = true ↔
      left.kind = right.kind ∧ left.sourceKey = right.sourceKey := by
  simp [sameControllerSourceIdentity]

theorem carries_iff (slot : VirtualXInputSlot) (source : ControllerSourceIdentity) :
    slot.carries source = true ↔
      slot.mapped = true ∧ slot.mapping.source.kind = source.kind ∧
        slot.mapping.source.sourceKey = source.sourceKey := by
  unfold carries
  rw [Bool.and_eq_true, sameControllerSourceIdentity_iff]

/-- No source identity is mapped in two logical slots. -/
def Exclusive (self : VirtualXInputContext) : Prop :=
  ∀ left right source,
    (self.slots left).carries source = true →
      (self.slots right).carries source = true → left = right

theorem withState_mapping (slot : VirtualXInputSlot) (sourceGeneration : UInt64)
    (gamepad : NormalizedXInputGamepad) :
    (slot.withState sourceGeneration gamepad).mapping = { slot.mapping with sourceGeneration } := by
  unfold withState
  by_cases same : sourceGeneration = slot.mapping.sourceGeneration
  · simp [same]
  · simp [same]

theorem withState_mapped (slot : VirtualXInputSlot) (sourceGeneration : UInt64)
    (gamepad : NormalizedXInputGamepad) :
    (slot.withState sourceGeneration gamepad).mapped = slot.mapped := by
  unfold withState
  by_cases same : sourceGeneration = slot.mapping.sourceGeneration
  · simp [same]
  · simp [same, clearConnectionState]

section Snapshot

variable (slot : VirtualXInputSlot) (source : ControllerSourceIdentity)
  (sourceGeneration : UInt64) (gamepad : NormalizedXInputGamepad)
  (capabilities : Option NormalizedXInputCapabilities)
  (battery : Option NormalizedXInputBattery)

theorem withSnapshot_mapping :
    (slot.withSnapshot source sourceGeneration gamepad capabilities battery).mapping =
      { slot.mapping with
        source, sourceGeneration
        mappingGeneration :=
          if slot.mapping.source = source then slot.mapping.mappingGeneration
          else slot.mapping.mappingGeneration + 1 } := by
  unfold withSnapshot
  by_cases routed : slot.mapping.source = source
  · by_cases same : sourceGeneration = slot.mapping.sourceGeneration
    · simp [routed, same]
    · simp [routed, same, clearConnectionState]
  · simp [routed, clearConnectionState]

theorem withSnapshot_mapped :
    (slot.withSnapshot source sourceGeneration gamepad capabilities battery).mapped =
      slot.mapped := by
  unfold withSnapshot
  by_cases changed :
      (slot.mapping.source != source || sourceGeneration != slot.mapping.sourceGeneration) = true
  · simp only [changed, if_true]
    rfl
  · simp only [changed]
    rfl

end Snapshot

variable {self : VirtualXInputContext} {operation : Operation} {index : SlotIndex}
  {slot : VirtualXInputSlot}

/-- A slot carries after a change what it carried before, or a source that
no other slot carries. -/
theorem Change.carries (change : Change self operation index slot)
    (carried : slot.carries source = true) :
    (self.slots index).carries source = true ∨
      ∀ other, other ≠ index → (self.slots other).carries source = false := by
  cases change with
  | kept => exact Or.inl carried
  | @mapped _ _ _ mappedSource _ maps =>
    apply Or.inr
    intro other different
    obtain ⟨_, kind, key⟩ := (carries_iff _ _).mp carried
    rw [Bool.eq_false_iff]
    intro elsewhere
    obtain ⟨mapped, otherKind, otherKey⟩ := (carries_iff _ _).mp elsewhere
    have free := maps.alone other different
    have taken : (self.slots other).carries mappedSource = true := (carries_iff _ _).mpr
      ⟨mapped, otherKind.trans kind.symm, otherKey.trans key.symm⟩
    rw [taken] at free
    cases free
  | unmapped => cases carried
  | state =>
    apply Or.inl
    rw [carries_iff, withState_mapped, withState_mapping] at carried
    exact (carries_iff _ _).mpr carried
  | snapshot _ before =>
    apply Or.inl
    rw [carries_iff, withSnapshot_mapped, withSnapshot_mapping] at carried
    obtain ⟨mapped, kind, key⟩ := (carries_iff _ _).mp before
    exact (carries_iff _ _).mpr ⟨mapped, kind.trans carried.2.1, key.trans carried.2.2⟩
  | capabilities | battery | disconnected | vibrated => exact Or.inl carried

theorem Exclusive.commit (exclusive : self.Exclusive)
    (change : Change self operation index slot) (sequence : UInt64) :
    (self.commit index slot sequence).Exclusive := by
  -- A slot other than the changed one that carries what it carries.
  have apart {other : SlotIndex} {source : ControllerSourceIdentity} (different : other ≠ index)
      (carried : slot.carries source = true) :
      (self.slots other).carries source = false := by
    rcases change.carries carried with before | alone
    · rw [Bool.eq_false_iff]
      intro elsewhere
      exact different (exclusive other index source elsewhere before)
    · exact alone other different
  intro left right source onLeft onRight
  dsimp only [VirtualXInputContext.commit] at onLeft onRight
  by_cases leftChanged : left = index
  · by_cases rightChanged : right = index
    · rw [leftChanged, rightChanged]
    · rw [Function.update_of_ne rightChanged] at onRight
      rw [leftChanged, Function.update_self] at onLeft
      rw [apart rightChanged onLeft] at onRight
      cases onRight
  · rw [Function.update_of_ne leftChanged] at onLeft
    by_cases rightChanged : right = index
    · rw [rightChanged, Function.update_self] at onRight
      rw [apart leftChanged onRight] at onLeft
      cases onLeft
    · rw [Function.update_of_ne rightChanged] at onRight
      exact exclusive left right source onLeft onRight

theorem step_exclusive (self : VirtualXInputContext) (operation : Operation)
    (exclusive : self.Exclusive) : (self.step operation).Exclusive := by
  rcases self.step_cases operation with
    ⟨_, same⟩ | ⟨_, _, index, slot, change, stored⟩
  · rw [same]
    exact exclusive
  · rw [stored]
    exact exclusive.commit change _

def mappedSource (slot : VirtualXInputSlot) : Option ControllerSourceIdentity :=
  if slot.mapped then some slot.mapping.source else none

theorem lt_add_one_of_ne_maximum {generation : UInt64} (room : generation ≠ maximumGeneration) :
    generation < generation + 1 := by
  have bounded := generation.toNat_lt
  have below : generation.toNat ≠ 18446744073709551615 := by
    intro full
    exact room (UInt64.toNat_inj.mp full)
  rw [UInt64.lt_iff_toNat_lt, UInt64.toNat_add, UInt64.toNat_one]
  omega

/-- A change keeps the mapped source with its mapping generation, or it
moves to the next mapping generation. -/
theorem Change.generation (change : Change self operation index slot) :
    (mappedSource slot = mappedSource (self.slots index) ∧
        slot.mapping.mappingGeneration = (self.slots index).mapping.mappingGeneration) ∨
      (self.slots index).mapping.mappingGeneration < slot.mapping.mappingGeneration := by
  cases change with
  | kept => exact Or.inl ⟨rfl, rfl⟩
  | mapped _ maps => exact Or.inr (lt_add_one_of_ne_maximum maps.room)
  | unmapped _ unmaps => exact Or.inr (lt_add_one_of_ne_maximum unmaps.room)
  | state =>
    apply Or.inl
    simp only [mappedSource, withState_mapped, withState_mapping, and_self]
  | @snapshot _ _ source _ _ _ _ _ _ room =>
    by_cases routed : (self.slots index).mapping.source = source
    · apply Or.inl
      simp only [mappedSource, withSnapshot_mapped, withSnapshot_mapping, routed, if_true, and_self]
    · apply Or.inr
      rw [withSnapshot_mapping, if_neg routed]
      exact lt_add_one_of_ne_maximum (room routed)
  | capabilities | battery | disconnected | vibrated => exact Or.inl ⟨rfl, rfl⟩

theorem step_generation (self : VirtualXInputContext) (operation : Operation) (index : SlotIndex) :
    (mappedSource ((self.step operation).slots index) = mappedSource (self.slots index) ∧
        ((self.step operation).slots index).mapping.mappingGeneration =
          (self.slots index).mapping.mappingGeneration) ∨
      (self.slots index).mapping.mappingGeneration <
        ((self.step operation).slots index).mapping.mappingGeneration := by
  rcases self.step_cases operation with
    ⟨_, same⟩ | ⟨_, _, changed, slot, change, stored⟩
  · rw [same]
    exact Or.inl ⟨rfl, rfl⟩
  rw [stored]
  by_cases same : index = changed
  · rw [same]
    simp only [VirtualXInputContext.commit, Function.update_self]
    exact change.generation
  · apply Or.inl
    simp only [VirtualXInputContext.commit, Function.update_of_ne same, and_self]

/-- The law of the virtual controllers over a run from a reset. -/
structure RunInvariants (operations : List Operation) : Prop where
  refused :
    Along step
      (fun self operation => (self.perform operation).1 ≠ .success → self.step operation = self)
      {} operations
  sequenced :
    Along step
      (fun self operation =>
        (self.perform operation).1 = .success →
          self.lastAppliedSequence < operation.sequence ∧
            (self.step operation).lastAppliedSequence = operation.sequence)
      {} operations
  exclusive : Throughout step Exclusive {} operations
  monotone :
    Along step
      (fun self operation => ∀ index,
        (self.slots index).mapping.mappingGeneration ≤
          ((self.step operation).slots index).mapping.mappingGeneration)
      {} operations
  advancing :
    Along step
      (fun self operation => ∀ index,
        mappedSource ((self.step operation).slots index) ≠ mappedSource (self.slots index) →
          (self.slots index).mapping.mappingGeneration <
            ((self.step operation).slots index).mapping.mappingGeneration)
      {} operations

theorem step_refused (self : VirtualXInputContext) (operation : Operation)
    (refused : (self.perform operation).1 ≠ .success) :
    self.step operation = self := by
  rcases self.step_cases operation with ⟨_, same⟩ | ⟨succeeded, _⟩
  · exact same
  · exact absurd succeeded refused

theorem step_sequenced (self : VirtualXInputContext) (operation : Operation)
    (succeeded : (self.perform operation).1 = .success) :
    self.lastAppliedSequence < operation.sequence ∧
      (self.step operation).lastAppliedSequence = operation.sequence := by
  rcases self.step_cases operation with
    ⟨refused, _⟩ | ⟨_, accepted, _, _, _, stored⟩
  · exact absurd succeeded refused
  · unfold sequenceAccepted at accepted
    rw [Bool.and_eq_true, decide_eq_true_eq] at accepted
    rw [stored]
    exact ⟨accepted.2, rfl⟩

theorem runInvariants (operations : List Operation) : RunInvariants operations where
  refused := along_of_forall step_refused {} operations
  sequenced := along_of_forall step_sequenced {} operations
  exclusive := by
    apply throughout_of_preserved step_exclusive
    intro left right source carried
    cases carried
  monotone := by
    apply along_of_forall
    intro self operation index
    rcases self.step_generation operation index with ⟨_, same⟩ | greater
    · exact UInt64.le_of_eq same.symm
    · exact UInt64.le_of_lt greater
  advancing := by
    apply along_of_forall
    intro self operation index moved
    rcases self.step_generation operation index with ⟨same, _⟩ | greater
    · exact absurd same moved
    · exact greater

end VirtualXInputContext

end HydraSeat.GateC
