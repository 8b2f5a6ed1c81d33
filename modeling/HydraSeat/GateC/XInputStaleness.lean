import HydraSeat.GateC.XInputLaw

/-!
# Stale generations of a controller source

A slot remembers the generation of its source for as long as it stays mapped
to it.  A ledger adds everything that a run has accepted, so that one can say
what a slot has forgotten: mapping a source that no slot carries is the only
way past the memory.
-/

namespace HydraSeat.GateC

open Foundation List

structure SourceGeneration where
  source : ControllerSourceIdentity
  generation : UInt64
  deriving DecidableEq

namespace VirtualXInputContext

open VirtualXInputSlot

variable {slot : VirtualXInputSlot} {first second : ControllerSourceIdentity} {generation : UInt64}
  {allowed : Bool} {source : ControllerSourceIdentity}
  {accepted disconnected : List SourceGeneration} {ledger : Ledger} {index : SlotIndex}
  {operation : Operation}

/-- The context with the states it has accepted and the disconnections it
has seen. -/
structure Ledger where
  context : VirtualXInputContext := {}
  (accepted disconnected : List SourceGeneration := [])

def Operation.reported? : Operation → Option SourceGeneration
  | .applySourceState _ source generation _ => some ⟨source, generation⟩
  | .applySourceSnapshot _ source generation _ _ _ => some ⟨source, generation⟩
  | _ => none

def Operation.updated? : Operation → Option SourceGeneration
  | .applySourceState _ source generation _ => some ⟨source, generation⟩
  | .applySourceSnapshot _ source generation _ _ _ => some ⟨source, generation⟩
  | .applySourceCapabilities _ source generation _ => some ⟨source, generation⟩
  | .applySourceBattery _ source generation _ => some ⟨source, generation⟩
  | _ => none

/-- The source that the operation reports or maps. -/
def Operation.asserted? : Operation → Option SourceGeneration
  | .mapLogicalSlot _ _ source generation => some ⟨source, generation⟩
  | .applySourceState _ source generation _ => some ⟨source, generation⟩
  | .applySourceSnapshot _ source generation _ _ _ => some ⟨source, generation⟩
  | _ => none

def Operation.dropped? : Operation → Option SourceGeneration
  | .disconnectSource _ source generation => some ⟨source, generation⟩
  | _ => none

def ledgerStep (ledger : Ledger) (operation : Operation) : Ledger :=
  let (result, context) := ledger.context.perform operation
  if result = .success then
    { context
      accepted := operation.reported?.toList ++ ledger.accepted
      disconnected := operation.dropped?.toList ++ ledger.disconnected }
  else
    { ledger with context }

/-- An accepted operation names a generation above every disconnected one of
its source and no older than every accepted one. -/
structure NeverStale (ledger : Ledger) (operation : Operation) : Prop where
  connection :
    (ledger.context.perform operation).1 = .success →
      ∀ offered, operation.updated? = some offered →
        ∀ gone ∈ ledger.disconnected,
          sameControllerSourceIdentity gone.source offered.source = true →
            gone.generation < offered.generation
  state :
    (ledger.context.perform operation).1 = .success →
      ∀ offered, operation.asserted? = some offered →
        ∀ known ∈ ledger.accepted,
          sameControllerSourceIdentity known.source offered.source = true →
            known.generation ≤ offered.generation

/-- A mapping that passes every check, of a source that no slot carries, at
a generation older than an accepted state or not above a disconnection. -/
structure RevivesStale (ledger : Ledger) (sequence : UInt64) (logicalSlot : UInt8)
    (source : ControllerSourceIdentity) (generation : UInt64) : Prop where
  slot :
    ∃ index, slotIndex? logicalSlot = some index ∧
      (ledger.context.slots index).mapping.mappingGeneration ≠ maximumGeneration
  valid : validControllerSourceIdentity source = true ∧ generation ≠ 0
  sequenced : ledger.context.sequenceAccepted sequence = true
  forgotten : ∀ index, (ledger.context.slots index).carries source = false
  stale :
    (∃ known ∈ ledger.accepted,
        sameControllerSourceIdentity known.source source = true ∧ generation < known.generation) ∨
      ∃ gone ∈ ledger.disconnected,
        sameControllerSourceIdentity gone.source source = true ∧ generation ≤ gone.generation

/-- The operation does not map a forgotten source at a stale generation. -/
def KeepsGenerations (ledger : Ledger) (operation : Operation) : Prop :=
  ∀ sequence logicalSlot source generation,
    operation = .mapLogicalSlot sequence logicalSlot source generation →
      ¬ RevivesStale ledger sequence logicalSlot source generation

/-- The slot is no older than the accepted states and the disconnections of
the source that it carries. -/
structure Remembers (slot : VirtualXInputSlot)
    (accepted disconnected : List SourceGeneration) : Prop where
  known :
    ∀ entry ∈ accepted, slot.carries entry.source = true →
      entry.generation ≤ slot.mapping.sourceGeneration
  gone :
    ∀ entry ∈ disconnected, slot.carries entry.source = true →
      entry.generation < slot.mapping.sourceGeneration ∨
        (entry.generation = slot.mapping.sourceGeneration ∧ slot.requiresNewGeneration = true)

/-- A generation is newer than what is known about a source. -/
structure NewerThan (accepted disconnected : List SourceGeneration)
    (source : ControllerSourceIdentity) (generation : UInt64) : Prop where
  known :
    ∀ entry ∈ accepted,
      sameControllerSourceIdentity entry.source source = true → entry.generation ≤ generation
  gone :
    ∀ entry ∈ disconnected,
      sameControllerSourceIdentity entry.source source = true → entry.generation < generation

theorem same_of_carries (onFirst : slot.carries first = true)
    (onSecond : slot.carries second = true) :
    sameControllerSourceIdentity first second = true := by
  obtain ⟨_, firstKind, firstKey⟩ := (carries_iff _ _).mp onFirst
  obtain ⟨_, secondKind, secondKey⟩ := (carries_iff _ _).mp onSecond
  rw [sameControllerSourceIdentity_iff]
  exact ⟨firstKind.symm.trans secondKind, firstKey.symm.trans secondKey⟩

theorem carries_of_same (same : sameControllerSourceIdentity first second = true)
    (onSecond : slot.carries second = true) :
    slot.carries first = true := by
  obtain ⟨kind, key⟩ := (sameControllerSourceIdentity_iff _ _).mp same
  obtain ⟨mapped, secondKind, secondKey⟩ := (carries_iff _ _).mp onSecond
  rw [carries_iff]
  exact ⟨mapped, secondKind.trans kind.symm, secondKey.trans key.symm⟩

theorem validateGeneration_eq_success
    (fresh : slot.validateGeneration generation allowed = .success) :
    slot.mapping.sourceGeneration ≤ generation ∧
      (generation = slot.mapping.sourceGeneration → slot.requiresNewGeneration = false) ∧
      (allowed = false → generation = slot.mapping.sourceGeneration) := by
  unfold validateGeneration at fresh
  split at fresh
  · cases fresh
  obtain ⟨current, fresh⟩ := not_taken fresh nofun
  obtain ⟨permitted, fresh⟩ := not_taken fresh nofun
  simp only [Bool.or_eq_true, decide_eq_true_eq, Bool.and_eq_true,
    beq_iff_eq, not_or, not_and, Bool.not_eq_true, UInt64.not_lt]
    at current
  refine ⟨current.1, current.2, ?_⟩
  intro refused
  simpa [refused] using permitted

theorem Remembers.newer (remembers : Remembers slot accepted disconnected)
    (carried : slot.carries source = true)
    (fresh : slot.validateGeneration generation allowed = .success) :
    NewerThan accepted disconnected source generation := by
  obtain ⟨least, current, _⟩ := validateGeneration_eq_success fresh
  constructor
  · intro entry member same
    exact UInt64.le_trans (remembers.known entry member (carries_of_same same carried)) least
  intro entry member same
  rcases remembers.gone entry member (carries_of_same same carried) with
    older | ⟨equal, required⟩
  · exact UInt64.lt_of_lt_of_le older least
  have different : generation ≠ slot.mapping.sourceGeneration := by
    intro again
    rw [current again] at required
    cases required
  rw [equal]
  exact UInt64.lt_of_le_of_ne least different.symm

/-- A slot with a newer generation remembers everything about its source. -/
theorem NewerThan.remembers
    (newer : NewerThan accepted disconnected source slot.mapping.sourceGeneration)
    (carried : slot.carries source = true) :
    Remembers slot accepted disconnected := by
  constructor
  · intro entry member onEntry
    exact newer.known entry member (same_of_carries onEntry carried)
  · intro entry member onEntry
    apply Or.inl
    exact newer.gone entry member (same_of_carries onEntry carried)

/-- A slot that carries the same sources at the same generation remembers
the same. -/
theorem Remembers.of_same {updated : VirtualXInputSlot}
    (remembers : Remembers slot accepted disconnected)
    (mapped : updated.mapped = slot.mapped)
    (mapping : updated.mapping = slot.mapping)
    (required : slot.requiresNewGeneration = true → updated.requiresNewGeneration = true) :
    Remembers updated accepted disconnected := by
  have carried (source : ControllerSourceIdentity) :
      updated.carries source = slot.carries source := by
    unfold carries
    rw [mapped, mapping]
  constructor
  · intro entry member onEntry
    rw [carried] at onEntry
    rw [mapping]
    exact remembers.known entry member onEntry
  intro entry member onEntry
  rw [carried] at onEntry
  rw [mapping]
  rcases remembers.gone entry member onEntry with older | ⟨equal, held⟩
  · exact Or.inl older
  · exact Or.inr ⟨equal, required held⟩

theorem NewerThan.insert (newer : NewerThan accepted disconnected source generation) :
    NewerThan (⟨source, generation⟩ :: accepted) disconnected source generation := by
  constructor
  · intro entry member same
    rcases mem_cons.mp member with rfl | earlier
    · exact UInt64.le_refl _
    · exact newer.known entry earlier same
  · exact newer.gone

theorem Remembers.extend (remembers : Remembers slot accepted disconnected)
    {reported dropped : Option SourceGeneration}
    (silent :
      ∀ entry, reported = some entry ∨ dropped = some entry → slot.carries entry.source = false) :
    Remembers slot (reported.toList ++ accepted) (dropped.toList ++ disconnected) := by
  constructor
  · intro entry member onEntry
    rcases mem_append.mp member with new | earlier
    · rw [silent entry (Or.inl (Option.mem_toList.mp new))] at onEntry
      cases onEntry
    · exact remembers.known entry earlier onEntry
  · intro entry member onEntry
    rcases mem_append.mp member with new | earlier
    · rw [silent entry (Or.inr (Option.mem_toList.mp new))] at onEntry
      cases onEntry
    · exact remembers.gone entry earlier onEntry

theorem Remembers.withoutConnection (remembers : Remembers slot accepted disconnected)
    (fresh : slot.validateGeneration generation false = .success) :
    Remembers slot.withoutConnection accepted (⟨source, generation⟩ :: disconnected) := by
  have same := (validateGeneration_eq_success fresh).2.2 rfl
  have kept : Remembers slot.withoutConnection accepted disconnected :=
    remembers.of_same rfl rfl (fun _ => rfl)
  constructor
  · exact kept.known
  · intro entry member onEntry
    rcases mem_cons.mp member with rfl | earlier
    · exact Or.inr ⟨same, rfl⟩
    · exact kept.gone entry earlier onEntry

structure LedgerInvariant (ledger : Ledger) : Prop where
  exclusive : ledger.context.Exclusive
  remembers : ∀ index, Remembers (ledger.context.slots index) ledger.accepted ledger.disconnected

theorem ledgerStep_cases (ledger : Ledger) (operation : Operation) :
    ((ledger.context.perform operation).1 ≠ .success ∧ ledgerStep ledger operation = ledger) ∨
      ∃ index slot,
        Change ledger.context operation index slot ∧
          (ledger.context.perform operation).1 = .success ∧
          ledgerStep ledger operation =
            { context :=
                ledger.context.commit index slot operation.sequence
              accepted := operation.reported?.toList ++ ledger.accepted
              disconnected := operation.dropped?.toList ++ ledger.disconnected } := by
  rcases ledger.context.step_cases operation with
    ⟨refused, same⟩ | ⟨succeeded, _, index, slot, change, stored⟩
  · apply Or.inl
    refine ⟨refused, ?_⟩
    unfold step at same
    unfold ledgerStep
    dsimp only
    rw [if_neg refused, same]
  · apply Or.inr
    refine ⟨index, slot, change, succeeded, ?_⟩
    unfold step at stored
    unfold ledgerStep
    dsimp only
    rw [if_pos succeeded, stored]

/-- A mapping that the code accepts of a source that no slot carries is
newer than what is known, unless it revives a stale generation. -/
theorem KeepsGenerations.newer {sequence : UInt64} {logicalSlot : UInt8}
    (keeps : KeepsGenerations ledger (.mapLogicalSlot sequence logicalSlot source generation))
    (maps : ledger.context.Maps sequence logicalSlot source generation index)
    (forgotten : ∀ other, (ledger.context.slots other).carries source = false) :
    NewerThan ledger.accepted ledger.disconnected source generation := by
  have safe := keeps sequence logicalSlot source generation rfl
  have slot :
      ∃ index, slotIndex? logicalSlot = some index ∧
        (ledger.context.slots index).mapping.mappingGeneration ≠ maximumGeneration :=
    ⟨index, maps.named, maps.room⟩
  constructor
  · intro entry member same
    rw [← UInt64.not_lt]
    intro older
    exact safe ⟨slot, maps.valid, maps.sequenced, forgotten, Or.inl ⟨entry, member, same, older⟩⟩
  · intro entry member same
    rw [← UInt64.not_le]
    intro notAbove
    exact safe ⟨slot, maps.valid, maps.sequenced, forgotten, Or.inr ⟨entry, member, same, notAbove⟩⟩

theorem Change.newer (change : Change ledger.context operation index slot)
    (invariant : LedgerInvariant ledger)
    (keeps : KeepsGenerations ledger operation)
    {offered : SourceGeneration}
    (offers : operation.updated? = some offered ∨ operation.asserted? = some offered) :
    NewerThan ledger.accepted ledger.disconnected offered.source offered.generation := by
  have remembered := invariant.remembers index
  cases change with
  | kept _ carried fresh =>
    have same := offers.resolve_left nofun
    cases same
    exact remembered.newer carried fresh
  | @mapped _ _ _ source _ maps =>
    have same := offers.resolve_left nofun
    cases same
    cases carried : (ledger.context.slots index).carries source with
    | true => exact remembered.newer carried (maps.fresh carried)
    | false =>
      apply keeps.newer maps
      intro other
      by_cases changed : other = index
      · rw [changed]
        exact carried
      · exact maps.alone other changed
  | unmapped =>
    rcases offers with impossible | impossible
    · cases impossible
    · cases impossible
  | state _ carried fresh | snapshot _ carried fresh =>
    rcases offers with same | same
    · cases same
      exact remembered.newer carried fresh
    · cases same
      exact remembered.newer carried fresh
  | capabilities _ carried fresh | battery _ carried fresh =>
    have same := offers.resolve_right nofun
    cases same
    exact remembered.newer carried fresh
  | disconnected | vibrated =>
    rcases offers with impossible | impossible
    · cases impossible
    · cases impossible

theorem Change.remembers (change : Change ledger.context operation index slot)
    (remembered : Remembers (ledger.context.slots index) ledger.accepted ledger.disconnected)
    (newer :
      ∀ offered, operation.asserted? = some offered →
        NewerThan ledger.accepted ledger.disconnected offered.source offered.generation) :
    Remembers slot (operation.reported?.toList ++ ledger.accepted)
      (operation.dropped?.toList ++ ledger.disconnected) := by
  cases change with
  | kept => exact remembered
  | mapped =>
    apply (newer _ rfl).remembers
    exact (carries_iff _ _).mpr ⟨rfl, rfl, rfl⟩
  | unmapped =>
    constructor
    · intro entry _ onEntry
      cases onEntry
    · intro entry _ onEntry
      cases onEntry
  | state _ carried =>
    have offered := (newer _ rfl).insert
    apply NewerThan.remembers
    · rw [withState_mapping]
      exact offered
    · rw [carries_iff, withState_mapped, withState_mapping]
      exact (carries_iff _ _).mp carried
  | snapshot _ carried =>
    have offered := (newer _ rfl).insert
    apply NewerThan.remembers
    · rw [withSnapshot_mapping]
      exact offered
    · rw [carries_iff, withSnapshot_mapped, withSnapshot_mapping]
      exact ⟨((carries_iff _ _).mp carried).1, rfl, rfl⟩
  | capabilities | battery => exact remembered.of_same rfl rfl id
  | disconnected _ _ fresh _ => exact remembered.withoutConnection fresh
  | vibrated => exact remembered.of_same rfl rfl id

/-- A source that an accepted operation reports or disconnects is carried by
the slot that it changes. -/
theorem Change.concerns {self : VirtualXInputContext} (change : Change self operation index slot)
    {entry : SourceGeneration}
    (named : operation.reported? = some entry ∨ operation.dropped? = some entry) :
    (self.slots index).carries entry.source = true := by
  cases change with
  | state _ carried | snapshot _ carried =>
    have same := named.resolve_right nofun
    cases same
    exact carried
  | disconnected _ carried =>
    have same := named.resolve_left nofun
    cases same
    exact carried
  | _ =>
    rcases named with impossible | impossible
    · cases impossible
    · cases impossible

theorem Ledger.step_lawful (ledger : Ledger) (operation : Operation)
    (invariant : LedgerInvariant ledger)
    (keeps : KeepsGenerations ledger operation) :
    NeverStale ledger operation ∧ LedgerInvariant (ledgerStep ledger operation) := by
  rcases ledgerStep_cases ledger operation with
    ⟨refused, same⟩ | ⟨index, slot, change, succeeded, stored⟩
  · refine ⟨⟨?_, ?_⟩, ?_⟩
    · intro succeeded
      exact absurd succeeded refused
    · intro succeeded
      exact absurd succeeded refused
    · rw [same]
      exact invariant
  · have newer {offered : SourceGeneration}
        (offers : operation.updated? = some offered ∨ operation.asserted? = some offered) :=
      change.newer invariant keeps offers
    refine ⟨⟨?_, ?_⟩, ?_⟩
    · intro _ offered updates
      exact (newer (Or.inl updates)).gone
    · intro _ offered asserts
      exact (newer (Or.inr asserts)).known
    rw [stored]
    refine ⟨invariant.exclusive.commit change _, ?_⟩
    intro tested
    by_cases changed : tested = index
    · rw [changed]
      simp only [commit, Function.update_self]
      apply change.remembers (invariant.remembers index)
      intro offered asserts
      exact newer (Or.inr asserts)
    · simp only [commit, Function.update_of_ne changed]
      apply (invariant.remembers tested).extend
      intro entry named
      rw [Bool.eq_false_iff]
      intro elsewhere
      exact changed (invariant.exclusive tested index entry.source
        elsewhere (change.concerns named))

theorem initial_ledgerInvariant : LedgerInvariant {} where
  exclusive := by
    intro left right source carried
    cases carried
  remembers := by
    intro index
    constructor
    · intro entry member
      cases member
    · intro entry member
      cases member

/-- In a run that maps no forgotten source at a stale generation, no stale
generation is accepted. -/
theorem along_neverStale (operations : List Operation)
    (keeps : Along ledgerStep KeepsGenerations {} operations) :
    Along ledgerStep NeverStale {} operations := by
  refine along_of_along ?_ ?_ initial_ledgerInvariant keeps
  · intro ledger operation invariant kept
    exact (ledger.step_lawful operation invariant kept).1
  · intro ledger operation invariant kept
    exact (ledger.step_lawful operation invariant kept).2

section Forgotten

def storedController : ControllerSourceIdentity where
  sourceKey := 7

/-- A controller is disconnected at generation five, unmapped and mapped
again at generation four. -/
def forgottenGeneration : List Operation :=
  [.mapLogicalSlot 1 0 storedController 5, .applySourceState 2 storedController 5 {},
    .disconnectSource 3 storedController 5,
    .unmapLogicalSlot 4 0,
    .mapLogicalSlot 5 0 storedController 4,
    .applySourceState 6 storedController 4 {}]

theorem stale_generation_accepted :
    ¬ ∀ operations : List Operation, Along ledgerStep NeverStale {} operations := by
  intro always
  obtain ⟨_, _, _, _, _, last, _⟩ := always forgottenGeneration
  have older := last.connection (by decide) ⟨storedController, 4⟩ rfl ⟨storedController, 5⟩
    (by decide) (by decide)
  exact absurd older (by decide)

/-- A controller that comes back with a newer generation in another slot. -/
def renewedGeneration : List Operation :=
  [.mapLogicalSlot 1 0 storedController 5, .applySourceState 2 storedController 5 {},
    .disconnectSource 3 storedController 5,
    .unmapLogicalSlot 4 0,
    .mapLogicalSlot 5 1 storedController 6,
    .applySourceState 6 storedController 6 {}]

theorem renewedGeneration_neverStale : Along ledgerStep NeverStale {} renewedGeneration := by
  apply along_neverStale
  refine ⟨?_, nofun, nofun, nofun, ?_, nofun, trivial⟩
  · intro sequence logicalSlot source generation same revives
    rcases revives.stale with ⟨_, member, _⟩ | ⟨_, member, _⟩
    · cases member
    · cases member
  intro sequence logicalSlot source generation same revives
  cases same
  rcases revives.stale with
    ⟨known, member, _, older⟩ | ⟨gone, member, _, notAbove⟩
  · rw [mem_singleton.mp member] at older
    exact absurd older (by decide)
  · rw [mem_singleton.mp member] at notAbove
    exact absurd notAbove (by decide)

end Forgotten

end VirtualXInputContext

end HydraSeat.GateC
