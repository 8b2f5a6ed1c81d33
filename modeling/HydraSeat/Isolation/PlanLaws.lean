import HydraSeat.Isolation.InputIsolation

/-!
# What the planner selects

Every selected backend is acceptable, no capability is assigned twice, and
what is missing is what no acceptable backend offers.  Only the set of the
backends counts, not the order in which they are registered.
-/

namespace HydraSeat.Isolation

open List

/-! ## Sets of capabilities -/

section Sets

variable {left right : CapabilitySet} {capability : Capability}
variable {value : CapabilitySet}

def Has (value : CapabilitySet) (capability : Capability) : Prop :=
  value.getLsbD capability.bit = true

instance (value : CapabilitySet) (capability : Capability) : Decidable (Has value capability) :=
  inferInstanceAs (Decidable (_ = true))

theorem bit_lt (capability : Capability) : capability.bit < 30 := by
  cases capability <;> decide

theorem exists_bit {index : Nat} (declared : index < 30) :
    ∃ capability : Capability, capability.bit = index := by
  revert index
  have all : ∀ index < 30, ∃ capability ∈ kCapabilities, capability.bit = index := by
    decide
  intro index declared
  obtain ⟨capability, _, isBit⟩ := all index declared
  exact ⟨capability, isBit⟩

theorem allInputIsolationCapabilities_getLsbD (index : Nat) :
    allInputIsolationCapabilities.getLsbD index = decide (index < 30) := by
  by_cases inside : index < 64
  · have all : ∀ index < 64, allInputIsolationCapabilities.getLsbD index = decide (index < 30) := by
      decide
    exact all index inside
  · rw [BitVec.getLsbD_of_ge _ _ (Nat.not_lt.mp inside)]
    exact (decide_eq_false (by omega)).symm

theorem has_or : Has (left ||| right) capability ↔ Has left capability ∨ Has right capability := by
  unfold Has
  rw [BitVec.getLsbD_or, Bool.or_eq_true]

theorem has_and : Has (left &&& right) capability ↔ Has left capability ∧ Has right capability := by
  unfold Has
  rw [BitVec.getLsbD_and, Bool.and_eq_true]

theorem not_has_zero : ¬ Has 0 capability := by
  unfold Has
  rw [show (0 : CapabilitySet) = 0#64 from rfl, BitVec.getLsbD_zero]
  exact Bool.false_ne_true

theorem difference_getLsbD (index : Nat) :
    (capabilityDifference left right).getLsbD index =
      (left.getLsbD index && (decide (index < 30) && !right.getLsbD index)) := by
  unfold capabilityDifference complement
  rw [BitVec.getLsbD_and, BitVec.getLsbD_and, BitVec.getLsbD_not,
    allInputIsolationCapabilities_getLsbD]
  by_cases declared : index < 30
  · have inside : index < 64 := Nat.lt_trans declared (by decide)
    rw [decide_eq_true declared, decide_eq_true inside, Bool.true_and]
  · rw [decide_eq_false declared, Bool.false_and, Bool.false_and]

theorem has_difference : Has (capabilityDifference left right) capability ↔
    Has left capability ∧ ¬ Has right capability := by
  unfold Has
  rw [difference_getLsbD, decide_eq_true (bit_lt capability), Bool.true_and,
    Bool.and_eq_true, Bool.not_eq_true', Bool.not_eq_true]

/-- A set without undeclared bits is empty if it has no capability. -/
theorem eq_zero_of_declared (declared : ∀ index, value.getLsbD index = true → index < 30)
    (none : ∀ capability, ¬ Has value capability) : value = 0 := by
  refine BitVec.eq_of_getLsbD_eq fun index _ => ?_
  rw [show (0 : CapabilitySet) = 0#64 from rfl, BitVec.getLsbD_zero]
  refine Bool.eq_false_iff.mpr fun isSet => ?_
  obtain ⟨capability, rfl⟩ := exists_bit (declared index isSet)
  exact none capability isSet

theorem ne_zero_of_has (has : Has left capability) : left ≠ 0 := by
  rintro rfl
  exact not_has_zero has

theorem offers_difference {offered : CapabilitySet} :
    hasNoCapabilities (offered &&& capabilityDifference left right) = false ↔
      ∃ capability, Has offered capability ∧ Has left capability ∧ ¬ Has right capability := by
  unfold hasNoCapabilities
  rw [beq_eq_false_iff_ne]
  constructor
  · intro some
    by_contra none
    refine some (eq_zero_of_declared ?_ ?_)
    · intro index isSet
      rw [BitVec.getLsbD_and, difference_getLsbD] at isSet
      simp only [Bool.and_eq_true, decide_eq_true_eq] at isSet
      exact isSet.2.2.1
    · intro capability has
      obtain ⟨first, second⟩ := has_and.mp has
      exact none ⟨capability, first, has_difference.mp second⟩
  · rintro ⟨capability, offers, wanted⟩
    exact ne_zero_of_has (has_and.mpr ⟨offers, has_difference.mpr wanted⟩)

theorem hasAnyCapability_all :
    hasAnyCapability value allInputIsolationCapabilities = true ↔
      ∃ capability, Has value capability := by
  unfold hasAnyCapability
  rw [bne_iff_ne]
  constructor
  · intro some
    by_contra none
    refine some (eq_zero_of_declared ?_ ?_)
    · intro index isSet
      rw [BitVec.getLsbD_and, allInputIsolationCapabilities_getLsbD,
        Bool.and_eq_true, decide_eq_true_eq] at isSet
      exact isSet.2
    · intro capability has
      exact none ⟨capability, (has_and.mp has).1⟩
  · rintro ⟨capability, has⟩
    refine ne_zero_of_has (has_and.mpr ⟨has, ?_⟩)
    unfold Has
    rw [allInputIsolationCapabilities_getLsbD]
    exact decide_eq_true (bit_lt capability)

theorem hasAnyCapability_of_has (first : Has left capability) (second : Has right capability) :
    hasAnyCapability left right = true := by
  unfold hasAnyCapability
  rw [bne_iff_ne]
  exact ne_zero_of_has (has_and.mpr ⟨first, second⟩)

end Sets

/-! ## Selection -/

section Selecting

variable {profile : GameCompatibilityProfile} {candidates : List BackendDescriptor}
  {requested wanted : CapabilitySet} {optional : Bool}
  {selection : Selection} {best : BackendDescriptor}
variable {capability : Capability} {uncovered : CapabilitySet}

/-- A backend is selected with the capabilities that it is assigned. -/
def PickedFor (requested : CapabilitySet) (backend : BackendDescriptor)
    (step : PlannedBackendStep) : Prop :=
  ∃ assigned, step = plannedStep backend assigned ∧
    ∀ capability, Has assigned capability →
      Has backend.capabilities capability ∧ Has requested capability

/-- What holds of a selection between two rounds. -/
structure Selection.Sound (candidates : List BackendDescriptor) (requested : CapabilitySet)
    (selection : Selection) : Prop where
  picked :
    ∀ step ∈ selection.selectedBackends, ∃ backend ∈ candidates, PickedFor requested backend step
  ids : ∀ id, id ∈ selection.selectedIds ↔ ∃ step ∈ selection.selectedBackends, step.backendId = id
  disjoint :
    selection.selectedBackends.Pairwise fun first second =>
      ∀ capability, Has first.assignedCapabilities capability →
        ¬ Has second.assignedCapabilities capability
  covered :
    ∀ capability, Has selection.coveredCapabilities capability ↔
      ∃ step ∈ selection.selectedBackends, Has step.assignedCapabilities capability
  offered :
    ∀ backend ∈ candidates, backend.id ∈ selection.selectedIds →
      ∀ capability, Has backend.capabilities capability →
        Has requested capability → Has selection.coveredCapabilities capability
  injection :
    selection.selectedInjectionBackend = selection.selectedBackends.any (·.requiresProcessInjection)

/-- Backends of one id are one backend. -/
def Distinct (candidates : List BackendDescriptor) : Prop :=
  ∀ first ∈ candidates, ∀ second ∈ candidates, first.id = second.id → first = second

theorem Selection.Sound.empty : Selection.Sound candidates requested {} where
  picked := nofun
  ids := by
    intro id
    constructor
    · intro member
      cases member
    · rintro ⟨step, member, _⟩
      cases member
  disjoint := .nil
  covered := by
    intro capability
    constructor
    · exact fun has => absurd has not_has_zero
    · rintro ⟨step, member, _⟩
      cases member
  offered := by
    intro backend _ member
    cases member
  injection := rfl

theorem has_assigned :
    Has (best.capabilities &&& capabilityDifference requested selection.coveredCapabilities)
        capability ↔
      Has best.capabilities capability ∧ Has requested capability ∧
        ¬ Has selection.coveredCapabilities capability :=
  has_and.trans (and_congr_right' has_difference)

theorem Selection.Sound.select (sound : selection.Sound candidates requested)
    (distinct : Distinct candidates) (member : best ∈ candidates) :
    (selection.select requested best).Sound candidates requested where
  picked := by
    intro step isStep
    rcases mem_append.mp isStep with earlier | now
    · exact sound.picked step earlier
    · rw [mem_singleton.mp now]
      refine ⟨best, member, _, rfl, fun capability has => ?_⟩
      obtain ⟨offers, asked, _⟩ := has_assigned.mp has
      exact ⟨offers, asked⟩
  ids := by
    intro id
    constructor
    · intro selected
      rcases mem_cons.mp selected with rfl | earlier
      · exact ⟨_, mem_append_right _ (mem_singleton_self _), rfl⟩
      · obtain ⟨step, isStep, same⟩ := (sound.ids id).mp earlier
        exact ⟨step, mem_append_left _ isStep, same⟩
    · rintro ⟨step, isStep, rfl⟩
      rcases mem_append.mp isStep with earlier | now
      · exact mem_cons_of_mem _ ((sound.ids _).mpr ⟨step, earlier, rfl⟩)
      · rw [mem_singleton.mp now]
        exact mem_cons_self
  disjoint := by
    refine pairwise_append.mpr ⟨sound.disjoint, pairwise_singleton _ _, ?_⟩
    intro first isFirst second isSecond capability has assigned
    rw [mem_singleton.mp isSecond] at assigned
    refine (has_assigned.mp assigned).2.2 ?_
    exact (sound.covered capability).mpr ⟨first, isFirst, has⟩
  covered := by
    intro capability
    constructor
    · intro has
      rcases has_or.mp has with earlier | now
      · obtain ⟨step, isStep, assigned⟩ := (sound.covered capability).mp earlier
        exact ⟨step, mem_append_left _ isStep, assigned⟩
      by_cases before : Has selection.coveredCapabilities capability
      · obtain ⟨step, isStep, assigned⟩ := (sound.covered capability).mp before
        exact ⟨step, mem_append_left _ isStep, assigned⟩
      · obtain ⟨offers, asked⟩ := has_and.mp now
        exact ⟨_, mem_append_right _ (mem_singleton_self _),
          has_assigned.mpr ⟨offers, asked, before⟩⟩
    · rintro ⟨step, isStep, assigned⟩
      refine has_or.mpr ?_
      rcases mem_append.mp isStep with earlier | now
      · exact .inl ((sound.covered capability).mpr ⟨step, earlier, assigned⟩)
      · rw [mem_singleton.mp now] at assigned
        obtain ⟨offers, asked, _⟩ := has_assigned.mp assigned
        exact .inr (has_and.mpr ⟨offers, asked⟩)
  offered := by
    intro backend isCandidate selected capability offers asked
    refine has_or.mpr ?_
    rcases mem_cons.mp selected with same | earlier
    · rw [distinct backend isCandidate best member same] at offers
      exact .inr (has_and.mpr ⟨offers, asked⟩)
    · exact .inl (sound.offered backend isCandidate earlier capability offers asked)
  injection := by
    change (selection.selectedInjectionBackend || _) = _
    rw [sound.injection]
    exact (any_append.trans (by
      rw [any_cons, any_nil, Bool.or_false]; rfl)).symm

theorem bestCandidate_eligible
    (picked : bestCandidate profile candidates selection uncovered optional = some best) :
    best ∈ candidates ∧ eligible selection uncovered optional best = true :=
  mem_filter.mp (argmin_mem picked)

theorem bestCandidate_eq_none
    (none : bestCandidate profile candidates selection uncovered optional = none)
    {candidate : BackendDescriptor} (member : candidate ∈ candidates) :
    eligible selection uncovered optional candidate = false := by
  have empty := argmin_eq_none.mp none
  exact Bool.eq_false_iff.mpr (filter_eq_nil_iff.mp empty candidate member)

theorem selectRounds_sound (sound : selection.Sound candidates requested)
    (distinct : Distinct candidates) (rounds : Nat) :
    (selectRounds profile candidates requested wanted optional rounds
      selection).Sound candidates requested := by
  induction rounds generalizing selection with
  | zero => exact sound
  | succ rounds ih =>
    unfold selectRounds
    dsimp only
    split
    · split
      · exact sound
      next best picked => exact ih (sound.select distinct (bestCandidate_eligible picked).1)
    · exact sound

theorem selectRounds_covered (has : Has selection.coveredCapabilities capability) (rounds : Nat) :
    Has
      (selectRounds profile candidates requested wanted optional rounds
        selection).coveredCapabilities capability := by
  induction rounds generalizing selection with
  | zero => exact has
  | succ rounds ih =>
    unfold selectRounds
    dsimp only
    split
    · split
      · exact has
      · exact ih (has_or.mpr (.inl has))
    · exact has

def unselected (candidates : List BackendDescriptor) (selection : Selection) :
    List BackendDescriptor :=
  candidates.filter fun candidate => !selection.selectedIds.contains candidate.id

theorem unselected_select (member : best ∈ candidates) (fresh : best.id ∉ selection.selectedIds) :
    (unselected candidates (selection.select requested best)).length <
      (unselected candidates selection).length := by
  have shrinks :
      unselected candidates (selection.select requested best) =
        (unselected candidates selection).filter (·.id != best.id) := by
    unfold unselected
    rw [filter_filter]
    refine filter_congr fun candidate _ => ?_
    change (!(best.id :: selection.selectedIds).contains candidate.id) = _
    rw [contains_cons, Bool.not_or]
    rfl
  rw [shrinks]
  refine length_filter_lt_length_iff_exists.mpr ⟨best, ?_, ?_⟩
  · refine mem_filter.mpr ⟨member, ?_⟩
    rw [Bool.not_eq_true', contains_eq_mem]
    exact decide_eq_false fresh
  · rw [bne_self_eq_false]
    exact Bool.false_ne_true

/-- Behind the loop, everything wanted is covered that a candidate offers
which the loop does not pass over for its risk. -/
theorem selectRounds_complete (sound : selection.Sound candidates requested)
    (distinct : Distinct candidates) {rounds : Nat}
    (enough : (unselected candidates selection).length ≤ rounds)
    {backend : BackendDescriptor} (member : backend ∈ candidates)
    (lowRisk : optional = true → backend.risk = .low) (offers : Has backend.capabilities capability)
    (asked : Has requested capability) (wants : Has wanted capability) :
    Has
      (selectRounds profile candidates requested wanted optional rounds
        selection).coveredCapabilities capability := by
  induction rounds generalizing selection with
  | zero =>
    by_contra uncovered
    have fresh : backend.id ∉ selection.selectedIds := fun selected =>
      uncovered (sound.offered backend member selected capability offers asked)
    have isUnselected : backend ∈ unselected candidates selection := by
      refine mem_filter.mpr ⟨member, ?_⟩
      rw [Bool.not_eq_true', contains_eq_mem]
      exact decide_eq_false fresh
    exact absurd (length_pos_of_mem isUnselected) (by omega)
  | succ rounds ih =>
    unfold selectRounds
    dsimp only
    split
    next some =>
      split
      next none =>
        by_contra uncovered
        have passed := bestCandidate_eq_none none member
        have fresh : backend.id ∉ selection.selectedIds := fun selected =>
          uncovered (sound.offered backend member selected capability offers asked)
        have contributes := offers_difference.mpr ⟨capability, offers, wants, uncovered⟩
        have eligibleBackend :
            eligible selection (capabilityDifference wanted selection.coveredCapabilities)
                optional backend =
              true := by
          unfold eligible
          rw [contributes, contains_eq_mem, decide_eq_false fresh]
          cases optional with
          | false => rfl
          | true =>
            rw [lowRisk rfl]
            rfl
        rw [eligibleBackend] at passed
        cases passed
      next best picked =>
        obtain ⟨isCandidate, isEligible⟩ := bestCandidate_eligible picked
        refine ih (sound.select distinct isCandidate) ?_
        have fresh : best.id ∉ selection.selectedIds := by
          intro selected
          unfold eligible at isEligible
          rw [contains_eq_mem, decide_eq_true selected] at isEligible
          cases isEligible
        have fewer :
            (unselected candidates (selection.select requested best)).length <
              (unselected candidates selection).length :=
          unselected_select isCandidate fresh
        omega
    next nothing =>
      by_contra uncovered
      exact nothing (hasAnyCapability_all.mpr ⟨capability, has_difference.mpr ⟨wants, uncovered⟩⟩)

end Selecting

/-! ## Plans -/

namespace IsolationPlanner

section Plans

variable {self : IsolationPlanner} {profile : GameCompatibilityProfile}
  {environment : BackendEnvironment} {capability : Capability}
variable {backend : BackendDescriptor}

theorem registered_distinct {backends : List BackendDescriptor} (registered : Registered backends) :
    Distinct backends := by
  induction registered with
  | nil =>
    intro first member
    cases member
  | @cons head rest before _ ih =>
    intro first isFirst second isSecond same
    rcases mem_cons.mp isFirst with rfl | laterFirst
    · rcases mem_cons.mp isSecond with rfl | laterSecond
      · rfl
      · have less := before second laterSecond
        rw [same] at less
        exact absurd less (lt_irrefl _)
    · rcases mem_cons.mp isSecond with rfl | laterSecond
      · have less := before first laterFirst
        rw [same] at less
        exact absurd less (lt_irrefl _)
      · exact ih first laterFirst second laterSecond same

theorem candidates_mem :
    backend ∈ self.candidates profile environment ↔
      backend ∈ self.backends ∧ hasAnyCapability backend.capabilities (requested profile) = true ∧
        rejectBackend profile backend environment = none := by
  unfold candidates relevant
  rw [mem_filter, mem_filter, Option.isNone_iff_eq_none, and_assoc]

theorem candidates_distinct : Distinct (self.candidates profile environment) :=
  fun first isFirst second isSecond =>
    registered_distinct self.registered first (candidates_mem.mp isFirst).1
      second (candidates_mem.mp isSecond).1

/-- The backends that are selected for what is required. -/
def requiredSelection (self : IsolationPlanner) (profile : GameCompatibilityProfile)
    (environment : BackendEnvironment) : Selection :=
  selectFor profile (self.candidates profile environment)
    (requested profile) (effectiveRequired profile) false {}

theorem requiredSelection_sound :
    (self.requiredSelection profile environment).Sound
      (self.candidates profile environment) (requested profile) :=
  selectRounds_sound .empty candidates_distinct _

theorem selection_sound :
    (self.selection profile environment).Sound
      (self.candidates profile environment) (requested profile) :=
  selectRounds_sound requiredSelection_sound candidates_distinct _

theorem has_requested :
    Has (requested profile) capability ↔
      Has (effectiveRequired profile) capability ∨ Has profile.optionalCapabilities capability :=
  has_or

/-- Whatever is required is covered if an acceptable backend offers it. -/
theorem required_covered (member : backend ∈ self.backends)
    (acceptable : rejectBackend profile backend environment = none)
    (offers : Has backend.capabilities capability)
    (wants : Has (effectiveRequired profile) capability) :
    Has (self.selection profile environment).coveredCapabilities capability := by
  have asked : Has (requested profile) capability := has_requested.mpr (.inl wants)
  have candidate : backend ∈ self.candidates profile environment := candidates_mem.mpr
    ⟨member, hasAnyCapability_of_has offers asked, acceptable⟩
  refine selectRounds_covered ?_ _
  exact selectRounds_complete .empty candidates_distinct (length_filter_le _ _) candidate
    (fun impossible => absurd impossible Bool.false_ne_true) offers asked
    wants

theorem covered_offered
    (covered : Has (self.selection profile environment).coveredCapabilities capability) :
    ∃ backend ∈ self.candidates profile environment,
      (∃ step ∈ (self.selection profile environment).selectedBackends,
        PickedFor (requested profile) backend step) ∧
      Has backend.capabilities capability := by
  obtain ⟨step, isStep, assigned⟩ := (selection_sound.covered capability).mp covered
  obtain ⟨backend, candidate, picked⟩ := selection_sound.picked step isStep
  obtain ⟨set, rfl, offers⟩ := id picked
  exact ⟨backend, candidate, ⟨_, isStep, picked⟩, (offers _ assigned).1⟩

theorem has_missing :
    Has (self.plan profile environment).missingCapabilities capability ↔
      Has (effectiveRequired profile) capability ∧
        ¬ Has (self.selection profile environment).coveredCapabilities capability :=
  has_difference

/-- What is missing is what is required and no acceptable backend offers. -/
theorem has_missing_iff :
    Has (self.plan profile environment).missingCapabilities capability ↔
      Has (effectiveRequired profile) capability ∧
        ∀ backend ∈ self.backends,
          rejectBackend profile backend environment = none →
            ¬ Has backend.capabilities capability := by
  rw [has_missing]
  refine and_congr_right fun wants => ?_
  constructor
  · intro uncovered backend member acceptable offers
    exact uncovered (required_covered member acceptable offers wants)
  · intro none covered
    obtain ⟨backend, candidate, _, offers⟩ := covered_offered covered
    obtain ⟨member, _, acceptable⟩ := candidates_mem.mp candidate
    exact none backend member acceptable offers

theorem plan_unsupported :
    (self.plan profile environment).status = .unsupported ↔
      injectionFailure profile (self.selection profile environment) = true ∨
        recoveryFailure profile environment = true ∨
        ∃ capability, Has (self.plan profile environment).missingCapabilities capability := by
  rw [← hasAnyCapability_all, ← or_assoc, ← Bool.or_eq_true, ← Bool.or_eq_true]
  change status _ _ _ _ _ = _ ↔ _
  unfold status
  constructor
  · intro unsupported
    split at unsupported
    next failed => exact failed
    next supported =>
      split at unsupported
      · cases unsupported
      · split at unsupported
        · cases unsupported
        · cases unsupported
  · intro failed
    exact if_pos failed

end Plans

variable {first second : List BackendDescriptor} {self : IsolationPlanner}
  {profile : GameCompatibilityProfile} {environment : BackendEnvironment}

/-! ## Registration -/

theorem sortBackends_perm (same : first.Perm second) :
    (sortBackends first).Perm (sortBackends second) :=
  ((perm_insertionSort _ _).trans same).trans (perm_insertionSort _ _).symm

theorem sortBackends_ids (same : first.Perm second) :
    (sortBackends first).map (·.id) = (sortBackends second).map (·.id) := by
  refine map_injective_iff.mpr orderedBytes_injective ?_
  rw [map_map, map_map]
  exact
    ((sortBackends_perm same).map _).eq_of_pairwise (fun _ _ _ _ => le_antisymm)
      (pairwise_map.mpr (sortBackends_sorted first))
      (pairwise_map.mpr (sortBackends_sorted second))

/-- Sorted backends without a duplicate are told apart by their order. -/
theorem sortBackends_eq (same : first.Perm second)
    (distinct : adjacentDuplicate (sortBackends first) = none) :
    sortBackends first = sortBackends second := by
  have registered := registered_distinct
    (registered_of_no_duplicate (sortBackends_sorted first) distinct)
  refine
    (sortBackends_perm same).eq_of_pairwise ?_ (sortBackends_sorted first)
      (sortBackends_sorted second)
  intro left right isLeft isRight before behind
  refine registered left isLeft right ?_ (orderedBytes_injective (le_antisymm before behind))
  exact (sortBackends_perm same).mem_iff.mpr isRight

theorem adjacentDuplicate_ids (same : first.map (·.id) = second.map (·.id)) :
    (adjacentDuplicate first).map (·.id) = (adjacentDuplicate second).map (·.id) := by
  induction first generalizing second with
  | nil => rw [map_eq_nil_iff.mp same.symm]
  | cons head rest ih =>
    cases second with
    | nil => cases same
    | cons otherHead otherRest =>
      obtain ⟨sameHead, sameRest⟩ := cons.inj same
      cases rest with
      | nil =>
        rw [map_eq_nil_iff.mp sameRest.symm]
        rfl
      | cons next rest =>
        cases otherRest with
        | nil => cases sameRest
        | cons otherNext otherRest =>
          have sameNext := (cons.inj sameRest).1
          unfold adjacentDuplicate
          dsimp only at sameHead sameNext
          rw [← sameHead, ← sameNext]
          split
          · exact congrArg some sameHead
          · exact ih sameRest

theorem create_perm (same : first.Perm second) : create first = create second := by
  have ids := adjacentDuplicate_ids (sortBackends_ids same)
  unfold create
  split
  next duplicate found =>
    rw [found] at ids
    split
    next other otherFound =>
      rw [otherFound] at ids
      have sameId : duplicate.id = other.id := Option.some.inj ids
      rw [sameId]
    next none =>
      rw [none] at ids
      cases ids
  next distinct =>
    rw [distinct] at ids
    split
    next other otherFound =>
      rw [otherFound] at ids
      cases ids
    next =>
      congr 2
      exact sortBackends_eq same distinct

/-! ## Soundness -/

/-- What a plan says about the backends that it is made from. -/
structure PlanSound (backends : List BackendDescriptor)
    (profile : GameCompatibilityProfile) (environment : BackendEnvironment)
    (result : IsolationPlan) : Prop where
  acceptable :
    ∀ step ∈ result.selectedBackends,
      ∃ backend ∈ backends,
        PickedFor (requested profile) backend step ∧
          rejectBackend profile backend environment = none
  disjoint :
    result.selectedBackends.Pairwise fun first second =>
      ∀ capability, Has first.assignedCapabilities capability →
        ¬ Has second.assignedCapabilities capability
  covered :
    ∀ capability, Has result.coveredCapabilities capability ↔
      ∃ step ∈ result.selectedBackends, Has step.assignedCapabilities capability
  missing :
    ∀ capability, Has result.missingCapabilities capability ↔
      Has (effectiveRequired profile) capability ∧
        ∀ backend ∈ backends,
          rejectBackend profile backend environment = none →
            (∃ step ∈ result.selectedBackends, step.backendId = backend.id) →
              ¬ Has backend.capabilities capability
  supported :
    result.status ≠ .unsupported → ∀ capability, ¬ Has result.missingCapabilities capability

theorem create_backends {backends : List BackendDescriptor} {planner : IsolationPlanner}
    (created : create backends = .ok planner) :
    planner.backends.Perm backends := by
  unfold create at created
  split at created
  · cases created
  · cases created
    exact perm_insertionSort _ _

theorem plan_sound (self : IsolationPlanner) (profile : GameCompatibilityProfile)
    (environment : BackendEnvironment) :
    PlanSound self.backends profile environment (self.plan profile environment) where
  acceptable := by
    intro step isStep
    obtain ⟨backend, candidate, picked⟩ := selection_sound.picked step isStep
    obtain ⟨member, _, acceptable⟩ := candidates_mem.mp candidate
    exact ⟨backend, member, picked, acceptable⟩
  disjoint := selection_sound.disjoint
  covered := selection_sound.covered
  missing := by
    intro capability
    constructor
    · intro missing
      obtain ⟨wants, none⟩ := has_missing_iff.mp missing
      exact ⟨wants, fun backend member acceptable _ => none backend member acceptable⟩
    rintro ⟨wants, none⟩
    refine has_missing.mpr ⟨wants, fun covered => ?_⟩
    obtain ⟨backend, candidate, ⟨step, isStep, picked⟩, offers⟩ := covered_offered covered
    obtain ⟨member, _, acceptable⟩ := candidates_mem.mp candidate
    obtain ⟨assigned, rfl, _⟩ := picked
    exact none backend member acceptable ⟨_, isStep, rfl⟩ offers
  supported := by
    intro supported capability missing
    exact supported (plan_unsupported.mpr (.inr (.inr ⟨capability, missing⟩)))

/-- A planner can be made from the backends or not, whatever their order;
its plans do not depend on the order, and they are sound. -/
theorem planner_law (backends : List BackendDescriptor) :
    (∀ other, backends.Perm other → create other = create backends) ∧
      ∀ planner, create backends = .ok planner →
        ∀ profile environment,
          PlanSound backends profile environment (planner.plan profile environment) := by
  refine ⟨fun other same => (create_perm same).symm, ?_⟩
  intro planner created profile environment
  have same := create_backends created
  have sound := planner.plan_sound profile environment
  refine ⟨fun step isStep => ?_, sound.disjoint, sound.covered,
    fun capability => (sound.missing capability).trans ?_, sound.supported⟩
  · obtain ⟨backend, member, law⟩ := sound.acceptable step isStep
    exact ⟨backend, same.mem_iff.mp member, law⟩
  · refine and_congr_right' (forall_congr' fun backend => ?_)
    rw [same.mem_iff]

/-! ## Completeness -/

/-- The acceptable backends together offer all that is required. -/
def Offered (backends : List BackendDescriptor) (profile : GameCompatibilityProfile)
    (environment : BackendEnvironment) : Prop :=
  ∀ capability, Has (effectiveRequired profile) capability →
    ∃ backend ∈ backends,
      rejectBackend profile backend environment = none ∧ Has backend.capabilities capability

theorem injectionFailure_iff :
    injectionFailure profile (self.selection profile environment) = true ↔
      profile.injectionPolicy = .required ∧
        ∀ step ∈ (self.plan profile environment).selectedBackends,
          step.requiresProcessInjection = false := by
  unfold injectionFailure
  rw [selection_sound.injection, Bool.and_eq_true, beq_iff_eq, Bool.not_eq_true', any_eq_false]
  refine and_congr_right' (forall_congr' fun step => ?_)
  exact imp_congr_right fun _ => Bool.not_eq_true _ ▸ Iff.rfl

theorem supported_iff :
    (self.plan profile environment).status ≠ .unsupported ↔
      Offered self.backends profile environment ∧ recoveryFailure profile environment = false ∧
        (profile.injectionPolicy = .required →
          ∃ step ∈ (self.plan profile environment).selectedBackends,
            step.requiresProcessInjection = true) := by
  rw [Ne, plan_unsupported, injectionFailure_iff]
  constructor
  · intro supported
    rw [not_or, not_or] at supported
    obtain ⟨injects, guarded, covered⟩ := supported
    refine ⟨fun capability wants => ?_, Bool.not_eq_true _ ▸ guarded, ?_⟩
    · by_contra none
      refine covered ⟨capability, has_missing_iff.mpr ⟨wants, ?_⟩⟩
      intro backend member acceptable offers
      exact none ⟨backend, member, acceptable, offers⟩
    · intro isRequired
      by_contra none
      refine injects ⟨isRequired, fun step isStep => ?_⟩
      exact Bool.eq_false_iff.mpr fun injecting => none ⟨step, isStep, injecting⟩
  · rintro ⟨offered, guarded, injects⟩ failed
    rcases failed with ⟨isRequired, none⟩ | unguarded | ⟨capability, missing⟩
    · obtain ⟨step, isStep, injecting⟩ := injects isRequired
      rw [none step isStep] at injecting
      cases injecting
    · rw [guarded] at unguarded
      cases unguarded
    · obtain ⟨wants, none⟩ := has_missing_iff.mp missing
      obtain ⟨backend, member, acceptable, offers⟩ := offered capability wants
      exact none backend member acceptable offers

theorem Offered.mono {backends more : List BackendDescriptor}
    (offered : Offered backends profile environment)
    (included : backends ⊆ more) : Offered more profile environment := by
  intro capability wants
  obtain ⟨backend, member, rest⟩ := offered capability wants
  exact ⟨backend, included member, rest⟩

/-- A plan is supported exactly if the acceptable backends offer all that is
required and no policy stands against it; and unless injection is required,
more backends keep it supported. -/
theorem planner_complete {backends more : List BackendDescriptor}
    {planner extended : IsolationPlanner}
    (created : create backends = .ok planner)
    (extends_ : create more = .ok extended) (included : backends ⊆ more)
    (profile : GameCompatibilityProfile)
    (environment : BackendEnvironment) :
    ((planner.plan profile environment).status ≠ .unsupported ↔
        Offered backends profile environment ∧ recoveryFailure profile environment = false ∧
          (profile.injectionPolicy = .required →
            ∃ step ∈ (planner.plan profile environment).selectedBackends,
              step.requiresProcessInjection = true)) ∧
      (profile.injectionPolicy ≠ .required →
        (planner.plan profile environment).status ≠ .unsupported →
          (extended.plan profile environment).status ≠ .unsupported) := by
  have same := create_backends created
  have sameMore := create_backends extends_
  constructor
  · refine supported_iff.trans (and_congr_left' ⟨?_, ?_⟩)
    · exact fun offered => offered.mono same.subset
    · exact fun offered => offered.mono same.symm.subset
  · intro notRequired supported
    obtain ⟨offered, guarded, _⟩ := supported_iff.mp supported
    refine supported_iff.mpr ⟨?_, guarded, fun isRequired => absurd isRequired notRequired⟩
    exact ((offered.mono same.subset).mono included).mono sameMore.symm.subset

/-! ### Two backends for one capability -/

def plainBackend : BackendDescriptor where
  id := [97]
  capabilities := Capability.windowPlacementControl.only
  availability := .available
  risk := .low

def injectingBackend : BackendDescriptor where
  id := [98]
  capabilities := Capability.windowPlacementControl.only
  availability := .available
  risk := .high
  requiresProcessInjection := true

def placementProfile : GameCompatibilityProfile where
  id := [112]
  requiredCapabilities := Capability.windowPlacementControl.only

def approved : BackendEnvironment where
  processInjectionApproved := true

def planned (backends : List BackendDescriptor) (profile : GameCompatibilityProfile)
    (environment : BackendEnvironment) : Except ByteString IsolationPlan :=
  (create backends).map fun planner => planner.plan profile environment

/-- A plan from one backend, and one from two. -/
theorem sample_planner_complete :
    ∃ planner extended,
      create [plainBackend] = .ok planner ∧ create [injectingBackend, plainBackend] = .ok extended ∧
        (((planner.plan placementProfile approved).status ≠ .unsupported ↔
            Offered [plainBackend] placementProfile approved ∧
              recoveryFailure placementProfile approved = false ∧
              (placementProfile.injectionPolicy = .required →
                ∃ step ∈ (planner.plan placementProfile approved).selectedBackends,
                  step.requiresProcessInjection = true)) ∧
          (placementProfile.injectionPolicy ≠ .required →
            (planner.plan placementProfile approved).status ≠ .unsupported →
              (extended.plan placementProfile approved).status ≠ .unsupported)) := by
  have made : (create [plainBackend]).isOk = true := by
    decide
  have madeMore : (create [injectingBackend, plainBackend]).isOk = true := by
    decide
  cases created : create [plainBackend] with
  | error text =>
    rw [created] at made
    cases made
  | ok planner =>
    cases createdMore : create [injectingBackend, plainBackend] with
    | error text =>
      rw [createdMore] at madeMore
      cases madeMore
    | ok extended =>
      exact ⟨planner, extended, rfl, rfl,
        planner_complete created createdMore (subset_cons_self _ _) placementProfile approved⟩

/-- A missing recovery guard stands against a complete set of backends, and a
cheaper backend takes the capability from the one that injects. -/
theorem guard_and_injection_refuse :
    (¬ ∀ (backends chosen : List BackendDescriptor) (profile : GameCompatibilityProfile)
        (environment : BackendEnvironment) (result : IsolationPlan),
      planned backends profile environment = .ok result → chosen ⊆ backends →
        (∀ backend ∈ chosen, rejectBackend profile backend environment = none) →
        (∀ capability ∈ kCapabilities,
          Has (effectiveRequired profile) capability →
            ∃ backend ∈ chosen, Has backend.capabilities capability) →
        (profile.injectionPolicy = .required →
          ∃ backend ∈ chosen, backend.requiresProcessInjection = true) →
        result.status ≠ .unsupported) ∧
      ¬ ∀ (backends more : List BackendDescriptor) (profile : GameCompatibilityProfile)
        (environment : BackendEnvironment) (result other : IsolationPlan),
      planned backends profile environment = .ok result →
        planned (backends ++ more) profile environment = .ok other →
        result.status ≠ .unsupported → other.status ≠ .unsupported := by
  constructor
  · intro claim
    have refused :
        (planned [plainBackend] { placementProfile with recoveryPolicy := .required }
            approved).map (·.status) =
          .ok .unsupported := by
      decide
    cases result :
        planned [plainBackend] { placementProfile with recoveryPolicy := .required } approved with
    | error text =>
      rw [result] at refused
      cases refused
    | ok made =>
      rw [result] at refused
      refine
        claim _ [plainBackend] _ _ made result (List.Subset.refl _)
          (by decide) (by decide) (by decide) ?_
      exact Except.ok.inj refused
  · intro claim
    have supported :
        (planned [injectingBackend] { placementProfile with injectionPolicy := .required }
            approved).map (·.status) =
          .ok .supportedWithWarnings := by
      decide
    have refused :
        (planned ([injectingBackend] ++ [plainBackend])
            { placementProfile with injectionPolicy := .required }
            approved).map (·.status) =
          .ok .unsupported := by
      decide
    cases result :
        planned [injectingBackend] { placementProfile with injectionPolicy := .required }
          approved with
    | error text =>
      rw [result] at supported
      cases supported
    | ok made =>
      cases other :
          planned ([injectingBackend] ++ [plainBackend])
            { placementProfile with injectionPolicy := .required }
            approved with
      | error text =>
        rw [other] at refused
        cases refused
      | ok madeMore =>
        rw [result] at supported
        rw [other] at refused
        refine claim _ _ _ _ made madeMore result other ?_ (Except.ok.inj refused)
        intro unsupported
        have isSupported : made.status = .supportedWithWarnings := Except.ok.inj supported
        rw [isSupported] at unsupported
        cases unsupported

end IsolationPlanner

end HydraSeat.Isolation
