import HydraSeat.Isolation.PlanLaws

/-!
# The status of a plan and what it assigns

The status of a plan is computed from the required capabilities, while
backends are also selected for the optional ones.  `Picked` says of a backend
that it is selected, from the ranks alone.
-/

namespace HydraSeat.Isolation

open IsolationPlanner List

section Picking

variable {profile : GameCompatibilityProfile}
  {environment : BackendEnvironment} {backends : List BackendDescriptor}
  {wanted covered : CapabilitySet} {optional : Bool}
  {best : BackendDescriptor}

/-- The backend offers something that is wanted and not covered. -/
def Contributes (wanted covered : CapabilitySet) (backend : BackendDescriptor) : Prop :=
  ∃ capability, Has backend.capabilities capability ∧
    Has wanted capability ∧ ¬ Has covered capability

structure Pickable (profile : GameCompatibilityProfile) (environment : BackendEnvironment)
    (backends : List BackendDescriptor) (wanted : CapabilitySet)
    (optional : Bool) (covered : CapabilitySet)
    (backend : BackendDescriptor) : Prop where
  registered : backend ∈ backends
  acceptable : rejectBackend profile backend environment = none
  contributes : Contributes wanted covered backend
  lowRisk : optional = true → backend.risk = .low

structure Best (profile : GameCompatibilityProfile) (environment : BackendEnvironment)
    (backends : List BackendDescriptor) (wanted : CapabilitySet)
    (optional : Bool) (covered : CapabilitySet)
    (backend : BackendDescriptor) : Prop where
  pickable : Pickable profile environment backends wanted optional covered backend
  smallest :
    ∀ other,
      Pickable profile environment backends wanted optional covered other →
        rank profile (capabilityDifference wanted covered) backend ≤
          rank profile (capabilityDifference wanted covered) other

/-- The next backend: the best one for what is required and, when there is
none, the best one of low risk for what is optional. -/
def Next (profile : GameCompatibilityProfile) (environment : BackendEnvironment)
    (backends : List BackendDescriptor) (covered : CapabilitySet)
    (backend : BackendDescriptor) : Prop :=
  Best profile environment backends (effectiveRequired profile) false covered backend ∨
    (∀ other, ¬ Pickable profile environment backends
        (effectiveRequired profile) false covered other) ∧
      Best profile environment backends profile.optionalCapabilities true covered backend

/-- The backend is picked when these capabilities are covered, or later. -/
inductive Picked (profile : GameCompatibilityProfile) (environment : BackendEnvironment)
    (backends : List BackendDescriptor) :
    CapabilitySet → BackendDescriptor → Prop
  | now {covered backend} :
      Next profile environment backends covered backend →
        Picked profile environment backends covered backend
  | later {covered first backend} :
      Next profile environment backends covered first →
        Picked profile environment backends (covered ||| (first.capabilities &&& requested profile))
          backend →
        Picked profile environment backends covered backend

theorem rank_id {uncovered : CapabilitySet} {first second : BackendDescriptor}
    (same : rank profile uncovered first = rank profile uncovered second) :
    first.id = second.id := by
  refine orderedBytes_injective ?_
  exact congrArg (fun key : Rank => (ofLex (ofLex (ofLex (ofLex (ofLex (ofLex key).2).2).2).2).2).2)
    same

theorem Best.unique {other : BackendDescriptor} (distinct : Distinct backends)
    (first : Best profile environment backends wanted optional covered best)
    (second : Best profile environment backends wanted optional covered other) :
    best = other :=
  distinct best first.pickable.registered other second.pickable.registered
    (rank_id
      (le_antisymm (first.smallest other second.pickable) (second.smallest best first.pickable)))

theorem Next.unique {other : BackendDescriptor} (distinct : Distinct backends)
    (first : Next profile environment backends covered best)
    (second : Next profile environment backends covered other) :
    best = other := by
  rcases first with first | ⟨nothing, first⟩
  · rcases second with second | ⟨nothing, _⟩
    · exact first.unique distinct second
    · exact absurd first.pickable (nothing best)
  · rcases second with second | ⟨_, second⟩
    · exact absurd second.pickable (nothing other)
    · exact first.unique distinct second

theorem picked_iff {backend : BackendDescriptor} (distinct : Distinct backends)
    (next : Next profile environment backends covered best) :
    Picked profile environment backends covered backend ↔
      backend = best ∨
        Picked profile environment backends (covered ||| (best.capabilities &&& requested profile))
          backend := by
  constructor
  · intro picked
    cases picked with
    | now isNext => exact .inl (isNext.unique distinct next)
    | later isNext rest =>
      rw [isNext.unique distinct next] at rest
      exact .inr rest
  · rintro (rfl | later)
    · exact .now next
    · exact .later next later

theorem not_picked {backend : BackendDescriptor}
    (nothing : ∀ other, ¬ Next profile environment backends covered other) :
    ¬ Picked profile environment backends covered backend := by
  intro picked
  cases picked with
  | now isNext | later isNext => exact nothing _ isNext

end Picking

namespace IsolationPlanner

section Rounds

variable {self : IsolationPlanner} {profile : GameCompatibilityProfile}
  {environment : BackendEnvironment} {wanted : CapabilitySet}
  {optional : Bool} {selection : Selection} {best : BackendDescriptor}

section

variable (sound : selection.Sound (self.candidates profile environment) (requested profile))
include sound

section

variable (asked : ∀ capability, Has wanted capability → Has (requested profile) capability)
include asked

theorem eligible_iff :
    best ∈ self.candidates profile environment ∧
        eligible selection (capabilityDifference wanted selection.coveredCapabilities)
            optional best = true ↔
      Pickable profile environment self.backends wanted optional
        selection.coveredCapabilities best := by
  unfold eligible
  rw [Bool.and_eq_true, Bool.and_eq_true, Bool.not_eq_true',
    Bool.not_eq_true', Bool.not_eq_true', Bool.and_eq_false_imp,
    bne_eq_false_iff_eq, offers_difference, contains_eq_mem,
    decide_eq_false_iff_not]
  constructor
  · rintro ⟨member, ⟨_, contributes⟩, lowRisk⟩
    obtain ⟨registered, _, acceptable⟩ := candidates_mem.mp member
    exact ⟨registered, acceptable, contributes, lowRisk⟩
  rintro ⟨registered, acceptable, contributes, lowRisk⟩
  obtain ⟨capability, offers, wants, uncovered⟩ := id contributes
  have member : best ∈ self.candidates profile environment := candidates_mem.mpr
    ⟨registered, hasAnyCapability_of_has offers (asked _ wants), acceptable⟩
  refine ⟨member, ⟨fun selected => ?_, contributes⟩, lowRisk⟩
  exact uncovered (sound.offered best member selected capability offers (asked _ wants))

theorem bestCandidate_some
    (picked :
      bestCandidate profile (self.candidates profile environment) selection
          (capabilityDifference wanted selection.coveredCapabilities)
          optional =
        some best) :
    Best profile environment self.backends wanted optional selection.coveredCapabilities best where
  pickable := (eligible_iff sound asked).mp (bestCandidate_eligible picked)
  smallest := by
    intro other pickable
    have eligibleOther := (eligible_iff sound asked).mpr pickable
    exact le_of_mem_argmin (mem_filter.mpr eligibleOther) (Option.mem_def.mpr picked)

theorem bestCandidate_none
    (nothing :
      bestCandidate profile (self.candidates profile environment) selection
          (capabilityDifference wanted selection.coveredCapabilities)
          optional =
        none)
    (other : BackendDescriptor) :
    ¬ Pickable profile environment self.backends wanted optional
      selection.coveredCapabilities other := by
  intro pickable
  obtain ⟨member, isEligible⟩ := (eligible_iff sound asked).mpr pickable
  rw [bestCandidate_eq_none nothing member] at isEligible
  cases isEligible

end

end

theorem nothing_uncovered
    (nothing :
      ¬ hasAnyCapability (capabilityDifference wanted selection.coveredCapabilities)
          allInputIsolationCapabilities = true)
    (other : BackendDescriptor) :
    ¬ Pickable profile environment self.backends wanted optional
      selection.coveredCapabilities other := by
  intro pickable
  obtain ⟨capability, _, wants, uncovered⟩ := pickable.contributes
  exact nothing (hasAnyCapability_all.mpr ⟨capability, has_difference.mpr ⟨wants, uncovered⟩⟩)

/-- One round of either loop: nothing can be picked any more and the loop
ends, or it selects the best backend and goes on. -/
theorem selectRounds_cases
    (sound : selection.Sound (self.candidates profile environment) (requested profile))
    (asked : ∀ capability, Has wanted capability → Has (requested profile) capability)
    (rounds : Nat) :
    ((∀ other, ¬ Pickable profile environment self.backends wanted optional
          selection.coveredCapabilities other) ∧
        selectRounds profile (self.candidates profile environment)
            (requested profile) wanted optional (rounds + 1) selection =
          selection) ∨
      ∃ best,
        Best profile environment self.backends wanted optional selection.coveredCapabilities best ∧
        best ∈ self.candidates profile environment ∧
        best.id ∉ selection.selectedIds ∧
        selectRounds profile (self.candidates profile environment)
            (requested profile) wanted optional (rounds + 1) selection =
          selectRounds profile (self.candidates profile environment)
            (requested profile) wanted optional rounds
            (selection.select (requested profile) best) := by
  rw [selectRounds.eq_2]
  split
  next some =>
    split
    next none => exact .inl ⟨bestCandidate_none sound asked none, rfl⟩
    next best picked =>
      have isBest := bestCandidate_some sound asked picked
      have member := (bestCandidate_eligible picked).1
      obtain ⟨capability, offers, wants, uncovered⟩ := isBest.pickable.contributes
      refine .inr ⟨best, isBest, member, fun selected => ?_, rfl⟩
      exact uncovered (sound.offered best member selected capability offers (asked _ wants))
  next nothing => exact .inl ⟨nothing_uncovered nothing, rfl⟩

theorem asked_required (capability : Capability)
    (wants : Has (effectiveRequired profile) capability) :
    Has (requested profile) capability :=
  has_requested.mpr (.inl wants)

theorem asked_optional (capability : Capability)
    (wants : Has profile.optionalCapabilities capability) :
    Has (requested profile) capability :=
  has_requested.mpr (.inr wants)

theorem pickable_unselected
    (sound : selection.Sound (self.candidates profile environment) (requested profile))
    (asked : ∀ capability, Has wanted capability → Has (requested profile) capability)
    (pickable :
      Pickable profile environment self.backends wanted optional
        selection.coveredCapabilities best) :
    0 < (unselected (self.candidates profile environment) selection).length := by
  have isCandidate := ((eligible_iff sound asked).mpr pickable).1
  obtain ⟨capability, offers, wants, uncovered⟩ := pickable.contributes
  have isUnselected : best ∈ unselected (self.candidates profile environment) selection := by
    refine mem_filter.mpr ⟨isCandidate, ?_⟩
    rw [Bool.not_eq_true', contains_eq_mem]
    refine decide_eq_false fun selected => uncovered ?_
    exact sound.offered best isCandidate selected capability offers (asked _ wants)
  exact length_pos_of_mem isUnselected

theorem nothing_select
    (nothing : ∀ other, ¬ Pickable profile environment self.backends wanted
      optional selection.coveredCapabilities other)
    (other : BackendDescriptor) :
    ¬ Pickable profile environment self.backends wanted optional
      (selection.select (requested profile) best).coveredCapabilities
      other := by
  intro pickable
  obtain ⟨capability, offers, wants, uncovered⟩ := pickable.contributes
  exact nothing other
    ⟨pickable.registered, pickable.acceptable,
      ⟨capability, offers, wants, fun covered => uncovered (has_or.mpr (.inl covered))⟩,
      pickable.lowRisk⟩

variable {backend : BackendDescriptor}

theorem mem_select_ids
    (distinct : Distinct (self.candidates profile environment))
    (member : backend ∈ self.candidates profile environment)
    (isCandidate : best ∈ self.candidates profile environment) :
    backend.id ∈ (selection.select (requested profile) best).selectedIds ↔
      backend = best ∨ backend.id ∈ selection.selectedIds := by
  refine mem_cons.trans (or_congr_left ⟨fun same => ?_, ?_⟩)
  · exact distinct backend member best isCandidate same
  · rintro rfl
    rfl

section

variable
  (nothing :
    ∀ other,
      ¬ Pickable profile environment self.backends (effectiveRequired profile) false
        selection.coveredCapabilities other)
include nothing

theorem next_optional :
    Next profile environment self.backends selection.coveredCapabilities best ↔
      Best profile environment self.backends profile.optionalCapabilities
        true selection.coveredCapabilities best := by
  constructor
  · rintro (isBest | ⟨_, isBest⟩)
    · exact absurd isBest.pickable (nothing best)
    · exact isBest
  · exact fun isBest => .inr ⟨nothing, isBest⟩

theorem not_picked_optional
    (none : ∀ other, ¬ Pickable profile environment self.backends
      profile.optionalCapabilities true selection.coveredCapabilities other)
    (backend : BackendDescriptor) :
    ¬ Picked profile environment self.backends selection.coveredCapabilities backend :=
  not_picked fun other isNext => none other ((next_optional nothing).mp isNext).pickable

end

section

variable (sound : selection.Sound (self.candidates profile environment) (requested profile))
include sound

/-- The second loop selects what is picked when nothing that is required can
be picked. -/
theorem optional_selected
    (nothing : ∀ other, ¬ Pickable profile environment self.backends
      (effectiveRequired profile) false selection.coveredCapabilities other)
    {rounds : Nat}
    (enough : (unselected (self.candidates profile environment) selection).length ≤ rounds)
    (member : backend ∈ self.candidates profile environment) :
    backend.id ∈
        (selectRounds profile (self.candidates profile environment)
          (requested profile) profile.optionalCapabilities true rounds
          selection).selectedIds ↔
      backend.id ∈ selection.selectedIds ∨
        Picked profile environment self.backends selection.coveredCapabilities backend := by
  induction rounds generalizing selection with
  | zero =>
    refine (or_iff_left (not_picked_optional nothing ?_ _)).symm
    intro other pickable
    exact absurd (pickable_unselected sound asked_optional pickable) (by omega)
  | succ rounds ih =>
    rcases selectRounds_cases sound asked_optional
      rounds with ⟨none, stays⟩ | ⟨best, isBest, isCandidate, fresh, goes⟩
    · rw [stays]
      exact (or_iff_left (not_picked_optional nothing none _)).symm
    have fewer :
        (unselected (self.candidates profile environment)
            (selection.select (requested profile) best)).length <
          (unselected (self.candidates profile environment) selection).length :=
      unselected_select isCandidate fresh
    have isNext := (next_optional nothing).mpr isBest
    rw [goes, ih (sound.select candidates_distinct isCandidate) (nothing_select nothing) (by omega),
      mem_select_ids candidates_distinct member isCandidate,
      picked_iff (registered_distinct self.registered) isNext]
    tauto

theorem required_selected {rounds : Nat}
    (enough : (unselected (self.candidates profile environment) selection).length ≤ rounds)
    (member : backend ∈ self.candidates profile environment) :
    backend.id ∈
        (selectFor profile (self.candidates profile environment)
          (requested profile) profile.optionalCapabilities true
          (selectRounds profile (self.candidates profile environment)
            (requested profile) (effectiveRequired profile) false rounds
            selection)).selectedIds ↔
      backend.id ∈ selection.selectedIds ∨
        Picked profile environment self.backends selection.coveredCapabilities backend := by
  induction rounds generalizing selection with
  | zero =>
    refine optional_selected sound (fun other pickable => ?_) (length_filter_le _ _) member
    exact absurd (pickable_unselected sound asked_required pickable) (by omega)
  | succ rounds ih =>
    rcases selectRounds_cases sound asked_required
      rounds with
        ⟨nothing, stays⟩ | ⟨best, isBest, isCandidate, fresh, goes⟩
    · rw [stays]
      exact optional_selected sound nothing (length_filter_le _ _) member
    have fewer :
        (unselected (self.candidates profile environment)
            (selection.select (requested profile) best)).length <
          (unselected (self.candidates profile environment) selection).length :=
      unselected_select isCandidate fresh
    rw [goes, ih (sound.select candidates_distinct isCandidate) (by omega),
      mem_select_ids candidates_distinct member isCandidate,
      picked_iff (registered_distinct self.registered) (.inl isBest)]
    tauto

end

theorem selected_iff {backend : BackendDescriptor}
    (member : backend ∈ self.candidates profile environment) :
    backend.id ∈ (self.selection profile environment).selectedIds ↔
      Picked profile environment self.backends 0 backend :=
  (required_selected .empty (length_filter_le _ _) member).trans
    (or_iff_right not_mem_nil)

end Rounds

section Honesty

variable {self : IsolationPlanner} {profile : GameCompatibilityProfile}
  {environment : BackendEnvironment}

/-- The step assigns something beyond observation. -/
def ChangesBehaviour (step : PlannedBackendStep) : Prop :=
  ∃ capability, Has step.assignedCapabilities capability ∧ ¬ Has kObservationCapabilities capability

/-- The status of a plan agrees with what the plan assigns. -/
structure Honest (profile : GameCompatibilityProfile) (environment : BackendEnvironment)
    (result : IsolationPlan) : Prop where
  observation :
    result.status = .observationOnly → ∀ step ∈ result.selectedBackends, ¬ ChangesBehaviour step
  guarded :
    profile.recoveryPolicy = .required →
      (∃ step ∈ result.selectedBackends, ChangesBehaviour step) →
        environment.recoveryGuardReady = true ∨ result.status = .unsupported

/-- More than observation is required. -/
def RequiresChange (profile : GameCompatibilityProfile) : Prop :=
  ∃ capability, Has (effectiveRequired profile) capability ∧
    ¬ Has kObservationCapabilities capability

/-- No selected backend offers an optional capability beyond observation. -/
def OnlyObserves (self : IsolationPlanner) (profile : GameCompatibilityProfile)
    (environment : BackendEnvironment) : Prop :=
  ∀ backend, Picked profile environment self.backends 0 backend →
    ∀ capability, Has backend.capabilities capability →
      Has profile.optionalCapabilities capability → Has kObservationCapabilities capability

theorem observationOnly_iff {required : CapabilitySet} :
    isObservationOnlyRequirement required = true ↔
      ∀ capability, Has required capability → Has kObservationCapabilities capability := by
  unfold isObservationOnlyRequirement hasNoCapabilities
  rw [beq_iff_eq]
  constructor
  · intro empty capability wants
    by_contra changes
    exact ne_zero_of_has (has_difference.mpr ⟨wants, changes⟩) empty
  intro observes
  refine eq_zero_of_declared (fun index isSet => ?_) ?_
  · rw [difference_getLsbD, Bool.and_eq_true, Bool.and_eq_true, decide_eq_true_eq] at isSet
    exact isSet.2.1
  · intro capability has
    obtain ⟨wants, changes⟩ := has_difference.mp has
    exact changes (observes capability wants)

theorem requiresChange_iff :
    RequiresChange profile ↔ isObservationOnlyRequirement (effectiveRequired profile) = false := by
  rw [← Bool.not_eq_true, observationOnly_iff]
  unfold RequiresChange
  simp only [not_forall, exists_prop]

theorem test_passed {condition : Prop} [Decidable condition] {diagnostic : IsolationDiagnostic}
    {rest : Option IsolationDiagnostic}
    (passed : (if condition then some diagnostic else rest) = none) :
    ¬ condition ∧ rest = none := by
  by_cases holds : condition
  · rw [if_pos holds] at passed
    cases passed
  · rw [if_neg holds] at passed
    exact ⟨holds, passed⟩

variable {backend : BackendDescriptor}

theorem acceptable_observes
    (policy : profile.antiCheatPolicy = .observationOnly)
    (acceptable : rejectBackend profile backend environment = none)
    {capability : Capability} (offers : Has backend.capabilities capability) :
    Has kObservationCapabilities capability := by
  by_contra changes
  have some :
      hasNoCapabilities (capabilityDifference backend.capabilities kObservationCapabilities) =
        false :=
    beq_eq_false_iff_ne.mpr (ne_zero_of_has (has_difference.mpr ⟨offers, changes⟩))
  unfold rejectBackend at acceptable
  -- The test of the policy stands behind seven others.
  have behind :=
    (test_passed (test_passed (test_passed (test_passed (test_passed
      (test_passed (test_passed acceptable).2).2).2).2).2).2).2
  refine (test_passed behind).1 ?_
  rw [policy, some]
  rfl

theorem step_backend {step : PlannedBackendStep}
    (isStep : step ∈ (self.plan profile environment).selectedBackends) :
    ∃ backend ∈ self.candidates profile environment,
      PickedFor (requested profile) backend step ∧
        Picked profile environment self.backends 0 backend := by
  obtain ⟨backend, candidate, picked⟩ := selection_sound.picked step isStep
  refine ⟨backend, candidate, picked, (selected_iff candidate).mp ?_⟩
  refine (selection_sound.ids backend.id).mpr ⟨step, isStep, ?_⟩
  obtain ⟨assigned, rfl, _⟩ := picked
  rfl

theorem picked_candidate {covered : CapabilitySet}
    (picked : Picked profile environment self.backends covered backend) :
    backend ∈ self.candidates profile environment := by
  induction picked with
  | now isNext =>
    rcases isNext with best | ⟨_, best⟩
    · obtain ⟨capability, offers, wants, _⟩ := best.pickable.contributes
      exact candidates_mem.mpr
        ⟨best.pickable.registered, hasAnyCapability_of_has offers (asked_required _ wants),
          best.pickable.acceptable⟩
    · obtain ⟨capability, offers, wants, _⟩ := best.pickable.contributes
      exact candidates_mem.mpr
        ⟨best.pickable.registered, hasAnyCapability_of_has offers (asked_optional _ wants),
          best.pickable.acceptable⟩
  | later _ _ ih => exact ih

theorem picked_step
    (picked : Picked profile environment self.backends 0 backend) :
    ∃ step ∈ (self.plan profile environment).selectedBackends,
      step.requiresProcessInjection = backend.requiresProcessInjection := by
  have candidate := picked_candidate picked
  obtain ⟨step, isStep, sameId⟩ :=
    (selection_sound.ids backend.id).mp ((selected_iff candidate).mpr picked)
  refine ⟨step, isStep, ?_⟩
  obtain ⟨other, isCandidate, set, rfl, _⟩ := selection_sound.picked step isStep
  rw [← candidates_distinct other isCandidate backend candidate sameId]
  rfl

/-- What a picked backend offers of the requested capabilities, some step
assigns. -/
theorem picked_covers
    (picked : Picked profile environment self.backends 0 backend)
    {capability : Capability} (offers : Has backend.capabilities capability)
    (asked : Has (requested profile) capability) :
    ∃ step ∈ (self.plan profile environment).selectedBackends,
      Has step.assignedCapabilities capability := by
  have candidate := picked_candidate picked
  exact (selection_sound.covered capability).mp
    (selection_sound.offered backend candidate
      ((selected_iff candidate).mpr picked) capability offers asked)

theorem plan_observationOnly
    (observation : (self.plan profile environment).status = .observationOnly) :
    profile.antiCheatPolicy = .observationOnly ∨ ¬ RequiresChange profile := by
  rw [requiresChange_iff, Bool.not_eq_false]
  change status _ _ _ _ _ = _ at observation
  unfold status at observation
  split at observation
  next => cases observation
  next =>
    split at observation
    next quiet =>
      rw [Bool.or_eq_true, beq_iff_eq] at quiet
      exact quiet
    next =>
      split at observation
      · cases observation
      · cases observation

theorem observationOnly_plan (quiet : ¬ RequiresChange profile)
    (supported : (self.plan profile environment).status ≠ .unsupported) :
    (self.plan profile environment).status = .observationOnly := by
  rw [requiresChange_iff, Bool.not_eq_false] at quiet
  have status : (self.plan profile environment).status = status _ _ _ _ _ := rfl
  rw [status] at supported ⊢
  unfold IsolationPlanner.status at supported ⊢
  split at supported
  next => exact absurd rfl supported
  next failed =>
    rw [if_neg failed, if_pos]
    rw [quiet, Bool.or_true]

theorem unguarded_unsupported (changes : RequiresChange profile)
    (isRequired : profile.recoveryPolicy = .required) :
    environment.recoveryGuardReady = true ∨
      (self.plan profile environment).status = .unsupported := by
  cases ready : environment.recoveryGuardReady with
  | true => exact .inl rfl
  | false =>
    refine .inr (plan_unsupported.mpr (.inr (.inl ?_)))
    unfold recoveryFailure guardMissing
    rw [isRequired, ready, requiresChange_iff.mp changes]
    rfl

theorem quiet_recoveryFailure (quiet : ¬ RequiresChange profile) :
    recoveryFailure profile environment = false := by
  rw [requiresChange_iff, Bool.not_eq_false] at quiet
  unfold recoveryFailure guardMissing
  rw [quiet, Bool.not_true, Bool.and_false, Bool.and_false]

/-- The condition of honesty, on what is asked for and what is registered. -/
def Undisturbed (self : IsolationPlanner) (profile : GameCompatibilityProfile)
    (environment : BackendEnvironment) : Prop :=
  profile.antiCheatPolicy = .observationOnly ∨ RequiresChange profile ∨
    ¬ Offered self.backends profile environment ∨
    (profile.injectionPolicy = .required ∧
      ∀ backend, Picked profile environment self.backends 0 backend →
        backend.requiresProcessInjection = false) ∨
    self.OnlyObserves profile environment

theorem honest_of_unsupported
    (unsupported : (self.plan profile environment).status = .unsupported) :
    Honest profile environment (self.plan profile environment) where
  observation := by
    intro observation
    rw [unsupported] at observation
    cases observation
  guarded := fun _ _ => .inr unsupported

theorem honest_of_quiet
    (quiet : ∀ step ∈ (self.plan profile environment).selectedBackends, ¬ ChangesBehaviour step) :
    Honest profile environment (self.plan profile environment) where
  observation := fun _ => quiet
  guarded := by
    rintro _ ⟨step, isStep, changes⟩
    exact absurd changes (quiet step isStep)

theorem quiet_of_policy (policy : profile.antiCheatPolicy = .observationOnly) :
    ∀ step ∈ (self.plan profile environment).selectedBackends, ¬ ChangesBehaviour step := by
  rintro step isStep ⟨capability, assigned, changes⟩
  obtain ⟨backend, candidate, ⟨set, rfl, offers⟩, _⟩ := step_backend isStep
  exact changes
    (acceptable_observes policy (candidates_mem.mp candidate).2.2 (offers capability assigned).1)

theorem honest_of_undisturbed (undisturbed : self.Undisturbed profile environment) :
    Honest profile environment (self.plan profile environment) := by
  by_cases policy : profile.antiCheatPolicy = .observationOnly
  · exact honest_of_quiet (quiet_of_policy policy)
  by_cases requires : RequiresChange profile
  · refine ⟨fun observation => ?_, fun isRequired _ => unguarded_unsupported requires isRequired⟩
    rcases plan_observationOnly observation with same | quiet
    · exact absurd same policy
    · exact absurd requires quiet
  rcases undisturbed with same | changes | notOffered | ⟨isRequired, none⟩ | observes
  · exact absurd same policy
  · exact absurd changes requires
  · refine honest_of_unsupported (by_contra fun supported => ?_)
    exact notOffered (supported_iff.mp supported).1
  · refine honest_of_unsupported
      (plan_unsupported.mpr (.inl (injectionFailure_iff.mpr ⟨isRequired, fun step isStep => ?_⟩)))
    obtain ⟨backend, _, ⟨set, rfl, _⟩, picked⟩ := step_backend isStep
    exact none backend picked
  · refine honest_of_quiet ?_
    rintro step isStep ⟨capability, assigned, changes⟩
    obtain ⟨backend, _, ⟨set, rfl, offers⟩, picked⟩ := step_backend isStep
    obtain ⟨offered, asked⟩ := offers capability assigned
    rcases has_requested.mp asked with wants | likes
    · exact requires ⟨capability, wants, changes⟩
    · exact changes (observes backend picked capability offered likes)

theorem undisturbed_of_honest
    (honest : Honest profile environment (self.plan profile environment)) :
    self.Undisturbed profile environment := by
  by_contra disturbed
  unfold Undisturbed at disturbed
  simp only [not_or, not_not] at disturbed
  obtain ⟨_, quiet, offered, injects, changes⟩ := disturbed
  have supported : (self.plan profile environment).status ≠ .unsupported := by
    refine supported_iff.mpr ⟨offered, quiet_recoveryFailure quiet, fun isRequired => ?_⟩
    by_contra none
    refine injects ⟨isRequired, fun backend picked => ?_⟩
    obtain ⟨step, isStep, same⟩ := picked_step picked
    rw [← same]
    exact Bool.not_eq_true _ ▸ fun injecting => none ⟨step, isStep, injecting⟩
  refine changes fun backend picked capability offers likes => ?_
  by_contra beyond
  obtain ⟨step, isStep, assigned⟩ := picked_covers picked offers (has_requested.mpr (.inr likes))
  exact honest.observation (observationOnly_plan quiet supported) step isStep
    ⟨capability, assigned, beyond⟩

/-- A plan is honest if and only if the profile asks for observation only by
its policy, or requires more than observation, or cannot be served, or no
selected backend offers an optional capability beyond observation. -/
theorem honest_iff_undisturbed (self : IsolationPlanner) (profile : GameCompatibilityProfile)
    (environment : BackendEnvironment) :
    Honest profile environment (self.plan profile environment) ↔
      self.Undisturbed profile environment :=
  ⟨undisturbed_of_honest, honest_of_undisturbed⟩

end Honesty

/-- A profile that requires to observe, and would like to place windows. -/
def observingProfile : GameCompatibilityProfile where
  id := [112]
  requiredCapabilities := Capability.rawInputObservation.only
  optionalCapabilities := Capability.windowPlacementControl.only
  recoveryPolicy := .required

def observingBackend : BackendDescriptor where
  id := [97]
  capabilities := Capability.rawInputObservation.only ||| Capability.windowPlacementControl.only
  availability := .available
  risk := .low

/-- Without a guard, the window is placed in a plan that only observes. -/
theorem optional_pick_is_not_honest :
    ¬ ∀ (self : IsolationPlanner) (profile : GameCompatibilityProfile)
      (environment : BackendEnvironment),
      Honest profile environment (self.plan profile environment) := by
  intro claim
  have honest :=
    (claim ⟨[observingBackend], pairwise_singleton _ _⟩ observingProfile {}).guarded rfl
  have assigns :
      plannedStep observingBackend observingBackend.capabilities ∈
        (plan ⟨[observingBackend], pairwise_singleton _ _⟩
          observingProfile {}).selectedBackends := by
    decide
  rcases honest ⟨_, assigns, .windowPlacementControl, by decide, by decide⟩ with
    ready | unsupported
  · cases ready
  · revert unsupported
    decide

end IsolationPlanner

end HydraSeat.Isolation
