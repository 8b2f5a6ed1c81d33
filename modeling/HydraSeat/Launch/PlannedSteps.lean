import HydraSeat.Launch.PlannedInstance

/-!
# The steps of a planned instance

What the loops of an instance do to its resources and to its hook, and in
which order.
-/

namespace HydraSeat.Launch

open Foundation
open Foundation.Command List PlannedSeatGameInstance

variable {State : Type}

abbrev LaunchEntry (State : Type) := Entry launchInterface State

/-- What is done to a resource or to the hook. -/
inductive Step where
  | prepared (resource : ActivationResource)
  | refused (resource : ActivationResource)
  | activated (resource : ActivationResource)
  | rolledBack (resource : ActivationResource)
  | hookRolledBack

def stepOf : LaunchEntry State → Option Step
  | ⟨_, .prepare resource _ _, answer⟩ =>
    match (answer : Attempt Bool) with
    | .returned true _ => some (.prepared resource)
    | _ => some (.refused resource)
  | ⟨_, .activate resource, _⟩ => some (.activated resource)
  | ⟨_, .rollback resource, _⟩ => some (.rolledBack resource)
  | ⟨_, .hookRollback, _⟩ => some .hookRolledBack
  | _ => none

def stepsOf (calls : List (LaunchEntry State)) : List Step := calls.filterMap stepOf

/-- The order of a rollback: the reversed resources, with the hook before the
first Recovery or behind them all. -/
def unwinding (lifecycleHook : Bool) (resources : List ActivationResource) : List Step :=
  (resources.reverse.takeWhile (·.kind ≠ .recovery)).map .rolledBack ++
    (if lifecycleHook then [.hookRolledBack] else []) ++
    (resources.reverse.dropWhile (·.kind ≠ .recovery)).map .rolledBack

/-- The order of a rollback that ends with Recovery. -/
def recoveryLast (lifecycleHook : Bool) (resources : List ActivationResource) : List Step :=
  (resources.reverse.filter (·.kind ≠ .recovery)).map .rolledBack ++
    (if lifecycleHook then [.hookRolledBack] else []) ++
    (resources.reverse.filter (·.kind = .recovery)).map .rolledBack

/-- Recovery is what a plan starts with. -/
def RecoveryFirst (kinds : List ResourceKind) : Prop :=
  kinds.Pairwise fun earlier later => later = .recovery → earlier = .recovery

def Settled (resource : ActivationResource) (calls : List (LaunchEntry State)) : Prop :=
  ∃ earlier first second before error middle later,
    calls = earlier ++ first :: second :: later ∧
      first = ⟨before, .verifySafe resource, (true, error)⟩ ∧
      second = ⟨middle, .active resource, false⟩

def HookSettled (calls : List (LaunchEntry State)) : Prop :=
  ∃ earlier first second before error middle later,
    calls = earlier ++ first :: second :: later ∧ first = ⟨before, .hookVerifySafe, (true, error)⟩ ∧
      second = ⟨middle, .hookRecoveryRequired, false⟩

def throwsOf : LaunchEntry State → Bool
  | ⟨_, .create _ _, answer⟩ =>
    match (answer : Attempt (Option ActivationResource)) with
    | .returned _ _ => false
    | _ => true
  | ⟨_, .prepare _ _ _, answer⟩ | ⟨_, .activate _, answer⟩
  | ⟨_, .verifyActive _, answer⟩ =>
    match (answer : Attempt Bool) with
    | .returned _ _ => false
    | _ => true
  | _ => false

/-- No resource throws, and neither does their factory. -/
def Calm (calls : List (LaunchEntry State)) : Prop := ∀ call ∈ calls, throwsOf call = false

def InstanceReply.failed : InstanceReply → Bool
  | .started (.returned succeeded _) => !succeeded
  | .started _ => true
  | .stopped (succeeded, _) => !succeeded
  | .running _ => false

section Steps

variable {env : Environment launchInterface State}
  {calls more : List (LaunchEntry State)} {resource : ActivationResource}

theorem stepsOf_append : stepsOf (calls ++ more) = stepsOf calls ++ stepsOf more := filterMap_append

def LaunchCall.isStep : LaunchCall → Bool
  | .prepare _ _ _ | .activate _ | .rollback _ | .hookRollback => true
  | _ => false

abbrev Stepless {α : Type} (program : LaunchProgram α) : Prop :=
  Only (fun request : LaunchCall => request.isStep = false) program

theorem Stepless.meets {α : Type} {program : LaunchProgram α} (stepless : Stepless program)
    (state : State) :
    Meets env program state fun calls _ _ => stepsOf calls = [] := by
  refine meets_mono (meets_keeps stepless (fun _ _ _ _ _ _ _ => trivial) trivial) ?_
  intro calls value after kept
  refine filterMap_eq_nil_iff.mpr ?_
  rintro ⟨before, request, answer⟩ member
  have noStep := (kept.2 _ member).2
  cases request with
  | prepare | activate | rollback | hookRollback => cases noStep
  | _ => rfl

theorem Calm.left (calm : Calm (calls ++ more)) : Calm calls :=
  fun call member => calm call (mem_append_left _ member)

theorem Calm.right (calm : Calm (calls ++ more)) : Calm more :=
  fun call member => calm call (mem_append_right _ member)

theorem Calm.tail {call : LaunchEntry State} (calm : Calm (call :: calls)) : Calm calls :=
  fun other member => calm other (mem_cons_of_mem _ member)

theorem Settled.prepend (settled : Settled resource calls) (earlier : List (LaunchEntry State)) :
    Settled resource (earlier ++ calls) := by
  obtain ⟨start, first, second, before, error, middle, later, rfl, verified, inactive⟩ := settled
  exact ⟨earlier ++ start, first, second, before, error, middle, later,
    (append_assoc _ _ _).symm, verified, inactive⟩

theorem Settled.append (settled : Settled resource calls) (later : List (LaunchEntry State)) :
    Settled resource (calls ++ later) := by
  obtain ⟨start, first, second, before, error, middle, rest, rfl, verified, inactive⟩ := settled
  refine ⟨start, first, second, before, error, middle, rest ++ later, ?_, verified, inactive⟩
  rw [append_assoc, cons_append, cons_append]

theorem HookSettled.prepend (settled : HookSettled calls) (earlier : List (LaunchEntry State)) :
    HookSettled (earlier ++ calls) := by
  obtain ⟨start, first, second, before, error, middle, later, rfl, verified, calm⟩ := settled
  exact ⟨earlier ++ start, first, second, before, error, middle, later,
    (append_assoc _ _ _).symm, verified, calm⟩

end Steps

section RollingBack

variable {env : Environment launchInterface State} {self : PlannedSeatGameInstance}

/-- The hook is still to be rolled back. -/
def hookPending (self : PlannedSeatGameInstance) (progress : Progress) : Bool :=
  self.lifecycleHook && !progress.lifecycleRolledBack

theorem rollbackLifecycle_meets (progress : Progress) (state : State) :
    Meets env (self.rollbackLifecycle progress) state
      fun calls now _ =>
        stepsOf calls = (if hookPending self progress then [.hookRolledBack] else []) ∧
          hookPending self now = false := by
  unfold rollbackLifecycle hookPending
  cases hook : self.lifecycleHook with
  | false =>
    rw [Bool.not_false, Bool.or_true, if_pos rfl]
    exact meets_pure ⟨rfl, rfl⟩
  | true =>
    cases done : progress.lifecycleRolledBack with
    | true =>
      rw [Bool.true_or, if_pos rfl]
      exact meets_pure ⟨rfl, by rw [done]; rfl⟩
    | false =>
      rw [Bool.not_true, Bool.or_false, if_neg Bool.false_ne_true]
      refine meets_ask fun answer middle _ => ?_
      obtain ⟨rolledBack, error⟩ := (answer : Bool × ByteString)
      cases rolledBack with
      | true =>
        refine meets_ask fun required after _ => ?_
        exact meets_pure ⟨rfl, rfl⟩
      | false => exact meets_pure ⟨rfl, rfl⟩

/-- The rollback of reversed resources, and of a hook that is pending. -/
def unwindingFrom (pending : Bool) (reversed : List ActivationResource) : List Step :=
  (reversed.takeWhile (·.kind ≠ .recovery)).map .rolledBack ++
    (if pending then [.hookRolledBack] else []) ++
    (reversed.dropWhile (·.kind ≠ .recovery)).map .rolledBack

theorem unwindingFrom_false (reversed : List ActivationResource) :
    unwindingFrom false reversed = reversed.map .rolledBack := by
  unfold unwindingFrom
  rw [if_neg Bool.false_ne_true, List.append_nil, ← List.map_append, takeWhile_append_dropWhile]

theorem unwindingFrom_cons (pending : Bool) (resource : ActivationResource)
    (reversed : List ActivationResource) :
    unwindingFrom pending (resource :: reversed) =
      if resource.kind = .recovery then
        (if pending then [.hookRolledBack] else []) ++
          .rolledBack resource :: unwindingFrom false reversed
      else .rolledBack resource :: unwindingFrom pending reversed := by
  split
  next recovers =>
    rw [unwindingFrom_false]
    unfold unwindingFrom
    rw [takeWhile_cons_of_neg (by simp [recovers]), dropWhile_cons_of_neg (by simp [recovers])]
    rfl
  next other =>
    unfold unwindingFrom
    rw [takeWhile_cons_of_pos (by simp [other]), dropWhile_cons_of_pos (by simp [other])]
    rfl

theorem rollbackResources_meets (progress : Progress)
    (reversed : List ActivationResource) (state : State) :
    Meets env (self.rollbackResources progress reversed) state
      fun calls now _ =>
        stepsOf calls ++ (if hookPending self now then [.hookRolledBack] else []) =
          unwindingFrom (hookPending self progress) reversed := by
  induction reversed generalizing progress state with
  | nil =>
    refine meets_pure ?_
    unfold unwindingFrom
    rw [takeWhile_nil, dropWhile_nil, map_nil, append_nil]
    rfl
  | cons resource reversed ih =>
    have rest (now : Progress) (between : State) :
        Meets env
          (do
            let answer ← callLaunch (.rollback resource)
            self.rollbackResources
              (if answer.1 then now
                else
                  now.fail
                    (bytesOf (resourceKindName resource.kind) ++
                      " rollback failed" ++ clause ": " answer.2))
              reversed)
          between fun calls last _ =>
            stepsOf calls ++ (if hookPending self last then [.hookRolledBack] else []) =
              .rolledBack resource :: unwindingFrom (hookPending self now) reversed := by
      refine meets_ask fun answer middle _ => ?_
      obtain ⟨rolledBack, error⟩ := (answer : Bool × ByteString)
      cases rolledBack with
      | true =>
        exact meets_mono (ih now middle) fun calls last after law => congrArg (List.cons _) law
      | false =>
        exact meets_mono (ih (now.fail _) middle)
          fun calls last after law => congrArg (List.cons _) law
    rw [unwindingFrom_cons]
    unfold rollbackResources
    split
    next recovers =>
      refine meets_bind (rollbackLifecycle_meets progress state) fun calls now between law => ?_
      refine meets_mono (rest now between) fun more last after steps => ?_
      rw [law.2] at steps
      rw [stepsOf_append, law.1, append_assoc, steps]
    next other => exact rest progress state

theorem rollbackActivation_meets (state : State) :
    Meets env self.rollbackActivation state fun calls _ _ =>
      stepsOf calls = unwinding self.lifecycleHook self.resources := by
  unfold rollbackActivation
  refine meets_bind (rollbackResources_meets _ _ state) fun calls now between law => ?_
  refine meets_bind (rollbackLifecycle_meets now between) fun more last after lifecycle => ?_
  refine meets_pure ?_
  rw [append_nil, stepsOf_append, lifecycle.1, law]
  unfold unwindingFrom unwinding hookPending
  rw [Bool.not_not, Bool.and_self]

end RollingBack

section Verifying

variable {env : Environment launchInterface State} {self : PlannedSeatGameInstance}

theorem resourceSafe_meets (resource : ActivationResource) (state : State) :
    Meets env (resourceSafe resource) state
      fun calls outcome _ => stepsOf calls = [] ∧ (outcome.1 = true → Settled resource calls) := by
  refine meets_ask fun answer middle _ => ?_
  obtain ⟨verified, error⟩ := (answer : Bool × ByteString)
  cases verified with
  | false => exact meets_pure ⟨rfl, nofun⟩
  | true =>
    refine meets_ask fun active after _ => ?_
    cases active with
    | true => exact meets_pure ⟨rfl, nofun⟩
    | false => exact meets_pure ⟨rfl, fun _ => ⟨[], _, _, state, error, middle, [], rfl, rfl, rfl⟩⟩

theorem hookSafe_meets (state : State) :
    Meets env hookSafe state
      fun calls outcome _ => stepsOf calls = [] ∧ (outcome.1 = true → HookSettled calls) := by
  refine meets_ask fun answer middle _ => ?_
  obtain ⟨verified, error⟩ := (answer : Bool × ByteString)
  cases verified with
  | false => exact meets_pure ⟨rfl, nofun⟩
  | true =>
    refine meets_ask fun required after _ => ?_
    cases required with
    | true => exact meets_pure ⟨rfl, nofun⟩
    | false => exact meets_pure ⟨rfl, fun _ => ⟨[], _, _, state, error, middle, [], rfl, rfl, rfl⟩⟩

theorem verifySafeResources_meets (progress : Progress)
    (resources : List ActivationResource) (state : State) :
    Meets env (verifySafeResources progress resources) state
      fun calls now _ =>
        stepsOf calls = [] ∧
          (now.success = true →
            progress.success = true ∧ ∀ resource ∈ resources, Settled resource calls) := by
  induction resources generalizing progress state with
  | nil => exact meets_pure ⟨rfl, fun succeeds => ⟨succeeds, fun resource member => nomatch member⟩⟩
  | cons resource resources ih =>
    refine meets_bind (resourceSafe_meets resource state) fun calls outcome between law => ?_
    obtain ⟨safe, error⟩ := outcome
    refine meets_mono (ih _ between) fun more now after rest => ?_
    refine ⟨?_, fun succeeds => ?_⟩
    · rw [stepsOf_append, law.1, rest.1, append_nil]
    obtain ⟨earlier, settled⟩ := rest.2 succeeds
    cases safe with
    | false => cases earlier
    | true =>
      refine ⟨earlier, fun other member => ?_⟩
      rcases mem_cons.mp member with rfl | later
      · exact (law.2 rfl).append more
      · exact (settled other later).prepend calls

structure Verified (holder : PlannedSeatGameInstance) (calls : List (LaunchEntry State)) :
    Prop where
  settled : ∀ resource ∈ holder.resources, Settled resource calls
  hookSettled : holder.lifecycleHook = true → HookSettled calls

theorem Verified.prepend {calls : List (LaunchEntry State)} (verified : Verified self calls)
    (earlier : List (LaunchEntry State)) : Verified self (earlier ++ calls) where
  settled resource member := (verified.settled resource member).prepend earlier
  hookSettled hook := (verified.hookSettled hook).prepend earlier

theorem verifySafeActivation_meets (state : State) :
    Meets env self.verifySafeActivation state fun calls outcome _ =>
      stepsOf calls = [] ∧ (outcome.1 = true → Verified self calls) := by
  unfold verifySafeActivation
  refine meets_bind (verifySafeResources_meets {} self.resources state)
    fun calls now between law => ?_
  split
  next hook =>
    refine meets_bind (hookSafe_meets between) fun more outcome after hookLaw => ?_
    obtain ⟨safe, error⟩ := outcome
    refine meets_pure ?_
    rw [append_nil]
    refine ⟨?_, fun succeeds => ?_⟩
    · rw [stepsOf_append, law.1, hookLaw.1, append_nil]
    cases safe with
    | false => cases succeeds
    | true =>
      exact ⟨fun resource member =>
          ((law.2 succeeds).2 resource member).append more,
        fun _ => (hookLaw.2 rfl).prepend calls⟩
  next noHook =>
    refine meets_pure ?_
    rw [append_nil]
    exact ⟨law.1, fun succeeds => ⟨(law.2 succeeds).2, fun hook => absurd hook noHook⟩⟩

end Verifying

section Starting

variable {env : Environment launchInterface State}
  {self : PlannedSeatGameInstance} {binding : SeatGameBinding}
variable {kinds : List ResourceKind} {halt : Halt} {resource : ActivationResource}
  {creation preparation : LaunchEntry State} {calls : List (LaunchEntry State)}
  {outcome : LaunchOutcome}

structure Unwound (holder : PlannedSeatGameInstance) (calls : List (LaunchEntry State))
    (outcome : LaunchOutcome) : Prop where
  steps : stepsOf calls = unwinding holder.lifecycleHook holder.resources
  failed : (InstanceReply.started outcome.1).failed = true
  left :
    (Verified holder calls ∧
        outcome.2 = { holder with recoveryRequired := false, resources := [] }) ∨
      outcome.2 = { holder with recoveryRequired := true }

theorem failAndRollback_meets (error : ByteString) (state : State) :
    Meets env (self.failAndRollback error) state
      fun calls outcome _ => Unwound self calls outcome := by
  refine meets_bind (rollbackActivation_meets state) fun calls rollback between steps => ?_
  obtain ⟨rolledBack, rollbackError⟩ := rollback
  refine meets_bind (verifySafeActivation_meets between) fun more verification after verified => ?_
  obtain ⟨verifiedSafe, verifyError⟩ := verification
  refine meets_pure ?_
  rw [append_nil]
  refine ⟨?_, rfl, ?_⟩
  · rw [stepsOf_append, steps, verified.1, append_nil]
  cases rolledBack with
  | false => exact .inr rfl
  | true =>
    cases verifiedSafe with
    | false => exact .inr rfl
    | true => exact .inl ⟨(verified.2 rfl).prepend calls, rfl⟩

/-- What ends a start that nothing throws out of. -/
def Halt.returns : Halt → Bool
  | .failed _ => true
  | .threw _ | .threwUnknown => false

structure Prepares (holder : PlannedSeatGameInstance) (kinds : List ResourceKind)
    (calls : List (LaunchEntry State))
    (outcome : Option Halt × PlannedSeatGameInstance)
    (prepared refused : List ActivationResource) : Prop where
  steps : stepsOf calls = prepared.map .prepared ++ refused.map .refused
  held : outcome.2 = { holder with resources := holder.resources ++ (prepared ++ refused) }
  planned : (prepared ++ refused).map (·.kind) <+: kinds
  complete : outcome.1 = none → refused = [] ∧ prepared.map (·.kind) = kinds
  returns : Calm calls → ∀ halt, outcome.1 = some halt → halt.returns = true

theorem Prepares.nothing {call : LaunchEntry State} (noStep : stepOf call = none)
    (returns : throwsOf call = false → halt.returns = true) :
    Prepares self kinds [call] (some halt, self) [] [] where
  steps := filterMap_cons_none noStep
  held := by
    rw [append_nil, append_nil]
  planned := nil_prefix
  complete := nofun
  returns calm other same := by
    cases same
    exact returns (calm _ mem_cons_self)

theorem Prepares.refuses (noStep : stepOf creation = none)
    (step : stepOf preparation = some (.refused resource))
    (returns : throwsOf preparation = false → halt.returns = true) :
    Prepares self (resource.kind :: kinds) [creation, preparation]
      (some halt, { self with resources := self.resources ++ [resource] })
      [] [resource] where
  steps := by
    unfold stepsOf
    rw [filterMap_cons_none noStep, filterMap_cons_some step]
    rfl
  held := rfl
  planned := cons_prefix_cons.mpr ⟨rfl, nil_prefix⟩
  complete := nofun
  returns calm other same := by
    cases same
    exact returns (calm.tail _ mem_cons_self)

theorem Prepares.cons {outcome : Option Halt × PlannedSeatGameInstance}
    {prepared refused : List ActivationResource}
    (noStep : stepOf creation = none)
    (step : stepOf preparation = some (.prepared resource))
    (prepares :
      Prepares { self with resources := self.resources ++ [resource] } kinds
        calls outcome prepared refused) :
    Prepares self (resource.kind :: kinds)
      (creation :: preparation :: calls) outcome (resource :: prepared)
      refused where
  steps := by
    have steps := prepares.steps
    unfold stepsOf at steps ⊢
    rw [filterMap_cons_none noStep, filterMap_cons_some step, steps]
    rfl
  held := by
    rw [prepares.held]
    dsimp only
    rw [append_assoc, singleton_append, cons_append]
  planned := cons_prefix_cons.mpr ⟨rfl, prepares.planned⟩
  complete ended := by
    obtain ⟨none, all⟩ := prepares.complete ended
    exact ⟨none, congrArg (List.cons _) all⟩
  returns calm := prepares.returns calm.tail.tail

theorem prepareResources_meets (self : PlannedSeatGameInstance) (kinds : List ResourceKind)
    (state : State) :
    Meets env (prepareResources binding self kinds) state
      fun calls outcome _ =>
        ∃ prepared refused, Prepares self kinds calls outcome prepared refused := by
  induction kinds generalizing self state with
  | nil =>
    refine meets_pure ⟨[], [], rfl, ?_, nil_prefix, fun _ => ⟨rfl, rfl⟩, nofun⟩
    rw [append_nil, append_nil]
  | cons kind kinds ih =>
    refine meets_ask fun answer middle _ => ?_
    cases answer with
    | threw | threwUnknown => exact meets_pure ⟨[], [], .nothing rfl nofun⟩
    | returned value createError =>
      cases value with
      | none => exact meets_pure ⟨[], [], .nothing rfl fun _ => rfl⟩
      | some resource =>
        dsimp only
        split
        · exact meets_pure ⟨[], [], .nothing rfl fun _ => rfl⟩
        next sameKind =>
          rw [← Decidable.not_not.mp sameKind]
          refine meets_ask fun answer between _ => ?_
          cases answer with
          | threw | threwUnknown => exact meets_pure ⟨[], [resource], .refuses rfl rfl nofun⟩
          | returned prepared error =>
            cases prepared with
            | false => exact meets_pure ⟨[], [resource], .refuses rfl rfl fun _ => rfl⟩
            | true =>
              refine meets_mono (ih _ between) ?_
              rintro calls outcome after ⟨prepared, refused, law⟩
              exact ⟨resource :: prepared, refused, law.cons rfl rfl⟩

theorem invokePreSpawn_stepless : Stepless self.invokePreSpawn := by
  unfold invokePreSpawn
  split
  · exact only_pure
  · exact only_bind (only_ask rfl) fun _ => only_pure

theorem invokeActivated_stepless (resource : ActivationResource) :
    Stepless (self.invokeActivated resource) := by
  unfold invokeActivated
  split
  · unfold invokeStartup
    split
    · exact only_pure
    · exact only_bind (only_ask rfl) fun _ => only_pure
  split
  · unfold invokePostWindow
    split
    · exact only_pure
    · exact only_bind (only_ask rfl) fun _ => only_pure
  · exact only_pure

theorem invokeRuntime_stepless : Stepless self.invokeRuntime := by
  unfold invokeRuntime
  split
  · exact only_pure
  · exact only_bind (only_ask rfl) fun _ => only_pure

structure Activates (resources : List ActivationResource)
    (calls : List (LaunchEntry State)) (halt? : Option Halt)
    (activated : List ActivationResource) : Prop where
  steps : stepsOf calls = activated.map .activated
  ordered : activated <+: resources
  complete : halt? = none → activated = resources
  returns : Calm calls → ∀ halt, halt? = some halt → halt.returns = true

theorem activateVerified_meets (resource : ActivationResource) (state : State) :
    Meets env (activateVerified resource) state
      fun calls halt? _ => Activates [resource] calls halt? [resource] := by
  refine meets_ask fun answer middle _ => ?_
  cases answer with
  | threw | threwUnknown =>
    refine meets_pure ⟨rfl, prefix_refl _, fun _ => rfl, ?_⟩
    intro calm
    cases calm _ mem_cons_self
  | returned activated error =>
    cases activated with
    | false =>
      refine meets_pure ⟨rfl, prefix_refl _, fun _ => rfl, ?_⟩
      rintro _ halt ⟨⟩
      rfl
    | true =>
      refine meets_ask fun answer between _ => ?_
      cases answer with
      | threw | threwUnknown =>
        refine meets_pure ⟨rfl, prefix_refl _, fun _ => rfl, ?_⟩
        intro calm
        cases calm.tail _ mem_cons_self
      | returned verified error =>
        cases verified with
        | false =>
          refine meets_pure ⟨rfl, prefix_refl _, fun _ => rfl, ?_⟩
          rintro _ halt ⟨⟩
          rfl
        | true => exact meets_pure ⟨rfl, prefix_refl _, fun _ => rfl, nofun⟩

theorem activateAdmitted_meets (resource : ActivationResource) (state : State) :
    Meets env (self.activateAdmitted resource) state
      fun calls halt? _ => Activates [resource] calls halt? [resource] := by
  refine meets_bind (activateVerified_meets resource state) fun calls halt? between law => ?_
  cases halt? with
  | some halt =>
    refine meets_pure ?_
    rw [append_nil]
    exact law
  | none =>
    refine meets_bind ((invokeActivated_stepless resource).meets between)
      fun more error after steps => ?_
    refine meets_pure ⟨?_, law.ordered, fun _ => rfl, ?_⟩
    · rw [append_nil, stepsOf_append, steps, append_nil, law.steps]
    · intro _ halt same
      obtain ⟨error, _, rfl⟩ := Option.map_eq_some_iff.mp same
      rfl

theorem Activates.prepend {resources activated : List ActivationResource} {halt? : Option Halt}
    (activates : Activates resources calls halt? activated)
    {earlier : List (LaunchEntry State)} (stepless : stepsOf earlier = []) :
    Activates resources (earlier ++ calls) halt? activated where
  steps := by
    rw [stepsOf_append, stepless, nil_append, activates.steps]
  ordered := activates.ordered
  complete := activates.complete
  returns calm := activates.returns calm.right

theorem activateResource_meets (resource : ActivationResource) (state : State) :
    Meets env (self.activateResource resource) state
      fun calls halt? _ => ∃ activated, Activates [resource] calls halt? activated := by
  have admitted (now : State) :
      Meets env (self.activateAdmitted resource) now
        fun calls halt? _ => ∃ activated, Activates [resource] calls halt? activated :=
    meets_mono (activateAdmitted_meets resource now) fun calls halt? after law => ⟨[resource], law⟩
  unfold activateResource
  split
  · refine meets_bind (invokePreSpawn_stepless.meets state) fun calls error between steps => ?_
    cases error with
    | some error =>
      refine meets_pure ⟨[], ?_, nil_prefix, nofun, ?_⟩
      · rw [append_nil, steps, map_nil]
      · rintro _ halt ⟨⟩
        rfl
    | none =>
      refine meets_mono (admitted between) ?_
      rintro more halt? after ⟨activated, law⟩
      exact ⟨activated, law.prepend steps⟩
  · exact admitted state

theorem activateResources_meets (resources : List ActivationResource) (state : State) :
    Meets env (self.activateResources resources) state
      fun calls halt? _ => ∃ activated, Activates resources calls halt? activated := by
  induction resources generalizing state with
  | nil => exact meets_pure ⟨[], rfl, nil_prefix, fun _ => rfl, nofun⟩
  | cons resource resources ih =>
    refine meets_bind (activateResource_meets resource state) ?_
    rintro calls halt? between ⟨activated, first⟩
    cases halt? with
    | some halt =>
      refine meets_pure ⟨activated, ?_⟩
      rw [append_nil]
      exact ⟨first.steps, first.ordered.trans (cons_prefix_cons.mpr ⟨rfl, nil_prefix⟩),
        nofun, first.returns⟩
    | none =>
      have isResource := first.complete rfl
      subst isResource
      refine meets_mono (ih between) ?_
      rintro more halt? after ⟨activated, rest⟩
      refine ⟨resource :: activated, ?_, cons_prefix_cons.mpr ⟨rfl, rest.ordered⟩,
        fun ended => congrArg _ (rest.complete ended),
        fun calm => rest.returns calm.right⟩
      rw [stepsOf_append, first.steps, rest.steps]
      rfl

/-- How a start ends that holds its resources. -/
inductive Ends (holder : PlannedSeatGameInstance) :
    List (LaunchEntry State) → LaunchOutcome → List Step → Prop
  | started (calls : List (LaunchEntry State)) (error : ByteString) :
      Ends holder calls
        (.returned true error, { holder with started := true, recoveryRequired := false })
        []
  | unwound (earlier : List (LaunchEntry State)) {calls : List (LaunchEntry State)}
      {outcome : LaunchOutcome}
      (law : Unwound holder calls outcome) :
      Ends holder (earlier ++ calls) outcome (unwinding holder.lifecycleHook holder.resources)

theorem Ends.prepend {unwound : List Step} (ends : Ends self calls outcome unwound)
    (earlier : List (LaunchEntry State)) :
    Ends self (earlier ++ calls) outcome unwound := by
  cases ends with
  | started _ error => exact .started _ error
  | unwound between law =>
    rw [← append_assoc]
    exact .unwound _ law

/-- The steps of a start behind the preparation of its resources. -/
structure Finishes (holder : PlannedSeatGameInstance) (calls : List (LaunchEntry State))
    (outcome : LaunchOutcome)
    (activated : List ActivationResource) (unwound : List Step) : Prop where
  steps : stepsOf calls = activated.map .activated ++ unwound
  ordered : activated <+: holder.resources
  ends : Ends holder calls outcome unwound

theorem halted_finishes (returns : halt.returns = true) (state : State) :
    Meets env (self.halted halt) state fun calls outcome _ => Unwound self calls outcome := by
  cases halt with
  | failed error => exact failAndRollback_meets error state
  | threw | threwUnknown => cases returns

theorem Unwound.finishes {more : List (LaunchEntry State)}
    {activated : List ActivationResource}
    (law : Unwound self more outcome)
    (steps : stepsOf calls = activated.map .activated)
    (ordered : activated <+: self.resources) :
    Finishes self (calls ++ more) outcome activated
      (unwinding self.lifecycleHook self.resources) where
  steps := by
    rw [stepsOf_append, steps, law.steps]
  ordered := ordered
  ends := .unwound calls law

theorem activatePrepared_meets (state : State) :
    Meets env self.activatePrepared state fun calls outcome _ =>
      Calm calls → ∃ activated unwound, Finishes self calls outcome activated unwound := by
  refine meets_bind (activateResources_meets self.resources state) ?_
  rintro calls halt? between ⟨activated, law⟩
  cases halt? with
  | some halt =>
    intro more outcome after ran calm
    have returns := law.returns calm.left halt rfl
    have unwound := halted_finishes returns between _ _ _ ran
    exact ⟨activated, _, unwound.finishes law.steps law.ordered⟩
  | none =>
    refine meets_bind (invokeRuntime_stepless.meets between) fun more error after stepless => ?_
    have steps : stepsOf (calls ++ more) = activated.map .activated := by
      rw [stepsOf_append, stepless, append_nil, law.steps]
    cases error with
    | some error =>
      refine meets_mono (failAndRollback_meets error after) fun rest outcome last unwound _ => ?_
      rw [← append_assoc]
      exact ⟨activated, _, unwound.finishes steps law.ordered⟩
    | none =>
      refine meets_pure fun _ => ⟨activated, [], ?_⟩
      rw [append_nil]
      exact ⟨by rw [steps, append_nil], law.ordered, .started _ []⟩

end Starting

end HydraSeat.Launch
