import HydraSeat.Launch.PlannedSteps

/-!
# What a planned instance holds

An instance prepares all its resources, activates them in the same order and
rolls them back in reverse.  The hook is rolled back behind everything that
Recovery outlives.  What is not verified to be safe and inactive is kept, and
recovery is required.
-/

namespace HydraSeat.Launch

open Foundation
open Foundation.Command Bool List PlannedSeatGameInstance

variable {State : Type}

/-- What an operation does to the resources, in order. -/
structure Staged (holder : PlannedSeatGameInstance) (calls : List (LaunchEntry State))
    (prepared refused activated : List ActivationResource)
    (unwound : List Step) : Prop where
  steps :
    stepsOf calls =
      prepared.map .prepared ++ refused.map .refused ++ activated.map .activated ++ unwound
  planned : (holder.resources ++ (prepared ++ refused)).map (·.kind) <+: holder.plan.resources
  complete : activated ≠ [] → refused = [] ∧ prepared.map (·.kind) = holder.plan.resources
  ordered : activated <+: prepared
  reversed :
    unwound = [] ∨
      unwound = unwinding holder.lifecycleHook (holder.resources ++ (prepared ++ refused))

/-- Everything held is safe and inactive, and is let go of. -/
structure Cleared (holder : PlannedSeatGameInstance) (held : List ActivationResource)
    (calls : List (LaunchEntry State)) (after : PlannedSeatGameInstance) :
    Prop where
  released : after.resources = []
  stopped : after.started = false
  clean : after.recoveryRequired = false
  settled : ∀ resource ∈ held, Settled resource calls
  hookSettled : holder.lifecycleHook = true → HookSettled calls

/-- Everything held stays, and recovery is required. -/
structure Retained (held : List ActivationResource) (after : PlannedSeatGameInstance) : Prop where
  kept : after.resources = held
  required : after.recoveryRequired = true

/-- How an operation leaves what it held. -/
structure Closed (holder : PlannedSeatGameInstance) (held : List ActivationResource)
    (unwound : List Step) (calls : List (LaunchEntry State))
    (reply : InstanceReply) (after : PlannedSeatGameInstance) : Prop where
  kept : after.resources = held ∨ Cleared holder held calls after
  unwound :
    unwound ≠ [] → Cleared holder held calls after ∨ (Retained held after ∧ after.started = false)
  failed :
    reply.failed = true →
      (calls = [] ∧ after = holder) ∨ Cleared holder held calls after ∨ Retained held after
  stopped : ∀ error, reply = .stopped (true, error) → Cleared holder held calls after

structure InstanceLaw (holder : PlannedSeatGameInstance) (operation : InstanceOperation)
    (calls : List (LaunchEntry State)) (reply : InstanceReply)
    (after : PlannedSeatGameInstance) : Prop where
  plan : after.plan = holder.plan
  staged :
    ∃ prepared refused activated unwound,
      Staged holder calls prepared refused activated unwound ∧
        Closed holder (holder.resources ++ (prepared ++ refused)) unwound calls reply after ∧
        (RecoveryFirst holder.plan.resources →
          unwound = [] ∨
            unwound = recoveryLast holder.lifecycleHook (holder.resources ++ (prepared ++ refused)))
  blocked :
    holder.recoveryRequired = true → holder.started = false →
      ∀ binding, operation = .start binding → calls = [] ∧ after = holder ∧ reply.failed = true

section Starting

variable {env : Environment launchInterface State}
  {self : PlannedSeatGameInstance} {binding : SeatGameBinding}
variable {held : List ActivationResource} {calls : List (LaunchEntry State)}
  {outcome : LaunchOutcome} {unwound : List Step} {reply : InstanceReply}

/-- What a start does behind the preparation of its hook. -/
def Launched (holder : PlannedSeatGameInstance) (calls : List (LaunchEntry State))
    (outcome : LaunchOutcome) : Prop :=
  ∃ prepared refused activated unwound,
    Staged holder calls prepared refused activated unwound ∧
      Ends { holder with resources := prepared ++ refused } calls outcome unwound

theorem startResources_meets (empty : self.resources = []) (state : State) :
    Meets env (self.startResources binding) state
      fun calls outcome _ => Calm calls → Launched self calls outcome := by
  refine meets_bind
    (prepareResources_meets { self with resources := [] } self.plan.resources state) ?_
  rintro calls ⟨halt?, holder⟩ between ⟨prepared, refused, law⟩
  have held : holder = { self with resources := prepared ++ refused } := law.held
  subst held
  cases halt? with
  | some halt =>
    intro more outcome after ran calm
    have returns := law.returns calm.left halt rfl
    have unwound := halted_finishes returns between _ _ _ ran
    refine ⟨prepared, refused, [], _, ⟨?_, ?_, nofun, nil_prefix, .inr ?_⟩, .unwound calls unwound⟩
    · rw [stepsOf_append, law.steps, unwound.steps, map_nil, append_nil]
    · rw [empty, nil_append]
      exact law.planned
    · rw [empty, nil_append]
  | none =>
    obtain ⟨none, all⟩ := law.complete rfl
    subst none
    refine meets_mono (activatePrepared_meets between) ?_
    intro more outcome after finishes calm
    obtain ⟨activated, unwound, finished⟩ := finishes calm.right
    refine ⟨prepared, [], activated, unwound, ⟨?_, ?_,
      fun _ => ⟨rfl, all⟩, ?_, ?_⟩, finished.ends.prepend calls⟩
    · rw [stepsOf_append, law.steps, finished.steps, ← append_assoc]
    · rw [empty, nil_append]
      exact law.planned
    · have ordered := finished.ordered
      rwa [append_nil] at ordered
    · rw [empty, nil_append]
      cases finished.ends with
      | started => exact .inl rfl
      | unwound => exact .inr rfl

def Held (holder : PlannedSeatGameInstance) : Prop :=
  holder.resources = [] ∨ holder.started = true ∨ holder.recoveryRequired = true

/-- What holds of an instance between two operations. -/
structure Accounted (holder : PlannedSeatGameInstance) : Prop where
  held : Held holder
  planned : holder.resources.map (·.kind) <+: holder.plan.resources

theorem Unwound.closed (law : Unwound { self with resources := held } calls outcome)
    (stopped : self.started = false)
    (earlier : List (LaunchEntry State)) (unwound : List Step) :
    Closed self held unwound (earlier ++ calls) (.started outcome.1) outcome.2 ∧
      outcome.2.plan = self.plan ∧ Held outcome.2 := by
  have ends :
      Cleared self held (earlier ++ calls) outcome.2 ∨
        (Retained held outcome.2 ∧ outcome.2.started = false) := by
    rcases law.left with ⟨verified, same⟩ | same
    · rw [same]
      have safe := verified.prepend earlier
      exact .inl ⟨rfl, stopped, rfl, safe.settled, safe.hookSettled⟩
    · rw [same]
      exact .inr ⟨⟨rfl, rfl⟩, stopped⟩
  refine ⟨⟨?_, fun _ => ends, fun _ => .inr ?_, nofun⟩, ?_, ?_⟩
  · exact ends.symm.imp (·.1.kept) id
  · exact ends.imp id (·.1)
  · rcases law.left with ⟨_, same⟩ | same
    · rw [same]
    · rw [same]
  · exact ends.elim (fun cleared => .inl cleared.released)
      fun retained => .inr (.inr retained.1.required)

theorem Ends.closed (ends : Ends { self with resources := held } calls outcome unwound)
    (stopped : self.started = false) :
    Closed self held unwound calls (.started outcome.1) outcome.2 ∧
      outcome.2.plan = self.plan ∧ Held outcome.2 := by
  cases ends with
  | started _ error =>
    exact ⟨⟨.inl rfl, fun some => absurd rfl some, nofun, nofun⟩, rfl, .inr (.inl rfl)⟩
  | unwound earlier law => exact law.closed stopped earlier _

theorem Staged.none (accounted : Accounted self) (steps : stepsOf calls = unwound)
    (reversed : unwound = [] ∨ unwound = unwinding self.lifecycleHook self.resources) :
    Staged self calls [] [] [] unwound where
  steps := steps
  planned := by
    rw [append_nil, append_nil]
    exact accounted.planned
  complete := nofun
  ordered := nil_prefix
  reversed := by
    rw [append_nil, append_nil]
    exact reversed

/-- The part of an operation's law that is not about its refusal. -/
structure Kept (holder : PlannedSeatGameInstance) (calls : List (LaunchEntry State))
    (reply : InstanceReply) (after : PlannedSeatGameInstance) : Prop where
  plan : after.plan = holder.plan
  staged :
    ∃ prepared refused activated unwound,
      Staged holder calls prepared refused activated unwound ∧
        Closed holder (holder.resources ++ (prepared ++ refused)) unwound calls reply after
  held : Held after

theorem Kept.accounted {after : PlannedSeatGameInstance}
    (kept : Kept self calls reply after) : Accounted after where
  held := kept.held
  planned := by
    obtain ⟨prepared, refused, activated, unwound, staged, closed⟩ := kept.staged
    rw [kept.plan]
    rcases closed.kept with same | cleared
    · rw [same]
      exact staged.planned
    · rw [cleared.released]
      exact nil_prefix

theorem Kept.unchanged (accounted : Accounted self)
    (fails : ∀ error, reply ≠ .stopped (true, error)) :
    Kept self ([] : List (LaunchEntry State)) reply self where
  plan := rfl
  staged := by
    refine ⟨[], [], [], [], .none accounted rfl (.inl rfl), ?_⟩
    rw [append_nil, append_nil]
    exact ⟨.inl rfl, nofun, fun _ => .inl ⟨rfl, rfl⟩, fun error same => absurd same (fails error)⟩
  held := accounted.held

theorem prepareRefused_meets (accounted : Accounted self) (empty : self.resources = [])
    (stopped : self.started = false)
    (error : ByteString) (state : State) :
    Meets env (self.prepareRefused error) state
      fun calls outcome _ =>
        stepsOf calls = [] ∧
          ∀ earlier, stepsOf earlier = [] →
            Kept self (earlier ++ calls) (.started outcome.1) outcome.2 := by
  refine meets_bind (hookSafe_meets state) fun calls verification between law => ?_
  obtain ⟨safe, verifyError⟩ := verification
  refine meets_pure ?_
  rw [append_nil]
  refine ⟨law.1, fun earlier stepless => ⟨rfl, ⟨[], [], [], [],
    .none accounted ?_ (.inl rfl), ?_⟩, .inl empty⟩⟩
  · rw [stepsOf_append, stepless, law.1, append_nil]
  rw [empty]
  refine ⟨.inl rfl, nofun, fun _ => .inr ?_, nofun⟩
  cases safe with
  | false => exact .inr ⟨rfl, rfl⟩
  | true => exact .inl ⟨rfl, stopped, rfl, nofun, fun _ => (law.2 rfl).prepend earlier⟩

theorem Launched.kept {earlier : List (LaunchEntry State)}
    (launched : Launched self calls outcome)
    (empty : self.resources = []) (stopped : self.started = false)
    (stepless : stepsOf earlier = []) :
    Kept self (earlier ++ calls) (.started outcome.1) outcome.2 := by
  obtain ⟨prepared, refused, activated, unwound, staged, ends⟩ := launched
  obtain ⟨closed, plan, held⟩ := (ends.prepend earlier).closed stopped
  refine ⟨plan, ⟨prepared, refused, activated, unwound,
    ⟨?_, staged.planned, staged.complete, staged.ordered, staged.reversed⟩,
    ?_⟩, held⟩
  · rw [stepsOf_append, stepless, nil_append, staged.steps]
  · rw [empty, nil_append]
    exact closed

theorem start_meets (accounted : Accounted self) (binding : SeatGameBinding) (state : State) :
    Meets env (self.start binding) state fun calls outcome _ =>
      Calm calls →
        Kept self calls (.started outcome.1) outcome.2 ∧
          (self.recoveryRequired = true → self.started = false →
            calls = [] ∧ outcome.2 = self ∧ (InstanceReply.started outcome.1).failed = true) := by
  unfold start
  split
  · exact meets_pure fun _ => ⟨.unchanged accounted nofun, fun _ _ => ⟨rfl, rfl, rfl⟩⟩
  split
  next running =>
    refine meets_pure fun _ => ⟨.unchanged accounted nofun, ?_⟩
    intro _ stopped
    rw [running] at stopped
    cases stopped
  next notRunning =>
    split
    · exact meets_pure fun _ => ⟨.unchanged accounted nofun, fun _ _ => ⟨rfl, rfl, rfl⟩⟩
    next notRequired =>
      split
      · exact meets_pure fun _ => ⟨.unchanged accounted nofun, fun _ _ => ⟨rfl, rfl, rfl⟩⟩
      have stopped : self.started = false := eq_false_iff.mpr notRunning
      have empty : self.resources = [] :=
        accounted.held.resolve_right fun held => held.elim notRunning notRequired
      have launches (earlier : List (LaunchEntry State)) (now : State)
          (stepless : stepsOf earlier = []) :
          Meets env (self.startResources binding) now
            fun calls outcome _ =>
              Calm (earlier ++ calls) →
                Kept self (earlier ++ calls) (.started outcome.1) outcome.2 ∧
                  (self.recoveryRequired = true → self.started = false →
                    earlier ++ calls = [] ∧ outcome.2 = self ∧
                      (InstanceReply.started outcome.1).failed = true) :=
        meets_mono (startResources_meets empty now)
          fun calls outcome after launched calm =>
            ⟨(launched calm.right).kept empty stopped stepless,
              fun required => absurd required notRequired⟩
      split
      · refine meets_ask fun answer middle _ => ?_
        generalize hookStep answer = prepared
        obtain ⟨prepared, prepareError⟩ := prepared
        dsimp only
        split
        · refine meets_mono (prepareRefused_meets accounted empty stopped _ middle)
            fun calls outcome after law calm =>
              ⟨law.2 [_] rfl, fun required => absurd required notRequired⟩
        · exact launches [_] middle rfl
      · exact launches [] state rfl

end Starting

section Stopping

variable {env : Environment launchInterface State} {self : PlannedSeatGameInstance}
variable {calls : List (LaunchEntry State)}

theorem Kept.cleared (accounted : Accounted self) {unwound : List Step}
    {reply : InstanceReply} {after : PlannedSeatGameInstance}
    (plan : after.plan = self.plan)
    (steps : stepsOf calls = unwound)
    (reversed : unwound = [] ∨ unwound = unwinding self.lifecycleHook self.resources)
    (cleared : Cleared self self.resources calls after) :
    Kept self calls reply after where
  plan := plan
  staged := by
    refine ⟨[], [], [], unwound, .none accounted steps reversed, ?_⟩
    rw [append_nil, append_nil]
    exact ⟨.inr cleared, fun _ => .inl cleared, fun _ => .inr (.inl cleared), fun _ _ => cleared⟩
  held := .inl cleared.released

theorem Verified.cleared (verified : Verified self calls) :
    Cleared self self.resources calls self.released :=
  ⟨rfl, rfl, rfl, verified.settled, verified.hookSettled⟩

theorem nothing_verified (nothing : (self.resources.isEmpty && !self.lifecycleHook) = true)
    (calls : List (LaunchEntry State)) :
    self.resources = [] ∧ Verified self calls := by
  obtain ⟨noResources, noHook⟩ := and_eq_true_iff.mp nothing
  have empty : self.resources = [] := isEmpty_iff.mp noResources
  refine ⟨empty, ?_, ?_⟩
  · rw [empty]
    exact nofun
  · intro hook
    rw [hook] at noHook
    cases noHook

theorem stop_meets (accounted : Accounted self) (state : State) :
    Meets env self.stop state fun calls outcome _ =>
      Kept self calls (.stopped outcome.1) outcome.2 := by
  unfold stop
  split
  next nothing =>
    exact meets_pure (.cleared accounted rfl rfl (.inl rfl) (nothing_verified nothing []).2.cleared)
  next something =>
    refine meets_bind (rollbackActivation_meets state) fun calls rollback between steps => ?_
    obtain ⟨rolledBack, error⟩ := rollback
    refine meets_bind (verifySafeActivation_meets between)
      fun more verification after verified => ?_
    obtain ⟨safe, verifyError⟩ := verification
    have unwinds :
        stepsOf (calls ++ (more ++ [])) = unwinding self.lifecycleHook self.resources := by
      rw [append_nil, stepsOf_append, steps, verified.1, append_nil]
    dsimp only
    split
    next both =>
      obtain ⟨_, isSafe⟩ := and_eq_true_iff.mp both
      refine meets_pure (.cleared accounted rfl unwinds (.inr rfl) ?_)
      rw [append_nil]
      exact ((verified.2 isSafe).prepend calls).cleared
    next notBoth =>
      refine meets_pure ⟨rfl, ⟨[], [], [], _,
        .none accounted unwinds (.inr rfl), ?_⟩, .inr (.inr rfl)⟩
      rw [append_nil, append_nil]
      exact ⟨.inl rfl, fun _ => .inr ⟨⟨rfl, rfl⟩, rfl⟩, fun _ => .inr (.inr ⟨rfl, rfl⟩), nofun⟩

theorem verifyStopped_meets (accounted : Accounted self) (state : State) :
    Meets env self.verifyStopped state fun calls outcome _ =>
      Kept self calls (.stopped outcome.1) outcome.2 := by
  unfold verifyStopped
  split
  next nothing =>
    refine meets_pure ?_
    by_cases idle : (!self.started && !self.recoveryRequired) = true
    · obtain ⟨stopped, clean⟩ := and_eq_true_iff.mp idle
      obtain ⟨empty, verified⟩ := nothing_verified nothing ([] : List (LaunchEntry State))
      exact .cleared accounted rfl rfl (.inl rfl)
        ⟨empty, not_eq_true' _ ▸ stopped, not_eq_true' _ ▸ clean, verified.settled,
          verified.hookSettled⟩
    · refine .unchanged accounted fun error same => idle ?_
      injection same with outcomes
      exact congrArg Prod.fst outcomes
  next something =>
    refine meets_bind (verifySafeActivation_meets state)
      fun calls verification between verified => ?_
    obtain ⟨safe, error⟩ := verification
    dsimp only
    split
    next isSafe =>
      refine meets_pure (.cleared accounted rfl ?_ (.inl rfl) ?_)
      · rw [append_nil, verified.1]
      · rw [append_nil]
        exact (verified.2 isSafe).cleared
    next isUnsafe =>
      refine meets_pure ⟨rfl, ⟨[], [], [], [], .none accounted ?_ (.inl rfl), ?_⟩, .inr (.inr rfl)⟩
      · rw [append_nil, verified.1]
      · rw [append_nil, append_nil]
        exact ⟨.inl rfl, nofun, fun _ => .inr (.inr ⟨rfl, rfl⟩), nofun⟩

end Stopping

section Life

variable {env : Environment launchInterface State} {self : PlannedSeatGameInstance}

theorem running_meets (state : State) :
    Meets env self.running state fun calls _ _ => stepsOf calls = [] := by
  have stepless : Stepless self.running := by
    unfold running
    split
    · exact only_pure
    · split
      · exact only_pure
      · exact only_ask rfl
  exact stepless.meets state

/-- Where only Recovery follows Recovery, it can be told apart by kind. -/
theorem split_recovery {reversed : List ActivationResource}
    (closed :
      reversed.Pairwise fun first second => first.kind = .recovery → second.kind = .recovery) :
    reversed.takeWhile (·.kind ≠ .recovery) = reversed.filter (·.kind ≠ .recovery) ∧
      reversed.dropWhile (·.kind ≠ .recovery) = reversed.filter (·.kind = .recovery) := by
  induction closed with
  | nil => exact ⟨rfl, rfl⟩
  | @cons resource reversed rest _ ih =>
    by_cases recovers : resource.kind = .recovery
    · have all : ∀ other ∈ resource :: reversed, other.kind = .recovery := by
        intro other member
        rcases mem_cons.mp member with rfl | later
        · exact recovers
        · exact rest other later recovers
      constructor
      · rw [takeWhile_cons_of_neg (by simp [recovers])]
        refine (filter_eq_nil_iff.mpr fun other member => ?_).symm
        simp [all other member]
      · rw [dropWhile_cons_of_neg (by simp [recovers])]
        refine (filter_eq_self.mpr fun other member => ?_).symm
        simp [all other member]
    · rw [takeWhile_cons_of_pos (by simp [recovers]), dropWhile_cons_of_pos (by simp [recovers]),
        filter_cons_of_pos (by simp [recovers]),
        filter_cons_of_neg (by simp [recovers]),
        ih.1]
      exact ⟨rfl, ih.2⟩

theorem unwinding_recoveryLast {held : List ActivationResource} {kinds : List ResourceKind}
    (first : RecoveryFirst kinds)
    (planned : held.map (·.kind) <+: kinds) (lifecycleHook : Bool) :
    unwinding lifecycleHook held = recoveryLast lifecycleHook held := by
  have ordered : RecoveryFirst (held.map (·.kind)) := List.Pairwise.sublist planned.sublist first
  have split := split_recovery (pairwise_reverse.mpr (pairwise_map.mp ordered))
  unfold unwinding recoveryLast
  rw [split.1, split.2]

theorem Kept.law {calls : List (LaunchEntry State)} {reply : InstanceReply}
    {after : PlannedSeatGameInstance}
    (kept : Kept self calls reply after) :
    ∃ prepared refused activated unwound,
      Staged self calls prepared refused activated unwound ∧
        Closed self (self.resources ++ (prepared ++ refused)) unwound calls reply after ∧
        (RecoveryFirst self.plan.resources →
          unwound = [] ∨
            unwound =
              recoveryLast self.lifecycleHook (self.resources ++ (prepared ++ refused))) := by
  obtain ⟨prepared, refused, activated, unwound, staged, closed⟩ := kept.staged
  refine ⟨prepared, refused, activated, unwound, staged, closed, ?_⟩
  intro first
  rw [← unwinding_recoveryLast first staged.planned self.lifecycleHook]
  exact staged.reversed

theorem perform_meets (accounted : Accounted self) (operation : InstanceOperation) (state : State) :
    Meets env (self.perform operation) state
      fun calls outcome _ =>
        Calm calls →
          InstanceLaw self operation calls outcome.1 outcome.2 ∧ Accounted outcome.2 := by
  cases operation with
  | start binding =>
    refine meets_bind (start_meets accounted binding state) fun calls outcome between law => ?_
    obtain ⟨attempt, after⟩ := outcome
    refine meets_pure fun calm => ?_
    rw [append_nil] at calm ⊢
    obtain ⟨kept, blocked⟩ := law calm
    exact ⟨⟨kept.plan, kept.law, fun required stopped _ _ => blocked required stopped⟩,
      kept.accounted⟩
  | stop =>
    refine meets_bind (stop_meets accounted state) fun calls outcome between kept => ?_
    obtain ⟨reply, after⟩ := outcome
    refine meets_pure fun calm => ?_
    rw [append_nil]
    exact ⟨⟨kept.plan, kept.law, nofun⟩, kept.accounted⟩
  | verifyStopped =>
    refine meets_bind (verifyStopped_meets accounted state) fun calls outcome between kept => ?_
    obtain ⟨reply, after⟩ := outcome
    refine meets_pure fun calm => ?_
    rw [append_nil]
    exact ⟨⟨kept.plan, kept.law, nofun⟩, kept.accounted⟩
  | running =>
    refine meets_bind (running_meets state) fun calls answer between steps => ?_
    refine meets_pure fun calm => ?_
    rw [append_nil]
    have kept : Kept self calls (.running answer) self := by
      refine ⟨rfl, ⟨[], [], [], [], .none accounted steps (.inl rfl), ?_⟩, accounted.held⟩
      rw [append_nil, append_nil]
      exact ⟨.inl rfl, nofun, nofun, nofun⟩
    exact ⟨⟨kept.plan, kept.law, nofun⟩, kept.accounted⟩

abbrev InstanceDeed (State : Type) :=
  Deed launchInterface State PlannedSeatGameInstance InstanceOperation InstanceReply

/-- As long as no resource throws, every operation of an instance prepares,
activates and rolls back in order, and lets go of what is safe only. -/
theorem planned_law {env : Environment launchInterface State} {outside : State → State → Prop}
    {plan : SeatActivationPlan} {factory lifecycleHook : Bool}
    {state last : State} {after : PlannedSeatGameInstance}
    {deeds : List (InstanceDeed State)}
    (life : Lived perform env outside { plan, factory, lifecycleHook } state after last deeds)
    (calm : ∀ deed ∈ deeds, Calm deed.entries) :
    ∀ deed ∈ deeds,
      deed.object.plan = plan ∧
        InstanceLaw deed.object deed.operation deed.entries deed.result deed.after := by
  refine
    (life.invariant
      (fun object _ deeds =>
        (object.plan = plan ∧ Accounted object) ∧
          ∀ deed ∈ deeds,
            deed.object.plan = plan ∧
              InstanceLaw deed.object deed.operation deed.entries deed.result deed.after)
      ?_ ?_ ?_ calm).2
  · intro object operation state deeds before
    obtain ⟨⟨samePlan, accounted⟩, lawful⟩ := before
    refine meets_mono (perform_meets accounted operation state) ?_
    intro calls outcome after law calm
    obtain ⟨instanceLaw, accounted⟩ := law calm
    refine ⟨⟨instanceLaw.plan.trans samePlan, accounted⟩, ?_⟩
    intro deed member
    rcases mem_append.mp member with earlier | now
    · exact lawful deed earlier
    · rw [mem_singleton.mp now]
      exact ⟨samePlan, instanceLaw⟩
  · intro object first last deeds before _
    exact before
  · refine ⟨⟨rfl, .inl rfl, nil_prefix⟩, fun deed member => ?_⟩
    cases member

end Life

/-- Resources that do what they are asked; the active ones are the state. -/
def obligingResources (held : List ActivationResource) :
    (request : LaunchCall) → request.Answer × List ActivationResource
  | .hookPrepare _ _ | .preSpawn | .startup | .postWindow | .runtime
  | .prepare _ _ _ | .verifyActive _ => (.returned true [], held)
  | .hookRollback | .hookVerifySafe | .verifySafe _ => ((true, []), held)
  | .hookRecoveryRequired => (false, held)
  | .create kind _ => (.returned (some ⟨held.length, kind⟩) [], held)
  | .activate resource => (.returned true [], held ++ [resource])
  | .rollback resource => ((true, []), held.erase resource)
  | .active resource => (held.contains resource, held)

def launchBinding : SeatGameBinding where
  playerId := [65]
  gameId := [90]

def samplePlan : SeatActivationPlan where
  seatId := 1
  target := { gameId := [90] }
  resources := [.recovery, .process]
  fingerprint := 1

/-- An instance with a hook, behind some operations. -/
def sampleInstanceDeeds (operations : List InstanceOperation) :
    List (InstanceDeed (List ActivationResource)) :=
  enact obligingResources perform { plan := samplePlan, factory := true, lifecycleHook := true } []
    operations

theorem sampleInstanceDeeds_life (operations : List InstanceOperation) :
    Lived perform (handled obligingResources) Eq
      { plan := samplePlan, factory := true, lifecycleHook := true } []
      (objectBehind { plan := samplePlan, factory := true, lifecycleHook := true }
        (sampleInstanceDeeds operations))
      (stateBehind [] (sampleInstanceDeeds operations))
      (sampleInstanceDeeds operations) :=
  Lived.start.script (fun _ _ => rfl) operations

/-- A start and a stop of an instance with a hook. -/
theorem sample_planned_law :
    (sampleInstanceDeeds [.start launchBinding, .stop]).length = 2 ∧
      ∀ deed ∈ sampleInstanceDeeds [.start launchBinding, .stop],
        deed.object.plan = samplePlan ∧
          InstanceLaw deed.object deed.operation deed.entries deed.result deed.after := by
  have calm :
      ((sampleInstanceDeeds [.start launchBinding, .stop]).all fun deed =>
        deed.entries.all fun call => !throwsOf call) = true := by
    decide
  refine ⟨by decide, planned_law (sampleInstanceDeeds_life _) ?_⟩
  intro deed member call callMember
  have quiet := all_eq_true.mp (all_eq_true.mp calm deed member) call callMember
  rw [not_eq_true'] at quiet
  exact quiet

/-- A start for another game is refused while everything is active, and an
instance that is started is not refused whatever it requires. -/
theorem refused_start_stays_active :
    (¬ ∀ (env : Environment launchInterface (List ActivationResource))
        (after : PlannedSeatGameInstance)
        (last : List ActivationResource)
        (deeds : List (InstanceDeed (List ActivationResource))),
      Lived perform env Eq { plan := samplePlan, factory := true, lifecycleHook := true } []
        after last deeds →
      ∀ deed ∈ deeds, deed.result.failed = true →
        deed.after.recoveryRequired = true ∨
          ∀ resource ∈ deed.after.resources, deed.last.contains resource = false) ∧
    ¬ ∀ (env : Environment launchInterface (List ActivationResource))
        (after : PlannedSeatGameInstance)
        (last : List ActivationResource)
        (deeds : List (InstanceDeed (List ActivationResource))),
      Lived perform env Eq { plan := samplePlan, factory := true, lifecycleHook := true } []
        after last deeds →
      ∀ deed ∈ deeds, deed.object.recoveryRequired = true →
        ∀ binding, deed.operation = .start binding → deed.result.failed = true := by
  constructor
  · intro claim
    have inactive := claim (handled obligingResources) _ _ _
      (sampleInstanceDeeds_life [.start launchBinding, .start { launchBinding with gameId := [] }])
    revert inactive
    decide
  · intro claim
    have refused := claim (handled obligingResources) _ _ _
      (sampleInstanceDeeds_life [.start launchBinding, .verifyStopped, .start launchBinding])
    have fails :
        ∀ deed ∈ sampleInstanceDeeds [.start launchBinding, .verifyStopped, .start launchBinding],
          deed.object.recoveryRequired = true →
            deed.operation = .start launchBinding → deed.result.failed = true :=
      fun deed member required starts => refused deed member required launchBinding starts
    revert fails
    decide

end HydraSeat.Launch
