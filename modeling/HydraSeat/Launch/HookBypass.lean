import HydraSeat.Launch.PlannedLaws

/-!
# The hook in front of a process

While an instance holds its hook, a process is activated directly behind a
pre-spawn step of the hook, in a start that the hook has prepared.  A stop
that goes through drops the hook, and the next start goes on without it.
-/

namespace HydraSeat.Launch

open Foundation
open Foundation.Command List PlannedSeatGameInstance

variable {State : Type}

def LaunchCall.spawns : LaunchCall → Bool
  | .activate resource => resource.kind == .process
  | _ => false

def LaunchCall.preparesHook : LaunchCall → Bool
  | .hookPrepare _ _ => true
  | _ => false

def HookPrepared (calls : List (LaunchEntry State)) : Prop :=
  ∃ before plan binding error,
    (⟨before, .hookPrepare plan binding, .returned true error⟩ : LaunchEntry State) ∈ calls

/-- Before a process is activated, the hook is prepared and, directly before
it, admits the spawn. -/
def NeverBypassed (calls : List (LaunchEntry State)) : Prop :=
  ∀ earlier call later, calls = earlier ++ call :: later →
    call.request.spawns = true →
      ∃ first before error,
        earlier = first ++ [(⟨before, .preSpawn, .returned true error⟩ : LaunchEntry State)] ∧
          HookPrepared first

/-- The start is refused before anything is called. -/
def refusedUpFront (self : PlannedSeatGameInstance) (binding : SeatGameBinding) : Bool :=
  binding.gameId != self.plan.target.gameId || self.started ||
    self.recoveryRequired || !self.factory || self.plan.seatId == 0 ||
    self.plan.fingerprint == 0

/-- A start finds the hook that the instance was given, is refused up front
or starts no process. -/
def HookHeld (deed : InstanceDeed State) : Prop :=
  ∀ binding, deed.operation = .start binding →
    deed.object.lifecycleHook = true ∨ refusedUpFront deed.object binding = true ∨
      .process ∉ deed.object.plan.resources

/-- Read from left to right, a process is activated directly behind a
pre-spawn step that succeeds. -/
inductive Spawned : List (LaunchEntry State) → Prop
  | nil : Spawned []
  | other {call : LaunchEntry State} {calls : List (LaunchEntry State)}
      (noSpawn : call.request.spawns = false) (rest : Spawned calls) :
      Spawned (call :: calls)
  | spawn {call : LaunchEntry State} {calls : List (LaunchEntry State)}
      (before : State) (error : ByteString) (rest : Spawned calls) :
      Spawned (⟨before, .preSpawn, .returned true error⟩ :: call :: calls)

section Spawns

variable {env : Environment launchInterface State} {calls more : List (LaunchEntry State)}

theorem Spawned.append (first : Spawned calls) (second : Spawned more) :
    Spawned (calls ++ more) := by
  induction first with
  | nil => exact second
  | other noSpawn _ ih => exact .other noSpawn ih
  | spawn before error _ ih => exact .spawn before error ih

theorem Spawned.directly (spawned : Spawned calls)
    {earlier later : List (LaunchEntry State)} {call : LaunchEntry State}
    (split : calls = earlier ++ call :: later)
    (spawns : call.request.spawns = true) :
    ∃ first before error,
      earlier = first ++ [(⟨before, .preSpawn, .returned true error⟩ : LaunchEntry State)] := by
  induction spawned generalizing earlier with
  | nil =>
    cases earlier with
    | nil | cons => cases split
  | other noSpawn _ ih =>
    cases earlier with
    | nil =>
      cases split
      rw [spawns] at noSpawn
      cases noSpawn
    | cons head earlier =>
      cases split
      obtain ⟨first, before, error, rfl⟩ := ih rfl
      exact ⟨_ :: first, before, error, rfl⟩
  | spawn before error _ ih =>
    cases earlier with
    | nil =>
      cases split
      cases spawns
    | cons head earlier =>
      cases earlier with
      | nil =>
        cases split
        exact ⟨[], before, error, rfl⟩
      | cons second earlier =>
        cases split
        obtain ⟨first, between, text, rfl⟩ := ih rfl
        exact ⟨_ :: _ :: first, between, text, rfl⟩

abbrev Spawnless {α : Type} (program : LaunchProgram α) : Prop :=
  Only (fun request : LaunchCall => request.spawns = false) program

/-- None of the calls activates a process. -/
def Unspawned (calls : List (LaunchEntry State)) : Prop :=
  ∀ call ∈ calls, call.request.spawns = false

theorem Unspawned.nil : Unspawned ([] : List (LaunchEntry State)) := by
  intro call member
  cases member

theorem Unspawned.spawned (unspawned : Unspawned calls) : Spawned calls := by
  induction calls with
  | nil => exact .nil
  | cons call calls ih =>
    exact .other (unspawned call mem_cons_self)
      (ih fun other member => unspawned other (mem_cons_of_mem call member))

theorem Unspawned.neverBypassed (unspawned : Unspawned calls) : NeverBypassed calls := by
  rintro earlier call later rfl spawns
  rw [unspawned call (mem_append_right _ mem_cons_self)] at spawns
  cases spawns

theorem Spawnless.meets {α : Type} {program : LaunchProgram α} (spawnless : Spawnless program)
    (state : State) :
    Meets env program state fun calls _ _ => Unspawned calls :=
  meets_mono (meets_keeps spawnless (fun _ _ _ _ _ _ _ => trivial) trivial)
    fun _ _ _ kept call member => (kept.2 call member).2

theorem Unspawned.append (first : Unspawned calls) (second : Unspawned more) :
    Unspawned (calls ++ more) := by
  intro call member
  rcases mem_append.mp member with earlier | later
  · exact first call earlier
  · exact second call later

theorem Spawned.neverBypassed (spawned : Spawned calls) (before : State) (plan : SeatActivationPlan)
    (binding : SeatGameBinding) (error : ByteString) :
    NeverBypassed
      ((⟨before, .hookPrepare plan binding, .returned true error⟩ :
        LaunchEntry State) :: calls) := by
  intro earlier call later split spawns
  cases earlier with
  | nil =>
    cases split
    cases spawns
  | cons head earlier =>
    cases split
    obtain ⟨first, between, text, rfl⟩ := spawned.directly rfl spawns
    exact ⟨_ :: first, between, text, rfl, before, plan, binding, error, mem_cons_self⟩

end Spawns

section Spawnless

variable {self : PlannedSeatGameInstance} (progress : Progress)

theorem rollbackLifecycle_spawnless : Spawnless (self.rollbackLifecycle progress) := by
  unfold PlannedSeatGameInstance.rollbackLifecycle
  apply only_refused
  refine only_bind (only_ask rfl) fun rollback => ?_
  dsimp only
  split
  · exact only_bind (only_ask rfl) fun _ => only_pure
  · exact only_pure

theorem rollbackResources_spawnless (reversed : List ActivationResource) :
    Spawnless (self.rollbackResources progress reversed) := by
  induction reversed generalizing progress with
  | nil => exact only_pure
  | cons resource reversed ih =>
    unfold rollbackResources
    split
    · exact only_bind (rollbackLifecycle_spawnless progress) fun now =>
        only_bind (only_ask rfl) fun rollback => ih _
    · exact only_bind only_pure fun now => only_bind (only_ask rfl) fun rollback => ih _

theorem rollbackActivation_spawnless : Spawnless self.rollbackActivation := by
  refine only_bind (rollbackResources_spawnless _ _) fun progress => ?_
  exact only_bind (rollbackLifecycle_spawnless progress) fun _ => only_pure

theorem hookSafe_spawnless : Spawnless hookSafe := by
  refine only_bind (only_ask rfl) fun verification => ?_
  dsimp only
  split
  · exact only_bind (only_ask rfl) fun _ => only_pure
  · exact only_pure

theorem verifySafeResources_spawnless (resources : List ActivationResource) :
    Spawnless (PlannedSeatGameInstance.verifySafeResources progress resources) := by
  induction resources generalizing progress with
  | nil => exact only_pure
  | cons resource resources ih =>
    refine only_bind ?_ fun safe => ih _
    refine only_bind (only_ask rfl) fun verification => ?_
    dsimp only
    split
    · exact only_bind (only_ask rfl) fun _ => only_pure
    · exact only_pure

theorem verifySafeActivation_spawnless : Spawnless self.verifySafeActivation := by
  refine only_bind (verifySafeResources_spawnless _ _) fun progress => ?_
  split
  · exact only_bind hookSafe_spawnless fun _ => only_pure
  · exact only_pure

theorem failAndRollback_spawnless (error : ByteString) :
    Spawnless (self.failAndRollback error) := by
  refine only_bind rollbackActivation_spawnless fun rollback => ?_
  exact only_bind verifySafeActivation_spawnless fun _ => only_pure

theorem halted_spawnless (halt : Halt) : Spawnless (self.halted halt) := by
  cases halt with
  | failed error => exact failAndRollback_spawnless error
  | threw | threwUnknown => exact only_pure

theorem prepareResources_spawnless (binding : SeatGameBinding) (self : PlannedSeatGameInstance)
    (kinds : List ResourceKind) :
    Spawnless (PlannedSeatGameInstance.prepareResources binding self kinds) := by
  induction kinds generalizing self with
  | nil => exact only_pure
  | cons kind kinds ih =>
    refine only_bind (only_ask rfl) fun creation => ?_
    cases creation with
    | threw | threwUnknown => exact only_pure
    | returned value error =>
      cases value with
      | none => exact only_pure
      | some resource =>
        dsimp only
        apply only_refused
        refine only_bind (only_ask rfl) fun preparation => ?_
        cases preparation with
        | threw | threwUnknown => exact only_pure
        | returned prepared error =>
          cases prepared with
          | false => exact only_pure
          | true => exact ih _

theorem prepareRefused_spawnless (error : ByteString) : Spawnless (self.prepareRefused error) :=
  only_bind hookSafe_spawnless fun _ => only_pure

theorem invokeRuntime_spawnless : Spawnless self.invokeRuntime := by
  unfold PlannedSeatGameInstance.invokeRuntime
  split
  · exact only_pure
  · exact only_bind (only_ask rfl) fun _ => only_pure

theorem invokeActivated_spawnless (resource : ActivationResource) :
    Spawnless (self.invokeActivated resource) := by
  unfold PlannedSeatGameInstance.invokeActivated
  split
  · unfold invokeStartup
    split
    · exact only_pure
    · exact only_bind (only_ask rfl) fun _ => only_pure
  split
  · unfold invokePostWindow
    split
    · exact only_pure
    · exact only_bind (only_ask rfl) fun _ => only_pure
  · exact only_pure

theorem stop_spawnless : Spawnless self.stop := by
  unfold PlannedSeatGameInstance.stop
  apply only_refused
  refine only_bind rollbackActivation_spawnless fun rollback => ?_
  refine only_bind verifySafeActivation_spawnless fun verification => ?_
  dsimp only
  split
  · exact only_pure
  · exact only_pure

theorem verifyStopped_spawnless : Spawnless self.verifyStopped := by
  unfold PlannedSeatGameInstance.verifyStopped
  apply only_refused
  refine only_bind verifySafeActivation_spawnless fun verification => ?_
  dsimp only
  split
  · exact only_pure
  · exact only_pure

theorem running_spawnless : Spawnless self.running := by
  unfold PlannedSeatGameInstance.running
  split
  · exact only_pure
  · split
    · exact only_pure
    · exact only_ask rfl

end Spawnless

section Starts

variable {env : Environment launchInterface State}
  {self : PlannedSeatGameInstance} {binding : SeatGameBinding}
variable (resource : ActivationResource)

/-- The first call activates the resource, and no other call a process. -/
def Opens (calls : List (LaunchEntry State)) : Prop :=
  ∃ call rest, calls = call :: rest ∧ call.request = .activate resource ∧ Unspawned rest

theorem activateVerified_opens (state : State) :
    Meets env (PlannedSeatGameInstance.activateVerified resource) state
      fun calls _ _ => Opens resource calls := by
  refine meets_ask fun activation middle _ => ?_
  cases activation with
  | threw | threwUnknown => exact meets_pure ⟨_, [], rfl, rfl, .nil⟩
  | returned activated error =>
    cases activated with
    | false => exact meets_pure ⟨_, [], rfl, rfl, .nil⟩
    | true =>
      refine meets_ask fun verification between _ => ?_
      have unspawned :
          Unspawned [(⟨middle, .verifyActive resource, verification⟩ : LaunchEntry State)] := by
        intro call member
        rw [mem_singleton.mp member]
        rfl
      cases verification with
      | threw | threwUnknown => exact meets_pure ⟨_, _, rfl, rfl, unspawned⟩
      | returned verified error =>
        cases verified with
        | false | true => exact meets_pure ⟨_, _, rfl, rfl, unspawned⟩

theorem activateAdmitted_opens (state : State) :
    Meets env (self.activateAdmitted resource) state fun calls _ _ => Opens resource calls := by
  refine meets_bind (activateVerified_opens resource state) ?_
  rintro calls halt? between ⟨call, rest, rfl, activates, unspawned⟩
  cases halt? with
  | some halt =>
    refine meets_pure ?_
    rw [append_nil]
    exact ⟨call, rest, rfl, activates, unspawned⟩
  | none =>
    refine meets_bind ((invokeActivated_spawnless resource).meets between)
      fun more error after quiet => ?_
    refine meets_pure ?_
    rw [append_nil]
    exact ⟨call, rest ++ more, rfl, activates, unspawned.append quiet⟩

variable {calls : List (LaunchEntry State)}

theorem Activates.unspawned {resources activated : List ActivationResource} {halt? : Option Halt}
    (activates : Activates resources calls halt? activated)
    (noProcess : ∀ resource ∈ resources, resource.kind ≠ .process) :
    Unspawned calls := by
  rintro ⟨before, request, answer⟩ member
  cases request with
  | activate resource =>
    have step : Step.activated resource ∈ stepsOf calls := mem_filterMap.mpr ⟨_, member, rfl⟩
    rw [activates.steps] at step
    obtain ⟨same, isActivated, equal⟩ := mem_map.mp step
    cases equal
    exact beq_false_of_ne (noProcess resource (activates.ordered.subset isActivated))
  | _ => rfl

theorem invokePreSpawn_meets (hook : self.lifecycleHook = true) (state : State) :
    Meets env self.invokePreSpawn state fun calls refused _ =>
      Unspawned calls ∧
        (refused = none →
          ∃ error, calls = [(⟨state, .preSpawn, .returned true error⟩ : LaunchEntry State)]) := by
  unfold PlannedSeatGameInstance.invokePreSpawn
  rw [hook, Bool.not_true, if_neg Bool.false_ne_true]
  refine meets_ask fun answer middle _ => meets_pure ⟨?_, ?_⟩
  · intro call member
    rw [mem_singleton.mp member]
    rfl
  intro admitted
  cases answer with
  | threw | threwUnknown => cases admitted
  | returned succeeded error =>
    cases succeeded with
    | false => cases admitted
    | true => exact ⟨error, rfl⟩

theorem activateResource_spawned (hook : self.lifecycleHook = true) (resource : ActivationResource)
    (state : State) :
    Meets env (self.activateResource resource) state fun calls _ _ => Spawned calls := by
  by_cases isProcess : resource.kind = .process
  · unfold PlannedSeatGameInstance.activateResource
    rw [if_pos isProcess]
    refine meets_bind (invokePreSpawn_meets hook state) fun calls refused between law => ?_
    cases refused with
    | some error =>
      refine meets_pure ?_
      rw [append_nil]
      exact law.1.spawned
    | none =>
      obtain ⟨error, rfl⟩ := law.2 rfl
      refine meets_mono (activateAdmitted_opens resource between) ?_
      rintro more halt? after ⟨call, rest, rfl, _, unspawned⟩
      exact .spawn state error unspawned.spawned
  · refine meets_mono (activateResource_meets resource state) ?_
    rintro calls halt? after ⟨activated, activates⟩
    refine (activates.unspawned fun other member => ?_).spawned
    rw [mem_singleton.mp member]
    exact isProcess

theorem activateResources_spawned
    (hook : self.lifecycleHook = true) (resources : List ActivationResource)
    (state : State) :
    Meets env (self.activateResources resources) state fun calls _ _ => Spawned calls := by
  induction resources generalizing state with
  | nil => exact meets_pure .nil
  | cons resource resources ih =>
    refine meets_bind (activateResource_spawned hook resource state)
      fun calls halt? between spawned => ?_
    cases halt? with
    | some halt =>
      refine meets_pure ?_
      rw [append_nil]
      exact spawned
    | none => exact meets_mono (ih between) fun more halt? after rest => spawned.append rest

/-- Nothing is spawned, or the hook admits what is. -/
def Admitted (holder : PlannedSeatGameInstance) (calls : List (LaunchEntry State)) : Prop :=
  Unspawned calls ∨ (holder.lifecycleHook = true ∧ Spawned calls)

theorem Admitted.append {more : List (LaunchEntry State)}
    (admitted : Admitted self calls) (quiet : Unspawned more) :
    Admitted self (calls ++ more) :=
  admitted.imp (fun unspawned => unspawned.append quiet)
    fun hooked => ⟨hooked.1, hooked.2.append quiet.spawned⟩

theorem Admitted.prepend {earlier : List (LaunchEntry State)}
    (admitted : Admitted self calls) (quiet : Unspawned earlier) :
    Admitted self (earlier ++ calls) :=
  admitted.imp (fun unspawned => quiet.append unspawned)
    fun hooked => ⟨hooked.1, quiet.spawned.append hooked.2⟩

theorem activateResources_admitted {resources : List ActivationResource}
    (guarded : self.lifecycleHook = true ∨ ∀ resource ∈ resources, resource.kind ≠ .process)
    (state : State) :
    Meets env (self.activateResources resources) state fun calls _ _ => Admitted self calls := by
  rcases guarded with hook | noProcess
  · exact meets_mono (activateResources_spawned hook resources state)
      fun calls halt? after spawned => .inr ⟨hook, spawned⟩
  · refine meets_mono (activateResources_meets resources state) ?_
    rintro calls halt? after ⟨activated, activates⟩
    exact .inl (activates.unspawned noProcess)

theorem activatePrepared_admitted
    (guarded : self.lifecycleHook = true ∨ ∀ resource ∈ self.resources, resource.kind ≠ .process)
    (state : State) :
    Meets env self.activatePrepared state fun calls _ _ => Admitted self calls := by
  refine meets_bind (activateResources_admitted guarded state)
    fun calls halt? between admitted => ?_
  cases halt? with
  | some halt =>
    exact meets_mono ((halted_spawnless halt).meets between)
      fun more outcome after quiet => admitted.append quiet
  | none =>
    refine meets_bind (invokeRuntime_spawnless.meets between) fun more refused after quiet => ?_
    cases refused with
    | some error =>
      exact meets_mono ((failAndRollback_spawnless error).meets after)
        fun rest outcome last silent => admitted.append (quiet.append silent)
    | none =>
      refine meets_pure ?_
      rw [append_nil]
      exact admitted.append quiet

theorem startResources_admitted
    (guarded : self.lifecycleHook = true ∨ .process ∉ self.plan.resources)
    (state : State) :
    Meets env (self.startResources binding) state fun calls _ _ => Admitted self calls := by
  refine meets_bind
    (meets_and (prepareResources_meets { self with resources := [] } self.plan.resources state)
      ((prepareResources_spawnless binding _ _).meets state)) ?_
  rintro calls ⟨halt?, holder⟩ between ⟨⟨prepared, refused, law⟩, quiet⟩
  cases halt? with
  | some halt =>
    exact meets_mono ((halted_spawnless halt).meets between)
      fun more outcome after silent => .inl (quiet.append silent)
  | none =>
    have held : holder = { self with resources := prepared ++ refused } := law.held
    subst held
    refine meets_mono (activatePrepared_admitted ?_ between)
      fun more outcome after admitted => admitted.prepend quiet
    refine guarded.imp id fun noProcess resource member isProcess => noProcess ?_
    rw [← isProcess]
    exact law.planned.subset (mem_map_of_mem member)

theorem Admitted.neverBypassed (admitted : Admitted self calls)
    (before : State) (plan : SeatActivationPlan)
    (binding : SeatGameBinding) (error : ByteString) :
    NeverBypassed
      ((⟨before, .hookPrepare plan binding, .returned true error⟩ :
        LaunchEntry State) :: calls) := by
  have spawned : Spawned calls := admitted.elim Unspawned.spawned fun hooked => hooked.2
  exact spawned.neverBypassed before plan binding error

/-- No process is activated without the hook. -/
theorem start_neverBypassed (binding : SeatGameBinding)
    (held :
      self.lifecycleHook = true ∨ refusedUpFront self binding = true ∨
        .process ∉ self.plan.resources)
    (state : State) :
    Meets env (self.start binding) state fun calls _ _ => NeverBypassed calls := by
  have silent {outcome : PlannedSeatGameInstance.LaunchOutcome} :
      Meets env (pure outcome : LaunchProgram _) state fun calls _ _ => NeverBypassed calls :=
    meets_pure Unspawned.nil.neverBypassed
  unfold PlannedSeatGameInstance.start
  split
  · exact silent
  next sameGame =>
  split
  · exact silent
  next notStarted =>
  split
  · exact silent
  next notRequired =>
  split
  · exact silent
  next valid =>
  have called : refusedUpFront self binding = false := by
    unfold refusedUpFront
    simp_all
  have guarded : self.lifecycleHook = true ∨ .process ∉ self.plan.resources := by
    rcases held with hook | refused | noProcess
    · exact .inl hook
    · rw [called] at refused
      cases refused
    · exact .inr noProcess
  have refuses (answer : Attempt Bool) (error : ByteString) (now : State) :
      Meets env (self.prepareRefused error) now fun calls _ _ =>
        NeverBypassed
          ((⟨state, .hookPrepare self.plan binding, answer⟩ : LaunchEntry State) :: calls) := by
    refine meets_mono ((prepareRefused_spawnless error).meets now)
      fun calls outcome after quiet => ?_
    refine Unspawned.neverBypassed fun call member => ?_
    rcases mem_cons.mp member with rfl | later
    · rfl
    · exact quiet call later
  split
  · refine meets_ask fun answer middle _ => ?_
    cases answer with
    | threw | threwUnknown => exact refuses _ _ middle
    | returned prepared error =>
      cases prepared with
      | false => exact refuses _ _ middle
      | true =>
        exact meets_mono (startResources_admitted guarded middle)
          fun calls outcome after admitted => admitted.neverBypassed state self.plan binding error
  next noHook =>
    refine meets_mono (startResources_admitted guarded state) fun calls outcome after admitted => ?_
    rcases admitted with unspawned | hooked
    · exact unspawned.neverBypassed
    · exact absurd hooked.1 noHook

theorem perform_neverBypassed (operation : InstanceOperation)
    (held :
      ∀ binding, operation = .start binding →
        self.lifecycleHook = true ∨ refusedUpFront self binding = true ∨
          .process ∉ self.plan.resources)
    (state : State) :
    Meets env (self.perform operation) state fun calls _ _ => NeverBypassed calls := by
  cases operation with
  | start binding =>
    refine meets_bind (start_neverBypassed binding (held binding rfl) state)
      fun calls outcome after law => meets_pure ?_
    rw [append_nil]
    exact law
  | stop =>
    have spawnless : Spawnless (self.perform .stop) := only_bind stop_spawnless fun _ => only_pure
    exact meets_mono (spawnless.meets state) fun calls outcome after quiet => quiet.neverBypassed
  | verifyStopped =>
    have spawnless : Spawnless (self.perform .verifyStopped) :=
      only_bind verifyStopped_spawnless fun _ => only_pure
    exact meets_mono (spawnless.meets state) fun calls outcome after quiet => quiet.neverBypassed
  | running =>
    have spawnless : Spawnless (self.perform .running) :=
      only_bind running_spawnless fun _ => only_pure
    exact meets_mono (spawnless.meets state) fun calls outcome after quiet => quiet.neverBypassed

end Starts

/-- In a life of an instance with a hook, whose starts all find it, no
process is activated without it. -/
theorem hook_never_bypassed {env : Environment launchInterface State}
    {outside : State → State → Prop}
    {plan : SeatActivationPlan} {factory : Bool} {state last : State}
    {after : PlannedSeatGameInstance} {deeds : List (InstanceDeed State)}
    (life :
      Lived perform env outside { plan, factory, lifecycleHook := true } state after last deeds)
    (held : ∀ deed ∈ deeds, HookHeld deed) :
    ∀ deed ∈ deeds, NeverBypassed deed.entries := by
  refine life.invariant (fun _ _ deeds => ∀ deed ∈ deeds, NeverBypassed deed.entries) ?_ ?_ ?_ held
  · intro object operation state deeds before entries outcome after ran held
    have law := perform_neverBypassed operation held state entries outcome after ran
    intro deed member
    rcases mem_append.mp member with earlier | now
    · exact before deed earlier
    · rw [mem_singleton.mp now]
      exact law
  · intro object first last deeds before _
    exact before
  · intro deed member
    cases member

/-- A start and a stop of an instance with a hook. -/
theorem sample_hook_never_bypassed :
    (sampleInstanceDeeds [.start launchBinding, .stop]).length = 2 ∧
      ∀ deed ∈ sampleInstanceDeeds [.start launchBinding, .stop], NeverBypassed deed.entries := by
  refine ⟨by decide, hook_never_bypassed (sampleInstanceDeeds_life _) ?_⟩
  have held :
      ∀ deed ∈ sampleInstanceDeeds [.start launchBinding, .stop],
        deed.operation ≠ .stop → deed.object.lifecycleHook = true := by
    decide
  intro deed member binding starts
  refine .inl (held deed member ?_)
  rw [starts]
  exact nofun

/-- The start behind a stop goes on without the hook. -/
theorem restart_bypasses_hook :
    ¬ ∀ (env : Environment launchInterface (List ActivationResource))
        (after : PlannedSeatGameInstance)
        (last : List ActivationResource)
        (deeds : List (InstanceDeed (List ActivationResource))),
      Lived perform env Eq { plan := samplePlan, factory := true, lifecycleHook := true } []
        after last deeds →
      ∀ deed ∈ deeds, NeverBypassed deed.entries := by
  intro claim
  have guarded := claim (handled obligingResources) _ _ _
    (sampleInstanceDeeds_life [.start launchBinding, .stop, .start launchBinding])
  have prepares :
      ∀ deed ∈ sampleInstanceDeeds [.start launchBinding, .stop, .start launchBinding],
        deed.entries.any (·.request.spawns) = true →
          deed.entries.any (·.request.preparesHook) = true := by
    intro deed member spawns
    obtain ⟨call, isCall, activates⟩ := any_eq_true.mp spawns
    obtain ⟨earlier, later, split⟩ := append_of_mem isCall
    obtain ⟨first, before, error, rfl, between, plan, binding, text,
      prepared⟩ := guarded deed member earlier call later split activates
    refine any_eq_true.mpr ⟨⟨between, .hookPrepare plan binding, .returned true text⟩, ?_, rfl⟩
    rw [split]
    exact mem_append_left _ (mem_append_left _ prepared)
  revert prepares
  decide

end HydraSeat.Launch
