import HydraSeat.Reset.Working

/-!
# The registered actions

Executing the registered actions touches no file.  If it succeeds, the owner
and every action of the plan were satisfied; with a satisfied executor it
does succeed.
-/

namespace HydraSeat.Reset

open Foundation
open Foundation.Command
open Watchdog
open RollbackRegistry
open Recovery List

variable {events : List ExecutorEvent} {registration : RuntimeResetRegistration}

def executorEvent : Event resetInterface → Option ExecutorEvent
  | ⟨.prepareOwnedProcesses actions, result⟩ => some (.prepared actions result)
  | ⟨.clearPreparedOwnedProcesses, _⟩ => some .released
  | ⟨.executeAction action timeoutMilliseconds, outcome⟩ =>
    some (.performed action timeoutMilliseconds outcome)
  | _ => none

/-- Somewhere in the log the action was performed and satisfied. -/
def PerformedIn (events : List ExecutorEvent) (action : RollbackActionDescriptor) : Prop :=
  ∃ timeoutMilliseconds outcome,
    .performed action timeoutMilliseconds outcome ∈ events ∧ satisfied outcome.result = true

theorem PerformedIn.mono {more : List ExecutorEvent} {action : RollbackActionDescriptor}
    (performed : PerformedIn events action)
    (included : ∀ event ∈ events, event ∈ more) :
    PerformedIn more action := by
  obtain ⟨timeout, outcome, member, holds⟩ := performed
  exact ⟨timeout, outcome, included _ member, holds⟩

/-- The owner and every registered action were satisfied. -/
structure AllSatisfied (registration : RuntimeResetRegistration)
    (events : List ExecutorEvent) : Prop where
  owner : ∃ generation, PerformedIn events (ownerAction registration generation)
  actions : ∀ action ∈ registration.manifest.actions, PerformedIn events action

theorem AllSatisfied.append (all : AllSatisfied registration events) (more : List ExecutorEvent) :
    AllSatisfied registration (events ++ more) := by
  obtain ⟨generation, owner⟩ := all.owner
  exact ⟨⟨generation, owner.mono fun _ member => mem_append_left _ member⟩,
    fun action member => (all.actions action member).mono fun _ member => mem_append_left _ member⟩

theorem AllSatisfied.prepend (all : AllSatisfied registration events)
    (earlier : List ExecutorEvent) :
    AllSatisfied registration (earlier ++ events) := by
  obtain ⟨generation, owner⟩ := all.owner
  exact ⟨⟨generation, owner.mono fun _ member => mem_append_right _ member⟩,
    fun action member => (all.actions action member).mono fun _ member => mem_append_right _ member⟩

def Scene.log (self : Scene) (events : List ExecutorEvent) : Scene :=
  { self with executed := self.executed ++ events }

theorem scene_log_nil (scene : Scene) : scene.log [] = scene := by
  unfold Scene.log
  rw [append_nil]

theorem scene_log_log (scene : Scene) (first second : List ExecutorEvent) :
    (scene.log first).log second = scene.log (first ++ second) := by
  unfold Scene.log
  rw [append_assoc]

def RollbackCall : ResetCall → Prop
  | .steadyClockNow => True
  | .executeAction _ _ => True
  | _ => False

section Execution

variable {α : Type} {guarantee : Scene → Scene → Prop} {scene : Scene}
variable {manifest : RollbackPlanManifest}

/-- Every executor call may be logged. -/
def Logs (guarantee : Scene → Scene → Prop) (scene : Scene) : Prop :=
  ∀ events event, guarantee (scene.log events) ((scene.log events).record event)

theorem Logs.log (logs : Logs guarantee scene) (events : List ExecutorEvent) :
    Logs guarantee (scene.log events) := by
  intro more event
  rw [scene_log_log]
  exact logs (events ++ more) event

theorem Logs.record (logs : Logs guarantee scene) (event : ExecutorEvent) :
    guarantee scene (scene.record event) := by
  have first := logs [] event
  rw [scene_log_nil] at first
  exact first

theorem rollbackCalls_safe {program : ResetProgram α}
    (only : @Only resetInterface α RollbackCall program)
    (reflexive : ∀ after, guarantee after after)
    (logs : Logs guarantee scene) :
    SceneSafe guarantee
      (fun value after =>
        ∃ events, Trace program events value ∧ after = scene.log (events.filterMap executorEvent))
      program scene := by
  induction program generalizing scene with
  | done value => exact sceneSafe_pure ⟨[], .done value, (scene_log_nil _).symm⟩
  | call request next ih =>
    rintro world rfl answer after answered
    cases request with
    | steadyClockNow =>
      have same : after = world := answered
      subst same
      refine ⟨reflexive _, ?_⟩
      refine safe_mono (fun _ _ => id) ?_ (ih answer (only.2 answer) logs after rfl)
      rintro value last ⟨events, trace, logged⟩
      exact ⟨_, .call _ next answer events value trace, logged⟩
    | executeAction action timeoutMilliseconds =>
      have same : after = world.record (.performed action timeoutMilliseconds answer) := answered
      subst same
      refine ⟨logs.record _, ?_⟩
      refine safe_mono (fun _ _ => id) ?_ (ih answer (only.2 answer) (logs.log [_]) _ rfl)
      rintro value last ⟨events, trace, logged⟩
      refine ⟨_, .call _ next answer events value trace, ?_⟩
      rw [logged]
      exact scene_log_log _ [_] _
    | _ => exact only.1.elim

theorem performed_logged {action : RollbackActionDescriptor} {events : List (Event resetInterface)}
    (performed : Performed executeAction action events) :
    PerformedIn (events.filterMap executorEvent) action := by
  obtain ⟨timeout, outcome, before, during, after, rfl, trace, holds⟩ := performed
  obtain ⟨_, _, rfl, returned⟩ := trace_call_iff.mp trace
  cases returned
  refine ⟨timeout, _, ?_, holds⟩
  rw [filterMap_append, filterMap_append]
  exact mem_append_left _ (mem_append_right _ mem_cons_self)

theorem registerPlan_fresh {registry : RollbackRegistry}
    (registered : registerPlan {} manifest = .ok registry) :
    validateRollbackPlan manifest = .ok () ∧ registry = { manifest := some manifest } := by
  unfold registerPlan at registered
  split at registered
  · cases registered
  next valid => exact ⟨valid, (Except.ok.inj registered).symm⟩

theorem execute_safe (valid : validateRollbackPlan manifest = .ok ())
    (reflexive : ∀ after, guarantee after after)
    (logs : Logs guarantee scene) :
    SceneSafe guarantee
      (fun result after =>
        ∃ events, after = scene.log events ∧
          (result.1.allSatisfied = true → ∀ action ∈ manifest.actions, PerformedIn events action))
      (execute steadyClockNow executeAction { manifest := some manifest })
      scene := by
  have only :
      @Only resetInterface _ RollbackCall
        (execute steadyClockNow executeAction { manifest := some manifest }) :=
    execute_only (@only_ask resetInterface .steadyClockNow RollbackCall trivial)
      (fun action timeoutMilliseconds =>
        @only_ask resetInterface (.executeAction action timeoutMilliseconds) RollbackCall trivial) _
  refine sceneSafe_post (rollbackCalls_safe only reflexive logs) ?_
  rintro ⟨summary, registry⟩ after ⟨events, trace, rfl⟩
  refine ⟨_, rfl, ?_⟩
  intro all action member
  have required := execute_allSatisfied trace all
  exact performed_logged (execute_performed valid trace required action member)

/-- What an execution of the registered actions leaves behind. -/
def Executed (registration : RuntimeResetRegistration)
    (report : ResetExecutionReport) (scene : Scene)
    (result : Bool × ResetExecutionReport) (after : Scene) : Prop :=
  ∃ events, after = scene.log events ∧ (result.1 = true → AllSatisfied registration events) ∧
    result.2.success = report.success ∧ result.2.before = report.before

theorem executePreparedActions_safe
    (valid : validateRollbackPlan registration.manifest = .ok ())
    (reflexive : ∀ after, guarantee after after)
    (logs : Logs guarantee scene) (generation : UInt64)
    (report : ResetExecutionReport) :
    SceneSafe guarantee (Executed registration report scene)
      (executePreparedActions registration generation
        { manifest := some registration.manifest } report)
      scene := by
  refine sceneSafe_bind (sceneSafe_executeAction fun outcome => logs.record _) ?_
  rintro ownerOutcome _ rfl
  dsimp only
  split
  · exact sceneSafe_pure ⟨[_], rfl, fun impossible => (nomatch impossible), rfl, rfl⟩
  next ownerHolds =>
    rw [Bool.not_eq_eq_eq_not, Bool.not_true, Bool.not_eq_false] at ownerHolds
    refine sceneSafe_bind (execute_safe valid reflexive (logs.log [_])) ?_
    rintro ⟨summary, registry⟩ _ ⟨events, rfl, performed⟩
    dsimp only
    split
    · exact sceneSafe_pure
        ⟨_, scene_log_log _ _ _, fun impossible => (nomatch impossible), rfl, rfl⟩
    next holds =>
      rw [Bool.not_eq_eq_eq_not, Bool.not_true, Bool.not_eq_false] at holds
      refine sceneSafe_pure ⟨_, scene_log_log _ _ _, ?_, rfl, rfl⟩
      intro _
      refine ⟨⟨generation, kResetOwnerTimeoutMs, ownerOutcome,
          mem_append_left _ mem_cons_self, ownerHolds⟩, ?_⟩
      intro action member
      exact (performed holds action member).mono fun _ member => mem_append_right _ member

theorem executeRegisteredActions_safe (reflexive : ∀ after, guarantee after after)
    (logs : Logs guarantee scene)
    (registration : RuntimeResetRegistration) (generation : UInt64)
    (report : ResetExecutionReport) :
    SceneSafe guarantee (Executed registration report scene)
      (executeRegisteredActions registration generation report)
      scene := by
  have refused :
      ∀ text,
        Executed registration report scene (false, { report with diagnostic := text }) scene :=
    fun text => ⟨[], (scene_log_nil _).symm, fun impossible => (nomatch impossible), rfl, rfl⟩
  unfold executeRegisteredActions
  split
  · exact sceneSafe_pure (refused _)
  refine sceneSafe_bind (sceneSafe_queryCurrentProcess (reflexive scene)) ?_
  rintro identity _ rfl
  split
  · exact sceneSafe_pure (refused _)
  split
  · exact sceneSafe_pure (refused _)
  next registry registered =>
    obtain ⟨valid, rfl⟩ := registerPlan_fresh registered
    refine sceneSafe_bind (sceneSafe_prepareOwnedProcesses fun result => logs.record _) ?_
    rintro prepared _ rfl
    split
    · exact sceneSafe_pure ⟨[_], rfl, fun impossible => (nomatch impossible), rfl, rfl⟩
    refine sceneSafe_bind
      (executePreparedActions_safe valid reflexive (logs.log [_]) generation report) ?_
    rintro executed _ ⟨events, rfl, all, success, before⟩
    refine sceneSafe_bind
      (sceneSafe_clearPreparedOwnedProcesses ((logs.log [_]).log events |>.record _)) ?_
    rintro _ _ rfl
    refine sceneSafe_pure
      ⟨[.prepared registration.manifest.actions (.ok ())] ++ events ++ [.released], ?_,
        fun succeeded => ((all succeeded).prepend _).append _,
        success, before⟩
    rw [← scene_log_log, ← scene_log_log]
    rfl

end Execution

/-- The executor satisfies every action in time, and the reset does not run
in the owner process. -/
structure SatisfiedExecutor (answers : (request : ResetCall) → resetInterface.Answer request → Prop)
    (registration : RuntimeResetRegistration) : Prop where
  otherProcess :
    ∀ identity, answers .queryCurrentProcess identity → identity ≠ some registration.ownerProcess
  prepared : ∀ actions result, answers (.prepareOwnedProcesses actions) result → result = .ok ()
  performed :
    ∀ action timeoutMilliseconds outcome,
      answers (.executeAction action timeoutMilliseconds) outcome →
        satisfied (RollbackActionOutcome.result outcome) = true
  clock :
    ∃ start : Int, ∀ reading : Int, answers .steadyClockNow reading →
      start ≤ reading ∧
        reading < start + registration.manifest.rollbackTimeoutMilliseconds.toNat * 1000000

section Satisfied

variable {α : Type} {answers : (request : ResetCall) → resetInterface.Answer request → Prop}
  {registration : RuntimeResetRegistration} {scene : Scene}
variable {before after : World} {request : ResetCall} {program : ResetProgram α}
  {answer : resetInterface.Answer request}

theorem workingEnvironment_allowed
    (works : workingEnvironment answers before request answer after) :
    resetEnvironment before request answer after := by
  cases request with
  | journal storageCall =>
    obtain ⟨disk, stored, placed⟩ := works
    exact ⟨disk, workingDisk_allowed stored, placed⟩
  | readRegistration maxBytes => exact ⟨works.2, Or.inl works.1⟩
  | removeRegistration =>
    obtain ⟨rfl, removed⟩ := works
    exact removed
  | _ => exact works.2

theorem sceneSafe_works {guarantee : Scene → Scene → Prop} {post : α → Scene → Prop}
    (safe : SceneSafe guarantee post program scene) :
    SceneSafeIn (workingEnvironment answers) guarantee post program scene := by
  intro world same
  exact safe_environment (fun _ _ _ _ works => workingEnvironment_allowed works) (safe world same)

theorem sceneWork_and {first second : α → Scene → Prop}
    (left : SceneSafeIn (workingEnvironment answers) AnyScene first program scene)
    (right : SceneSafeIn (workingEnvironment answers) AnyScene second program scene) :
    SceneSafeIn (workingEnvironment answers) AnyScene
      (fun value after => first value after ∧ second value after)
      program scene := by
  intro world same
  exact safe_mono (fun _ _ _ => trivial) (fun _ _ => id)
    (safe_and (left world same) (right world same))

/-- The answers of a working environment to calls that touch no file. -/
def Answered (answers : (request : ResetCall) → resetInterface.Answer request → Prop) :
    (request : ResetCall) → resetInterface.Answer request → Prop
  | .journal _, _ => True
  | .readRegistration _, _ => True
  | .removeRegistration, _ => True
  | request, answer => answers request answer

theorem workingEnvironment_answered
    (works : workingEnvironment answers before request answer after) :
    Answered answers request answer := by
  cases request with
  | journal storageCall | readRegistration maxBytes | removeRegistration => trivial
  | _ => exact works.1

section

variable (satisfiedExecutor : SatisfiedExecutor answers registration)
include satisfiedExecutor

theorem execute_works (valid : validateRollbackPlan registration.manifest = .ok ()) :
    SceneSafeIn (workingEnvironment answers) AnyScene (fun result _ => result.1.allSatisfied = true)
      (execute steadyClockNow executeAction { manifest := some registration.manifest })
      scene := by
  obtain ⟨start, window⟩ := satisfiedExecutor.clock
  intro world _
  refine safe_mono (fun _ _ => id) ?_
    (safe_answers (fun _ _ _ _ works => workingEnvironment_answered works) _ world)
  rintro ⟨summary, registry⟩ after ⟨events, trace, all⟩
  refine @execute_satisfied resetInterface steadyClockNow executeAction
    (fun event => Answered answers event.request event.answer) events _
    summary registry start valid ?_ ?_ trace all
  · intro clockEvents reading read good
    obtain ⟨_, _, rfl, returned⟩ := trace_call_iff.mp read
    cases returned
    exact window _ (good _ mem_cons_self)
  · intro action timeoutMilliseconds actionEvents outcome performed good
    obtain ⟨_, _, rfl, returned⟩ := trace_call_iff.mp performed
    cases returned
    exact satisfiedExecutor.performed _ _ _ (good _ mem_cons_self)

theorem executeAction_works (action : RollbackActionDescriptor) (timeoutMilliseconds : UInt32) :
    SceneSafeIn (workingEnvironment answers) AnyScene
      (fun outcome _ => satisfied outcome.result = true)
      (executeAction action timeoutMilliseconds) scene := by
  rintro world rfl outcome _ ⟨answered, rfl⟩
  exact ⟨trivial, satisfiedExecutor.performed _ _ _ answered⟩

theorem queryCurrentProcess_works :
    SceneSafeIn (workingEnvironment answers) AnyScene
      (fun identity _ => identity ≠ some registration.ownerProcess)
      queryCurrentProcess scene := by
  rintro world rfl identity _ ⟨answered, rfl⟩
  exact ⟨trivial, satisfiedExecutor.otherProcess _ answered⟩

theorem prepareOwnedProcesses_works (actions : List RollbackActionDescriptor) :
    SceneSafeIn (workingEnvironment answers) AnyScene (fun result _ => result = .ok ())
      (prepareOwnedProcesses actions) scene := by
  rintro world rfl result _ ⟨answered, rfl⟩
  exact ⟨trivial, satisfiedExecutor.prepared _ _ answered⟩

theorem executePreparedActions_works (valid : validateRollbackPlan registration.manifest = .ok ())
    (generation : UInt64) (report : ResetExecutionReport) :
    SceneSafeIn (workingEnvironment answers) AnyScene (fun result _ => result.1 = true)
      (executePreparedActions registration generation
        { manifest := some registration.manifest } report)
      scene := by
  refine sceneSafe_bind (executeAction_works satisfiedExecutor _ _) ?_
  intro ownerOutcome after holds
  dsimp only
  rw [holds]
  refine sceneSafe_bind (execute_works satisfiedExecutor valid) ?_
  rintro ⟨summary, registry⟩ last all
  dsimp only at all ⊢
  rw [all]
  exact sceneSafe_pure rfl

theorem executeRegisteredActions_works (valid : validateRollbackPlan registration.manifest = .ok ())
    (attached : registration.attachment.isSome = true)
    (generation : UInt64) (report : ResetExecutionReport) :
    SceneSafeIn (workingEnvironment answers) AnyScene
      (fun result after => result.1 = true ∧ Executed registration report scene result after)
      (executeRegisteredActions registration generation report)
      scene := by
  refine sceneWork_and ?_
    (sceneSafe_works
      (executeRegisteredActions_safe (fun _ => trivial)
        (fun _ _ => trivial) registration generation report))
  unfold executeRegisteredActions
  rw [if_neg (by
    rw [Option.isNone_iff_eq_none]
    intro missing
    rw [missing] at attached
    cases attached)]
  have registered :
      registerPlan {} registration.manifest = .ok { manifest := some registration.manifest } := by
    unfold registerPlan
    rw [valid]
  refine sceneSafe_bind (queryCurrentProcess_works satisfiedExecutor) ?_
  intro identity _ other
  rw [if_neg other, registered]
  refine sceneSafe_bind (prepareOwnedProcesses_works satisfiedExecutor _) ?_
  rintro _ _ rfl
  refine sceneSafe_bind (executePreparedActions_works satisfiedExecutor valid generation report) ?_
  intro executed _ succeeded
  refine sceneSafe_bind (sceneSafe_works (sceneSafe_clearPreparedOwnedProcesses trivial)) ?_
  intro _ _ _
  exact sceneSafe_pure succeeded

end

end Satisfied

end HydraSeat.Reset
