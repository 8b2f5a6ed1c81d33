import HydraSeat.Watchdog.Protocol
import HydraSeat.Foundation.Command
import Mathlib.Data.List.Sort

/-!
# The rollback registry

`execute` runs the actions of the registered plan in reverse activation
order under one time budget.  It is written over any interface that offers a
steady clock, in nanoseconds, and the six methods of the executor, of which
the kind of the action picks one.
-/

namespace HydraSeat.Watchdog

open Foundation
open Foundation.Command List

inductive RollbackActionResult where
  | success | alreadySatisfied | invalidAction | identityMismatch | unsupported | timedOut | failed
  deriving DecidableEq

structure RollbackActionOutcome where
  actionId : UInt32 := 0
  kind : RollbackActionKind := .terminateOwnedProcess
  result : RollbackActionResult := .failed
  systemError : UInt32 := 0

structure RollbackExecutionSummary where
  (allSatisfied recoveryRequired : Bool := false)
  (firstFailedActionId firstSystemError : UInt32 := 0)
  outcomes : List RollbackActionOutcome := []

def makeOutcome (action : RollbackActionDescriptor) (result : RollbackActionResult) :
    RollbackActionOutcome where
  actionId := action.actionId
  kind := action.kind
  result := result

def satisfied (result : RollbackActionResult) : Bool :=
  result == .success || result == .alreadySatisfied

structure RollbackRegistry where
  manifest : Option RollbackPlanManifest := none
  completedActionIds : List UInt32 := []
  deriving DecidableEq

namespace RollbackRegistry

variable (progress : Progress) (action : RollbackActionDescriptor) (outcome : RollbackActionOutcome)

def registerPlan (self : RollbackRegistry) (manifest : RollbackPlanManifest) :
    Except String RollbackRegistry :=
  match validateRollbackPlan manifest with
  | .error text => .error text
  | .ok () =>
    match self.manifest with
    | some registered =>
      if registered = manifest then .ok self
      else .error "rollback registry is already armed with a different plan"
    | none => .ok { manifest := some manifest }

def laterFirst (left right : RollbackActionDescriptor) : Prop :=
  left.activationOrdinal ≥ right.activationOrdinal

instance : DecidableRel laterFirst := fun left right =>
  inferInstanceAs (Decidable (left.activationOrdinal ≥ right.activationOrdinal))

def ordered (manifest : RollbackPlanManifest) : List RollbackActionDescriptor :=
  manifest.actions.insertionSort laterFirst

/-- `duration_cast` to milliseconds truncates towards zero. -/
def elapsedMilliseconds (started now : Int) : Int := (now - started).tdiv 1000000

def boundedTimeout (totalBudget elapsed : Int) : UInt32 :=
  UInt32.ofNat (min action.timeoutMilliseconds.toNat (totalBudget - elapsed).toNat)

/-- The bookkeeping of the loop: the summary so far and the completed
identifiers. -/
structure Progress where
  summary : RollbackExecutionSummary := {}
  completedActionIds : List UInt32 := []

def Progress.skip : Progress :=
  { progress with
    summary :=
      { progress.summary with
        outcomes := progress.summary.outcomes ++ [outcome] } }

def Progress.complete : Progress where
  summary :=
    { progress.summary with outcomes := progress.summary.outcomes ++ [outcome] }
  completedActionIds := action.actionId :: progress.completedActionIds

def Progress.fail : Progress :=
  let first := progress.summary.firstFailedActionId = 0
  { progress with
    summary :=
      { progress.summary with
        recoveryRequired := true
        firstFailedActionId :=
          if first then action.actionId
          else progress.summary.firstFailedActionId
        firstSystemError :=
          if first then outcome.systemError
          else progress.summary.firstSystemError
        outcomes := progress.summary.outcomes ++ [outcome] } }

/-- A timeout before the call leaves `firstSystemError` alone. -/
def Progress.timeOut : Progress :=
  { progress with
    summary :=
      { progress.summary with
        recoveryRequired := true
        firstFailedActionId :=
          if progress.summary.firstFailedActionId = 0 then action.actionId
          else progress.summary.firstFailedActionId
        outcomes := progress.summary.outcomes ++ [makeOutcome action .timedOut] } }

section Execute

variable {interface : Interface} (now : Command interface Int)
  (perform : RollbackActionDescriptor → UInt32 → Command interface RollbackActionOutcome)

def executeOne (action : RollbackActionDescriptor) (timeoutMilliseconds : UInt32) :
    Command interface RollbackActionOutcome :=
  if isKnownRollbackActionKind action.kind then perform action timeoutMilliseconds
  else pure (makeOutcome action .invalidAction)

def executeAction (totalBudget started : Int) (progress : Progress)
    (action : RollbackActionDescriptor) : Command interface Progress :=
  if action.actionId ∈ progress.completedActionIds then
    pure (progress.skip (makeOutcome action .alreadySatisfied))
  else do
    let reading ← now
    let elapsed := elapsedMilliseconds started reading
    if elapsed ≥ totalBudget then pure (progress.timeOut action)
    else
      let timeoutMilliseconds := boundedTimeout action totalBudget elapsed
      if timeoutMilliseconds = 0 then pure (progress.timeOut action)
      else do
        let outcome ← executeOne perform action timeoutMilliseconds
        if satisfied outcome.result then pure (progress.complete action outcome)
        else pure (progress.fail action outcome)

def executeActions (totalBudget started : Int) (progress : Progress) :
    List RollbackActionDescriptor → Command interface Progress
  | [] => pure progress
  | action :: actions => do
      let next ← executeAction now perform totalBudget started progress action
      executeActions totalBudget started next actions

def execute (self : RollbackRegistry) :
    Command interface (RollbackExecutionSummary × RollbackRegistry) :=
  match self.manifest with
  | none => pure ({ recoveryRequired := true }, self)
  | some manifest => do
      let started ← now
      let progress ← executeActions now perform manifest.rollbackTimeoutMilliseconds.toNat started
        { completedActionIds := self.completedActionIds }
        (ordered manifest)
      pure
        ({ progress.summary with
            allSatisfied := !progress.summary.recoveryRequired &&
              progress.completedActionIds.length == manifest.actions.length },
          { self with completedActionIds := progress.completedActionIds })

end Execute

section Only

variable {interface : Interface} {allowed : interface.Call → Prop} {now : Command interface Int}
  {perform : RollbackActionDescriptor → UInt32 → Command interface RollbackActionOutcome}

theorem executeAction_only (clock : Only allowed now)
    (actions : ∀ action timeoutMilliseconds, Only allowed (perform action timeoutMilliseconds))
    (totalBudget started : Int) (progress : Progress)
    (action : RollbackActionDescriptor) :
    Only allowed (executeAction now perform totalBudget started progress action) := by
  unfold executeAction
  apply only_refused
  refine only_bind clock ?_
  intro reading
  dsimp only
  apply only_refused
  apply only_refused
  have executed :
      Only allowed
        (executeOne perform action
          (boundedTimeout action totalBudget (elapsedMilliseconds started reading))) := by
    unfold executeOne
    split
    · exact actions action _
    · exact only_pure
  refine only_bind executed ?_
  intro outcome
  split
  · exact only_pure
  · exact only_pure

theorem executeActions_only (clock : Only allowed now)
    (performs : ∀ action timeoutMilliseconds, Only allowed (perform action timeoutMilliseconds))
    (totalBudget started : Int) (progress : Progress)
    (actions : List RollbackActionDescriptor) :
    Only allowed (executeActions now perform totalBudget started progress actions) := by
  induction actions generalizing progress with
  | nil => exact only_pure
  | cons action actions ih =>
    exact only_bind (executeAction_only clock performs totalBudget started progress action) ih

theorem execute_only (clock : Only allowed now)
    (performs : ∀ action timeoutMilliseconds, Only allowed (perform action timeoutMilliseconds))
    (self : RollbackRegistry) :
    Only allowed (self.execute now perform) := by
  unfold execute
  split
  · exact only_pure
  · refine only_bind clock ?_
    intro started
    exact only_bind (executeActions_only clock performs _ started _ _) fun progress => only_pure

end Only

section Performed

variable {interface : Interface} {now : Command interface Int}
  {perform : RollbackActionDescriptor → UInt32 → Command interface RollbackActionOutcome}
variable {action : RollbackActionDescriptor} {totalBudget started : Int}
  {actions : List RollbackActionDescriptor} {actionIds ordinals : List UInt32}
  {maximum final : UInt32} {manifest : RollbackPlanManifest} {self after : RollbackRegistry}
  {summary : RollbackExecutionSummary}

/-- Somewhere in the events the action was performed and satisfied. -/
def Performed
    (perform : RollbackActionDescriptor → UInt32 → Command interface RollbackActionOutcome)
    (action : RollbackActionDescriptor)
    (events : List (Event interface)) : Prop :=
  ∃ timeoutMilliseconds outcome before during after,
    events = before ++ during ++ after ∧ Trace (perform action timeoutMilliseconds) during outcome ∧
      satisfied outcome.result = true

variable {events : List (Event interface)}

theorem Performed.append_left
    (performed : Performed perform action events)
    (earlier : List (Event interface)) :
    Performed perform action (earlier ++ events) := by
  obtain ⟨timeout, outcome, before, during, after, rfl, trace, holds⟩ := performed
  exact ⟨timeout, outcome, earlier ++ before, during, after, by simp, trace, holds⟩

theorem Performed.append_right
    (performed : Performed perform action events)
    (later : List (Event interface)) :
    Performed perform action (events ++ later) := by
  obtain ⟨timeout, outcome, before, during, after, rfl, trace, holds⟩ := performed
  exact ⟨timeout, outcome, before, during, after ++ later, by simp, trace, holds⟩

/-- One round of the loop: it fails, or it skips a completed action, or it
performs the action and completes it. -/
theorem executeAction_trace {progress next : Progress}
    (trace : Trace (executeAction now perform totalBudget started progress action) events next) :
    (next.summary.recoveryRequired = true ∧
        next.completedActionIds = progress.completedActionIds) ∨
      (action.actionId ∈ progress.completedActionIds ∧
        next.summary.recoveryRequired = progress.summary.recoveryRequired ∧
        next.completedActionIds = progress.completedActionIds) ∨
      (Performed perform action events ∧
        next.summary.recoveryRequired = progress.summary.recoveryRequired ∧
        next.completedActionIds = action.actionId :: progress.completedActionIds) := by
  unfold executeAction at trace
  split at trace
  next completed =>
    cases trace
    exact Or.inr (Or.inl ⟨completed, rfl, rfl⟩)
  · obtain ⟨clock, rest, reading, rfl, _, continued⟩ := trace_bind_iff.mp trace
    dsimp only at continued
    split at continued
    · cases continued
      exact Or.inl ⟨rfl, rfl⟩
    split at continued
    · cases continued
      exact Or.inl ⟨rfl, rfl⟩
    obtain ⟨during, after, outcome, rfl, executed, last⟩ := trace_bind_iff.mp continued
    split at last
    next holds =>
      obtain ⟨_, rfl⟩ := trace_pure_iff.mp last
      refine Or.inr (Or.inr ⟨?_, rfl, rfl⟩)
      unfold executeOne at executed
      split at executed
      · exact ⟨_, outcome, clock, during, after, by simp, executed, holds⟩
      · cases executed
        cases holds
    · cases last
      exact Or.inl ⟨rfl, rfl⟩

/-- A failure is never taken back by a later round. -/
theorem executeActions_failed {progress final : Progress}
    (failed : progress.summary.recoveryRequired = true)
    (trace : Trace (executeActions now perform totalBudget started progress actions) events final) :
    final.summary.recoveryRequired = true := by
  induction actions generalizing progress events with
  | nil =>
    cases trace
    exact failed
  | cons action actions ih =>
    obtain ⟨first, rest, next, _, round, continued⟩ := trace_bind_iff.mp trace
    refine ih ?_ continued
    rcases executeAction_trace round with
      ⟨required, _⟩ | ⟨_, same, _⟩ | ⟨_, same, _⟩
    · exact required
    · exact same.trans failed
    · exact same.trans failed

theorem executeActions_performed {progress final : Progress}
    (unique : (actions.map (·.actionId)).Nodup)
    (fresh : ∀ action ∈ actions, action.actionId ∉ progress.completedActionIds)
    (trace : Trace (executeActions now perform totalBudget started progress actions) events final)
    (succeeded : final.summary.recoveryRequired = false) :
    ∀ action ∈ actions, Performed perform action events := by
  induction actions generalizing progress events with
  | nil =>
    intro action member
    cases member
  | cons head actions ih =>
    obtain ⟨first, rest, next, rfl, round, continued⟩ := trace_bind_iff.mp trace
    obtain ⟨headFresh, tailUnique⟩ := nodup_cons.mp unique
    rcases executeAction_trace round with
      ⟨required, _⟩ | ⟨completed, _⟩ | ⟨performed, _, completedNow⟩
    · rw [executeActions_failed required continued] at succeeded
      cases succeeded
    · exact absurd completed (fresh head mem_cons_self)
    have tailPerformed :=
      ih tailUnique (by
        intro action member
        rw [completedNow, mem_cons, not_or]
        constructor
        · intro same
          exact headFresh (mem_map.mpr ⟨action, member, same⟩)
        · exact fresh action (mem_cons_of_mem head member))
        continued
    intro action member
    rcases mem_cons.mp member with rfl | later
    · exact performed.append_right rest
    · exact (tailPerformed action later).append_left first

/-- What the loop of the plan validation checks of its first action. -/
structure SoundAction (actionIds ordinals : List UInt32)
    (action : RollbackActionDescriptor) : Prop where
  actionId : action.actionId ≠ 0
  generation : action.generation ≠ 0
  freshId : action.actionId ∉ actionIds
  freshOrdinal : action.activationOrdinal ∉ ordinals
  known : isKnownRollbackActionKind action.kind = true
  timeout : kWatchdogMinActionTimeoutMs ≤ action.timeoutMilliseconds

theorem validateRollbackActions_cons
    (valid : validateRollbackActions actionIds ordinals maximum (action :: actions) = .ok final) :
    SoundAction actionIds ordinals action ∧
      ∃ longer,
        validateRollbackActions (action.actionId :: actionIds)
            (action.activationOrdinal :: ordinals) longer actions =
          .ok final := by
  rw [validateRollbackActions] at valid
  obtain ⟨identified, valid⟩ := not_taken valid nofun
  obtain ⟨distinct, valid⟩ := not_taken valid nofun
  obtain ⟨known, valid⟩ := not_taken valid nofun
  obtain ⟨timed, valid⟩ := not_taken valid nofun
  split at valid
  · cases valid
  rw [not_or] at identified distinct timed
  rw [not_or] at identified
  rw [Bool.not_eq_eq_eq_not, Bool.not_true, Bool.not_eq_false] at known
  exact ⟨⟨identified.1, identified.2.2, distinct.1, distinct.2,
    known, UInt32.not_lt.mp timed.1⟩, _, valid⟩

section

variable (valid : validateRollbackActions actionIds ordinals maximum actions = .ok final)
include valid

theorem validateRollbackActions_sound :
    ∀ action ∈ actions, SoundAction actionIds ordinals action := by
  induction actions generalizing actionIds ordinals maximum with
  | nil =>
    intro action member
    cases member
  | cons head actions ih =>
    obtain ⟨sound, longer, rest⟩ := validateRollbackActions_cons valid
    intro action member
    rcases mem_cons.mp member with rfl | later
    · exact sound
    · have tail := ih rest action later
      exact ⟨tail.actionId, tail.generation, fun old => tail.freshId (mem_cons_of_mem _ old),
        fun old => tail.freshOrdinal (mem_cons_of_mem _ old),
        tail.known, tail.timeout⟩

theorem validateRollbackActions_nodup :
    (actions.map (·.actionId)).Nodup ∧ (actions.map (·.activationOrdinal)).Nodup := by
  induction actions generalizing actionIds ordinals maximum with
  | nil => exact ⟨nodup_nil, nodup_nil⟩
  | cons action actions ih =>
    obtain ⟨_, longer, rest⟩ := validateRollbackActions_cons valid
    obtain ⟨tailIds, tailOrdinals⟩ := ih rest
    have sound := validateRollbackActions_sound rest
    constructor
    · refine nodup_cons.mpr ⟨?_, tailIds⟩
      intro repeated
      obtain ⟨other, member, same⟩ := mem_map.mp repeated
      exact (sound other member).freshId (same ▸ mem_cons_self)
    · refine nodup_cons.mpr ⟨?_, tailOrdinals⟩
      intro repeated
      obtain ⟨other, member, same⟩ := mem_map.mp repeated
      exact (sound other member).freshOrdinal (same ▸ mem_cons_self)

end

/-- What validation says about a plan. -/
structure ValidPlan (manifest : RollbackPlanManifest) : Prop where
  session : isZeroSessionId manifest.lease.sessionId = false
  generation : manifest.lease.generation ≠ 0
  timeout : leaseTimeoutInRange manifest.lease.timeoutMilliseconds = true
  actionCount : manifest.actions.length ≤ kWatchdogMaxRollbackActions
  actionIds : (manifest.actions.map (·.actionId)).Nodup
  ordinals : (manifest.actions.map (·.activationOrdinal)).Nodup
  actions : ∀ action ∈ manifest.actions, SoundAction [] [] action

theorem validPlan (valid : validateRollbackPlan manifest = .ok ()) : ValidPlan manifest := by
  unfold validateRollbackPlan at valid
  obtain ⟨session, valid⟩ := not_taken valid nofun
  obtain ⟨generation, valid⟩ := not_taken valid nofun
  obtain ⟨timeout, valid⟩ := not_taken valid nofun
  obtain ⟨_, valid⟩ := not_taken valid nofun
  split at valid
  · cases valid
  next counted =>
    split at valid
    · cases valid
    next actions =>
      rw [not_or] at counted
      rw [Bool.not_eq_true] at session
      rw [Bool.not_eq_eq_eq_not, Bool.not_true, Bool.not_eq_false] at timeout
      exact ⟨session, generation, timeout, Nat.not_lt.mp counted.2,
        (validateRollbackActions_nodup actions).1,
        (validateRollbackActions_nodup actions).2,
        validateRollbackActions_sound actions⟩

theorem execute_manifest
    (trace : Trace (execute now perform self) events (summary, after)) :
    after.manifest = self.manifest := by
  unfold execute at trace
  split at trace
  · obtain ⟨_, same⟩ := trace_pure_iff.mp trace
    exact (congrArg (·.2.manifest) same).symm
  · obtain ⟨_, _, _, _, _, continued⟩ := trace_bind_iff.mp trace
    obtain ⟨_, _, _, _, _, returned⟩ := trace_bind_iff.mp continued
    obtain ⟨_, same⟩ := trace_pure_iff.mp returned
    exact (congrArg (·.2.manifest) same).symm

theorem execute_allSatisfied
    (trace : Trace (execute now perform self) events (summary, after))
    (all : summary.allSatisfied = true) :
    summary.recoveryRequired = false := by
  unfold execute at trace
  split at trace
  · obtain ⟨_, same⟩ := trace_pure_iff.mp trace
    rw [← congrArg (·.1.allSatisfied) same] at all
    cases all
  obtain ⟨_, _, _, _, _, continued⟩ := trace_bind_iff.mp trace
  obtain ⟨_, _, progress, _, _, returned⟩ := trace_bind_iff.mp continued
  obtain ⟨_, same⟩ := trace_pure_iff.mp returned
  rw [← congrArg (·.1.allSatisfied) same] at all
  rw [← congrArg (·.1.recoveryRequired) same]
  dsimp only at all ⊢
  rw [Bool.and_eq_true, Bool.not_eq_eq_eq_not, Bool.not_true] at all
  exact all.1

/-- An execution of a freshly registered valid plan that asks for no
recovery performed and satisfied every action of the plan. -/
theorem execute_performed
    (valid : validateRollbackPlan manifest = .ok ())
    (trace : Trace (execute now perform { manifest := some manifest }) events (summary, after))
    (succeeded : summary.recoveryRequired = false) :
    ∀ action ∈ manifest.actions, Performed perform action events := by
  obtain ⟨clock, rest, started, rfl, _, continued⟩ := trace_bind_iff.mp trace
  obtain ⟨during, last, progress, rfl, rounds, returned⟩ := trace_bind_iff.mp continued
  obtain ⟨rfl, same⟩ := trace_pure_iff.mp returned
  have permuted : (ordered manifest).Perm manifest.actions := perm_insertionSort _ _
  have unique : ((ordered manifest).map (·.actionId)).Nodup :=
    (permuted.map _).nodup_iff.mpr (validPlan valid).actionIds
  have required : progress.summary.recoveryRequired = false :=
    (congrArg (·.1.recoveryRequired) same).trans succeeded
  intro action member
  have performed := executeActions_performed unique (fun _ _ => not_mem_nil)
    rounds required action (permuted.mem_iff.mpr member)
  rw [append_nil]
  exact performed.append_left clock

end Performed

section Satisfied

variable {interface : Interface} {now : Command interface Int}
  {perform : RollbackActionDescriptor → UInt32 → Command interface RollbackActionOutcome}
  {good : Event interface → Prop}
variable {action : RollbackActionDescriptor} {totalBudget started : Int}

theorem elapsedMilliseconds_lt {reading budget : Int} (positive : 0 < budget)
    (early : reading - started < budget * 1000000) :
    elapsedMilliseconds started reading < budget := by
  unfold elapsedMilliseconds
  rcases Int.le_total 0 (reading - started) with later | earlier
  · rw [Int.tdiv_eq_ediv_of_nonneg later]
    exact Int.ediv_lt_of_lt_mul (by decide) early
  · have none : (reading - started).tdiv 1000000 ≤ (0 : Int).tdiv 1000000 :=
      Int.tdiv_le_tdiv (by decide) earlier
    rw [Int.zero_tdiv] at none
    exact Int.lt_of_le_of_lt none positive

theorem boundedTimeout_ne_zero {elapsed : Int}
    (timeout : kWatchdogMinActionTimeoutMs ≤ action.timeoutMilliseconds)
    (onTime : elapsed < totalBudget) :
    boundedTimeout action totalBudget elapsed ≠ 0 := by
  intro zero
  have positive : 10 ≤ action.timeoutMilliseconds.toNat := UInt32.le_iff_toNat_le.mp timeout
  have bounded := action.timeoutMilliseconds.toNat_lt
  have wrapped := congrArg UInt32.toNat zero
  unfold boundedTimeout at wrapped
  rw [UInt32.toNat_ofNat_of_lt'] at wrapped
  · change _ = 0 at wrapped
    omega
  · change _ < 2 ^ 32
    omega

variable {events : List (Event interface)}

theorem executeAction_satisfied {progress next : Progress}
    (sound : SoundAction [] [] action)
    (fresh : action.actionId ∉ progress.completedActionIds)
    (onTime :
      ∀ events reading, Trace now events reading →
        (∀ event ∈ events, good event) → elapsedMilliseconds started reading < totalBudget)
    (performs :
      ∀ timeoutMilliseconds events outcome,
        Trace (perform action timeoutMilliseconds) events outcome →
          (∀ event ∈ events, good event) → satisfied outcome.result = true)
    (trace : Trace (executeAction now perform totalBudget started progress action) events next)
    (all : ∀ event ∈ events, good event) :
    next.summary.recoveryRequired = progress.summary.recoveryRequired ∧
      next.completedActionIds = action.actionId :: progress.completedActionIds := by
  unfold executeAction at trace
  rw [if_neg fresh] at trace
  obtain ⟨clock, rest, reading, rfl, read, continued⟩ := trace_bind_iff.mp trace
  have early := onTime clock reading read fun event member => all event (mem_append_left _ member)
  dsimp only at continued
  rw [if_neg (Int.not_le.mpr early),
    if_neg (boundedTimeout_ne_zero sound.timeout early)] at continued
  obtain ⟨during, after, outcome, rfl, executed, last⟩ := trace_bind_iff.mp continued
  unfold executeOne at executed
  rw [if_pos sound.known] at executed
  have holds :=
    performs _ during outcome executed fun event member =>
      all event (mem_append_right _ (mem_append_left _ member))
  rw [if_pos holds] at last
  cases last
  exact ⟨rfl, rfl⟩

theorem executeActions_satisfied {progress final : Progress}
    {actions : List RollbackActionDescriptor}
    (sound : ∀ action ∈ actions, SoundAction [] [] action)
    (unique : (actions.map (·.actionId)).Nodup)
    (fresh : ∀ action ∈ actions, action.actionId ∉ progress.completedActionIds)
    (onTime :
      ∀ events reading, Trace now events reading →
        (∀ event ∈ events, good event) → elapsedMilliseconds started reading < totalBudget)
    (performs :
      ∀ action timeoutMilliseconds events outcome,
        Trace (perform action timeoutMilliseconds) events outcome →
          (∀ event ∈ events, good event) → satisfied outcome.result = true)
    (trace : Trace (executeActions now perform totalBudget started progress actions) events final)
    (all : ∀ event ∈ events, good event) :
    final.summary.recoveryRequired = progress.summary.recoveryRequired ∧
      final.completedActionIds.length = progress.completedActionIds.length + actions.length := by
  induction actions generalizing progress events with
  | nil =>
    cases trace
    exact ⟨rfl, rfl⟩
  | cons head actions ih =>
    obtain ⟨first, rest, next, rfl, round, continued⟩ := trace_bind_iff.mp trace
    obtain ⟨headFresh, tailUnique⟩ := nodup_cons.mp unique
    obtain ⟨required, completed⟩ := executeAction_satisfied (sound head mem_cons_self)
      (fresh head mem_cons_self) onTime (performs head) round
      fun event member => all event (mem_append_left _ member)
    obtain ⟨laterRequired, laterCompleted⟩ := ih
      (fun action member => sound action (mem_cons_of_mem _ member))
      tailUnique (by
        intro action member
        rw [completed, mem_cons, not_or]
        refine ⟨?_, fresh action (mem_cons_of_mem _ member)⟩
        intro same
        exact headFresh (mem_map.mpr ⟨action, member, same⟩))
      continued
      fun event member => all event (mem_append_right _ member)
    refine ⟨laterRequired.trans required, ?_⟩
    rw [laterCompleted, completed, length_cons, length_cons]
    omega

/-- If every action is satisfied and the clock stays within the budget of a
valid plan, its execution satisfies the whole plan. -/
theorem execute_satisfied {manifest : RollbackPlanManifest}
    {summary : RollbackExecutionSummary} {after : RollbackRegistry}
    {start : Int}
    (valid : validateRollbackPlan manifest = .ok ())
    (onTime :
      ∀ events reading, Trace now events reading →
        (∀ event ∈ events, good event) →
          start ≤ reading ∧ reading < start + manifest.rollbackTimeoutMilliseconds.toNat * 1000000)
    (performs :
      ∀ action timeoutMilliseconds events outcome,
        Trace (perform action timeoutMilliseconds) events outcome →
          (∀ event ∈ events, good event) → satisfied outcome.result = true)
    (trace : Trace (execute now perform { manifest := some manifest }) events (summary, after))
    (all : ∀ event ∈ events, good event) :
    summary.allSatisfied = true := by
  have plan := validPlan valid
  have permuted : (ordered manifest).Perm manifest.actions := perm_insertionSort _ _
  obtain ⟨clock, rest, started, rfl, read, continued⟩ := trace_bind_iff.mp trace
  obtain ⟨during, last, progress, rfl, rounds, returned⟩ := trace_bind_iff.mp continued
  have first := onTime clock started read fun event member => all event (mem_append_left _ member)
  have early :
      ∀ events reading, Trace now events reading →
        (∀ event ∈ events, good event) →
          elapsedMilliseconds started reading < manifest.rollbackTimeoutMilliseconds.toNat := by
    intro events reading read good
    have window := onTime events reading read good
    exact elapsedMilliseconds_lt (by omega) (by omega)
  obtain ⟨required, completed⟩ := executeActions_satisfied
    (fun action member => plan.actions action (permuted.mem_iff.mp member))
    ((permuted.map _).nodup_iff.mpr plan.actionIds)
    (fun _ _ => not_mem_nil) early performs rounds
    fun event member => all event (mem_append_right _ (mem_append_left _ member))
  obtain ⟨_, same⟩ := trace_pure_iff.mp returned
  rw [← congrArg (·.1.allSatisfied) same]
  dsimp only
  rw [required, completed, permuted.length_eq, length_nil, Nat.zero_add, beq_self_eq_true]
  rfl

end Satisfied

end RollbackRegistry

end HydraSeat.Watchdog
