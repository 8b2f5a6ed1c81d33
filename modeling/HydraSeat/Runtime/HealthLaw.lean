import HydraSeat.Runtime.SeatRuntimePolicy

/-!
# Recovery health over runs

A Seat that requires recovery leaves that health in two ways only: an
accepted event finds its display group missing or degraded, or the last
placement of the event fails and may be retried.
-/

namespace HydraSeat.RuntimePolicy

open Foundation
open Foundation.Command
open Windowing List SeatRuntimePolicyCoordinator

inductive PolicyCall where
  | setWindowPolicy (seatId : UInt32) (policy : WindowPlacementPolicy)
  | consume (described : Bool) (event : RuntimePolicyEvent)

/-- A call on a coordinator, with the actions that were executed and their
results. -/
inductive Step (coordinator : SeatRuntimePolicyCoordinator) :
    PolicyCall → List (Event policyCalls) → SeatRuntimePolicyCoordinator → Prop
  | policySet {seatId : UInt32} {policy : WindowPlacementPolicy}
      {after : SeatRuntimePolicyCoordinator}
      (accepted : coordinator.setWindowPolicy seatId policy = .ok after) :
      Step coordinator (.setWindowPolicy seatId policy) [] after
  | policyRefused {seatId : UInt32} {policy : WindowPlacementPolicy} {error : String}
      (refused : coordinator.setWindowPolicy seatId policy = .error error) :
      Step coordinator (.setWindowPolicy seatId policy) [] coordinator
  | consumed {described : Bool} {event : RuntimePolicyEvent} {events : List (Event policyCalls)}
      {consumed : Consumed}
      (trace : Trace (coordinator.consume described event) events consumed) :
      Step coordinator (.consume described event) events consumed.coordinator

/-- Outputs to place windows on, all of them as requested. -/
def Usable (group : Option SeatDisplayGroup) : Prop :=
  ∃ found, group = some found ∧ found.outputs.isEmpty = false ∧ found.degraded = false

/-- The last placement did not fail, or not with a result that allows a
retry. -/
def NotLeftRetryable (events : List (Event policyCalls)) : Prop :=
  ∀ last ∈ events.getLast?, last.answer.succeeded = true ∨ last.answer.retryable = false

/-- An event that its Seat, which requires recovery, accepts leaves it a
usable display group and no placement to retry. -/
def KeepsRecovery (coordinator : SeatRuntimePolicyCoordinator) :
    PolicyCall → List (Event policyCalls) → Prop
  | .setWindowPolicy _ _, _ => True
  | .consume described event, events =>
    let state :=
      { coordinator.seats event.seatId with seatId := event.seatId }
    state.health = .recoveryRequired →
      state.lastEventSequence < event.sequence →
        ∀ applied, applyPayload described state event = .applied applied →
          Usable applied.displayGroup ∧ NotLeftRetryable events

/-- A refused payload requires recovery; any other leaves the health. -/
def Payload.HealthFrom (health : RuntimePolicyHealth) : Payload → Prop
  | .refused _ state => state.health = .recoveryRequired
  | .ignored state | .applied state => state.health = health

section Payload

variable (described : Bool) (state : SeatState) (event : RuntimePolicyEvent)

theorem refuse_health (error short : String) :
    (refuse described state error short).HealthFrom state.health :=
  addDiagnostic_health _ _

theorem applyWindowChanged_health :
    (applyWindowChanged described state event).HealthFrom state.health := by
  unfold applyWindowChanged
  split
  · exact refuse_health _ _ _ _
  dsimp only
  split
  · rfl
  split
  · rfl
  split
  · exact addDiagnostic_health _ _
  · split
    · exact refuse_health _ _ _ _
    · rfl

theorem applyWindowRemoved_health :
    (applyWindowRemoved described state event).HealthFrom state.health := by
  unfold applyWindowRemoved
  split
  · exact refuse_health _ _ _ _
  dsimp only
  split
  · rfl
  split
  · rfl
  · split
    · exact addDiagnostic_health _ _
    · exact refuse_health _ _ _ _

theorem applyPayload_health : (applyPayload described state event).HealthFrom state.health := by
  unfold applyPayload
  split
  · exact applyWindowChanged_health described state event
  · exact applyWindowRemoved_health described state event
  · unfold applyDisplayLayoutChanged
    split
    · exact refuse_health _ _ _ _
    · rfl
  · rfl
  · rfl

end Payload

section Reconcile

variable {maxRetryCount : UInt32} {group : SeatDisplayGroup}
  {state : SeatState} {nextCorrelationId : UInt64}
  {events : List (Event policyCalls)} {reconciled : Reconciled}

theorem attemptAction_last {action : RuntimePolicyAction} {retries : Nat}
    {result : RuntimePolicyActionResult}
    (trace : Trace (attemptAction action retries) events result) :
    ∃ last, events.getLast? = some last ∧ last.answer = result := by
  induction retries generalizing events with
  | zero =>
    obtain ⟨answer, rest, rfl, continued⟩ := trace_call_iff.mp trace
    cases continued
    exact ⟨_, rfl, rfl⟩
  | succ retries ih =>
    obtain ⟨first, second, answer, rfl, asked, continued⟩ := trace_bind_iff.mp trace
    split at continued
    · cases continued
      obtain ⟨_, rest, rfl, answered⟩ := trace_call_iff.mp asked
      cases answered
      exact ⟨_, rfl, rfl⟩
    · obtain ⟨last, found, same⟩ := ih continued
      refine ⟨last, ?_, same⟩
      rw [getLast?_append, found]
      rfl

theorem notLeftRetryable_right {first second : List (Event policyCalls)}
    (whole : NotLeftRetryable (first ++ second)) :
    NotLeftRetryable second := by
  intro last found
  refine whole last ?_
  rw [Option.mem_def] at found ⊢
  rw [getLast?_append, found]
  rfl

theorem notePlan_recovery (plan : WindowPlacementPlan)
    (recovery : state.health = .recoveryRequired) :
    (notePlan state plan).health = .recoveryRequired := by
  unfold notePlan
  rw [recovery, if_neg (by simp)]
  exact recovery

theorem reconcileWindows_recovery {windows : List (UInt64 × TrackedWindow)}
    (recovery : state.health = .recoveryRequired)
    (settled : NotLeftRetryable events)
    (trace :
      Trace (reconcileWindows maxRetryCount group state nextCorrelationId windows)
        events reconciled) :
    reconciled.state.health = .recoveryRequired := by
  induction windows generalizing state nextCorrelationId events with
  | nil =>
    cases trace
    exact recovery
  | cons entry windows ih =>
    obtain ⟨handle, window⟩ := entry
    rw [reconcileWindows] at trace
    dsimp only at trace
    split at trace
    · cases trace
      exact addDiagnostic_health _ _
    split at trace
    · exact ih (notePlan_recovery _ recovery) settled trace
    obtain ⟨first, second, result, rfl, attempted, continued⟩ := trace_bind_iff.mp trace
    split at continued
    · refine ih ?_ (notLeftRetryable_right settled) continued
      exact notePlan_recovery _ recovery
    next failed =>
      cases continued
      obtain ⟨last, found, rfl⟩ := attemptAction_last attempted
      rw [append_nil] at settled
      have final : last.answer.retryable = false := (settled last found).resolve_left failed
      unfold failAction
      rw [addDiagnostic_health, final]
      rfl

theorem reconcile_recovery (recovery : state.health = .recoveryRequired)
    (usable : Usable state.displayGroup)
    (settled : NotLeftRetryable events)
    (trace : Trace (reconcile maxRetryCount state nextCorrelationId) events reconciled) :
    reconciled.state.health = .recoveryRequired := by
  obtain ⟨group, found, outputs, resolved⟩ := usable
  have noted : noteGroup state group = state := by
    unfold noteGroup
    rw [outputs, resolved, if_neg (by decide), if_neg (not_not.mpr recovery)]
  unfold reconcile at trace
  rw [found] at trace
  dsimp only at trace
  rw [noted] at trace
  split at trace
  · exact reconcileWindows_recovery recovery settled trace
  · cases trace
    exact recovery

end Reconcile

section Runs

variable {coordinator after : SeatRuntimePolicyCoordinator}
  {call : PolicyCall} {events : List (Event policyCalls)}
  {seatId : UInt32}
variable {event : RuntimePolicyEvent} {described : Bool} {consumed : Consumed}

theorem setSeat_seats_of_ne (coordinator : SeatRuntimePolicyCoordinator) (state : SeatState)
    {other : UInt32} (different : seatId ≠ other) :
    (coordinator.setSeat other state).seats seatId = coordinator.seats seatId :=
  if_neg different

theorem setSeat_seats_self (coordinator : SeatRuntimePolicyCoordinator) (state : SeatState) :
    (coordinator.setSeat seatId state).seats seatId = state :=
  if_pos rfl

theorem setWindowPolicy_health {policy : WindowPlacementPolicy} {configured : UInt32}
    (accepted : coordinator.setWindowPolicy configured policy = .ok after) :
    (after.seats seatId).health = (coordinator.seats seatId).health := by
  unfold setWindowPolicy at accepted
  split at accepted
  · cases accepted
  split at accepted
  · cases accepted
  · obtain rfl := Except.ok.inj accepted
    by_cases same : seatId = configured
    · rw [← same, setSeat_seats_self]
    · rw [setSeat_seats_of_ne _ _ same]

theorem consume_others (trace : Trace (coordinator.consume described event) events consumed)
    (different : seatId ≠ event.seatId) :
    consumed.coordinator.seats seatId = coordinator.seats seatId := by
  unfold consume at trace
  split at trace
  · cases trace
    rfl
  dsimp only at trace
  split at trace
  · cases trace
    exact setSeat_seats_of_ne _ _ different
  split at trace
  · cases trace
    exact setSeat_seats_of_ne _ _ different
  · cases trace
    exact setSeat_seats_of_ne _ _ different
  · obtain ⟨_, _, _, _, _, returned⟩ := trace_bind_iff.mp trace
    cases returned
    exact setSeat_seats_of_ne _ _ different

theorem consume_recovery (trace : Trace (coordinator.consume described event) events consumed)
    (keeps : KeepsRecovery coordinator (.consume described event) events)
    (recovery : (coordinator.seats event.seatId).health = .recoveryRequired) :
    (consumed.coordinator.seats event.seatId).health = .recoveryRequired := by
  have payload := applyPayload_health described
    { coordinator.seats event.seatId with seatId := event.seatId } event
  unfold consume at trace
  split at trace
  · cases trace
    exact recovery
  dsimp only at trace
  split at trace
  · cases trace
    rw [setSeat_seats_self]
    exact recovery
  next later =>
    split at trace
    next error refused isRefused =>
      cases trace
      rw [isRefused] at payload
      rw [setSeat_seats_self]
      exact payload
    next ignored isIgnored =>
      cases trace
      rw [isIgnored] at payload
      rw [setSeat_seats_self]
      exact payload.trans recovery
    next applied isApplied =>
      obtain ⟨first, second, reconciled, rfl, reconciling, returned⟩ := trace_bind_iff.mp trace
      cases returned
      rw [isApplied] at payload
      rw [append_nil] at keeps
      obtain ⟨usable, settled⟩ := keeps recovery (UInt64.not_le.mp later) applied isApplied
      dsimp only
      rw [setSeat_seats_self]
      refine reconcile_recovery ?_ ?_ settled reconciling
      · exact payload.trans recovery
      · exact usable

theorem step_recovery (step : Step coordinator call events after)
    (keeps : KeepsRecovery coordinator call events)
    (recovery : (coordinator.seats seatId).health = .recoveryRequired) :
    (after.seats seatId).health = .recoveryRequired := by
  cases step with
  | policySet accepted => exact (setWindowPolicy_health accepted).trans recovery
  | policyRefused => exact recovery
  | @consumed described event _ consumed trace =>
    by_cases same : seatId = event.seatId
    · subst same
      exact consume_recovery trace keeps recovery
    · rw [consume_others trace same]
      exact recovery

/-- Along calls that keep recovery, a Seat that requires recovery goes on
requiring it, whatever the executor answers. -/
theorem recovery_sticky
    (run :
      Relation.ReflTransGen
        (fun before after =>
          ∃ call events, Step before call events after ∧ KeepsRecovery before call events)
        coordinator after)
    (recovery : (coordinator.seats seatId).health = .recoveryRequired) :
    (after.seats seatId).health = .recoveryRequired := by
  induction run with
  | refl => exact recovery
  | tail _ last ih =>
    obtain ⟨call, events, step, keeps⟩ := last
    exact step_recovery step keeps ih

end Runs

def layoutEvent (sequence : UInt64) (displayGroup : Option SeatDisplayGroup) :
    RuntimePolicyEvent where
  sequence := sequence
  kind := .displayLayoutChanged
  seatId := 1
  displayGroup := displayGroup

def oneOutput (degraded : Bool) : SeatDisplayGroup where
  seatId := 1
  outputs := [{ outputId := "output" }]
  degraded := degraded

/-- No event below has a window to place. -/
def unasked (_ : Unit) (action : policyCalls.Call) : policyCalls.Answer action × Unit :=
  (({} : RuntimePolicyActionResult), ())

def afterEvent (coordinator : SeatRuntimePolicyCoordinator)
    (event : RuntimePolicyEvent) : SeatRuntimePolicyCoordinator :=
  (record unasked (coordinator.consume true event) ()).1.coordinator

theorem step_afterEvent (coordinator : SeatRuntimePolicyCoordinator) (event : RuntimePolicyEvent) :
    Step coordinator (.consume true event) (record unasked (coordinator.consume true event) ()).2
      (afterEvent coordinator event) :=
  .consumed (record_trace unasked _ ())

def recovering : SeatRuntimePolicyCoordinator := afterEvent (.make 2) (layoutEvent 1 none)

theorem recovering_kept :
    ((afterEvent recovering
      (layoutEvent 1 (some (oneOutput false)))).seats 1).health = .recoveryRequired := by
  refine recovery_sticky (.single ⟨_, _, step_afterEvent _ _, ?_⟩) rfl
  intro _ _ applied isApplied
  obtain rfl := Payload.applied.inj isApplied
  exact ⟨⟨oneOutput false, rfl, rfl, rfl⟩, nofun⟩

/-- A degraded layout and then a whole one make the Seat healthy. -/
theorem recovery_lost :
    ¬ ∀ seatId before after,
      Relation.ReflTransGen (fun before after => ∃ call events, Step before call events after)
          (make 2) before →
        Relation.ReflTransGen (fun before after => ∃ call events, Step before call events after)
            before after →
          (before.seats seatId).health = .recoveryRequired →
            (after.seats seatId).health = .recoveryRequired := by
  intro sticky
  have lost := sticky 1 recovering
    (afterEvent (afterEvent recovering (layoutEvent 1 (some (oneOutput true))))
      (layoutEvent 2 (some (oneOutput false))))
    (.single ⟨_, _, step_afterEvent _ _⟩)
    (.tail (.single ⟨_, _, step_afterEvent _ _⟩) ⟨_, _, step_afterEvent _ _⟩)
    rfl
  revert lost
  decide

end HydraSeat.RuntimePolicy
