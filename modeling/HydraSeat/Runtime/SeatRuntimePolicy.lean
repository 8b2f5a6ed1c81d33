import HydraSeat.Foundation.Command
import HydraSeat.Runtime.WindowPolicy

/-!
# The runtime policy of a Seat

The coordinator keeps the display group, the windows and the health of every
Seat and places the windows through an executor.  The executor is an
interface with one call, so a run allows it any results.
-/

namespace HydraSeat.RuntimePolicy

open Foundation
open Foundation.Command
open Windowing

variable (state : SeatState) (described : Bool)

inductive RuntimePolicyHealth where
  | healthy | degraded | recoveryRequired
  deriving DecidableEq

inductive RuntimePolicyEventKind where
  | processTreeChanged | windowChanged | windowRemoved | displayLayoutChanged | reconcile

structure RuntimePolicyEvent where
  sequence : UInt64 := 0
  kind : RuntimePolicyEventKind := .reconcile
  seatId : UInt32 := 0
  window : Option TrackedWindow := none
  displayGroup : Option SeatDisplayGroup := none

structure RuntimePolicyAction where
  correlationId : UInt64 := 0
  seatId : UInt32 := 0
  windowIdentity : WindowIdentity := {}
  placement : WindowPlacementPlan := {}

structure RuntimePolicyActionResult where
  (succeeded retryable : Bool := false)
  diagnostic : String := ""

def policyCalls : Interface where
  Call := RuntimePolicyAction
  Answer _ := RuntimePolicyActionResult

def kMaxPolicyRetries : UInt32 := 8

def kMaxDiagnostics : Nat := 32

/-- The windows and the applied plans are ordered by the native handle. -/
structure SeatState where
  seatId : UInt32 := 0
  health : RuntimePolicyHealth := .healthy
  (lastEventSequence lastActionCorrelation : UInt64 := 0)
  actionFailures : UInt32 := 0
  displayGroup : Option SeatDisplayGroup := none
  windowPolicy : WindowPlacementPolicy := {}
  policyConfigured : Bool := false
  windows : List (UInt64 × TrackedWindow) := []
  lastAppliedPlans : List (UInt64 × WindowPlacementPlan) := []
  diagnostics : List String := []

def addDiagnostic (value : String) : SeatState :=
  if value = "" then state
  else
    { state with
      diagnostics :=
        (if state.diagnostics.length = kMaxDiagnostics then state.diagnostics.tail
        else state.diagnostics) ++ [value] }

@[simp]
theorem addDiagnostic_health (value : String) :
    (addDiagnostic state value).health = state.health := by
  unfold addDiagnostic
  split
  · rfl
  · rfl

/-- Assignment to an entry of a map ordered by its keys. -/
def setEntry {Value : Type} (key : UInt64) (value : Value) :
    List (UInt64 × Value) → List (UInt64 × Value)
  | [] => [(key, value)]
  | entry :: entries =>
    if key < entry.1 then (key, value) :: entry :: entries
    else if key = entry.1 then (key, value) :: entries
    else entry :: setEntry key value entries

def eraseEntry {Value : Type} (key : UInt64)
    (entries : List (UInt64 × Value)) : List (UInt64 × Value) :=
  entries.filter (·.1 != key)

def samePlan (left right : WindowPlacementPlan) : Bool :=
  left.valid == right.valid && left.actionable == right.actionable &&
    left.borderless == right.borderless &&
    left.leaveNative == right.leaveNative &&
    left.degraded == right.degraded &&
    left.desiredRect == right.desiredRect &&
    left.targetOutputId == right.targetOutputId

/-- What the `switch` over the kind of an event does to its Seat.  An error
text ends the call, as does an ignored event. -/
inductive Payload where
  | refused (error : String) (state : SeatState)
  | ignored (state : SeatState)
  | applied (state : SeatState)

/-- A payload that needs recovery.  Without an error string of the caller
the diagnostic is a shorter text. -/
def refuse (state : SeatState) (error short : String) : Payload :=
  .refused error
    (addDiagnostic { state with health := .recoveryRequired } (if described then error else short))

def eventWindow (event : RuntimePolicyEvent) : Option TrackedWindow :=
  event.window.filter fun window => window.seatId == event.seatId && window.identity.valid

def applyWindowChanged (state : SeatState) (event : RuntimePolicyEvent) : Payload :=
  match eventWindow event with
  | none =>
    refuse described state "window-change event has invalid or cross-Seat identity"
      "invalid window-change event"
  | some window =>
    let handle := window.identity.nativeHandle
    let store (state : SeatState) : Payload := .applied
      { state with windows := setEntry handle window state.windows }
    match state.windows.lookup handle with
    | none => store state
    | some existing =>
      if existing.identity.sameInstance window.identity then store state
      else if window.identity.trackerGeneration < existing.identity.trackerGeneration then
        .ignored
          { addDiagnostic state "stale window-change identity ignored after HWND reuse"
            with lastEventSequence := event.sequence }
      else if window.identity.trackerGeneration = existing.identity.trackerGeneration then
        refuse described state
          ("window-change identity conflicts within one tracker " ++ "generation")
          "conflicting window-change identity"
      else store { state with lastAppliedPlans := eraseEntry handle state.lastAppliedPlans }

def applyWindowRemoved (state : SeatState) (event : RuntimePolicyEvent) : Payload :=
  match eventWindow event with
  | none =>
    refuse described state "window-remove event has invalid or cross-Seat identity"
      "invalid window-remove event"
  | some window =>
    let handle := window.identity.nativeHandle
    match state.windows.lookup handle with
    | none => .applied state
    | some existing =>
      if existing.identity.sameInstance window.identity then
        .applied
          { state with
            windows := eraseEntry handle state.windows
            lastAppliedPlans := eraseEntry handle state.lastAppliedPlans }
      else if window.identity.trackerGeneration < existing.identity.trackerGeneration then
        .ignored
          { addDiagnostic state "stale window-remove identity ignored after HWND reuse"
            with lastEventSequence := event.sequence }
      else
        refuse described state
          ("window-remove identity conflicts with current HWND " ++ "ownership")
          "conflicting window-remove identity"

def applyDisplayLayoutChanged (state : SeatState) (event : RuntimePolicyEvent) : Payload :=
  match event.displayGroup.filter (·.seatId == event.seatId) with
  | none =>
    refuse described state "display-layout event has invalid or cross-Seat group"
      "invalid display-layout event"
  | some group => .applied { state with displayGroup := some group }

def applyPayload (state : SeatState) (event : RuntimePolicyEvent) : Payload :=
  match event.kind with
  | .windowChanged => applyWindowChanged described state event
  | .windowRemoved => applyWindowRemoved described state event
  | .displayLayoutChanged => applyDisplayLayoutChanged described state event
  | .processTreeChanged | .reconcile => .applied state

/-- What a reconciliation returns: the value of the function, the text it
writes, the Seat, and the next correlation. -/
structure Reconciled where
  accepted : Bool
  error : Option String := none
  state : SeatState
  nextCorrelationId : UInt64

/-- One attempt and the retries left after it. -/
def attemptAction (action : RuntimePolicyAction) :
    Nat → Command policyCalls RuntimePolicyActionResult
  | 0 => @ask policyCalls action
  | retries + 1 => do
      let result ← @ask policyCalls action
      if result.succeeded || !result.retryable then pure result
      else attemptAction action retries

def failAction (result : RuntimePolicyActionResult) : SeatState :=
  addDiagnostic
    { state with
      actionFailures :=
        if state.actionFailures = 0xffffffff then state.actionFailures
        else state.actionFailures + 1
      health :=
        if result.retryable then .degraded else .recoveryRequired }
    (if result.diagnostic = "" then "runtime policy action failed"
      else result.diagnostic)

def rejectPlan (plan : WindowPlacementPlan) : SeatState :=
  addDiagnostic { state with health := .recoveryRequired }
    (plan.diagnostics.headD "window placement plan rejected")

/-- A degraded plan only shows in the health of a healthy Seat. -/
def notePlan (plan : WindowPlacementPlan) : SeatState :=
  if plan.degraded && state.health == .healthy then
    { state with health := .degraded }
  else state

def alreadyApplied (handle : UInt64) (plan : WindowPlacementPlan) : Bool :=
  (state.lastAppliedPlans.lookup handle).any (samePlan · plan)

/-- The loop over the windows of the Seat. -/
def reconcileWindows (maxRetryCount : UInt32) (group : SeatDisplayGroup)
    (state : SeatState) (nextCorrelationId : UInt64) :
    List (UInt64 × TrackedWindow) → Command policyCalls Reconciled
  | [] => pure { accepted := true, state := state, nextCorrelationId := nextCorrelationId }
  | (handle, window) :: windows =>
    let plan := computeWindowPlacementPlan window group state.windowPolicy
    if plan.valid = false then
      let rejected := rejectPlan state plan
      pure
        { accepted := false, error := rejected.diagnostics.getLast?, state := rejected
          nextCorrelationId := nextCorrelationId }
    else
      let noted := notePlan state plan
      if !plan.actionable || plan.leaveNative || alreadyApplied noted handle plan then
        reconcileWindows maxRetryCount group noted nextCorrelationId windows
      else do
        let action : RuntimePolicyAction :=
          { correlationId := nextCorrelationId, seatId := noted.seatId
            windowIdentity := window.identity, placement := plan }
        let correlated :=
          { noted with lastActionCorrelation := nextCorrelationId }
        let result ← attemptAction action maxRetryCount.toNat
        if result.succeeded then
          reconcileWindows maxRetryCount group
            { correlated with
              lastAppliedPlans := setEntry handle plan correlated.lastAppliedPlans }
            (nextCorrelationId + 1) windows
        else
          let failed := failAction correlated result
          pure
            { accepted := result.retryable, error := failed.diagnostics.getLast?, state := failed
              nextCorrelationId := nextCorrelationId + 1 }

/-- The health that the display group of the Seat gives it. -/
def noteGroup (group : SeatDisplayGroup) : SeatState :=
  if group.outputs.isEmpty || group.degraded then
    addDiagnostic { state with health := .degraded } "Seat display group is degraded"
  else if state.health ≠ .recoveryRequired then
    { state with health := .healthy }
  else state

def reconcile (maxRetryCount : UInt32) (state : SeatState)
    (nextCorrelationId : UInt64) : Command policyCalls Reconciled :=
  match state.displayGroup with
  | none =>
    pure
      { accepted := true
        state := addDiagnostic { state with health := .degraded } "Seat display group is unresolved"
        nextCorrelationId := nextCorrelationId }
  | some group =>
    let noted := noteGroup state group
    if noted.policyConfigured then
      reconcileWindows maxRetryCount group noted nextCorrelationId noted.windows
    else pure { accepted := true, state := noted, nextCorrelationId := nextCorrelationId }

/-- A Seat that the map does not have yet has the default state. -/
structure SeatRuntimePolicyCoordinator where
  maxRetryCount : UInt32 := 2
  seats : UInt32 → SeatState := fun _ => {}
  nextCorrelationId : UInt64 := 1

namespace SeatRuntimePolicyCoordinator

variable (coordinator : SeatRuntimePolicyCoordinator)

def make (maxRetryCount : UInt32) : SeatRuntimePolicyCoordinator where
  maxRetryCount :=
    if maxRetryCount > kMaxPolicyRetries then kMaxPolicyRetries
    else maxRetryCount

def setSeat (seatId : UInt32) (state : SeatState) : SeatRuntimePolicyCoordinator :=
  { coordinator with
    seats :=
      fun other =>
        if other = seatId then state else coordinator.seats other }

def setWindowPolicy (seatId : UInt32) (policy : WindowPlacementPolicy) :
    Except String SeatRuntimePolicyCoordinator :=
  if seatId = 0 then .error "runtime policy requires a nonzero Seat ID"
  else
    match validateWindowPlacementPolicy policy with
    | .error text => .error text
    | .ok () =>
      .ok
        (coordinator.setSeat seatId
          { coordinator.seats seatId with
            seatId := seatId, windowPolicy := policy, policyConfigured := true })

/-- What `consume` returns and writes. -/
structure Consumed where
  accepted : Bool
  error : Option String := none
  coordinator : SeatRuntimePolicyCoordinator

/-- `described` says whether the caller passes an error string. -/
def consume (described : Bool) (event : RuntimePolicyEvent) : Command policyCalls Consumed :=
  if event.seatId = 0 ∨ event.sequence = 0 then
    pure
      { accepted := false, error := some "runtime policy event requires nonzero Seat and sequence"
        coordinator := coordinator }
  else
    let state :=
      { coordinator.seats event.seatId with seatId := event.seatId }
    if event.sequence ≤ state.lastEventSequence then
      pure { accepted := true, coordinator := coordinator.setSeat event.seatId state }
    else
      match applyPayload described state event with
      | .refused error refused =>
        pure
          { accepted := false, error := some error
            coordinator := coordinator.setSeat event.seatId refused }
      | .ignored ignored =>
        pure { accepted := true, coordinator := coordinator.setSeat event.seatId ignored }
      | .applied applied => do
          let reconciled ← reconcile coordinator.maxRetryCount
            { applied with lastEventSequence := event.sequence }
            coordinator.nextCorrelationId
          pure
            { accepted := reconciled.accepted, error := reconciled.error
              coordinator :=
                { coordinator.setSeat event.seatId reconciled.state with
                  nextCorrelationId := reconciled.nextCorrelationId } }

end SeatRuntimePolicyCoordinator

end HydraSeat.RuntimePolicy
