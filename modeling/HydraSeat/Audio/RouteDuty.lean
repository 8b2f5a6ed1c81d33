import HydraSeat.Audio.RouteTransaction

/-!
# The duty to restore an audio route

Beside a transaction a ledger is kept of the calls that the backend and the
source of observations answered.  From the first apply on it holds the state
that was captured before, until a rollback to that state has been verified.
-/

namespace HydraSeat.Audio

open Foundation List
open Foundation.Command

abbrev RouteEvent := Event routeCalls

/-- A captured state and the sessions that it was captured for. -/
abbrev Captured := BackendState × OwnedSessionEvidence

structure Ledger where
  (captured duty : Option Captured := none)
  restoring : Bool := false

/-- An observation shows that the captured sessions are where they were. -/
def restoredIn (request : RouteRequest) (captured : Captured)
    (inventory : AudioSessionInventoryResult) : Bool :=
  let observed := observedIn request inventory
  observed.failure.isNone && (verifyCapturedEndpoints captured.2 observed.evidence).isNone

namespace Ledger

variable (request : RouteRequest)

/-- A rollback counts when it succeeds for the captured state, and it is
verified by the observation behind it. -/
def note (ledger : Ledger) : RouteEvent → Ledger
  | ⟨.captureState evidence, .ok state⟩ =>
    { ledger with captured := some (state, evidence) }
  | ⟨.apply _, _⟩ => { ledger with duty := ledger.duty.or ledger.captured }
  | ⟨.rollback state, (restored, _)⟩ =>
    { ledger with restoring := restored && ledger.duty.any fun duty => duty.1 == state }
  | ⟨.enumerate, inventory⟩ =>
    { ledger with
      duty :=
        ledger.duty.filter fun duty => !(ledger.restoring && restoredIn request duty inventory)
      restoring := false }
  | _ => ledger

/-- The ledger behind the calls of one operation. -/
def after (ledger : Ledger) (events : List RouteEvent) : Ledger :=
  events.foldl (note request) { ledger with restoring := false }

end Ledger

variable {self : RouteTransaction} {ledger : Ledger}

inductive RouteOperation where
  | attempt | rollback

structure Turn where
  operation : RouteOperation
  endpoints : List AudioRenderEndpoint
  events : List RouteEvent
  message : ByteString

def RouteTransaction.operate (self : RouteTransaction)
    (operation : RouteOperation) (endpoints : List AudioRenderEndpoint) :
    Route (ByteString × RouteTransaction) :=
  match operation with
  | .attempt => self.attempt endpoints
  | .rollback => self.rollback endpoints

/-- Behind the observation an attempt does not overwrite what the transaction
knows: there is no session, or the sessions are elsewhere and the backend has
nothing to offer, captures nothing, or captures what is owed already. -/
def HarmlessBehind (duty : Captured) (evidence : OwnedSessionEvidence)
    (events : List RouteEvent) : Prop :=
  evidence.ownedSessions.isEmpty = true ∨
    evidence.allOwnedSessionsOnTarget = false ∧
      ((∃ rest, events = ⟨.capability evidence, .unsupported⟩ :: rest) ∨
        ∃ answer rest,
          events = ⟨.capability evidence, .mutable⟩ :: ⟨.captureState evidence, answer⟩ :: rest ∧
            ∀ state, answer = .ok state → (state, evidence) = duty)

/-- The request or the observation is refused, or the attempt is harmless
behind them. -/
def Harmless (self : RouteTransaction) (duty : Captured)
    (endpoints : List AudioRenderEndpoint) (events : List RouteEvent) :
    Prop :=
  validateRequest self.request endpoints ≠ none ∨ self.hasSessions = false ∨
    ∃ kind inventory rest,
      events = ⟨.kind, kind⟩ :: ⟨.enumerate, inventory⟩ :: rest ∧
        ((observedIn self.request inventory).failure ≠ none ∨
          HarmlessBehind duty (observedIn self.request inventory).evidence rest)

/-- While a route is to be restored, an attempt is harmless and a rollback is
asked for with endpoints among which the target is available. -/
def Careful (self : RouteTransaction) (ledger : Ledger) (turn : Turn) : Prop :=
  ∀ duty, ledger.duty = some duty → match turn.operation with
    | .attempt => Harmless self duty turn.endpoints turn.events
    | .rollback => validateRequest self.request turn.endpoints = none

/-- Operations one after the other, with a condition on each of them. -/
inductive Run (condition : RouteTransaction → Ledger → Turn → Prop) :
    RouteTransaction → Ledger → List Turn → RouteTransaction → Ledger → Prop
  | nil (self : RouteTransaction) (ledger : Ledger) : Run condition self ledger [] self ledger
  | cons {self middle last : RouteTransaction} {ledger final : Ledger}
      {turn : Turn} {turns : List Turn}
      (meets : condition self ledger turn)
      (ran : Trace (self.operate turn.operation turn.endpoints) turn.events (turn.message, middle))
      (rest : Run condition middle (ledger.after self.request turn.events) turns last final) :
      Run condition self ledger (turn :: turns) last final

/-- The transaction knows what the ledger says. -/
structure Accounts (transaction : RouteTransaction) (ledger : Ledger) : Prop where
  pending :
    ∀ duty, ledger.duty = some duty →
      transaction.status.mutated = true ∧ transaction.before = some duty.1 ∧
        transaction.beforeEvidence = some duty.2 ∧
        transaction.status.phase ≠ .ready
  settled : ledger.duty = none → transaction.status.mutated = false

theorem accounts_of_settled (noDuty : ledger.duty = none)
    (unmutated : self.status.mutated = false) : Accounts self ledger := by
  refine ⟨fun duty isDuty => ?_, fun _ => unmutated⟩
  rw [noDuty] at isDuty
  cases isDuty

theorem accounts_of_pending {duty : Captured} (isDuty : ledger.duty = some duty)
    (mutated : self.status.mutated = true)
    (before : self.before = some duty.1)
    (beforeEvidence : self.beforeEvidence = some duty.2)
    (notReady : self.status.phase ≠ .ready) : Accounts self ledger := by
  refine ⟨fun other isOther => ?_, fun noDuty => ?_⟩
  · rw [isDuty] at isOther
    cases isOther
    exact ⟨mutated, before, beforeEvidence, notReady⟩
  · rw [isDuty] at noDuty
    cases noDuty

/-- What the transaction knows is as before, and the route is not ready. -/
theorem Accounts.of_kept {self after : RouteTransaction} (accounts : Accounts self ledger)
    (mutated : after.status.mutated = self.status.mutated)
    (before : after.before = self.before)
    (beforeEvidence : after.beforeEvidence = self.beforeEvidence)
    (notReady : after.status.phase ≠ .ready) : Accounts after ledger := by
  refine ⟨fun duty isDuty => ?_, fun noDuty => ?_⟩
  · obtain ⟨wasMutated, isBefore, isEvidence, _⟩ := accounts.pending duty isDuty
    exact ⟨mutated.trans wasMutated, before.trans isBefore,
      beforeEvidence.trans isEvidence, notReady⟩
  · exact mutated.trans (accounts.settled noDuty)

section Steps

variable {self after : RouteTransaction} {ledger : Ledger}
  {events : List RouteEvent} {message : ByteString}
variable {captured : Captured} {evidence : OwnedSessionEvidence} {failure : Option ByteString}
  {endpoints : List AudioRenderEndpoint}

theorem observeEvidence_trace {observed : Observed}
    (trace : Trace self.observeEvidence events observed) :
    self.hasSessions = false ∧ events = [] ∧ observed = unobserved ∨
      self.hasSessions = true ∧
        ∃ inventory, events = [⟨.enumerate, inventory⟩] ∧
          observed = observedIn self.request inventory := by
  unfold RouteTransaction.observeEvidence at trace
  split at trace
  next none =>
    cases trace
    rw [Bool.not_eq_true'] at none
    exact .inl ⟨none, rfl, rfl⟩
  next some =>
    rw [Bool.not_eq_true', Bool.not_eq_false] at some
    obtain ⟨inventory, rest, rfl, behind⟩ := trace_call_iff.mp trace
    cases behind
    exact .inr ⟨some, inventory, rfl, rfl⟩

theorem note_enumerate (request : RouteRequest) (idle : ledger.restoring = false)
    (inventory : AudioSessionInventoryResult) :
    ledger.note request ⟨.enumerate, inventory⟩ = ledger := by
  obtain ⟨captured, duty, restoring⟩ := ledger
  cases idle
  have kept : (duty.filter fun _ => true) = duty := by
    cases duty <;> rfl
  exact congrArg (fun duty => Ledger.mk captured duty false) kept

theorem verifyApplied_quiet (idle : ledger.restoring = false)
    {result : OwnedSessionEvidence × Option ByteString}
    (trace : Trace self.verifyApplied events result) :
    events.foldl (Ledger.note self.request) ledger = ledger := by
  obtain ⟨first, second, observed, rfl, isObserved, behind⟩ := trace_bind_iff.mp trace
  have noMore : second = [] := by
    split at behind
    · exact (trace_pure_iff.mp behind).1
    split at behind
    · exact (trace_pure_iff.mp behind).1
    · split at behind
      · exact (trace_pure_iff.mp behind).1
      · exact (trace_pure_iff.mp behind).1
  rw [noMore, append_nil]
  rcases observeEvidence_trace isObserved with
    ⟨_, rfl, _⟩ | ⟨_, inventory, rfl, _⟩
  · rfl
  · exact note_enumerate self.request idle inventory

theorem verifyRollback_trace (isEvidence : self.beforeEvidence = some captured.2)
    (trace : Trace self.verifyRollback events (evidence, failure)) :
    events = [] ∧ failure ≠ none ∨
      ∃ inventory, events = [⟨.enumerate, inventory⟩] ∧
        (failure = none ↔ restoredIn self.request captured inventory = true) := by
  unfold RouteTransaction.verifyRollback at trace
  rw [isEvidence] at trace
  obtain ⟨first, second, observed, rfl, isObserved, behind⟩ := trace_bind_iff.mp trace
  rcases observeEvidence_trace isObserved with
    ⟨_, rfl, rfl⟩ | ⟨_, inventory, rfl, rfl⟩
  · obtain ⟨rfl, same⟩ := trace_pure_iff.mp behind
    cases same
    exact .inl ⟨rfl, nofun⟩
  refine .inr ⟨inventory, ?_⟩
  have shows :
      restoredIn self.request captured inventory =
        ((observedIn self.request inventory).failure.isNone &&
          (verifyCapturedEndpoints captured.2
            (observedIn self.request inventory).evidence).isNone) :=
    rfl
  rw [shows]
  cases isFailure : (observedIn self.request inventory).failure with
  | some failed =>
    rw [isFailure] at behind
    obtain ⟨rfl, same⟩ := trace_pure_iff.mp behind
    cases same
    refine ⟨rfl, ?_⟩
    rw [Option.isNone_some, Bool.false_and]
    exact ⟨nofun, nofun⟩
  | none =>
    rw [isFailure] at behind
    obtain ⟨rfl, same⟩ := trace_pure_iff.mp behind
    cases same
    refine ⟨rfl, ?_⟩
    rw [Option.isNone_none, Bool.true_and, Option.isNone_iff_eq_none]

section

variable (isDuty : ledger.duty = some captured)
include isDuty

/-- The rollback of the state that is owed, and the observation behind it. -/
theorem fold_restored (request : RouteRequest)
    (message : ByteString) (inventory : AudioSessionInventoryResult) :
    ([⟨.rollback captured.1, (true, message)⟩, ⟨.enumerate, inventory⟩].foldl
        (Ledger.note request) ledger).duty =
      if restoredIn request captured inventory then none
      else some captured := by
  obtain ⟨known, duty, restoring⟩ := ledger
  cases isDuty
  have same : (captured.1 == captured.1) = true := beq_self_eq_true _
  simp only [foldl_cons, foldl_nil, Ledger.note, Option.any_some,
    same, Bool.and_self, Bool.true_and, Option.filter_some]
  cases restoredIn request captured inventory <;> rfl

theorem verified_duty (isEvidence : self.beforeEvidence = some captured.2)
    (trace : Trace self.verifyRollback events (evidence, failure))
    (message : ByteString) :
    ((⟨.rollback captured.1, (true, message)⟩ :: events).foldl
        (Ledger.note self.request) ledger).duty =
      if failure = none then none else some captured := by
  rcases verifyRollback_trace isEvidence trace with
    ⟨rfl, failed⟩ | ⟨inventory, rfl, verified⟩
  · rw [if_neg failed]
    exact isDuty
  · rw [fold_restored isDuty, if_congr verified rfl rfl]

/-- A restoration that succeeds settles the duty, and one that fails keeps
it. -/
theorem restore_duty (isEvidence : self.beforeEvidence = some captured.2)
    (trace : Trace (self.restore captured.1) events (evidence, failure)) :
    (events.foldl (Ledger.note self.request) ledger).duty =
      if failure = none then none else some captured := by
  obtain ⟨⟨restored, rollbackError⟩, rest, rfl, behind⟩ := trace_call_iff.mp trace
  cases restored with
  | false =>
    obtain ⟨isRest, same⟩ := trace_pure_iff.mp behind
    cases same
    rw [isRest, if_neg nofun]
    exact isDuty
  | true => exact verified_duty isDuty isEvidence behind rollbackError

theorem undo_accounts (mutated : self.status.mutated = true)
    (isBefore : self.before = some captured.1)
    (isEvidence : self.beforeEvidence = some captured.2)
    {failure : RouteError} {cause : ByteString}
    (trace : Trace (self.undo captured.1 failure cause) events (message, after)) :
    Accounts after (events.foldl (Ledger.note self.request) ledger) := by
  obtain ⟨first, second, ⟨evidence, rollbackFailure⟩, rfl, isRestore,
    behind⟩ := trace_bind_iff.mp trace
  have duty := restore_duty isDuty isEvidence isRestore
  cases rollbackFailure with
  | none =>
    obtain ⟨rfl, same⟩ := trace_pure_iff.mp behind
    cases same
    rw [append_nil]
    exact accounts_of_settled duty rfl
  | some rollbackError =>
    obtain ⟨rfl, same⟩ := trace_pure_iff.mp behind
    cases same
    rw [append_nil]
    exact accounts_of_pending duty mutated isBefore isEvidence nofun

end

theorem attemptMutation_accounts (idle : ledger.restoring = false) (accounts : Accounts self ledger)
    (harmless :
      ∀ duty, ledger.duty = some duty → ∀ state rest,
        events = ⟨.captureState evidence, .ok state⟩ :: rest →
        (state, evidence) = duty)
    (trace : Trace (self.attemptMutation evidence) events (message, after)) :
    Accounts after (events.foldl (Ledger.note self.request) ledger) := by
  obtain ⟨answer, rest, rfl, behind⟩ := trace_call_iff.mp trace
  cases answer with
  | error reason =>
    obtain ⟨rfl, same⟩ := trace_pure_iff.mp behind
    cases same
    exact accounts.of_kept rfl rfl rfl nofun
  | ok state =>
    obtain ⟨⟨applied, applyError⟩, later, rfl, ran⟩ := trace_call_iff.mp behind
    -- from the apply on, what was captured is owed
    have isDuty :
        Ledger.duty
            { captured := some (state, evidence), duty := ledger.duty.or (some (state, evidence))
              restoring := ledger.restoring } =
          some (state, evidence) := by
      cases owed : ledger.duty with
      | none => rfl
      | some duty => exact congrArg some (harmless duty owed state _ rfl).symm
    cases applied with
    | false =>
      have undone := undo_accounts isDuty rfl rfl rfl ran
      exact undone
    | true =>
      change Trace (RouteTransaction.verifyApplied _ >>= _) later _ at ran
      obtain ⟨first, second, ⟨appliedEvidence, failure⟩, rfl, isVerify,
        last⟩ := trace_bind_iff.mp ran
      rw [foldl_cons, foldl_cons, foldl_append]
      have quiet :
          first.foldl (Ledger.note self.request)
              { captured := some (state, evidence)
                duty := ledger.duty.or (some (state, evidence))
                restoring := ledger.restoring } = _ :=
        verifyApplied_quiet idle isVerify
      change
        Accounts after
          (second.foldl (Ledger.note self.request) (first.foldl (Ledger.note self.request) _))
      cases failure with
      | some verifyError =>
        have undone := undo_accounts isDuty rfl rfl rfl last
        rw [← quiet] at undone
        exact undone
      | none =>
        obtain ⟨rfl, same⟩ := trace_pure_iff.mp last
        cases same
        exact quiet ▸ accounts_of_pending isDuty rfl rfl rfl nofun

theorem attemptObserved_accounts (idle : ledger.restoring = false) (accounts : Accounts self ledger)
    (harmless : ∀ duty, ledger.duty = some duty → HarmlessBehind duty evidence events)
    (trace : Trace (self.attemptObserved evidence) events (message, after)) :
    Accounts after (events.foldl (Ledger.note self.request) ledger) := by
  unfold RouteTransaction.attemptObserved at trace
  split at trace
  next =>
    obtain ⟨rfl, same⟩ := trace_pure_iff.mp trace
    cases same
    exact accounts.of_kept rfl rfl rfl nofun
  next sessions =>
  split at trace
  next onTarget =>
    obtain ⟨rfl, same⟩ := trace_pure_iff.mp trace
    cases same
    -- a harmless attempt finds sessions elsewhere, so nothing is owed here
    refine accounts_of_settled (Option.eq_none_iff_forall_ne_some.mpr ?_) rfl
    intro duty isDuty
    rcases harmless duty isDuty with none | ⟨elsewhere, _⟩
    · exact sessions none
    · exact Bool.noConfusion (onTarget.symm.trans elsewhere)
  next elsewhere =>
  obtain ⟨capability, rest, rfl, behind⟩ := trace_call_iff.mp trace
  -- what a harmless attempt can do once the backend was asked
  have asked :
      ∀ duty, ledger.duty = some duty →
        capability = .unsupported ∨
          capability = .mutable ∧
            ∃ answer later,
              rest = ⟨.captureState evidence, answer⟩ :: later ∧
                ∀ state, answer = .ok state → (state, evidence) = duty := by
    intro duty isDuty
    rcases harmless duty isDuty with
      none | ⟨_, ⟨later, isRest⟩ | ⟨answer, later, isRest, kept⟩⟩
    · exact absurd none sessions
    · cases isRest
      exact .inl rfl
    · cases isRest
      exact .inr ⟨rfl, answer, later, rfl, kept⟩
  cases capability with
  | unsupported =>
    obtain ⟨rfl, same⟩ := trace_pure_iff.mp behind
    cases same
    exact accounts.of_kept rfl rfl rfl nofun
  | satisfiedWithoutMutation =>
    obtain ⟨rfl, same⟩ := trace_pure_iff.mp behind
    cases same
    refine accounts_of_settled (Option.eq_none_iff_forall_ne_some.mpr ?_) rfl
    intro duty isDuty
    rcases asked duty isDuty with isUnsupported | ⟨isMutable, _⟩
    · cases isUnsupported
    · cases isMutable
  | mutable =>
    change
      Trace
        (RouteTransaction.attemptMutation
          { self with status := { self.status with capability := .mutable } }
          evidence)
        rest (message, after) at behind
    have recaptured :
        ∀ duty, ledger.duty = some duty → ∀ state later,
          rest = ⟨.captureState evidence, .ok state⟩ :: later →
          (state, evidence) = duty := by
      intro duty isDuty state later isRest
      rcases asked duty isDuty with
        isUnsupported | ⟨_, answer, others, isOthers, kept⟩
      · cases isUnsupported
      · rw [isOthers] at isRest
        cases isRest
        exact kept state rfl
    have known :
        Accounts { self with status := { self.status with capability := .mutable } } ledger :=
      ⟨accounts.pending, accounts.settled⟩
    have moved := attemptMutation_accounts idle known recaptured behind
    exact moved

theorem attempt_accounts (idle : ledger.restoring = false) (accounts : Accounts self ledger)
    (harmless : ∀ duty, ledger.duty = some duty → Harmless self duty endpoints events)
    (trace : Trace (self.attempt endpoints) events (message, after)) :
    Accounts after (events.foldl (Ledger.note self.request) ledger) := by
  obtain ⟨kind, rest, rfl, behind⟩ := trace_call_iff.mp trace
  change Accounts after (rest.foldl (Ledger.note self.request) ledger)
  dsimp only [Command.bind] at behind
  cases isValid : validateRequest self.request endpoints with
  | some refusal =>
    rw [isValid] at behind
    obtain ⟨rfl, same⟩ := trace_pure_iff.mp behind
    cases same
    exact accounts.of_kept rfl rfl rfl nofun
  | none =>
    rw [isValid] at behind
    obtain ⟨first, second, observed, rfl, isObserved, last⟩ := trace_bind_iff.mp behind
    rw [foldl_append]
    rcases observeEvidence_trace isObserved with
      ⟨_, rfl, rfl⟩ | ⟨sessions, inventory, rfl, rfl⟩
    · obtain ⟨rfl, same⟩ := trace_pure_iff.mp last
      cases same
      exact accounts.of_kept rfl rfl rfl nofun
    rw [foldl_cons, foldl_nil, note_enumerate self.request idle]
    dsimp only at last
    cases isFailure : (observedIn self.request inventory).failure with
    | some refusal =>
      rw [isFailure] at last
      obtain ⟨rfl, same⟩ := trace_pure_iff.mp last
      cases same
      exact accounts.of_kept rfl rfl rfl nofun
    | none =>
      rw [isFailure] at last
      have harmlessBehind :
          ∀ duty, ledger.duty = some duty →
            HarmlessBehind duty (observedIn self.request inventory).evidence second := by
        intro duty isDuty
        rcases harmless duty isDuty with
          refused | none | ⟨_, _, _, isEvents, failed | behind⟩
        · exact absurd isValid refused
        · exact Bool.noConfusion (none.symm.trans sessions)
        · cases isEvents
          exact absurd isFailure failed
        · cases isEvents
          exact behind
      have known :
          Accounts
            { self with
              status :=
                { self.status with
                  backendKind := kind
                  rollbackVerified := false
                  evidence := (observedIn self.request inventory).evidence } }
            ledger :=
        ⟨accounts.pending, accounts.settled⟩
      have attempted := attemptObserved_accounts idle known harmlessBehind last
      exact attempted

theorem rollback_accounts (accounts : Accounts self ledger)
    (trace : Trace (self.rollback endpoints) events (message, after)) :
    Accounts after (events.foldl (Ledger.note self.request) ledger) := by
  unfold RouteTransaction.rollback at trace
  cases isValid : validateRequest self.request endpoints with
  | some refusal =>
    rw [isValid] at trace
    obtain ⟨rfl, same⟩ := trace_pure_iff.mp trace
    cases same
    exact accounts.of_kept rfl rfl rfl nofun
  | none =>
  rw [isValid] at trace
  dsimp only at trace
  cases owed : ledger.duty with
  | none =>
    have unmutated := accounts.settled owed
    rw [unmutated, Bool.not_false, if_pos rfl] at trace
    obtain ⟨rfl, same⟩ := trace_pure_iff.mp trace
    cases same
    exact accounts_of_settled owed rfl
  | some duty =>
    obtain ⟨mutated, isBefore, isEvidence, _⟩ := accounts.pending duty owed
    rw [mutated, Bool.not_true, if_neg Bool.false_ne_true, isBefore] at trace
    obtain ⟨⟨restored, rollbackError⟩, rest, rfl, behind⟩ := trace_call_iff.mp trace
    cases restored with
    | false =>
      obtain ⟨rfl, same⟩ := trace_pure_iff.mp behind
      cases same
      exact accounts_of_pending owed rfl rfl isEvidence nofun
    | true =>
      change Trace (self.verifyRollback >>= _) rest (message, after) at behind
      obtain ⟨first, second, ⟨evidence, failure⟩, rfl, isVerify, last⟩ := trace_bind_iff.mp behind
      have verified := verified_duty owed isEvidence isVerify rollbackError
      cases failure with
      | some failed =>
        obtain ⟨rfl, same⟩ := trace_pure_iff.mp last
        cases same
        rw [append_nil]
        exact accounts_of_pending verified rfl rfl isEvidence nofun
      | none =>
        obtain ⟨rfl, same⟩ := trace_pure_iff.mp last
        cases same
        rw [append_nil]
        exact accounts_of_settled verified rfl

/-- A rollback that is owed asks the backend for the state that is owed. -/
theorem rollback_called (accounts : Accounts self ledger) {duty : Captured}
    (owed : ledger.duty = some duty)
    (isValid : validateRequest self.request endpoints = none)
    (trace : Trace (self.rollback endpoints) events (message, after)) :
    ∃ answer rest, events = ⟨.rollback duty.1, answer⟩ :: rest := by
  obtain ⟨mutated, isBefore, _, _⟩ := accounts.pending duty owed
  unfold RouteTransaction.rollback at trace
  rw [isValid] at trace
  dsimp only at trace
  rw [mutated, Bool.not_true, if_neg Bool.false_ne_true, isBefore] at trace
  obtain ⟨answer, rest, isEvents, _⟩ := trace_call_iff.mp trace
  exact ⟨answer, rest, isEvents⟩

end Steps

theorem accounts_of_turn {self after : RouteTransaction}
    {turn : Turn} (accounts : Accounts self ledger)
    (careful : Careful self ledger turn)
    (ran : Trace (self.operate turn.operation turn.endpoints) turn.events (turn.message, after)) :
    Accounts after (ledger.after self.request turn.events) := by
  obtain ⟨operation, endpoints, events, message⟩ := turn
  have fresh : Accounts self { ledger with restoring := false } :=
    ⟨accounts.pending, accounts.settled⟩
  cases operation with
  | attempt => exact attempt_accounts rfl fresh careful ran
  | rollback => exact rollback_accounts fresh ran

theorem accounts_of_run {self last : RouteTransaction} {final : Ledger} {turns : List Turn}
    (run : Run Careful self ledger turns last final)
    (accounts : Accounts self ledger) : Accounts last final := by
  induction run with
  | nil => exact accounts
  | cons meets ran _ ih => exact ih (accounts_of_turn accounts meets ran)

/-- A transaction that was just made; the backend was asked for its kind. -/
def made (request : RouteRequest) (hasSessions : Bool)
    (backendKind : RouteBackendKind) : RouteTransaction where
  request := request
  hasSessions := hasSessions
  status := { backendKind }

/-- Behind every run of careful operations, while an applied route has not
been verified restored, the transaction says that it mutated, keeps the state
that was captured before the first apply and is not ready; and a rollback
with an available target asks the backend for that state. -/
theorem route_duty_kept {request : RouteRequest} {hasSessions : Bool}
    {backendKind : RouteBackendKind} {turns : List Turn}
    {last : RouteTransaction} {final : Ledger}
    (run : Run Careful (made request hasSessions backendKind) {} turns last final)
    {duty : Captured} (owed : final.duty = some duty) :
    last.status.mutated = true ∧ last.before = some duty.1 ∧ last.status.phase ≠ .ready ∧
      ∀ endpoints events message next, validateRequest last.request endpoints = none →
        Trace (last.rollback endpoints) events (message, next) →
        ∃ answer rest, events = ⟨.rollback duty.1, answer⟩ :: rest := by
  have accounts : Accounts last final := accounts_of_run run (accounts_of_settled rfl rfl)
  obtain ⟨mutated, isBefore, _, notReady⟩ := accounts.pending duty owed
  refine ⟨mutated, isBefore, notReady, ?_⟩
  intro endpoints events message next isValid trace
  exact rollback_called accounts owed isValid trace

def gameRequest : RouteRequest where
  seatId := 1
  processTree :=
    { seatId := 1
      root :=
        { processId := 1
          creationTime100ns := 1
          executablePath := [97] } }
  targetEndpointId := [66]

def gameSession (endpointId : WideString) : AudioSessionObservation where
  endpointId := endpointId
  processId := 1
  processIdentity := some { pid := 1, creationIdentity := 1 }

/-- The session is at its own endpoint until it is moved. -/
def gameBackend (moved : Bool) : (request : routeCalls.Call) → routeCalls.Answer request × Bool
  | .kind => (.providerManaged, moved)
  | .enumerate =>
    ({ sessions := [gameSession (if moved then [66] else [65])], isComplete := true }, moved)
  | .capability _ => (.mutable, moved)
  | .captureState _ => (.ok ⟨[1]⟩, moved)
  | .apply _ => ((true, []), true)
  | .rollback _ => ((true, []), false)

def target : AudioRenderEndpoint where
  endpointId := [66]

def applied : (ByteString × RouteTransaction) × List RouteEvent :=
  record gameBackend ((made gameRequest true .providerManaged).attempt [target]) false

def attemptedAgain : (ByteString × RouteTransaction) × List RouteEvent :=
  record gameBackend (applied.1.2.attempt [target]) true

def firstTurn : Turn where
  operation := .attempt
  endpoints := [target]
  events := applied.2
  message := applied.1.1

def secondTurn : Turn where
  operation := .attempt
  endpoints := [target]
  events := attemptedAgain.2
  message := attemptedAgain.1.1

def owedBehindFirst : Captured := (⟨[1]⟩, { ownedSessions := [gameSession [65]] })

theorem first_trace :
    Trace ((made gameRequest true .providerManaged).operate firstTurn.operation firstTurn.endpoints)
      firstTurn.events (firstTurn.message, applied.1.2) := by
  have trace := record_trace gameBackend
    ((made gameRequest true .providerManaged).attempt [target]) false
  exact trace

theorem second_trace :
    Trace (applied.1.2.operate secondTurn.operation secondTurn.endpoints)
      secondTurn.events (secondTurn.message, attemptedAgain.1.2) := by
  have trace := record_trace gameBackend (applied.1.2.attempt [target]) true
  exact trace

theorem first_run :
    Run Careful (made gameRequest true .providerManaged) {} [firstTurn]
      applied.1.2 (({} : Ledger).after gameRequest firstTurn.events) :=
  .cons (fun _ isDuty => nomatch isDuty) first_trace (.nil _ _)

/-- The route was applied, and the transaction knows it. -/
theorem first_duty_kept :
    applied.1.2.status.mutated = true ∧ applied.1.2.before = some owedBehindFirst.1 ∧
      applied.1.2.status.phase ≠ .ready ∧
      ∀ endpoints events message next, validateRequest applied.1.2.request endpoints = none →
        Trace (applied.1.2.rollback endpoints) events (message, next) →
        ∃ answer rest, events = ⟨.rollback owedBehindFirst.1, answer⟩ :: rest :=
  route_duty_kept first_run (by decide)

/-- A second attempt that finds the session at the target forgets that the
first one moved it there. -/
theorem reattempt_forgets :
    ∃ turns last final,
      Run (fun _ _ _ => True) (made gameRequest true .providerManaged) {} turns last final ∧
        final.duty = some owedBehindFirst ∧
        last.status.mutated = false :=
  ⟨[firstTurn, secondTurn], attemptedAgain.1.2, _,
    .cons trivial first_trace (.cons trivial second_trace (.nil _ _)),
    by decide, by decide⟩

end HydraSeat.Audio
