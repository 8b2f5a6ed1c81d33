import HydraSeat.Privilege.PrivilegeBroker

/-!
# The protocol of the privilege broker

A turn is one `execute` with the calls that it made.  What one turn can do is
said once, by `Executed`; the law of a turn follows from it, and the sequence
numbers that are used increase along every history of turns.
-/

namespace HydraSeat.Privilege

open Foundation List
open Foundation.Command

abbrev BrokerEvent := Event brokerCalls

def applies : BrokerEvent → Bool
  | ⟨.apply .., _⟩ => true
  | _ => false

def applySucceeded : BrokerEvent → Bool
  | ⟨.apply .., answer⟩ => answer
  | _ => false

def verifySucceeded : BrokerEvent → Bool
  | ⟨.verify .., answer⟩ => answer
  | _ => false

def rollbackSucceeded : BrokerEvent → Bool
  | ⟨.rollback .., answer⟩ => answer
  | _ => false

def verifyRollbackSucceeded : BrokerEvent → Bool
  | ⟨.verifyRollback .., answer⟩ => answer
  | _ => false

/-- A capture counts when it answers with a usable name of a snapshot. -/
def captureSucceeded : BrokerEvent → Bool
  | ⟨.capture _, some snapshotId⟩ => validOpaqueIdentity snapshotId kMaximumBrokerRequestIdBytes
  | _ => false

structure Turn where
  request : BrokerRequest
  peer : AuthenticatedPeer
  events : List BrokerEvent
  before : BrokerReceipt
  diagnostic : BrokerDiagnostic
  after : BrokerReceipt

namespace Turn

variable (turn : Turn)

def captured : Bool := turn.events.any captureSucceeded

def performed : Bool := turn.events.any applySucceeded && turn.events.any verifySucceeded

def restored : Bool := turn.events.any rollbackSucceeded && turn.events.any verifyRollbackSucceeded

/-- The sequence number of the request for each apply of the turn. -/
def appliedSequences : List UInt64 :=
  (turn.events.filter applies).map fun _ => turn.request.sequence

end Turn

variable {turns : List Turn} {request : BrokerRequest} {snapshotId : ByteString}
  {appliedFailure : BrokerCode} {events : List BrokerEvent} {diagnostic : BrokerDiagnostic}
  {receipt : BrokerReceipt} {artifact : Artifact} {peer : AuthenticatedPeer}
  {session last : PrivilegeBrokerSession} {before after : BrokerReceipt}

/-- The turns of one session in their order. -/
inductive History : PrivilegeBrokerSession → List Turn → PrivilegeBrokerSession → Prop
  | nil (session : PrivilegeBrokerSession) : History session [] session
  | cons {session middle last : PrivilegeBrokerSession} {turn : Turn} {turns : List Turn}
      (executed :
        Trace (session.execute turn.request turn.peer turn.before)
          turn.events (turn.diagnostic, turn.after, middle))
      (rest : History middle turns last) :
      History session (turn :: turns) last

/-- The manifest and the observation are those that the broker resolved
before, or none for a removal. -/
def BrokerOwned (request : BrokerRequest) (earlier : List BrokerEvent)
    (manifest : Option Trust.ArtifactManifest)
    (observation : Option Trust.ArtifactObservation) : Prop :=
  if request.operation = .remove then manifest = none ∧ observation = none
  else
    ∃ owned observed,
      manifest = some owned ∧ observation = some observed ∧
        ⟨.resolve request.resource, some (owned, observed)⟩ ∈ earlier

/-- An apply with the calls before it. -/
structure Permitted (request : BrokerRequest) (peer : AuthenticatedPeer)
    (earlier : List BrokerEvent) (resource : BrokerResource)
    (operation : BrokerOperation)
    (manifest : Option Trust.ArtifactManifest)
    (observation : Option Trust.ArtifactObservation)
    (snapshotId : ByteString) : Prop where
  elevated : peer.brokerProcessElevated = true
  sameUser : peer.callerUserSid = peer.brokerOwnerUserSid
  sameChannel : request.channelNonce = peer.channelNonce
  asRequested : resource = request.resource ∧ operation = request.operation
  brokerOwned : BrokerOwned request earlier manifest observation
  afterCapture : ⟨.capture request.resource, some snapshotId⟩ ∈ earlier
  validSnapshot : validOpaqueIdentity snapshotId kMaximumBrokerRequestIdBytes = true

/-- What the receipt says about a turn. -/
structure ReceiptLaw (turn : Turn) : Prop where
  untouched : turn.captured = false → turn.after = turn.before
  identity :
    turn.captured = true →
      turn.after.requestId = turn.request.requestId ∧ turn.after.sequence = turn.request.sequence ∧
        turn.after.resource = turn.request.resource ∧
        turn.after.operation = turn.request.operation
  applied :
    turn.captured = true →
      (turn.after.status = .applied ↔ turn.performed = true ∧ turn.request.operation ≠ .remove)
  removed :
    turn.captured = true →
      (turn.after.status = .removed ↔ turn.performed = true ∧ turn.request.operation = .remove)
  rolledBack :
    turn.captured = true →
      (turn.after.status = .rolledBack ↔ turn.performed = false ∧ turn.restored = true)
  recoveryRequired :
    turn.captured = true →
      (turn.after.status = .recoveryRequired ↔ turn.performed = false ∧ turn.restored = false)

structure TurnLaw (turn : Turn) : Prop where
  permitted :
    ∀ earlier later resource operation manifest observation snapshotId answer,
      turn.events =
          earlier ++ ⟨.apply resource operation manifest observation snapshotId, answer⟩ :: later →
        Permitted turn.request turn.peer earlier resource operation manifest observation snapshotId
  receipt : ReceiptLaw turn

/-- What the calls behind a capture do to the receipt. -/
structure Acted (request : BrokerRequest) (artifact : Artifact)
    (snapshotId : ByteString) (events : List BrokerEvent)
    (receipt : BrokerReceipt) : Prop where
  applied :
    ∃ answer rest,
      events =
          ⟨.apply request.resource request.operation artifact.1 artifact.2
            snapshotId, answer⟩ :: rest ∧
        ∀ event ∈ rest, applies event = false
  identity :
    receipt.requestId = request.requestId ∧ receipt.sequence = request.sequence ∧
      receipt.resource = request.resource ∧
      receipt.operation = request.operation
  status :
    receipt.status =
      if events.any applySucceeded && events.any verifySucceeded then
        if request.operation = .remove then .removed else .applied
      else if events.any rollbackSucceeded && events.any verifyRollbackSucceeded then .rolledBack
      else .recoveryRequired

theorem rollbackAfterFailure_trace {candidate : BrokerReceipt}
    (trace :
      Trace (rollbackAfterFailure request snapshotId candidate
        appliedFailure) events (diagnostic, receipt)) :
    (∀ event ∈ events,
        applies event = false ∧ applySucceeded event = false ∧ verifySucceeded event = false) ∧
      receipt.requestId = candidate.requestId ∧
      receipt.sequence = candidate.sequence ∧
      receipt.resource = candidate.resource ∧
      receipt.operation = candidate.operation ∧
      receipt.status =
        if events.any rollbackSucceeded && events.any verifyRollbackSucceeded then .rolledBack
        else .recoveryRequired := by
  obtain ⟨rolledBack, _, rfl, behind⟩ := trace_call_iff.mp trace
  cases rolledBack with
  | false =>
    obtain ⟨rfl, same⟩ := trace_pure_iff.mp behind
    cases same
    simp [applies, applySucceeded, verifySucceeded, rollbackSucceeded]
  | true =>
    obtain ⟨verified, _, rfl, last⟩ := trace_call_iff.mp behind
    cases verified with
    | false | true =>
      obtain ⟨rfl, same⟩ := trace_pure_iff.mp last
      cases same
      simp [applies, applySucceeded, verifySucceeded, rollbackSucceeded, verifyRollbackSucceeded]

theorem acted_of_rollback (artifact : Artifact) (applied : Bool) (rest : List BrokerEvent)
    (noApply : ∀ event ∈ rest, applies event = false)
    (failed : (applied && rest.any verifySucceeded) = false)
    (noneApplied : rest.any applySucceeded = false)
    (noRollback : rest.any rollbackSucceeded = false)
    (noVerified : rest.any verifyRollbackSucceeded = false)
    {behind : List BrokerEvent}
    (trace :
      Trace (rollbackAfterFailure request snapshotId
        (candidateReceipt request) appliedFailure) behind
        (diagnostic, receipt)) :
    Acted request artifact snapshotId
      (⟨.apply request.resource request.operation artifact.1 artifact.2
        snapshotId, applied⟩ :: (rest ++ behind)) receipt := by
  obtain ⟨others, identity⟩ := rollbackAfterFailure_trace trace
  have alsoNoneApplied : behind.any applySucceeded = false :=
    any_eq_false.mpr fun event member => Bool.eq_false_iff.mp (others event member).2.1
  have alsoNoneVerified : behind.any verifySucceeded = false :=
    any_eq_false.mpr fun event member => Bool.eq_false_iff.mp (others event member).2.2
  refine ⟨⟨applied, rest ++ behind, rfl, ?_⟩, ?_, ?_⟩
  · intro event member
    rcases mem_append.mp member with early | late
    · exact noApply event early
    · exact (others event late).1
  · exact ⟨identity.1, identity.2.1, identity.2.2.1, identity.2.2.2.1⟩
  · rw [identity.2.2.2.2]
    simp only [any_cons, any_append, noneApplied, noRollback,
      noVerified, alsoNoneApplied, alsoNoneVerified, applySucceeded,
      verifySucceeded, rollbackSucceeded, verifyRollbackSucceeded,
      Bool.or_false, Bool.false_or, failed, Bool.false_eq_true, if_false]

theorem mutate_acted
    (trace : Trace (mutate request artifact snapshotId) events (diagnostic, receipt)) :
    Acted request artifact snapshotId events receipt := by
  obtain ⟨applied, rest, isEvents, behind⟩ := trace_call_iff.mp trace
  rw [isEvents]
  cases applied with
  | false =>
    exact acted_of_rollback artifact false [] (forall_mem_nil _) rfl rfl rfl rfl behind
  | true =>
    obtain ⟨verified, last, isRest, behind⟩ := trace_call_iff.mp behind
    rw [isRest]
    have noApply :
        ∀ event ∈ [(⟨.verify request.resource request.operation,
          verified⟩ : BrokerEvent)], applies event = false := by
      intro event member
      rw [mem_singleton.mp member]
      rfl
    cases verified with
    | false =>
      exact acted_of_rollback artifact true
        [⟨.verify request.resource request.operation, false⟩] noApply
        rfl rfl rfl rfl behind
    | true =>
      obtain ⟨isLast, same⟩ := trace_pure_iff.mp behind
      cases same
      rw [isLast]
      exact ⟨⟨true, _, rfl, noApply⟩, ⟨rfl, rfl, rfl, rfl⟩, rfl⟩

structure Admitted (session : PrivilegeBrokerSession)
    (request : BrokerRequest) (peer : AuthenticatedPeer) : Prop where
  sequence : request.sequence = session.nextSequence
  nonzero : request.sequence ≠ 0
  elevated : peer.brokerProcessElevated = true
  sameUser : peer.callerUserSid = peer.brokerOwnerUserSid
  sameChannel : request.channelNonce = peer.channelNonce

theorem authorize_admitted
    (authorized : (session.authorize request peer).succeeded = true) :
    Admitted session request peer := by
  have refused (code : BrokerCode) (message : String) (notSuccess : code ≠ .success) :
      (fail code message).succeeded ≠ true := by
    unfold BrokerDiagnostic.succeeded fail
    rw [ne_eq, decide_eq_true_eq]
    exact notSuccess
  unfold PrivilegeBrokerSession.authorize at authorized
  split at authorized
  · exact absurd authorized (refused _ _ (by decide))
  split at authorized
  · exact absurd authorized (refused _ _ (by decide))
  next identified =>
    split at authorized
    · exact absurd authorized (refused _ _ (by decide))
    split at authorized
    · exact absurd authorized (refused _ _ (by decide))
    next elevated =>
      split at authorized
      · exact absurd authorized (refused _ _ (by decide))
      next sameUser =>
        split at authorized
        · exact absurd authorized (refused _ _ (by decide))
        next sameChannel =>
          split at authorized
          · exact absurd authorized (refused _ _ (by decide))
          next inOrder =>
            rw [Bool.or_eq_true, not_or, beq_iff_eq] at identified
            rw [Bool.not_eq_true', Bool.not_eq_false] at elevated
            exact ⟨not_not.mp inOrder, identified.2, elevated,
              not_not.mp sameUser, not_not.mp sameChannel⟩

/-- The artifact for a request with the calls that it took. -/
inductive Resolved (request : BrokerRequest) : List BrokerEvent → Artifact → Prop
  | nothing (removes : request.operation = .remove) : Resolved request [] (none, none)
  | owned (keeps : request.operation ≠ .remove) (manifest : Trust.ArtifactManifest)
      (observation : Trust.ArtifactObservation) :
      Resolved request [⟨.resolve request.resource, some (manifest, observation)⟩]
        (some manifest, some observation)

theorem authoritativeArtifact_trace {policy : BrokerPolicy}
    {result : Except BrokerDiagnostic Artifact}
    (trace : Trace (authoritativeArtifact policy request) events result) :
    (∀ event ∈ events, event.request = .resolve request.resource) ∧
      ∀ artifact, result = .ok artifact → Resolved request events artifact := by
  unfold authoritativeArtifact at trace
  split at trace
  next removes =>
    cases trace
    refine ⟨forall_mem_nil _, fun artifact isArtifact => ?_⟩
    cases isArtifact
    exact .nothing removes
  next keeps =>
    obtain ⟨answer, rest, rfl, behind⟩ := trace_call_iff.mp trace
    have returned (diagnostic : BrokerDiagnostic)
        (ends :
          Trace (pure (.error diagnostic) :
            Broker (Except BrokerDiagnostic Artifact)) rest result) :
        rest = [] ∧ ∀ artifact, result = .ok artifact → False := by
      obtain ⟨isRest, rfl⟩ := trace_pure_iff.mp ends
      refine ⟨isRest, fun artifact isArtifact => ?_⟩
      cases isArtifact
    have resolves :
        rest = [] →
          ∀ event ∈ (⟨.resolve request.resource, answer⟩ : BrokerEvent) ::
            rest, event.request = .resolve request.resource := by
      rintro rfl event member
      rw [mem_singleton.mp member]
    cases answer with
    | none =>
      obtain ⟨isRest, notOk⟩ := returned _ behind
      exact ⟨resolves isRest, fun artifact isArtifact => (notOk artifact isArtifact).elim⟩
    | some pair =>
      obtain ⟨manifest, observation⟩ := pair
      change Trace (ite _ _ _) rest result at behind
      split at behind
      · obtain ⟨isRest, notOk⟩ := returned _ behind
        exact ⟨resolves isRest, fun artifact isArtifact => (notOk artifact isArtifact).elim⟩
      split at behind
      · obtain ⟨isRest, notOk⟩ := returned _ behind
        exact ⟨resolves isRest, fun artifact isArtifact => (notOk artifact isArtifact).elim⟩
      obtain ⟨isRest, rfl⟩ := trace_pure_iff.mp behind
      refine ⟨resolves isRest, fun artifact isArtifact => ?_⟩
      cases isArtifact
      rw [isRest]
      exact .owned keeps manifest observation

/-- What one `execute` can do. -/
inductive Executed (session : PrivilegeBrokerSession)
    (request : BrokerRequest) (peer : AuthenticatedPeer)
    (before : BrokerReceipt) :
    List BrokerEvent → BrokerReceipt → PrivilegeBrokerSession → Prop
  | refused {events : List BrokerEvent} (noApply : ∀ event ∈ events, applies event = false)
      (noCapture : events.any captureSucceeded = false) :
      Executed session request peer before events before session
  | acted {front behind : List BrokerEvent} {artifact : Artifact}
      {snapshotId : ByteString} {after : BrokerReceipt}
      (admitted : Admitted session request peer)
      (resolved : Resolved request front artifact)
      (validSnapshot : validOpaqueIdentity snapshotId kMaximumBrokerRequestIdBytes = true)
      (acted : Acted request artifact snapshotId behind after) :
      Executed session request peer before
        (front ++ ⟨.capture request.resource, some snapshotId⟩ :: behind)
        after { session with nextSequence := session.nextSequence + 1 }

theorem applies_of_resolve {event : BrokerEvent} {resource : BrokerResource}
    (resolves : event.request = .resolve resource) :
    applies event = false ∧ captureSucceeded event = false := by
  obtain ⟨request, answer⟩ := event
  cases resolves
  exact ⟨rfl, rfl⟩

theorem execute_executed
    (trace : Trace (session.execute request peer before) events (diagnostic, after, last)) :
    Executed session request peer before events after last := by
  unfold PrivilegeBrokerSession.execute at trace
  dsimp only at trace
  split at trace
  · obtain ⟨rfl, same⟩ := trace_pure_iff.mp trace
    cases same
    exact .refused (forall_mem_nil _) rfl
  next authorized =>
    rw [Bool.not_eq_true', Bool.not_eq_false] at authorized
    obtain ⟨front, second, result, rfl, isResult, behind⟩ := trace_bind_iff.mp trace
    obtain ⟨resolves, isArtifact⟩ := authoritativeArtifact_trace isResult
    have noApply : ∀ event ∈ front, applies event = false :=
      fun event member => (applies_of_resolve (resolves event member)).1
    have noCapture : front.any captureSucceeded = false :=
      any_eq_false.mpr fun event member =>
        Bool.eq_false_iff.mp (applies_of_resolve (resolves event member)).2
    cases result with
    | error failure =>
      obtain ⟨rfl, same⟩ := trace_pure_iff.mp behind
      cases same
      rw [append_nil]
      exact .refused noApply noCapture
    | ok artifact =>
      obtain ⟨captured, rest, rfl, afterCapture⟩ := trace_call_iff.mp behind
      -- A capture that does not count ends the turn.
      have ends (isRest : rest = [])
          (fails : captureSucceeded ⟨.capture request.resource, captured⟩ = false) :
          Executed session request peer before
            (front ++ ⟨.capture request.resource, captured⟩ :: rest)
            before session := by
        rw [isRest]
        refine .refused ?_ ?_
        · intro event member
          rcases mem_append.mp member with early | last
          · exact noApply event early
          · rw [mem_singleton.mp last]
            rfl
        · rw [any_append, noCapture, any_cons, fails]
          rfl
      cases captured with
      | none =>
        obtain ⟨isRest, same⟩ := trace_pure_iff.mp afterCapture
        cases same
        exact ends isRest rfl
      | some snapshotId =>
        change Trace (ite _ _ _) rest _ at afterCapture
        split at afterCapture
        next invalid =>
          obtain ⟨isRest, same⟩ := trace_pure_iff.mp afterCapture
          cases same
          rw [Bool.not_eq_true'] at invalid
          exact ends isRest invalid
        next valid =>
          rw [Bool.not_eq_true', Bool.not_eq_false] at valid
          obtain ⟨mutated, final, returned, rfl, isMutated, finish⟩ :=
            trace_bind_iff.mp afterCapture
          obtain ⟨rfl, same⟩ := trace_pure_iff.mp finish
          obtain ⟨rfl, rfl, rfl⟩ : _ ∧ _ ∧ _ := by
            simpa using same
          rw [append_nil]
          exact .acted (authorize_admitted authorized)
            (isArtifact artifact rfl) valid (mutate_acted isMutated)

theorem only_apply {front behind earlier later : List BrokerEvent} {first other : BrokerEvent}
    (noneBefore : ∀ event ∈ front, applies event = false)
    (noneBehind : ∀ event ∈ behind, applies event = false)
    (isApply : applies other = true)
    (same : front ++ first :: behind = earlier ++ other :: later) :
    front = earlier ∧ first = other := by
  induction front generalizing earlier with
  | nil =>
    cases earlier with
    | nil => exact ⟨rfl, (cons.inj same).1⟩
    | cons event earlier =>
      have member : other ∈ behind := by
        rw [(cons.inj same).2]
        exact mem_append_right _ mem_cons_self
      rw [noneBehind other member] at isApply
      cases isApply
  | cons event front ih =>
    obtain ⟨here, noneBefore⟩ := forall_mem_cons.mp noneBefore
    cases earlier with
    | nil =>
      rw [(cons.inj same).1] at here
      rw [here] at isApply
      cases isApply
    | cons another earlier =>
      obtain ⟨rfl, rest⟩ := cons.inj same
      obtain ⟨rfl, isFirst⟩ := ih noneBefore rest
      exact ⟨rfl, isFirst⟩

theorem Resolved.quiet (resolved : Resolved request events artifact) :
    (∀ event ∈ events, applies event = false) ∧ events.any applySucceeded = false ∧
      events.any verifySucceeded = false ∧
      events.any rollbackSucceeded = false ∧
      events.any verifyRollbackSucceeded = false := by
  cases resolved with
  | nothing => exact ⟨forall_mem_nil _, rfl, rfl, rfl, rfl⟩
  | owned =>
    refine ⟨fun event member => ?_, rfl, rfl, rfl, rfl⟩
    rw [mem_singleton.mp member]
    rfl

theorem Resolved.brokerOwned {others : List BrokerEvent}
    (resolved : Resolved request events artifact) :
    BrokerOwned request (events ++ others) artifact.1 artifact.2 := by
  unfold BrokerOwned
  cases resolved with
  | nothing removes =>
    rw [if_pos removes]
    exact ⟨rfl, rfl⟩
  | owned keeps manifest observation =>
    rw [if_neg keeps]
    exact ⟨manifest, observation, rfl, rfl, mem_cons_self⟩

theorem receiptLaw_of_status {turn : Turn} (captured : turn.captured = true)
    (identity :
      turn.after.requestId = turn.request.requestId ∧ turn.after.sequence = turn.request.sequence ∧
        turn.after.resource = turn.request.resource ∧
        turn.after.operation = turn.request.operation)
    (status :
      turn.after.status =
        if turn.performed then
          if turn.request.operation = .remove then .removed else .applied
        else if turn.restored then .rolledBack
        else .recoveryRequired) : ReceiptLaw turn := by
  refine ⟨fun none => ?_, fun _ => identity, ?_, ?_, ?_, ?_⟩
  · rw [captured] at none
    cases none
  all_goals
    intro _
    rw [status]
    cases turn.performed <;> cases turn.restored <;>
      by_cases removes : turn.request.operation = .remove <;>
      simp [removes]

theorem Executed.turnLaw (executed : Executed session request peer before events after last)
    (diagnostic : BrokerDiagnostic) :
    TurnLaw ⟨request, peer, events, before, diagnostic, after⟩ := by
  cases executed with
  | refused noApply noCapture =>
    constructor
    · intro earlier later resource operation manifest observation snapshotId answer same
      have impossible := noApply _ (same ▸ mem_append_right _ mem_cons_self)
      cases impossible
    have uncaptured {impossible : Prop} (captured : events.any captureSucceeded = true) :
        impossible := by
      rw [noCapture] at captured
      cases captured
    exact ⟨fun _ => rfl, uncaptured, uncaptured, uncaptured, uncaptured, uncaptured⟩
  | @acted front behind artifact snapshotId _ admitted resolved validSnapshot acted =>
    obtain ⟨noApply, applied, verified, rolledBack, restored⟩ := resolved.quiet
    constructor
    · intro earlier later resource operation manifest observation other answer same
      obtain ⟨applyAnswer, rest, isBehind, noneBehind⟩ := acted.applied
      have events :
          (front ++ [⟨.capture request.resource, some snapshotId⟩]) ++
              ⟨.apply request.resource request.operation artifact.1
                artifact.2 snapshotId, applyAnswer⟩ :: rest =
            earlier ++ ⟨.apply resource operation manifest observation other, answer⟩ :: later := by
        rw [← same, isBehind, append_assoc]
        rfl
      have noneBefore :
          ∀ event ∈
            front ++ [(⟨.capture request.resource, some snapshotId⟩ :
              BrokerEvent)], applies event = false := by
        intro event member
        rcases mem_append.mp member with early | capture
        · exact noApply event early
        · rw [mem_singleton.mp capture]
          rfl
      obtain ⟨rfl, isFirst⟩ := only_apply noneBefore noneBehind rfl events
      obtain ⟨rfl, rfl, rfl, rfl, rfl⟩ := BrokerCall.apply.inj (congrArg Event.request isFirst)
      exact
        { elevated := admitted.elevated, sameUser := admitted.sameUser
          sameChannel := admitted.sameChannel, asRequested := ⟨rfl, rfl⟩
          brokerOwned := resolved.brokerOwned
          afterCapture := mem_append_right _ mem_cons_self, validSnapshot }
    · refine receiptLaw_of_status ?_ acted.identity ?_
      · unfold Turn.captured
        rw [any_append, any_cons]
        change (_ || (validOpaqueIdentity snapshotId _ || _)) = true
        rw [validSnapshot, Bool.true_or, Bool.or_true]
      unfold Turn.performed Turn.restored
      rw [acted.status, any_append, any_append,
        any_append, any_append, applied, verified, rolledBack,
        restored]
      rfl

theorem Executed.sequence (executed : Executed session request peer before events after last) :
    let sequences := (events.filter applies).map fun _ => request.sequence
    sequences = [] ∧ last = session ∨
      sequences = [session.nextSequence] ∧ session.nextSequence ≠ 0 ∧
        last.nextSequence = session.nextSequence + 1 := by
  cases executed with
  | refused noApply =>
    refine .inl ⟨?_, rfl⟩
    have none : events.filter applies = [] :=
      filter_eq_nil_iff.mpr fun event member => Bool.eq_false_iff.mp (noApply event member)
    rw [none]
    rfl
  | @acted front behind artifact snapshotId _ admitted resolved validSnapshot acted =>
    refine .inr ⟨?_, ?_, rfl⟩
    · obtain ⟨applyAnswer, rest, isBehind, noneBehind⟩ := acted.applied
      have noneBefore : front.filter applies = [] :=
        filter_eq_nil_iff.mpr fun event member =>
          Bool.eq_false_iff.mp (resolved.quiet.1 event member)
      have noneLater : rest.filter applies = [] :=
        filter_eq_nil_iff.mpr fun event member =>
          Bool.eq_false_iff.mp (noneBehind event member)
      rw [isBehind, filter_append, noneBefore]
      change ((⟨.apply _ _ _ _ _, applyAnswer⟩ : BrokerEvent) :: rest.filter applies).map _ = _
      rw [noneLater, ← admitted.sequence]
      rfl
    · rw [← admitted.sequence]
      exact admitted.nonzero

theorem History.sequences (history : History session turns last) :
    (turns.flatMap Turn.appliedSequences).Pairwise (· < ·) ∧
      ∀ sequence ∈ turns.flatMap Turn.appliedSequences,
        session.nextSequence ≤ sequence ∧ session.nextSequence ≠ 0 := by
  induction history with
  | nil session => exact ⟨.nil, forall_mem_nil _⟩
  | cons executed rest ih =>
    rw [flatMap_cons]
    unfold Turn.appliedSequences
    rcases (execute_executed executed).sequence with
      ⟨noSequence, rfl⟩ | ⟨isSequence, nonzero, next⟩
    · rw [noSequence]
      exact ih
    rw [isSequence]
    obtain ⟨increasing, behind⟩ := ih
    have before {current later : UInt64}
        (notLast : current + 1 ≠ 0) (atMost : current + 1 ≤ later) :
        current < later := by
      rw [UInt64.lt_iff_toNat_lt]
      rw [UInt64.le_iff_toNat_le, UInt64.toNat_add] at atMost
      have positive : (current + 1).toNat ≠ 0 := fun zero => notLast (UInt64.toNat_inj.mp zero)
      rw [UInt64.toNat_add] at positive
      have bound := current.toNat_lt
      change (current.toNat + 1) % 18446744073709551616 ≤ _ at atMost
      change (current.toNat + 1) % 18446744073709551616 ≠ 0 at positive
      omega
    refine ⟨?_, ?_⟩
    · refine pairwise_append.mpr ⟨pairwise_singleton _ _, increasing, ?_⟩
      intro current isCurrent later isLater
      rw [mem_singleton.mp isCurrent]
      obtain ⟨atMost, notLast⟩ := behind later isLater
      rw [next] at atMost notLast
      exact before notLast atMost
    · intro sequence member
      refine ⟨?_, nonzero⟩
      rcases mem_append.mp member with here | later
      · rw [mem_singleton.mp here]
        exact UInt64.le_refl _
      · obtain ⟨atMost, notLast⟩ := behind sequence later
        rw [next] at atMost notLast
        exact UInt64.le_of_lt (before notLast atMost)

theorem History.turnLaws (history : History session turns last) : ∀ turn ∈ turns, TurnLaw turn := by
  induction history with
  | nil session => exact forall_mem_nil _
  | cons executed rest ih =>
    exact forall_mem_cons.mpr ⟨(execute_executed executed).turnLaw _, ih⟩

/-- The protocol of a session over all its requests. -/
theorem broker_protocol {policy : BrokerPolicy} {firstSequence : UInt64}
    {last : PrivilegeBrokerSession} {turns : List Turn}
    (history : History { policy, nextSequence := firstSequence } turns last) :
    (turns.flatMap Turn.appliedSequences).Pairwise (· < ·) ∧ ∀ turn ∈ turns, TurnLaw turn :=
  ⟨history.sequences.1, history.turnLaws⟩

/-- An executor and an authority that never fail. -/
def obliging : Unit → (call : BrokerCall) → BrokerAnswer call × Unit
  | _, .resolve _ => (none, ())
  | _, .capture _ => (some "snapshot", ())
  | _, .apply .. => (true, ())
  | _, .verify .. => (true, ())
  | _, .rollback .. => (true, ())
  | _, .verifyRollback .. => (true, ())

def removal : BrokerRequest :=
  { requestId := "remove", channelNonce := 7, sequence := 1, operation := .remove }

def elevatedPeer : AuthenticatedPeer :=
  { callerUserSid := "user", brokerOwnerUserSid := "user"
    channelNonce := 7, brokerProcessElevated := true }

def removalRun (session : PrivilegeBrokerSession) :
    (BrokerDiagnostic × BrokerReceipt × PrivilegeBrokerSession) × List BrokerEvent :=
  record obliging (session.execute removal elevatedPeer {}) ()

def removalTurn (session : PrivilegeBrokerSession) : Turn :=
  let ((diagnostic, after, _), events) := removalRun session
  ⟨removal, elevatedPeer, events, {}, diagnostic, after⟩

/-- The removal and the same request again, which is refused. -/
def removalTurns : List Turn := [removalTurn {}, removalTurn { nextSequence := 2 }]

theorem removalTurn_executed (isLast : (removalRun session).1.2.2 = last) :
    Trace (session.execute removal elevatedPeer {}) (removalTurn session).events
      ((removalTurn session).diagnostic, (removalTurn session).after, last) := by
  rw [← isLast]
  exact record_trace obliging (session.execute removal elevatedPeer {}) ()

theorem removalTurns_history : History {} removalTurns { nextSequence := 2 } :=
  .cons (removalTurn_executed (by decide)) (.cons (removalTurn_executed (by decide)) (.nil _))

theorem removal_protocol :
    removalTurns.map (·.diagnostic.code) = [.success, .replayOrOutOfOrder] ∧
      (removalTurns.flatMap Turn.appliedSequences).Pairwise (· < ·) ∧
        ∀ turn ∈ removalTurns, TurnLaw turn :=
  ⟨by decide, broker_protocol removalTurns_history⟩

end HydraSeat.Privilege
