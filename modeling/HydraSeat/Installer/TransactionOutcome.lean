import HydraSeat.Installer.InstallerTransaction

/-!
# The outcome of an installer transaction

The calls that a transaction makes and the outcome that it reports agree:
success means that all four steps succeeded, and every failure behind the
commit is followed by a rollback.
-/

namespace HydraSeat.Installer

open Foundation
open Foundation.Command InstallerCode List

abbrev InstallerEvent := Event installerCalls

/-- The calls of a rollback that succeeds. -/
def restoredEvents : List InstallerEvent :=
  [⟨.rollback, true⟩, ⟨.verifyRollback, true⟩, ⟨.finish .rolledBack, true⟩]

/-- The calls behind a staging that lead to success. -/
def committedEvents (expected : Option InstalledState) : List InstallerEvent :=
  [⟨.commit, true⟩, ⟨.verify expected, true⟩, ⟨.finish .committed, true⟩]

section Traces

variable {request : InstallerRequest} {candidate : InstallerReceipt}
  {previous expected : Option InstalledState} {code : InstallerCode}
  {message : String} {events : List InstallerEvent}
  {outcome : InstallerOutcome}
variable {event : InstallerEvent} {staged : InstallerEvent} {diagnostic : InstallerDiagnostic}
  {transactionId : ByteString}

structure RollsBack (code : InstallerCode) (previous : Option InstalledState)
    (events : List InstallerEvent) (outcome : InstallerOutcome) : Prop where
  attempted : ∃ answer rest, events = ⟨.rollback, answer⟩ :: rest
  calls :
    ∀ event ∈ events,
      event.request = .rollback ∨ event.request = .verifyRollback ∨
        event.request = .finish .rolledBack
  failed : code ≠ .success → outcome.1.code ≠ .success
  restored :
    (events = restoredEvents ∧ outcome.2.status = .rolledBack ∧
        outcome.2.resultingState = previous) ∨
      (events.getLast? ≠ some ⟨.finish .rolledBack, true⟩ ∧ outcome.2.status = .recoveryRequired)

theorem rollback_trace (trace : Trace (rollback candidate previous code message) events outcome) :
    RollsBack code previous events outcome := by
  obtain ⟨rolled, rest, rfl, rolledBack⟩ := trace_call_iff.mp trace
  cases rolled with
  | false =>
    cases rolledBack
    refine ⟨⟨_, _, rfl⟩, ?_, nofun, .inr ⟨by simp, rfl⟩⟩
    simp
  | true =>
    obtain ⟨verified, rest, rfl, verifiedBack⟩ := trace_call_iff.mp rolledBack
    cases verified with
    | false =>
      cases verifiedBack
      refine ⟨⟨_, _, rfl⟩, ?_, nofun, .inr ⟨by simp, rfl⟩⟩
      simp
    | true =>
      obtain ⟨finished, rest, rfl, ended⟩ := trace_call_iff.mp verifiedBack
      cases finished with
      | false =>
        cases ended
        refine ⟨⟨_, _, rfl⟩, ?_, nofun, .inr ⟨by simp, rfl⟩⟩
        simp
      | true =>
        cases ended
        refine ⟨⟨_, _, rfl⟩, ?_, id, .inl ⟨rfl, rfl, rfl⟩⟩
        simp

/-- The calls from the commit on that lead to a rollback. -/
inductive CommitFails (expected : Option InstalledState) : List InstallerEvent → Prop
  | commit : CommitFails expected [⟨.commit, false⟩]
  | verify : CommitFails expected [⟨.commit, true⟩, ⟨.verify expected, false⟩]
  | finish :
      CommitFails expected [⟨.commit, true⟩, ⟨.verify expected, true⟩, ⟨.finish .committed, false⟩]

/-- A staged transaction is committed, or it is rolled back. -/
inductive Committing (request : InstallerRequest) (candidate : InstallerReceipt)
    (previous expected : Option InstalledState) :
    List InstallerEvent → InstallerOutcome → Prop
  | committed :
      Committing request candidate previous expected (committedEvents expected)
        ({}, committedReceipt request candidate expected)
  | failed {first second : List InstallerEvent} {code : InstallerCode}
      {outcome : InstallerOutcome} :
      CommitFails expected first → code ≠ .success → RollsBack code previous second outcome →
        Committing request candidate previous expected (first ++ second) outcome

theorem commitStaged_trace
    (trace : Trace (commitStaged request candidate previous expected) events outcome) :
    Committing request candidate previous expected events outcome := by
  obtain ⟨isCommitted, rest, rfl, afterCommit⟩ := trace_call_iff.mp trace
  cases isCommitted with
  | false =>
    exact .failed .commit (show applyFailedRolledBack ≠ .success by decide)
      (rollback_trace afterCommit)
  | true =>
    obtain ⟨isVerified, rest, rfl, afterVerify⟩ := trace_call_iff.mp afterCommit
    cases isVerified with
    | false =>
      exact .failed .verify (show verifyFailedRolledBack ≠ .success by decide)
        (rollback_trace afterVerify)
    | true =>
      obtain ⟨isFinished, rest, rfl, afterFinish⟩ := trace_call_iff.mp afterVerify
      cases isFinished with
      | false =>
        exact .failed .finish (show transactionFinalizeFailed ≠ .success by decide)
          (rollback_trace afterFinish)
      | true =>
        cases afterFinish
        exact .committed

inductive Stages (request : InstallerRequest) : InstallerEvent → Bool → Prop
  | uninstall (answer : Bool) :
      request.action = .uninstall → Stages request ⟨.stageUninstall request.options, answer⟩ answer
  | installOrRepair (package : InstallerPackage) (answer : Bool) :
      request.action ≠ .uninstall → request.package = some package →
        Stages request ⟨.stageInstallOrRepair request.action package request.options, answer⟩ answer

theorem stage_trace {staged : Bool} (trace : Trace (stage request) events staged) :
    (∃ event, events = [event] ∧ Stages request event staged) ∨ (events = [] ∧ staged = false) := by
  unfold stage at trace
  split at trace
  next action =>
    obtain ⟨answer, rest, rfl, returned⟩ := trace_call_iff.mp trace
    obtain ⟨rfl, rfl⟩ := trace_pure_iff.mp returned
    exact .inl ⟨_, rfl, .uninstall answer action⟩
  next package isPackage other =>
    obtain ⟨answer, rest, rfl, returned⟩ := trace_call_iff.mp trace
    obtain ⟨rfl, rfl⟩ := trace_pure_iff.mp returned
    exact .inl ⟨_, rfl, .installOrRepair package answer other isPackage⟩
  next =>
    cases trace
    exact .inr ⟨rfl, rfl⟩

/-- The call changes nothing that is installed. -/
def Harmless (event : InstallerEvent) : Prop :=
  event.request = .beginMutation ∨ event.request = .transactionId ∨
    event.request = .previousState ∨ event.request = .finish .aborted

def Allowed (request : InstallerRequest) (previous : Option InstalledState) : Prop :=
  ∀ expected, request.expectedPrevious = some expected →
    ∃ state, previous = some state ∧ sameInstalledState expected state = true

def captureEvents (transactionId : ByteString) (previous : Option InstalledState) :
    List InstallerEvent :=
  [⟨.beginMutation, true⟩, ⟨.transactionId, transactionId⟩, ⟨.previousState, previous⟩]

structure Aborted (events : List InstallerEvent) (outcome : InstallerOutcome) : Prop where
  harmless : ∀ event ∈ events, Harmless event
  failed : outcome.1.code ≠ .success
  kept : outcome.2.status ≠ .rolledBack

inductive Ran (request : InstallerRequest) : List InstallerEvent → InstallerOutcome → Prop
  | untouched {events : List InstallerEvent} {outcome : InstallerOutcome} :
      Aborted events outcome → Ran request events outcome
  | unstaged {events : List InstallerEvent} {outcome : InstallerOutcome}
      (transactionId : ByteString) (previous : Option InstalledState)
      (staged : InstallerEvent) :
      Allowed request previous → Stages request staged false →
        Aborted events outcome →
          Ran request (captureEvents transactionId previous ++ staged :: events) outcome
  | staged {events : List InstallerEvent} {outcome : InstallerOutcome}
      (transactionId : ByteString) (previous : Option InstalledState)
      (staged : InstallerEvent) :
      Allowed request previous → Stages request staged true →
        Committing request (candidateReceipt request transactionId previous) previous
            (expectedState request previous) events outcome →
          Ran request (captureEvents transactionId previous ++ staged :: events) outcome

theorem finish_aborted_trace {unfinished finished : InstallerOutcome}
    (trace :
      Trace
        (do
          if !(← perform (.finish .aborted)) then
            return unfinished
          return finished)
        events outcome) :
    (∀ event ∈ events, Harmless event) ∧ (outcome = unfinished ∨ outcome = finished) := by
  obtain ⟨isFinished, rest, rfl, ended⟩ := trace_call_iff.mp trace
  have harmless (answer : Bool) :
      ∀ event ∈ [(⟨.finish .aborted, answer⟩ : InstallerEvent)], Harmless event := by
    intro event member
    rw [mem_singleton.mp member]
    exact .inr (.inr (.inr rfl))
  cases isFinished with
  | false =>
    cases ended
    exact ⟨harmless false, .inl rfl⟩
  | true =>
    cases ended
    exact ⟨harmless true, .inr rfl⟩

theorem Aborted.captured (aborted : Aborted events outcome) (transactionId : ByteString)
    (previous : Option InstalledState) :
    Aborted (captureEvents transactionId previous ++ events) outcome := by
  refine ⟨fun event member => ?_, aborted.failed, aborted.kept⟩
  rcases mem_append.mp member with capture | later
  · simp only [captureEvents, mem_cons, not_mem_nil, or_false] at capture
    rcases capture with rfl | rfl | rfl
    · exact .inl rfl
    · exact .inr (.inl rfl)
    · exact .inr (.inr (.inl rfl))
  · exact aborted.harmless event later

theorem abort_trace (failure : code ≠ .success)
    (trace : Trace (abortWithoutMutation candidate code message) events outcome) :
    Aborted events outcome := by
  obtain ⟨harmless, rfl | rfl⟩ := finish_aborted_trace trace
  · exact ⟨harmless, nofun, nofun⟩
  · exact ⟨harmless, failure, nofun⟩

theorem abortUncaptured_trace {finalizeMessage : String} (failure : code ≠ .success)
    (trace : Trace (abortUncaptured code message finalizeMessage) events outcome) :
    Aborted events outcome := by
  obtain ⟨harmless, rfl | rfl⟩ := finish_aborted_trace trace
  · exact ⟨harmless, nofun, nofun⟩
  · exact ⟨harmless, failure, nofun⟩

theorem checkPrevious_some {refusal : InstallerCode × String}
    (refused : checkPrevious request previous = some refusal) :
    refusal.1 ≠ .success := by
  unfold checkPrevious at refused
  split at refused
  · rw [← Option.some.inj refused]
    exact nofun
  split at refused
  · rw [← Option.some.inj refused]
    exact nofun
  · split at refused
    · rw [← Option.some.inj refused]
      exact nofun
    · cases refused

theorem checkPrevious_none (passed : checkPrevious request previous = none) :
    Allowed request previous := by
  unfold checkPrevious at passed
  obtain ⟨unchanged, passed⟩ := not_taken passed nofun
  intro expected isExpected
  rw [isExpected] at unchanged
  cases previous with
  | none => exact absurd rfl unchanged
  | some state =>
    refine ⟨state, rfl, ?_⟩
    by_contra differs
    rw [Bool.not_eq_true] at differs
    refine unchanged ?_
    change (!sameInstalledState expected state) = true
    rw [differs]
    rfl

theorem refusal_ite {condition : Prop} [Decidable condition]
    {first found : InstallerDiagnostic} {rest : Option InstallerDiagnostic}
    (refused : (if condition then some first else rest) = some found)
    (isFailure : first.code ≠ .success)
    (others : rest = some found → found.code ≠ .success) :
    found.code ≠ .success := by
  split at refused
  · rw [← Option.some.inj refused]
    exact isFailure
  · exact others refused

theorem checkPackage_some (refused : checkPackage request = some diagnostic) :
    diagnostic.code ≠ .success := by
  unfold checkPackage at refused
  split at refused
  · cases refused
  · rw [← Option.some.inj refused]
    exact nofun
  · rw [← Option.some.inj refused]
    exact nofun
  next package _ _ =>
    dsimp only at refused
    obtain ⟨failed, refused⟩ := not_taken refused nofun
    rw [← Option.some.inj refused]
    intro success
    exact failed (beq_iff_eq.mpr success)

theorem checkRequest_some (refused : checkRequest request = some diagnostic) :
    diagnostic.code ≠ .success := by
  unfold checkRequest at refused
  refine refusal_ite refused nofun fun refused => ?_
  refine refusal_ite refused nofun fun refused => ?_
  refine refusal_ite refused nofun fun refused => ?_
  refine refusal_ite refused nofun fun refused => ?_
  refine refusal_ite refused nofun fun refused => ?_
  refine refusal_ite refused nofun fun refused => ?_
  exact refusal_ite refused nofun checkPackage_some

theorem runCaptured_trace (transactionId : ByteString)
    (trace : Trace (runCaptured request transactionId previous) events outcome) :
    Ran request (captureEvents transactionId previous ++ events) outcome := by
  unfold runCaptured at trace
  dsimp only at trace
  split at trace
  next failure message refused =>
    have aborted := abort_trace (checkPrevious_some refused) trace
    exact .untouched (aborted.captured transactionId previous)
  next allowed =>
    obtain ⟨first, second, staged, rfl, staging, rest⟩ := trace_bind_iff.mp trace
    rcases stage_trace staging with ⟨event, rfl, stages⟩ | ⟨rfl, rfl⟩
    · cases staged with
      | false =>
        exact .unstaged transactionId previous event (checkPrevious_none allowed) stages
          (abort_trace (show stageFailed ≠ .success by decide) rest)
      | true =>
        exact .staged transactionId previous event
          (checkPrevious_none allowed) stages (commitStaged_trace rest)
    · have aborted := abort_trace (show stageFailed ≠ .success by decide) rest
      exact .untouched (aborted.captured transactionId previous)

theorem runInstallerTransaction_trace
    (trace : Trace (runInstallerTransaction request) events outcome) :
    Ran request events outcome := by
  unfold runInstallerTransaction at trace
  split at trace
  next diagnostic refused =>
    cases trace
    exact .untouched ⟨nofun, checkRequest_some refused, nofun⟩
  next =>
    obtain ⟨begun, rest, rfl, begunTrace⟩ := trace_call_iff.mp trace
    cases begun with
    | false =>
      cases begunTrace
      refine .untouched ⟨fun event member => ?_, nofun, nofun⟩
      rw [mem_singleton.mp member]
      exact .inl rfl
    | true =>
      obtain ⟨transactionId, rest, rfl, identified⟩ := trace_call_iff.mp begunTrace
      change Trace (ite _ _ _) rest outcome at identified
      have failure : captureFailed ≠ .success := by decide
      split at identified
      · have aborted := abortUncaptured_trace failure identified
        refine .untouched ⟨fun event member => ?_, aborted.failed, aborted.kept⟩
        rcases mem_cons.mp member with rfl | member
        · exact .inl rfl
        · rcases mem_cons.mp member with rfl | later
          · exact .inr (.inl rfl)
          · exact aborted.harmless event later
      · obtain ⟨previous, rest, rfl, captured⟩ := trace_call_iff.mp identified
        change Trace (ite _ _ _) rest outcome at captured
        split at captured
        · exact .untouched
            ((abortUncaptured_trace failure captured).captured transactionId previous)
        · exact runCaptured_trace transactionId captured

/-- The states agree but for the order of their components. -/
structure SameState (left right : InstalledState) : Prop where
  schemaVersion : left.schemaVersion = right.schemaVersion
  installedVersion : left.installedVersion = right.installedVersion
  installedRevision : left.installedRevision = right.installedRevision
  architecture : left.architecture = right.architecture
  uninstallRegistered : left.uninstallRegistered = right.uninstallRegistered
  startupMode : left.startupMode = right.startupMode
  userProfilesPresent : left.userProfilesPresent = right.userProfilesPresent
  ownedComponents : left.ownedComponents.Perm right.ownedComponents

theorem sameState_of_sameInstalledState {left right : InstalledState}
    (same : sameInstalledState left right = true) : SameState left right := by
  unfold sameInstalledState at same
  simp only [Bool.and_eq_true, beq_iff_eq] at same
  obtain ⟨⟨⟨⟨⟨⟨⟨⟨schema, version⟩, revision⟩, architecture⟩, registered⟩,
    mode⟩, profiles⟩, _⟩, sorted⟩ := same
  refine ⟨schema, version, revision, architecture, registered, mode, profiles, ?_⟩
  have sortedLeft := perm_insertionSort
    (fun first second : InstalledComponentState =>
      first.component.code ≤ second.component.code) left.ownedComponents
  have sortedRight := perm_insertionSort
    (fun first second : InstalledComponentState =>
      first.component.code ≤ second.component.code) right.ownedComponents
  unfold sortByComponent at sorted
  rw [sorted] at sortedLeft
  exact sortedLeft.symm.trans sortedRight

/-- What the calls of a transaction and its outcome say of each other. -/
structure OutcomeLaw (request : InstallerRequest) (events : List InstallerEvent)
    (outcome : InstallerOutcome) : Prop where
  succeeded :
    outcome.1.code = .success ↔
      ∃ transactionId previous staged,
        Stages request staged true ∧
          events =
            captureEvents transactionId previous ++
              staged :: committedEvents (expectedState request previous)
  applied :
    outcome.1.code = .success →
      ∃ previous,
        ⟨.previousState, previous⟩ ∈ events ∧
          ⟨.verify (expectedState request previous), true⟩ ∈ events ∧
          outcome.2.resultingState = expectedState request previous ∧
          outcome.2.status = if request.action = .uninstall then .removed else .applied
  unchanged :
    ∀ event ∈ events,
      (event.request = .commit ∨ (∃ options, event.request = .stageUninstall options) ∨
          ∃ action package options, event.request = .stageInstallOrRepair action package options) →
        ∃ previous, ⟨.previousState, previous⟩ ∈ events ∧
          ∀ expected, request.expectedPrevious = some expected →
            ∃ state, previous = some state ∧ SameState expected state
  undone :
    ∀ answer, ⟨.commit, answer⟩ ∈ events → outcome.1.code ≠ .success →
      ∃ first rolled last, events = first ++ ⟨.rollback, rolled⟩ :: last ∧ ⟨.commit, answer⟩ ∈ first
  reported :
    ∀ answer, ⟨.commit, answer⟩ ∈ events → outcome.1.code ≠ .success →
      (outcome.2.status = .rolledBack ∧ restoredEvents <:+ events ∧
          ∃ previous, ⟨.previousState, previous⟩ ∈ events ∧ outcome.2.resultingState = previous) ∨
        (outcome.2.status = .recoveryRequired ∧ ¬ restoredEvents <:+ events)
  rolledBack : outcome.2.status = .rolledBack → restoredEvents <:+ events

theorem not_restored {first last : List InstallerEvent} (nonempty : last ≠ [])
    (different : last.getLast? ≠ some ⟨.finish .rolledBack, true⟩) :
    ¬ restoredEvents <:+ first ++ last := by
  rintro ⟨before, same⟩
  refine different ?_
  have lasts := congrArg List.getLast? same
  rw [getLast?_append_of_ne_nil _ nonempty,
    getLast?_append_of_ne_nil _ (show restoredEvents ≠ [] from cons_ne_nil _ _)] at lasts
  exact lasts.symm

theorem Harmless.calm (harmless : Harmless event) :
    event.request ≠ .commit ∧ event.request ≠ .rollback ∧
      (∀ action package options, event.request ≠ .stageInstallOrRepair action package options) ∧
      ∀ options, event.request ≠ .stageUninstall options := by
  rcases harmless with same | same | same | same
  all_goals
    rw [same]
    exact ⟨nofun, nofun, nofun, nofun⟩

theorem Stages.calm {answer : Bool} (stages : Stages request event answer) :
    event.request ≠ .commit ∧ event.request ≠ .rollback := by
  cases stages with
  | uninstall | installOrRepair => exact ⟨nofun, nofun⟩

theorem captureEvents_harmless (member : event ∈ captureEvents transactionId previous) :
    Harmless event := by
  simp only [captureEvents, mem_cons, not_mem_nil, or_false] at member
  rcases member with rfl | rfl | rfl
  · exact .inl rfl
  · exact .inr (.inl rfl)
  · exact .inr (.inr (.inl rfl))

/-- A call of a captured transaction: it captures, it stages, or it comes
later. -/
theorem mem_captured
    (member : event ∈ captureEvents transactionId previous ++ staged :: events) :
    Harmless event ∨ event = staged ∨ event ∈ events := by
  rcases mem_append.mp member with capture | later
  · exact .inl (captureEvents_harmless capture)
  · exact .inr (mem_cons.mp later)

theorem previousState_mem :
    ⟨.previousState, previous⟩ ∈ captureEvents transactionId previous ++ staged :: events := by
  refine mem_append_left _ ?_
  simp [captureEvents]

theorem Allowed.captured (allowed : Allowed request previous) :
    ∃ captured,
      ⟨.previousState, captured⟩ ∈ captureEvents transactionId previous ++ staged :: events ∧
        ∀ expected, request.expectedPrevious = some expected →
          ∃ state, captured = some state ∧ SameState expected state := by
  refine ⟨previous, previousState_mem, fun expected isExpected => ?_⟩
  obtain ⟨state, isState, same⟩ := allowed expected isExpected
  exact ⟨state, isState, sameState_of_sameInstalledState same⟩

theorem Aborted.law (aborted : Aborted events outcome) : OutcomeLaw request events outcome where
  succeeded := by
    refine ⟨fun success => absurd success aborted.failed, ?_⟩
    rintro ⟨transactionId, previous, staged, _, rfl⟩
    have commits :
        (⟨.commit, true⟩ : InstallerEvent) ∈
          captureEvents transactionId previous ++
            staged :: committedEvents (expectedState request previous) := by
      simp [committedEvents]
    exact absurd rfl (aborted.harmless _ commits).calm.1
  applied := fun success => absurd success aborted.failed
  unchanged := by
    intro event member changes
    obtain ⟨commit, _, install, uninstall⟩ := (aborted.harmless event member).calm
    rcases changes with isCommit | ⟨options, isStage⟩ | ⟨action, package, options, isStage⟩
    · exact absurd isCommit commit
    · exact absurd isStage (uninstall options)
    · exact absurd isStage (install action package options)
  undone := fun answer member _ => absurd rfl (aborted.harmless _ member).calm.1
  reported := fun answer member _ => absurd rfl (aborted.harmless _ member).calm.1
  rolledBack := fun status => absurd status aborted.kept

theorem unstaged_law (allowed : Allowed request previous) (stages : Stages request staged false)
    (aborted : Aborted events outcome) :
    OutcomeLaw request (captureEvents transactionId previous ++ staged :: events) outcome := by
  have calm (event : InstallerEvent)
      (member : event ∈ captureEvents transactionId previous ++ staged :: events) :
      event.request ≠ .commit := by
    rcases mem_captured member with harmless | rfl | later
    · exact harmless.calm.1
    · exact stages.calm.1
    · exact (aborted.harmless event later).calm.1
  refine ⟨⟨fun success => absurd success aborted.failed, ?_⟩,
    fun success => absurd success aborted.failed,
    fun _ _ _ => allowed.captured,
    fun answer member _ => absurd rfl (calm _ member),
    fun answer member _ => absurd rfl (calm _ member),
    fun status => absurd status aborted.kept⟩
  rintro ⟨otherId, other, event, _, same⟩
  refine absurd rfl (calm ⟨.commit, true⟩ ?_)
  rw [same]
  simp [committedEvents]

theorem committed_law (allowed : Allowed request previous) (stages : Stages request staged true) :
    OutcomeLaw request
      (captureEvents transactionId previous ++
        staged :: committedEvents (expectedState request previous))
      ({}, committedReceipt request candidate (expectedState request previous)) := by
  refine ⟨⟨fun _ => ⟨transactionId, previous, staged, stages, rfl⟩, fun _ => rfl⟩,
    fun _ => ⟨previous, previousState_mem, ?_, rfl, rfl⟩,
    fun _ _ _ => allowed.captured,
    fun _ _ failed => absurd rfl failed,
    fun _ _ failed => absurd rfl failed, fun status => ?_⟩
  · simp [committedEvents]
  · change (if request.action = .uninstall then
        InstallerReceiptStatus.removed else .applied) = .rolledBack at status
    obtain ⟨_, status⟩ := not_taken status nofun
    cases status

theorem failed_law {first second : List InstallerEvent}
    (allowed : Allowed request previous) (failure : code ≠ .success)
    (rolls : RollsBack code previous second outcome) :
    OutcomeLaw request (captureEvents transactionId previous ++ staged :: (first ++ second))
      outcome := by
  obtain ⟨rolled, last, rfl⟩ := rolls.attempted
  have failed := rolls.failed failure
  have regroup :
      captureEvents transactionId previous ++ staged :: (first ++ ⟨.rollback, rolled⟩ :: last) =
        (captureEvents transactionId previous ++ staged :: first) ++
          ⟨.rollback, rolled⟩ :: last := by
    rw [append_assoc, cons_append]
  -- Every commit stands in front of the rollback.
  have early (answer : Bool)
      (member :
        (⟨.commit, answer⟩ : InstallerEvent) ∈
          captureEvents transactionId previous ++
            staged :: (first ++ ⟨.rollback, rolled⟩ :: last)) :
      (⟨.commit, answer⟩ : InstallerEvent) ∈
        captureEvents transactionId previous ++ staged :: first := by
    rw [regroup] at member
    rcases mem_append.mp member with before | behind
    · exact before
    · rcases rolls.calls _ behind with same | same | same
      all_goals cases same
  have status :
      (outcome.2.status = .rolledBack ∧
          restoredEvents <:+
            captureEvents transactionId previous ++
              staged :: (first ++ ⟨.rollback, rolled⟩ :: last) ∧
          outcome.2.resultingState = previous) ∨
        (outcome.2.status = .recoveryRequired ∧
          ¬ restoredEvents <:+
            captureEvents transactionId previous ++
              staged :: (first ++ ⟨.rollback, rolled⟩ :: last)) := by
    rw [regroup]
    rcases rolls.restored with ⟨same, status, restored⟩ | ⟨differs, status⟩
    · rw [same]
      exact .inl ⟨status, suffix_append _ _, restored⟩
    · exact .inr ⟨status, not_restored (cons_ne_nil _ _) differs⟩
  refine ⟨⟨fun success => absurd success failed, ?_⟩,
    fun success => absurd success failed, fun _ _ _ => allowed.captured,
    fun answer member _ => ⟨_, rolled, last, regroup, early answer member⟩,
    fun answer member _ => ?_, fun rolledBack => ?_⟩
  · rintro ⟨otherId, other, event, isStage, same⟩
    have member :
        (⟨.rollback, rolled⟩ : InstallerEvent) ∈
          captureEvents otherId other ++
            event :: committedEvents (expectedState request other) := by
      rw [← same, regroup]
      exact mem_append_right _ mem_cons_self
    rcases mem_captured member with harmless | rfl | later
    · exact absurd rfl harmless.calm.2.1
    · exact absurd rfl isStage.calm.2
    · simp [committedEvents] at later
  · rcases status with ⟨status, suffix, restored⟩ | recovery
    · exact .inl ⟨status, suffix, previous, previousState_mem, restored⟩
    · exact .inr recovery
  · rcases status with ⟨_, suffix, _⟩ | ⟨recovery, _⟩
    · exact suffix
    · rw [recovery] at rolledBack
      cases rolledBack

end Traces

/-- Whatever the executor answers, the calls of a transaction, its receipt
and its outcome agree. -/
theorem installer_outcome {request : InstallerRequest} {events : List InstallerEvent}
    {outcome : InstallerOutcome}
    (trace : Trace (runInstallerTransaction request) events outcome) :
    OutcomeLaw request events outcome := by
  cases runInstallerTransaction_trace trace with
  | untouched aborted => exact aborted.law
  | unstaged transactionId previous staged allowed stages aborted =>
    exact unstaged_law allowed stages aborted
  | staged transactionId previous staged allowed stages committing =>
    cases committing with
    | committed => exact committed_law allowed stages
    | failed _ failure rolls => exact failed_law allowed failure rolls

section Example

def sampleInstalled : InstalledState where
  installedVersion := "1.0"
  installedRevision := 1
  uninstallRegistered := true
  ownedComponents :=
    kContracts.map fun contract =>
      { component := contract.component, version := "1.0", sha256 := List.replicate 64 48 }

def sampleUninstall : InstallerRequest where
  action := .uninstall
  package := none
  expectedPrevious := some sampleInstalled
  environment := {}
  options := {}
  trustPolicy := {}

def willingExecutor : Unit → (request : InstallerCall) → InstallerAnswer request × Unit
  | _, .transactionId => ("t-1", ())
  | _, .previousState => (some sampleInstalled, ())
  | _, .beginMutation => (true, ())
  | _, .stageInstallOrRepair _ _ _ => (true, ())
  | _, .stageUninstall _ => (true, ())
  | _, .commit => (true, ())
  | _, .verify _ => (true, ())
  | _, .rollback => (true, ())
  | _, .verifyRollback => (true, ())
  | _, .finish _ => (true, ())

def sampleRun : InstallerOutcome × List InstallerEvent :=
  @record installerCalls _ _ willingExecutor (runInstallerTransaction sampleUninstall) ()

theorem sample_installer_outcome :
    sampleRun.1.2.status = .removed ∧ OutcomeLaw sampleUninstall sampleRun.2 sampleRun.1 :=
  ⟨by decide,
    installer_outcome
      (@record_trace installerCalls _ _ willingExecutor
        (runInstallerTransaction sampleUninstall) ())⟩

end Example

end HydraSeat.Installer
