import HydraSeat.Reset.Exactness

/-!
# Resets when nothing fails

From a recoverable state, a satisfied executor and a working storage lead to
clean files, and a second reset then does nothing.
-/

namespace HydraSeat.Reset

open Foundation
open Foundation.Command
open Watchdog
open Recovery CrashJournalStore List

section Restart

variable {answers : (request : ResetCall) → resetInterface.Answer request → Prop} {scene : Scene}
variable {journal : CrashJournalState} {report : ResetExecutionReport}
  {registration : Option RuntimeResetRegistration} {safeMode : Option SafeModeMarker}
  {expectedSession : Option SessionId}

theorem markerMatchesReset_of_matches {marker : SafeModeMarker}
    (matches_ : safeModeMatchesJournal marker journal = .ok ()) :
    CrashJournalStore.markerMatchesReset marker journal.sessionId journal.runtimeGeneration =
      true := by
  unfold safeModeMatchesJournal at matches_
  obtain ⟨same, matches_⟩ := not_taken matches_ nofun
  unfold CrashJournalStore.markerMatchesReset
  rw [Bool.or_eq_true, Bool.and_eq_true, beq_iff_eq, beq_iff_eq]
  cases zero : isZeroSessionId marker.sessionId with
  | true => exact Or.inl rfl
  | false =>
    rw [not_and, not_or, not_not, not_not] at same
    exact Or.inr (same zero)

theorem clearSeenMarker_works {cleanState : CrashJournalState}
    (valid : ValidJournal cleanState)
    (held : Holds scene.files.current cleanState)
    (clean : cleanState.isClean = true)
    (session : cleanState.sessionId = journal.sessionId)
    (generation : cleanState.runtimeGeneration = journal.runtimeGeneration)
    (recorded : Recorded HoldsMarker scene.files.safeMode report.before.safeMode)
    (matches_ :
      ∀ marker, report.before.safeMode = some marker →
        safeModeMatchesJournal marker journal = .ok ()) :
    SceneSafeIn (workingEnvironment answers) AnyScene
      (fun _ after => after = { scene with files := { scene.files with safeMode := none } })
      (clearSeenMarker journal report) scene := by
  unfold clearSeenMarker
  cases seen : report.before.safeMode with
  | none =>
    rw [seen] at recorded
    have unmarked : scene.files.safeMode = none := recorded
    refine sceneSafe_pure ?_
    rw [← unmarked]
  | some marker =>
    rw [seen] at recorded
    have markerMatches := markerMatchesReset_of_matches (matches_ marker seen)
    rw [← session, ← generation] at markerMatches ⊢
    refine sceneSafe_post
      (working_journal
        (clearSafeModeAfterVerifiedReset_works valid held clean recorded markerMatches)) ?_
    rintro _ _ ⟨_, ⟨_, rfl⟩, rfl⟩
    rfl

theorem clearSeenRegistration_works
    (recorded : Recorded HoldsRegistration scene.registration report.before.registration) :
    SceneSafeIn (workingEnvironment answers) AnyScene
      (fun _ after => after = { scene with registration := none })
      (clearSeenRegistration report) scene := by
  unfold clearSeenRegistration
  cases seen : report.before.registration with
  | none =>
    rw [seen] at recorded
    have unregistered : scene.registration = none := recorded
    refine sceneSafe_pure ?_
    rw [← unregistered]
  | some registration => exact sceneSafe_post clearRegistration_works fun _ _ cleared => cleared.2

theorem executeVerifiedReset_again (spotless : Spotless scene.toEvidence)
    (expectedSession : Option SessionId) :
    SceneSafeIn (workingEnvironment answers) (fun before after => after = before)
      (fun report after => report.success = true ∧ report.noOp = true ∧ after = scene)
      (executeVerifiedReset expectedSession) scene := by
  refine sceneSafe_bind (inspectResetState_works rfl) ?_
  rintro _ after ⟨same, rfl⟩
  rw [if_pos ((inspection_clean_iff _).mpr spotless)]
  exact sceneSafe_pure ⟨rfl, rfl, same⟩

/-- A report of success with clean files. -/
def Restored (report : ResetExecutionReport) (after : Scene) : Prop :=
  report.success = true ∧ Spotless after.toEvidence

theorem clearStaleMetadata_works (held : Holds scene.files.current journal)
    (clean : journal.isClean = true)
    (recorded : Recorded HoldsMarker scene.files.safeMode report.before.safeMode)
    (matches_ :
      ∀ marker, report.before.safeMode = some marker →
        safeModeMatchesJournal marker journal = .ok ())
    (registered : Recorded HoldsRegistration scene.registration report.before.registration) :
    SceneSafeIn (workingEnvironment answers) AnyScene Restored
      (clearStaleMetadata journal report) scene := by
  obtain ⟨bytes, stored, decoded⟩ := held
  refine sceneSafe_bind
    (clearSeenMarker_works (decodeCrashJournal_valid decoded)
      ⟨bytes, stored, decoded⟩ clean rfl rfl recorded matches_) ?_
  rintro cleared _ rfl
  refine sceneSafe_bind (clearSeenRegistration_works registered) ?_
  rintro removed _ rfl
  refine sceneSafe_bind (inspectResetState_works trivial) ?_
  rintro _ after ⟨same, rfl⟩
  have spotless :
      Spotless
        { files := { scene.files with safeMode := none }
          registration := none } :=
    ⟨⟨rfl, Or.inr ⟨journal, ⟨bytes, stored, decoded⟩, clean⟩⟩, rfl⟩
  refine sceneSafe_pure ⟨?_, same ▸ spotless⟩
  exact beq_iff_eq.mpr ((inspection_clean_iff _).mpr spotless)

theorem completeReset_works {cleanState : CrashJournalState}
    (valid : ValidJournal cleanState)
    (held : Holds scene.files.current cleanState)
    (clean : cleanState.isClean = true)
    (session : cleanState.sessionId = journal.sessionId)
    (generation : cleanState.runtimeGeneration = journal.runtimeGeneration)
    (recorded : Recorded HoldsMarker scene.files.safeMode report.before.safeMode)
    (matches_ :
      ∀ marker, report.before.safeMode = some marker →
        safeModeMatchesJournal marker journal = .ok ()) :
    SceneSafeIn (workingEnvironment answers) AnyScene Restored
      (completeReset journal report) scene := by
  refine sceneSafe_bind
    (clearSeenMarker_works valid held clean session generation recorded matches_) ?_
  rintro cleared _ rfl
  refine sceneSafe_bind clearRegistration_works ?_
  rintro removed _ ⟨_, rfl⟩
  refine sceneSafe_bind (inspectResetState_works trivial) ?_
  rintro _ after ⟨same, rfl⟩
  have spotless :
      Spotless
        { files := { scene.files with safeMode := none }
          registration := none } :=
    ⟨⟨rfl, Or.inr ⟨cleanState, held, clean⟩⟩, rfl⟩
  refine sceneSafe_pure ⟨?_, same ▸ spotless⟩
  exact beq_iff_eq.mpr ((inspection_clean_iff _).mpr spotless)

theorem completePreJournal_works (report : ResetExecutionReport) (ready : Ready scene.files) :
    SceneSafeIn (workingEnvironment answers) AnyScene Restored
      (completePreJournal report) scene := by
  refine sceneSafe_bind clearRegistration_works ?_
  rintro _ _ ⟨rfl, rfl⟩
  refine sceneSafe_bind (inspectResetState_works trivial) ?_
  rintro _ after ⟨same, rfl⟩
  have spotless : Spotless { files := scene.files, registration := none } := ⟨ready, rfl⟩
  refine sceneSafe_pure ⟨?_, same ▸ spotless⟩
  exact Bool.and_eq_true_iff.mpr ⟨rfl, beq_iff_eq.mpr ((inspection_clean_iff _).mpr spotless)⟩

theorem persistCleanState_works {registration : RuntimeResetRegistration}
    (valid : ValidJournal journal)
    (correlated : registrationMatchesJournal registration journal = .ok ()) :
    SceneSafeIn (workingEnvironment answers) AnyScene
      (fun persisted after =>
        persisted = .ok () ∧
          ∃ cleanState,
            ValidJournal cleanState ∧ cleanState.isClean = true ∧
              cleanState.sessionId = journal.sessionId ∧
              cleanState.runtimeGeneration = journal.runtimeGeneration ∧
              after =
                { scene with
                  files :=
                    { scene.files with
                      current := some (encodeCrashJournal cleanState) } })
      (persistCleanState registration journal) scene := by
  obtain ⟨cleanState, made, cleanValid, clean, session, generation, _⟩ :=
    makeVerifiedResetCleanState_succeeds valid correlated
  unfold persistCleanState
  rw [made]
  refine sceneSafe_post (working_journal (replaceWithVerifiedCleanState_works cleanValid clean)) ?_
  rintro persisted _ ⟨_, ⟨succeeded, rfl⟩, rfl⟩
  exact ⟨succeeded, cleanState, cleanValid, clean, session, generation, rfl⟩

theorem resetIncomplete_works {registration : RuntimeResetRegistration}
    (satisfiedExecutor : SatisfiedExecutor answers registration)
    (readable : Readable scene.toEvidence (some journal) safeMode (some registration))
    (seen : report.before.safeMode = safeMode)
    (attached : registration.attachment.isSome = true)
    (correlated : registrationMatchesJournal registration journal = .ok ())
    (matches_ : ∀ marker, safeMode = some marker → safeModeMatchesJournal marker journal = .ok ()) :
    SceneSafeIn (workingEnvironment answers) AnyScene Restored
      (resetIncomplete registration journal report) scene := by
  obtain ⟨bytes, stored, decoded⟩ := readable.journal
  have valid := decodeCrashJournal_valid decoded
  have plan := (registrationMatchesJournal_shares correlated).valid
  refine sceneSafe_bind
    (executeRegisteredActions_works satisfiedExecutor plan attached
      journal.runtimeGeneration report) ?_
  rintro ⟨executed, executedReport⟩ _ ⟨succeeded, events, rfl, _, _, before⟩
  have holds : executed = true := succeeded
  dsimp only
  rw [holds]
  refine sceneSafe_bind (persistCleanState_works valid correlated) ?_
  rintro _ _ ⟨rfl, cleanState, cleanValid, clean, session, generation, rfl⟩
  have sameBefore : executedReport.before = report.before := before
  refine completeReset_works cleanValid (holds_encode cleanValid) clean session generation ?_ ?_
  · rw [sameBefore, seen]
    exact readable.safeMode
  · rw [sameBefore, seen]
    exact matches_

/-- The session that a reset of what was inspected would recover. -/
def recoverySession (inspected : ResetInspection) : Option SessionId :=
  match inspected.journal with
  | some journal => some journal.sessionId
  | none => inspected.registration.map (·.manifest.lease.sessionId)

theorem unexpected_none {session : SessionId}
    (expected : expectedSession = none ∨ expectedSession = some session) :
    ¬ expectedSession.any (· != session) = true := by
  rcases expected with rfl | rfl
  · exact Bool.false_ne_true
  · rw [Option.any_some, bne_self_eq_false]
    exact Bool.false_ne_true

theorem resetWithoutJournal_works (readable : Readable scene.toEvidence none safeMode registration)
    (recoverable : (classified none safeMode registration).state = .recoverable)
    (expected :
      expectedSession = none ∨
        expectedSession = recoverySession (classified none safeMode registration))
    (satisfiedExecutor :
      ∀ found, HoldsRegistration scene.registration found → SatisfiedExecutor answers found) :
    SceneSafeIn (workingEnvironment answers) AnyScene Restored
      (resetWithoutJournal expectedSession { before := classified none safeMode registration })
      scene := by
  have settled : (classify none safeMode registration).1 ≠ .recoveryRequired := by
    intro required
    rw [show (classify none safeMode registration).1 = .recoverable from
      recoverable] at required
    cases required
  cases registration with
  | none =>
    cases safeMode with
    | none | some marker => cases recoverable
  | some registration =>
    obtain ⟨rfl, attachment, authorised⟩ := readable_authorised_preJournal readable settled
    obtain ⟨bytes, stored, decoded⟩ := authorised.held
    have attached : registration.attachment.isSome = true := by
      rw [authorised.attached]
      rfl
    unfold resetWithoutJournal
    change SceneSafeIn _ _ _
      (if (classified none none (some registration)).state ≠ .recoverable then _
        else if _ then _ else _) scene
    rw [if_neg (not_not.mpr recoverable), if_neg (unexpected_none expected)]
    refine sceneSafe_bind
      (executeRegisteredActions_works (satisfiedExecutor registration authorised.held)
        (decodeRuntimeResetRegistration_plan decoded) attached _ _) ?_
    rintro ⟨executed, executedReport⟩ _ ⟨succeeded, events, rfl, _⟩
    have holds : executed = true := succeeded
    dsimp only
    rw [if_pos holds]
    exact completePreJournal_works _ ⟨readable.safeMode, Or.inl readable.journal⟩

theorem resetWithJournal_works
    (readable : Readable scene.toEvidence (some journal) safeMode registration)
    (recoverable : (classified (some journal) safeMode registration).state = .recoverable)
    (expected : expectedSession = none ∨ expectedSession = some journal.sessionId)
    (satisfiedExecutor :
      ∀ found, HoldsRegistration scene.registration found → SatisfiedExecutor answers found) :
    SceneSafeIn (workingEnvironment answers) AnyScene Restored
      (resetWithJournal journal expectedSession
        { before := classified (some journal) safeMode registration })
      scene := by
  have settled : (classified (some journal) safeMode registration).state ≠ .recoveryRequired := by
    intro required
    rw [recoverable] at required
    cases required
  obtain ⟨matches_, correlated⟩ := classifyWithJournal_settled settled
  unfold resetWithJournal
  rw [if_neg (unexpected_none expected), if_neg settled]
  cases clean : journal.isClean with
  | true =>
    exact clearStaleMetadata_works readable.journal clean
      readable.safeMode matches_ readable.registration
  | false =>
    cases registration with
    | none =>
      have required : (classified (some journal) safeMode none).state = .recoveryRequired := by
        change (classifyWithJournal journal safeMode none).1 = _
        unfold classifyWithJournal
        split
        · rfl
        · change (classifyMatching journal safeMode none).1 = _
          unfold classifyMatching
          rw [clean]
          rfl
      exact absurd required settled
    | some registration =>
      have related := correlated registration rfl
      obtain ⟨attachment, attached, _⟩ := registrationMatchesJournal_agrees related clean
      have isAttached : registration.attachment.isSome = true := by
        rw [attached]
        rfl
      exact resetIncomplete_works (satisfiedExecutor registration readable.registration)
        readable rfl isAttached related matches_

theorem executeVerifiedReset_works
    (recoverable : (inspection scene.toEvidence).state = .recoverable)
    (expected :
      expectedSession = none ∨ expectedSession = recoverySession (inspection scene.toEvidence))
    (satisfiedExecutor :
      ∀ registration, HoldsRegistration scene.registration registration →
        SatisfiedExecutor answers registration) :
    SceneSafeIn (workingEnvironment answers) AnyScene Restored
      (executeVerifiedReset expectedSession) scene := by
  have inspected := inspection_inspected scene.toEvidence
  refine sceneSafe_bind (inspectResetState_works trivial) ?_
  rintro _ after ⟨same, rfl⟩
  rw [same]
  generalize inspection scene.toEvidence = before at recoverable expected inspected
  rw [if_neg (by
    rw [recoverable]
    intro impossible
    cases impossible)]
  cases inspected with
  | unread _ required _ _ =>
    rw [required] at recoverable
    cases recoverable
  | read journal safeMode registration readable =>
    cases journal with
    | none => exact resetWithoutJournal_works readable recoverable expected satisfiedExecutor
    | some journal => exact resetWithJournal_works readable recoverable expected satisfiedExecutor

end Restart

/-- A call of a reset that started in `start`: the executor is called only
while the files are those of the start and only under records that agree,
and an inspection says clean only if it did at the start or that is
earned. -/
structure ExactStep (start before after : World) : Prop where
  authorised :
    after.executed ≠ before.executed →
      before.scene.toEvidence = start.scene.toEvidence ∧
        ∃ registration attachment, Authorised start.scene.toEvidence registration attachment
  earned :
    (inspection after.scene.toEvidence).state = .clean →
      (inspection start.scene.toEvidence).state = .clean ∨ Earned start.scene after.scene

/-- What a reset has kept since its start. -/
structure Kept (start after : Scene) : Prop where
  logged : ∃ events, after.executed = start.executed ++ events
  earned : Spotless after.toEvidence → Spotless start.toEvidence ∨ Earned start after

theorem ResetStep.keeps {start before after : Scene} (kept : Kept start before)
    (step : ResetStep start before after) : Kept start after := by
  obtain ⟨earlier, earlierLogged⟩ := kept.logged
  obtain ⟨events, logged, _⟩ := step.logged
  have whole : after.executed = start.executed ++ (earlier ++ events) := by
    rw [logged, earlierLogged, append_assoc]
  refine ⟨⟨_, whole⟩, ?_⟩
  intro spotless
  rcases step.earned spotless with was | earned
  · rcases kept.earned was with started | earned
    · exact Or.inl started
    right
    cases earned with
    | cleanJournal journal held clean => exact .cleanJournal journal held clean
    | satisfied registration performed held performedLogged all =>
      refine .satisfied registration (performed ++ events) held ?_ (all.append events)
      rw [logged, performedLogged, append_assoc]
  · exact Or.inr earned

theorem executeVerifiedReset_exact (expectedSession : Option SessionId) (start : World) :
    Safe resetEnvironment (ExactStep start)
      (fun report after =>
        report.success = true →
          (inspection after.scene.toEvidence).state = .clean ∧
            ((inspection start.scene.toEvidence).state = .clean ∨ Earned start.scene after.scene))
      (executeVerifiedReset expectedSession) start := by
  have first : Kept start.scene start.scene := ⟨⟨[], (append_nil _).symm⟩, Or.inl⟩
  have preserved :
      ∀ before after : World,
        Kept start.scene before.scene →
          ResetStep start.scene before.scene after.scene → Kept start.scene after.scene :=
    fun _ _ kept step => step.keeps kept
  have safe :=
    safe_invariant preserved first
      (safe_keeps preserved first
        (executeVerifiedReset_step expectedSession start.scene start rfl))
  have inspects :
      ∀ after : World, Kept start.scene after.scene →
        (inspection after.scene.toEvidence).state = .clean →
          (inspection start.scene.toEvidence).state = .clean ∨ Earned start.scene after.scene := by
    intro after kept clean
    rcases kept.earned ((inspection_clean_iff _).mp clean) with
      started | earned
    · exact Or.inl ((inspection_clean_iff _).mpr started)
    · exact Or.inr earned
  refine safe_mono ?_ ?_ safe
  · rintro before after ⟨kept, step⟩
    refine ⟨?_, inspects after kept⟩
    intro changed
    obtain ⟨events, logged, authorised⟩ := step.logged
    apply authorised
    rintro rfl
    exact changed (logged.trans (append_nil _))
  · rintro report after ⟨kept, successful⟩ success
    have clean := (inspection_clean_iff _).mpr (successful success)
    exact ⟨clean, inspects after kept clean⟩

/-- Whatever fails, a reset is exact; and if nothing fails, a recoverable
state is reset for good and a second reset does nothing. -/
theorem verified_reset_exact_and_restartable (expectedSession : Option SessionId) (start : World) :
    Safe resetEnvironment (ExactStep start)
        (fun report after =>
          report.success = true →
            (inspection after.scene.toEvidence).state = .clean ∧
              ((inspection start.scene.toEvidence).state = .clean ∨ Earned start.scene after.scene))
        (executeVerifiedReset expectedSession) start ∧
      ∀ answers, (inspection start.scene.toEvidence).state = .recoverable →
        (expectedSession = none ∨
          expectedSession = recoverySession (inspection start.scene.toEvidence)) →
        (∀ registration,
          HoldsRegistration start.registration registration →
            SatisfiedExecutor answers registration) →
          Safe (workingEnvironment answers) (fun _ _ => True)
            (fun report after =>
              report.success = true ∧ (inspection after.scene.toEvidence).state = .clean ∧
                ∀ again,
                  Safe (workingEnvironment answers) (fun before next => next.scene = before.scene)
                    (fun second last =>
                      second.success = true ∧ second.noOp = true ∧ last.scene = after.scene)
                    (executeVerifiedReset again) after)
            (executeVerifiedReset expectedSession) start := by
  refine ⟨executeVerifiedReset_exact expectedSession start, ?_⟩
  intro answers recoverable expected satisfiedExecutor
  refine safe_mono (fun _ _ => id) ?_
    (executeVerifiedReset_works recoverable expected satisfiedExecutor start rfl)
  rintro report after ⟨success, spotless⟩
  exact ⟨success, (inspection_clean_iff _).mpr spotless,
    fun again => executeVerifiedReset_again spotless again after rfl⟩

section PreparedWorld

def attachedProcess : ProcessIdentity := ⟨77, 5⟩

/-- A registration that was written before the journal. -/
def preparedRegistration : RuntimeResetRegistration where
  ownerProcess := ⟨88, 6⟩
  manifest :=
    { lease := ⟨Vector.replicate 16 7, 1, 1000⟩, rollbackTimeoutMilliseconds := 2000
      actions := [⟨1, .terminateOwnedProcess, 1, 500, 1, 0, attachedProcess⟩] }
  attachment := some
    { seatId := 1, hostSessionId := Vector.replicate 16 3, sessionGeneration := 1
      seatGameGeneration := 1, process := attachedProcess, recoveryEpoch := 1 }

def preparedWorld : World where
  registration := some (encodeRuntimeResetRegistration preparedRegistration)

theorem preparedRegistration_held :
    HoldsRegistration preparedWorld.registration preparedRegistration :=
  ⟨_, rfl, by decide +kernel⟩

theorem preparedWorld_recoverable :
    (inspection preparedWorld.scene.toEvidence).state = .recoverable := by
  have readable : Readable preparedWorld.scene.toEvidence none none (some preparedRegistration) :=
    ⟨rfl, rfl, preparedRegistration_held⟩
  rw [readable.inspection]
  rfl

/-- The answers of an executor that is satisfied at once. -/
def satisfiedAnswers : (request : ResetCall) → resetInterface.Answer request → Prop
  | .queryCurrentProcess, identity => identity = none
  | .prepareOwnedProcesses _, result => result = .ok ()
  | .executeAction _ _, outcome => satisfied (RollbackActionOutcome.result outcome) = true
  | .steadyClockNow, reading => reading = (0 : Int)
  | _, _ => True

theorem workingHandler_satisfied (world : World) (request : ResetCall) :
    workingEnvironment satisfiedAnswers world request (workingHandler world request).1
      (workingHandler world request).2 := by
  cases request with
  | journal storageCall => exact ⟨_, workingStorage_works world.disk storageCall, rfl⟩
  | readRegistration maxBytes | removeRegistration => exact ⟨rfl, rfl⟩
  | removeTemporaryRegistration | clearPreparedOwnedProcesses => exact ⟨trivial, rfl⟩
  | _ => exact ⟨rfl, rfl⟩

theorem preparedWorld_satisfied {registration : RuntimeResetRegistration}
    (held : HoldsRegistration preparedWorld.registration registration) :
    SatisfiedExecutor satisfiedAnswers registration := by
  obtain ⟨bytes, stored, decoded⟩ := held
  obtain ⟨_, sameBytes, known⟩ := preparedRegistration_held
  have same : registration = preparedRegistration := by
    rw [stored] at sameBytes
    rw [← Option.some.inj sameBytes, decoded] at known
    exact Except.ok.inj known
  subst same
  refine ⟨?_, ?_, ?_, 0, ?_⟩
  · rintro _ rfl
    intro impossible
    cases impossible
  · rintro _ _ rfl
    rfl
  · intro _ _ _ holds
    exact holds
  · rintro _ rfl
    decide

theorem prepared_reset_exact_and_restartable :
    Safe resetEnvironment (ExactStep preparedWorld)
        (fun report after =>
          report.success = true →
            (inspection after.scene.toEvidence).state = .clean ∧
              ((inspection preparedWorld.scene.toEvidence).state = .clean ∨
                Earned preparedWorld.scene after.scene))
        (executeVerifiedReset none) preparedWorld ∧
      Safe (workingEnvironment satisfiedAnswers) (fun _ _ => True)
        (fun report after =>
          report.success = true ∧ (inspection after.scene.toEvidence).state = .clean ∧
            ∀ again,
              Safe (workingEnvironment satisfiedAnswers)
                (fun before next => next.scene = before.scene)
                (fun second last =>
                  second.success = true ∧ second.noOp = true ∧ last.scene = after.scene)
                (executeVerifiedReset again) after)
        (executeVerifiedReset none) preparedWorld :=
  ⟨(verified_reset_exact_and_restartable none preparedWorld).1,
    (verified_reset_exact_and_restartable none preparedWorld).2
      satisfiedAnswers preparedWorld_recoverable (Or.inl rfl)
      fun _ held => preparedWorld_satisfied held⟩

theorem preparedWorld_earned {after : World} (earned : Earned preparedWorld.scene after.scene) :
    after.executed ≠ [] := by
  cases earned with
  | cleanJournal journal held _ =>
    obtain ⟨bytes, impossible, _⟩ := held
    cases impossible
  | satisfied registration events _ logged all =>
    obtain ⟨generation, timeout, outcome, member, _⟩ := all.owner
    have whole : after.executed = events := logged
    rw [whole]
    exact ne_nil_of_mem member

theorem preparedWorld_executes :
    (exec workingHandler (executeVerifiedReset none) preparedWorld).2.executed ≠ [] := by
  have restored := safe_exec workingHandler_satisfied
    (executeVerifiedReset_works preparedWorld_recoverable (Or.inl rfl)
      (fun _ held => preparedWorld_satisfied held) preparedWorld rfl)
  obtain ⟨_, started | earned⟩ := safe_exec workingHandler_allowed
    (executeVerifiedReset_exact none preparedWorld) restored.1
  · rw [preparedWorld_recoverable] at started
    cases started
  · exact preparedWorld_earned earned

/-- A reset may call the executor before any journal exists. -/
theorem prepared_reset_without_journal :
    ¬ ∀ (expectedSession : Option SessionId) (start : World),
      Safe resetEnvironment
        (fun before after =>
          after.executed ≠ before.executed →
            ∃ registration attachment journal,
              HoldsRegistration before.registration registration ∧
                Holds before.disk.files.current journal ∧
                Agrees registration attachment journal)
        (fun _ _ => True) (executeVerifiedReset expectedSession) start := by
  intro always
  have silent :
      ∀ before after : World,
        before.executed = [] →
          ((after.executed ≠ before.executed →
              ∃ registration attachment journal,
                HoldsRegistration before.registration registration ∧
                  Holds before.disk.files.current journal ∧
                  Agrees registration attachment journal) ∧
            ExactStep preparedWorld before after) →
          after.executed = [] := by
    rintro before after quiet ⟨journaled, exact_⟩
    by_contra changed
    have differs : after.executed ≠ before.executed := by
      rw [quiet]
      exact changed
    obtain ⟨_, _, journal, _, held, _⟩ := journaled differs
    have files := (exact_.authorised differs).1
    have missing : before.disk.files.current = none := congrArg (·.files.current) files
    obtain ⟨bytes, present, _⟩ := held
    rw [missing] at present
    cases present
  have kept := safe_keeps silent rfl
    (safe_and (always none preparedWorld) (executeVerifiedReset_exact none preparedWorld))
  exact preparedWorld_executes (safe_exec workingHandler_allowed kept).1

/-- The answer of `appendCrashJournalRecord`, and the journal that it leaves
with its caller. -/
def appendInPlace (state : CrashJournalState) (manifest : RollbackPlanManifest)
    (kind : CrashJournalRecordKind) (actionId : UInt32) (generation : UInt64) :
    Except String Unit × CrashJournalState :=
  match appendCrashJournalRecord state manifest kind actionId generation with
  | .error text => (.error text, state)
  | .ok candidate => (.ok (), candidate)

/-- A valid journal with the records of another and one more. -/
structure ExtendsBy (before after : CrashJournalState) (record : CrashJournalRecord) : Prop where
  valid : ValidJournal after
  extended :
    after =
      { before with
        records := before.records ++ [record], phase := after.phase
        finalResult := after.finalResult }

theorem appendCrashJournalRecord_extends {state candidate : CrashJournalState}
    {manifest : RollbackPlanManifest} {kind : CrashJournalRecordKind} {actionId : UInt32}
    {generation : UInt64}
    (appended : appendCrashJournalRecord state manifest kind actionId generation = .ok candidate) :
    ExtendsBy state candidate
      ⟨UInt64.ofNat (state.records.length + 1), kind, actionId, generation⟩ := by
  obtain ⟨_, _, appended⟩ := except_bind_eq_ok appended
  obtain ⟨derived, _, appended⟩ := except_bind_eq_ok appended
  obtain ⟨_, planned, appended⟩ := except_bind_eq_ok appended
  obtain ⟨_, valid, _⟩ := except_bind_eq_ok planned
  cases appended
  exact ⟨validJournal valid, rfl⟩

/-- Appending extends a valid journal or leaves it alone, and the clean
journal of a verified reset exists behind every journal of the registration. -/
theorem verifiedReset_completes (prior : CrashJournalState) (valid : ValidJournal prior) :
    (∀ manifest kind actionId generation,
        (appendInPlace prior manifest kind actionId generation).1 = .ok () ∧
            ExtendsBy prior (appendInPlace prior manifest kind actionId generation).2
              ⟨UInt64.ofNat (prior.records.length + 1), kind, actionId, generation⟩ ∨
          (∃ text, (appendInPlace prior manifest kind actionId generation).1 = .error text) ∧
            (appendInPlace prior manifest kind actionId generation).2 = prior) ∧
      ∀ registration, registrationMatchesJournal registration prior = .ok () →
        ∃ cleanState,
          makeVerifiedResetCleanState registration prior = .ok cleanState ∧
            ValidJournal cleanState ∧ cleanState.isClean = true ∧
            cleanState.sessionId = prior.sessionId ∧
            cleanState.runtimeGeneration = prior.runtimeGeneration ∧
            cleanState.snapshots = prior.snapshots := by
  constructor
  · intro manifest kind actionId generation
    unfold appendInPlace
    split
    next text _ => exact Or.inr ⟨⟨text, rfl⟩, rfl⟩
    next candidate appended => exact Or.inl ⟨rfl, appendCrashJournalRecord_extends appended⟩
  · intro registration correlated
    exact makeVerifiedResetCleanState_succeeds valid correlated

def preparedJournal : CrashJournalState where
  sessionId := Vector.replicate 16 7
  planHash := hashRollbackPlanManifest preparedRegistration.manifest
  runtimeGeneration := 1
  lease := preparedRegistration.manifest.lease
  snapshots := ((preparedRegistration.attachment.map makeRecoveryProcessAttachmentSnapshot).bind
    Except.toOption).toList
  records := [⟨1, .activationStarted, 0, 1⟩]

theorem preparedJournal_completes :
    ∃ cleanState,
      makeVerifiedResetCleanState preparedRegistration preparedJournal = .ok cleanState ∧
        cleanState.isClean = true := by
  have valid : ValidJournal preparedJournal := validJournal (by decide +kernel)
  obtain ⟨cleanState, made, _, clean, _⟩ :=
    (verifiedReset_completes preparedJournal valid).2 preparedRegistration (by decide +kernel)
  exact ⟨cleanState, made, clean⟩

end PreparedWorld

end HydraSeat.Reset
