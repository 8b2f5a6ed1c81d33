import HydraSeat.Reset.Execution
import HydraSeat.Reset.CleanState
import HydraSeat.Reset.Refusal

/-!
# Exact and restartable resets

Whatever fails, a reset calls the executor only for records that agree with
each other, and it leaves clean files only if they were clean, the journal
was, or every registered action was satisfied.  When nothing fails, a
recoverable state is reset for good.
-/

namespace HydraSeat.Reset

open Foundation
open Foundation.Command
open Watchdog
open Recovery CrashJournalStore List

variable {attachment : RecoveryProcessAttachmentIdentity} {registration : RuntimeResetRegistration}
  {journal : CrashJournalState} {safeMode : Option SafeModeMarker} {evidence : Evidence}

/-- The journal is of the session, the lease, the plan and the attachment of
the registration. -/
structure Agrees (registration : RuntimeResetRegistration)
    (attachment : RecoveryProcessAttachmentIdentity)
    (journal : CrashJournalState) : Prop where
  session : journal.sessionId = registration.manifest.lease.sessionId
  lease : journal.lease = registration.manifest.lease
  planHash : journal.planHash = hashRollbackPlanManifest registration.manifest
  plan : validateCrashJournalAgainstPlan journal registration.manifest = .ok ()
  binding : validateRecoveryProcessAttachmentJournalBinding journal attachment = .ok ()

/-- The records under which actions may be executed: a registration with an
attachment of its epoch, and either a journal and a marker that agree with
it or neither of the two. -/
structure Authorised (evidence : Evidence) (registration : RuntimeResetRegistration)
    (attachment : RecoveryProcessAttachmentIdentity) : Prop where
  held : HoldsRegistration evidence.registration registration
  attached : registration.attachment = some attachment
  bound :
    validateRecoveryProcessAttachmentRegistration
        { identity := attachment, manifest := registration.manifest } =
      .ok ()
  epoch : registration.manifest.lease.generation = attachment.recoveryEpoch
  journal :
    (evidence.files.current = none ∧ evidence.files.safeMode = none) ∨
      ∃ journal safeMode,
        Holds evidence.files.current journal ∧ Agrees registration attachment journal ∧
          Recorded HoldsMarker evidence.files.safeMode safeMode ∧
          ∀ marker, safeMode = some marker → safeModeMatchesJournal marker journal = .ok ()

theorem attachment_epoch {manifest : RollbackPlanManifest}
    (bound :
      validateRecoveryProcessAttachmentRegistration
          { identity := attachment, manifest := manifest } =
        .ok ()) :
    manifest.lease.generation = attachment.recoveryEpoch := by
  obtain ⟨_, _, planned⟩ := except_bind_eq_ok bound
  obtain ⟨_, _, counted⟩ := except_bind_eq_ok planned
  split at counted
  · cases counted
  next same => exact not_not.mp same

theorem registration_bound {bytes : List UInt8}
    (decoded : decodeRuntimeResetRegistration bytes = .ok registration)
    (attached : registration.attachment = some attachment) :
    validateRecoveryProcessAttachmentRegistration
        { identity := attachment, manifest := registration.manifest } =
      .ok () := by
  obtain ⟨exact, shaped⟩ := decodeRuntimeResetRegistration_shape decoded
  unfold validateRuntimeResetRegistrationShape at shaped
  obtain ⟨_, shaped⟩ := not_taken shaped nofun
  split at shaped
  · cases shaped
  · split at shaped
    · cases shaped
    · rw [attached] at shaped
      exact shaped

theorem registrationMatchesJournal_agrees
    (correlated : registrationMatchesJournal registration journal = .ok ())
    (unclean : journal.isClean = false) :
    ∃ attachment, registration.attachment = some attachment ∧
      Agrees registration attachment journal := by
  have shares := registrationMatchesJournal_shares correlated
  unfold registrationMatchesJournal at correlated
  obtain ⟨_, correlated⟩ := not_taken correlated nofun
  split at correlated
  · cases correlated
  split at correlated
  · cases correlated
  split at correlated
  · cases correlated
  next planned =>
    unfold attachmentMatchesJournal at correlated
    split at correlated
    next attachment attached =>
      exact ⟨attachment, attached, shares.sessionId, shares.lease,
        shares.planHash, planned, correlated⟩
    · split at correlated
      · cases correlated
      · rw [unclean] at correlated
        cases correlated

theorem classifyWithJournal_settled {registration : Option RuntimeResetRegistration}
    (settled : (classifyWithJournal journal safeMode registration).1 ≠ .recoveryRequired) :
    (∀ marker, safeMode = some marker → safeModeMatchesJournal marker journal = .ok ()) ∧
      ∀ found, registration = some found → registrationMatchesJournal found journal = .ok () := by
  unfold classifyWithJournal at settled
  split at settled
  · exact absurd rfl settled
  next marked =>
    split at settled
    · exact absurd rfl settled
    next correlated =>
      constructor
      · rintro marker rfl
        exact marked
      · rintro found rfl
        exact correlated

theorem readable_authorised
    (readable : Readable evidence (some journal) safeMode (some registration))
    (settled : (classify (some journal) safeMode (some registration)).1 ≠ .recoveryRequired)
    (unclean : journal.isClean = false) :
    ∃ attachment, Authorised evidence registration attachment := by
  obtain ⟨marked, correlated⟩ := classifyWithJournal_settled settled
  obtain ⟨attachment, attached, agrees⟩ :=
    registrationMatchesJournal_agrees (correlated registration rfl) unclean
  obtain ⟨bytes, stored, decoded⟩ := readable.registration
  have bound := registration_bound decoded attached
  exact ⟨attachment, ⟨bytes, stored, decoded⟩, attached, bound, attachment_epoch bound,
    Or.inr ⟨journal, safeMode, readable.journal, agrees, readable.safeMode, marked⟩⟩

theorem readable_authorised_preJournal
    (readable : Readable evidence none safeMode (some registration))
    (settled : (classify none safeMode (some registration)).1 ≠ .recoveryRequired) :
    safeMode = none ∧ ∃ attachment, Authorised evidence registration attachment := by
  change (classifyWithoutJournal safeMode (some registration)).1 ≠ _ at settled
  unfold classifyWithoutJournal at settled
  split at settled
  · exact absurd rfl settled
  next unmarked =>
    rw [Bool.not_eq_true, Option.isSome_eq_false_iff, Option.isNone_iff_eq_none] at unmarked
    subst unmarked
    dsimp only at settled
    split at settled
    · exact absurd rfl settled
    next attached =>
      rw [Option.isNone_iff_eq_none] at attached
      obtain ⟨attachment, attached⟩ := Option.ne_none_iff_exists'.mp attached
      obtain ⟨bytes, stored, decoded⟩ := readable.registration
      have bound := registration_bound decoded attached
      exact ⟨rfl, attachment, ⟨bytes, stored, decoded⟩, attached, bound, attachment_epoch bound,
        Or.inl ⟨readable.journal, readable.safeMode⟩⟩

/-- What makes clean files a truth: a clean journal, or every registered
action satisfied since the start. -/
inductive Earned (start after : Scene) : Prop where
  | cleanJournal (journal : CrashJournalState) (held : Holds start.files.current journal)
      (clean : journal.isClean = true)
  | satisfied (registration : RuntimeResetRegistration) (events : List ExecutorEvent)
      (held : HoldsRegistration start.registration registration)
      (logged : after.executed = start.executed ++ events)
      (all : AllSatisfied registration events)

/-- The executor is called only before the files change and under records
that agree, and files become clean only if that is earned. -/
structure ResetStep (start before after : Scene) : Prop where
  logged :
    ∃ events, after.executed = before.executed ++ events ∧
      (events ≠ [] →
        before.toEvidence = start.toEvidence ∧
          ∃ registration attachment, Authorised start.toEvidence registration attachment)
  earned : Spotless after.toEvidence → Spotless before.toEvidence ∨ Earned start after

section ResetStep

variable {start scene : Scene}
variable {registration : RuntimeResetRegistration} {attachment : RecoveryProcessAttachmentIdentity}
  {report : ResetExecutionReport} {before : ResetInspection}

theorem resetStep_refl (start scene : Scene) : ResetStep start scene scene :=
  ⟨⟨[], (append_nil _).symm, fun changed => absurd rfl changed⟩, Or.inl⟩

theorem resetStep_mark (bytes : List UInt8) : ResetStep start scene (scene.mark bytes) := by
  refine ⟨⟨[], (append_nil _).symm, fun changed => absurd rfl changed⟩, ?_⟩
  rintro ⟨⟨unmarked, _⟩, _⟩
  cases unmarked

theorem resetStep_logs (authorised : Authorised start.toEvidence registration attachment) :
    Logs (ResetStep start) start := by
  intro events event
  exact ⟨⟨[event], rfl, fun _ => ⟨rfl, registration, attachment, authorised⟩⟩, Or.inl⟩

theorem Earned.same {after other : Scene} (earned : Earned start after)
    (executed : other.executed = after.executed) :
    Earned start other := by
  cases earned with
  | cleanJournal journal held clean => exact .cleanJournal journal held clean
  | satisfied registration events held logged all =>
    exact .satisfied registration events held (executed.trans logged) all

theorem resetStep_files (kept : scene.registration ≠ none ∨ Earned start scene)
    (before after : Files) :
    ResetStep start { scene with files := before } { scene with files := after } := by
  refine ⟨⟨[], (append_nil _).symm, fun changed => absurd rfl changed⟩, ?_⟩
  rintro ⟨_, unregistered⟩
  rcases kept with registered | earned
  · exact absurd unregistered registered
  · exact Or.inr (earned.same rfl)

theorem resetStep_remove (earned : Earned start scene) :
    ResetStep start scene { scene with registration := none } :=
  ⟨⟨[], (append_nil _).symm, fun changed => absurd rfl changed⟩, fun _ => Or.inr (earned.same rfl)⟩

/-- A report of success comes with clean files. -/
def Successful (report : ResetExecutionReport) (after : Scene) : Prop :=
  report.success = true → Spotless after.toEvidence

theorem Inspected.spotless {result : ResetInspection}
    (inspected : Inspected evidence result)
    (clean : (result.state == .clean) = true) : Spotless evidence := by
  rw [beq_iff_eq] at clean
  have settled : result.state ≠ .recoveryRequired := by
    rw [clean]
    intro impossible
    cases impossible
  rw [inspected.exact settled] at clean
  exact (inspection_clean_iff evidence).mp clean

/-- A program of the journal store while a registration exists or clean
files are earned. -/
theorem journal_step {α : Type} {allowed : Files → Files → Prop}
    {post : α → Files → Prop} {program : StorageProgram α}
    (kept : scene.registration ≠ none ∨ Earned start scene)
    (safe : FilesSafe allowed post program scene.files) :
    SceneSafe (ResetStep start) (fun _ after => ∃ files, after = { scene with files := files })
      (onJournal program) scene :=
  sceneSafe_post
    (sceneSafe_journal resetEnvironment_offers safe
      fun before after _ => resetStep_files kept before after)
    fun _ _ left => by
      obtain ⟨files, _, placed⟩ := left
      exact ⟨files, placed⟩

theorem refuse_step (failed : report.success = false)
    (journal : CrashJournalState) (diagnosticCode : UInt32)
    (diagnostic : String) :
    SceneSafe (ResetStep start) Successful
      (refuse journal diagnosticCode diagnostic report) scene := by
  refine sceneSafe_post
    (refuse_scene (resetStep_refl start) resetStep_mark journal diagnosticCode diagnostic report) ?_
  rintro finished after ⟨_, success⟩ succeeded
  rw [success, failed] at succeeded
  cases succeeded

theorem finish_step (failed : report.success = false) :
    SceneSafe (ResetStep start) Successful (finish report) scene := by
  refine sceneSafe_post (finish_safe (resetStep_refl start scene) _) ?_
  rintro finished after ⟨_, result, _, rfl⟩ succeeded
  rw [show report.success = true from succeeded] at failed
  cases failed

theorem completePreJournal_step (earned : Earned start scene) (report : ResetExecutionReport) :
    SceneSafe (ResetStep start) Successful (completePreJournal report) scene := by
  refine sceneSafe_bind (clearRegistration_safe (resetStep_refl start) (resetStep_remove earned)) ?_
  intro removed middle _
  refine sceneSafe_bind (inspectResetState_safe (resetStep_refl start middle)) ?_
  rintro result _ ⟨rfl, inspected⟩
  refine sceneSafe_pure ?_
  intro succeeded
  dsimp only at succeeded
  rw [Bool.and_eq_true] at succeeded
  exact inspected.spotless succeeded.2

theorem clearSeenMarker_step (kept : scene.registration ≠ none ∨ Earned start scene)
    (journal : CrashJournalState) (report : ResetExecutionReport) :
    SceneSafe (ResetStep start) (fun _ after => ∃ files, after = { scene with files := files })
      (clearSeenMarker journal report) scene := by
  unfold clearSeenMarker
  split
  · exact journal_step kept (clearSafeModeAfterVerifiedReset_safe _ _ _)
  · exact sceneSafe_pure ⟨scene.files, rfl⟩

theorem clearStaleMetadata_step (earned : Earned start scene) (journal : CrashJournalState)
    (report : ResetExecutionReport) :
    SceneSafe (ResetStep start) Successful (clearStaleMetadata journal report) scene := by
  refine sceneSafe_bind (clearSeenMarker_step (Or.inr earned) journal report) ?_
  rintro cleared _ ⟨files, rfl⟩
  have removes :
      SceneSafe (ResetStep start) (fun _ _ => True)
        (clearSeenRegistration report) { scene with files := files } := by
    unfold clearSeenRegistration
    split
    · exact sceneSafe_post
        (clearRegistration_safe (resetStep_refl start) (resetStep_remove (earned.same rfl)))
        fun _ _ _ => trivial
    · exact sceneSafe_pure trivial
  refine sceneSafe_bind removes ?_
  intro removed middle _
  refine sceneSafe_bind (inspectResetState_safe (resetStep_refl start middle)) ?_
  rintro result _ ⟨rfl, inspected⟩
  exact sceneSafe_pure inspected.spotless

theorem completeReset_step (earned : Earned start scene) (journal : CrashJournalState)
    (report : ResetExecutionReport) :
    SceneSafe (ResetStep start) Successful (completeReset journal report) scene := by
  refine sceneSafe_bind (clearSeenMarker_step (Or.inr earned) journal report) ?_
  rintro cleared _ ⟨files, rfl⟩
  refine sceneSafe_bind
    (clearRegistration_safe (resetStep_refl start) (resetStep_remove (earned.same rfl))) ?_
  intro removed middle _
  refine sceneSafe_bind (inspectResetState_safe (resetStep_refl start middle)) ?_
  rintro result _ ⟨rfl, inspected⟩
  exact sceneSafe_pure inspected.spotless

theorem persistPreJournalFailure_step (failed : report.success = false)
    (registered : scene.registration ≠ none)
    (registration : RuntimeResetRegistration) :
    SceneSafe (ResetStep start) (fun persisted _ => persisted.success = false)
      (persistPreJournalFailure registration report) scene := by
  unfold persistPreJournalFailure
  split
  · exact sceneSafe_pure failed
  next journal _ =>
    refine sceneSafe_bind (journal_step (Or.inl registered) (beginActivation_safe journal)) ?_
    rintro begun _ ⟨files, rfl⟩
    split
    · exact sceneSafe_pure failed
    · refine sceneSafe_bind
        (writeRecoveryRequiredMarker_safe (resetStep_refl start) resetStep_mark journal _) ?_
      intro _ _ _
      exact sceneSafe_pure failed

theorem persistCleanState_step (kept : scene.registration ≠ none ∨ Earned start scene)
    (registration : RuntimeResetRegistration)
    (journal : CrashJournalState) :
    SceneSafe (ResetStep start) (fun _ after => ∃ files, after = { scene with files := files })
      (persistCleanState registration journal) scene := by
  unfold persistCleanState
  split
  · exact sceneSafe_pure ⟨scene.files, rfl⟩
  next cleanState _ => exact journal_step kept (replaceWithVerifiedCleanState_safe cleanState true)

theorem executed_earned {after : Scene} {result : Bool × ResetExecutionReport}
    (held : HoldsRegistration start.registration registration)
    (executed : Executed registration report start result after)
    (succeeded : result.1 = true) : Earned start after := by
  obtain ⟨events, rfl, all, _⟩ := executed
  exact .satisfied registration events held rfl (all succeeded)

theorem holdsRegistration_present {content : Option (List UInt8)}
    (held : HoldsRegistration content registration) :
    content ≠ none := by
  obtain ⟨bytes, rfl, _⟩ := held
  intro impossible
  cases impossible

theorem resetIncomplete_step (authorised : Authorised start.toEvidence registration attachment)
    (failed : report.success = false) (journal : CrashJournalState) :
    SceneSafe (ResetStep start) Successful (resetIncomplete registration journal report) start := by
  refine sceneSafe_bind
    (executeRegisteredActions_safe (resetStep_refl start)
      (resetStep_logs authorised) registration journal.runtimeGeneration
      report) ?_
  rintro ⟨executed, executedReport⟩ after happened
  have success : executedReport.success = false := by
    obtain ⟨_, _, _, same, _⟩ := happened
    exact same.trans failed
  dsimp only
  split
  · exact refuse_step success _ _ _
  next holds =>
    rw [Bool.not_eq_eq_eq_not, Bool.not_true, Bool.not_eq_false] at holds
    have earned := executed_earned authorised.held happened holds
    refine sceneSafe_bind (persistCleanState_step (Or.inr earned) registration journal) ?_
    rintro persisted _ ⟨files, rfl⟩
    split
    · exact refuse_step success _ _ _
    · have stillEarned : Earned start { after with files := files } := earned.same rfl
      exact completeReset_step stillEarned journal executedReport

theorem resetWithoutJournal_step (inspected : Inspected start.toEvidence before)
    (missing : before.journal = none)
    (expectedSession : Option SessionId) :
    SceneSafe (ResetStep start) Successful
      (resetWithoutJournal expectedSession { before := before })
      start := by
  have refused :
      ∀ report : ResetExecutionReport, report.success = false →
        SceneSafe (ResetStep start) Successful (pure report) start := by
    intro report failed
    refine sceneSafe_pure ?_
    intro succeeded
    rw [failed] at succeeded
    cases succeeded
  unfold resetWithoutJournal
  split
  · exact refused _ rfl
  next registration found =>
    split
    · exact refused _ rfl
    next recoverable =>
      split
      · exact refused _ rfl
      rw [not_not] at recoverable
      dsimp only at recoverable found
      cases inspected with
      | unread _ required _ _ =>
        rw [required] at recoverable
        cases recoverable
      | read journal safeMode _ readable =>
        have noJournal : journal = none := missing
        have isRegistered : _ = some registration := found
        subst noJournal
        subst isRegistered
        obtain ⟨_, attachment, authorised⟩ :=
          readable_authorised_preJournal readable (by
            intro required
            rw [show (classify none safeMode
              (some registration)).1 = .recoverable from
                recoverable] at required
            cases required)
        refine sceneSafe_bind
          (executeRegisteredActions_safe (resetStep_refl start)
            (resetStep_logs authorised) registration _ _) ?_
        rintro ⟨executed, executedReport⟩ after happened
        dsimp only
        split
        next holds =>
          exact completePreJournal_step (executed_earned authorised.held happened holds) _
        · obtain ⟨events, rfl, _, success, _⟩ := happened
          have registered : (start.log events).registration ≠ none :=
            holdsRegistration_present authorised.held
          refine sceneSafe_bind (persistPreJournalFailure_step success registered registration) ?_
          intro persisted _ failed
          exact finish_step failed

theorem resetWithJournal_step
    (inspected : Inspected start.toEvidence before)
    (found : before.journal = some journal)
    (expectedSession : Option SessionId) :
    SceneSafe (ResetStep start) Successful
      (resetWithJournal journal expectedSession { before := before })
      start := by
  unfold resetWithJournal
  split
  · exact refuse_step rfl _ _ _
  split
  · exact refuse_step rfl _ _ _
  next settled =>
    split
    next clean =>
      exact clearStaleMetadata_step
        (.cleanJournal journal (inspected.holds journal found) clean) _ _
    next unclean =>
      split
      · exact refuse_step rfl _ _ _
      next registration registered =>
        rw [Bool.not_eq_true] at unclean
        dsimp only at settled registered
        cases inspected with
        | unread _ required _ _ => exact absurd required settled
        | read journalRead safeMode _ readable =>
          have sameJournal : journalRead = some journal := found
          have sameRegistration : _ = some registration := registered
          subst sameJournal
          subst sameRegistration
          obtain ⟨attachment, authorised⟩ := readable_authorised readable settled unclean
          exact resetIncomplete_step authorised rfl journal

theorem executeVerifiedReset_step (expectedSession : Option SessionId) (start : Scene) :
    SceneSafe (ResetStep start) Successful (executeVerifiedReset expectedSession) start := by
  refine sceneSafe_bind (inspectResetState_safe (resetStep_refl start start)) ?_
  rintro before after ⟨rfl, inspected⟩
  split
  next clean =>
    refine sceneSafe_pure ?_
    intro _
    exact inspected.spotless (beq_iff_eq.mpr clean)
  · split
    next missing => exact resetWithoutJournal_step inspected missing expectedSession
    next journal found => exact resetWithJournal_step inspected found expectedSession

end ResetStep

end HydraSeat.Reset
