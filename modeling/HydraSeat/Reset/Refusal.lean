import HydraSeat.Reset.Working

/-!
# Refused resets

A reset that is refused leaves a safe-mode marker of the journal it refused.
The refusal stands if something other than the marker stands against a
reset; if only the marker did, the new marker lets the next reset through.
-/

namespace HydraSeat.Reset

open Foundation
open Foundation.Command
open Watchdog
open Recovery CrashJournalStore

section Refused

variable {guarantee : Scene → Scene → Prop} {scene : Scene}

/-- A reset that finds recovery required writes no more than a marker and
calls no executor. -/
theorem executeVerifiedReset_refused (reflexive : ∀ after, guarantee after after)
    (marks : ∀ bytes, guarantee scene (scene.mark bytes))
    (required : (inspection scene.toEvidence).state = .recoveryRequired)
    (expectedSession : Option SessionId) :
    SceneSafe guarantee
      (fun report after =>
        (after = scene ∨ ∃ bytes, after = scene.mark bytes) ∧ report.success = false)
      (executeVerifiedReset expectedSession) scene := by
  refine sceneSafe_bind (inspectResetState_safe (reflexive scene)) ?_
  rintro before _ ⟨rfl, inspected⟩
  have state := inspected.required required
  rw [if_neg (by
    rw [state]
    intro impossible
    cases impossible)]
  split
  · unfold resetWithoutJournal
    split
    · exact sceneSafe_pure ⟨Or.inl rfl, rfl⟩
    rw [if_pos (by
      rw [state]
      intro impossible
      cases impossible)]
    exact sceneSafe_pure ⟨Or.inl rfl, rfl⟩
  next journal _ =>
    unfold resetWithJournal
    split
    · exact refuse_scene reflexive marks journal _ _ { before := before }
    · exact refuse_scene reflexive marks journal _ _ { before := before }

end Refused

variable {journal : CrashJournalState} {evidence : Evidence} {scene : Scene} {world : World}

/-- The registration that was read bars the reset of this journal. -/
def registrationRefused (journal : CrashJournalState)
    (read : RuntimeRegistrationReadResult) : Bool :=
  match read.status with
  | .success => read.registration.any (registrationMatchesJournal · journal != .ok ())
  | .missing => !journal.isClean
  | _ => true

/-- Something other than the marker stands against a reset. -/
def Irreconcilable (evidence : Evidence) : Prop :=
  match journalOfRead (readContent evidence.files.current kCrashJournalMaxFileBytes) with
  | .error _ => True
  | .ok none => False
  | .ok (some journal) =>
    registrationRefused journal
        (registrationOfFile
          (registrationContent evidence.registration kRuntimeResetRegistrationMaxBytes)) =
      true

theorem inspectLoaded_refused {safeMode : Option SafeModeMarker}
    {read : RuntimeRegistrationReadResult}
    (refused : registrationRefused journal read = true) :
    (inspectLoaded (some journal) safeMode read).state = .recoveryRequired := by
  cases status : read.status with
  | success =>
    simp only [registrationRefused, status] at refused
    simp only [inspectLoaded, status]
    obtain ⟨registration, same, mismatch⟩ := (Option.any_eq_true _ _).mp refused
    rw [bne_iff_ne] at mismatch
    rw [same]
    change (classifyWithJournal journal safeMode (some registration)).1 = _
    unfold classifyWithJournal
    split
    · rfl
    · split
      · rfl
      next matches_ => exact absurd matches_ mismatch
  | missing =>
    simp only [registrationRefused, status] at refused
    simp only [inspectLoaded, status]
    rw [Bool.not_eq_eq_eq_not, Bool.not_true] at refused
    change (classifyWithJournal journal safeMode none).1 = _
    unfold classifyWithJournal
    split
    · rfl
    · change (classifyMatching journal safeMode none).1 = _
      unfold classifyMatching
      rw [refused]
      rfl
  | tooLarge | corrupt | failed => simp only [inspectLoaded, status]

theorem Irreconcilable.required (irreconcilable : Irreconcilable evidence) :
    (inspection evidence).state = .recoveryRequired := by
  unfold Irreconcilable at irreconcilable
  unfold inspection inspectRead
  split at irreconcilable
  next text failed => rw [failed]
  · exact irreconcilable.elim
  next journal loaded =>
    rw [loaded]
    dsimp only
    split
    · rfl
    · exact inspectLoaded_refused irreconcilable

theorem Irreconcilable.mark (irreconcilable : Irreconcilable scene.toEvidence)
    (bytes : List UInt8) :
    Irreconcilable (scene.mark bytes).toEvidence :=
  irreconcilable

/-- A journal and a registration that agree, with a marker of the journal,
are recoverable. -/
theorem marked_recoverable {marker : SafeModeMarker} (held : Holds evidence.files.current journal)
    (marked : HoldsMarker evidence.files.safeMode marker)
    (matches_ : safeModeMatchesJournal marker journal = .ok ())
    (reconciled :
      registrationRefused journal
          (registrationOfFile
            (registrationContent evidence.registration kRuntimeResetRegistrationMaxBytes)) =
        false) :
    (inspection evidence).state = .recoverable := by
  unfold registrationRefused at reconciled
  split at reconciled
  next success =>
    obtain ⟨bytes, registration, file, decoded, same⟩ := registrationOfFile_success success
    have readable : Readable evidence (some journal) (some marker) (some registration) :=
      ⟨held, marked, bytes, registrationReads_success (Or.inl file.symm), decoded⟩
    rw [same] at reconciled
    have correlated : registrationMatchesJournal registration journal = .ok () := by
      rw [Option.any_some, bne_eq_false_iff_eq] at reconciled
      exact reconciled
    rw [readable.inspection]
    change (classifyWithJournal journal (some marker) (some registration)).1 = _
    unfold classifyWithJournal
    rw [Option.elim_some, matches_, Option.elim_some, correlated]
    dsimp only
    unfold classifyMatching
    split
    · rfl
    · rfl
  next missing =>
    have readable : Readable evidence (some journal) (some marker) none :=
      ⟨held, marked, registrationReads_missing (Or.inl (registrationOfFile_missing missing).symm)⟩
    rw [Bool.not_eq_eq_eq_not, Bool.not_false] at reconciled
    rw [readable.inspection]
    change (classifyWithJournal journal (some marker) none).1 = _
    unfold classifyWithJournal
    rw [Option.elim_some, matches_]
    dsimp only
    unfold classifyMatching
    rw [if_pos reconciled]
    rfl
  · cases reconciled

abbrev ResetConfiguration :=
  Configuration resetInterface (Option SessionId) ResetExecutionReport World

abbrev ResetMove : ResetConfiguration → ResetConfiguration → Prop :=
  MachineStep executeVerifiedReset resetEnvironment

/-- No reset calls the executor, and after any resets, stopped or not, an
inspection still finds recovery required. -/
structure RefusalStands (world : World) : Prop where
  noAction :
    ∀ expectedSession,
      Safe resetEnvironment (fun before after => after.executed = before.executed)
        (fun _ _ => True) (executeVerifiedReset expectedSession) world
  refused :
    ∀ configuration,
      Relation.ReflTransGen ResetMove ⟨none, world⟩ configuration →
        (inspection configuration.state.scene.toEvidence).state = .recoveryRequired

theorem required_noAction (required : (inspection world.scene.toEvidence).state = .recoveryRequired)
    (expectedSession : Option SessionId) :
    Safe resetEnvironment (fun before after => after.executed = before.executed)
      (fun _ _ => True) (executeVerifiedReset expectedSession) world :=
  safe_mono (fun _ _ => id) (fun _ _ _ => trivial)
    (@executeVerifiedReset_refused
      (fun before after => after.executed = before.executed) world.scene
      (fun _ => rfl) (fun _ => rfl) required expectedSession world rfl)

theorem irreconcilable_run (irreconcilable : Irreconcilable world.scene.toEvidence)
    {configuration : ResetConfiguration}
    (reached : Relation.ReflTransGen ResetMove ⟨none, world⟩ configuration) :
    Irreconcilable configuration.state.scene.toEvidence := by
  have safe :
      ∀ expectedSession (before : World),
        Irreconcilable before.scene.toEvidence →
          Safe resetEnvironment (fun _ after => Irreconcilable after.scene.toEvidence ∧ True)
            (fun _ _ => True) (executeVerifiedReset expectedSession)
            before := by
    intro expectedSession start holds
    have preserved :
        ∀ before after : World,
          Irreconcilable before.scene.toEvidence →
            (Irreconcilable before.scene.toEvidence → Irreconcilable after.scene.toEvidence) →
            Irreconcilable after.scene.toEvidence :=
      fun _ _ holds step => step holds
    have kept := safe_invariant preserved holds
      (@executeVerifiedReset_refused
        (fun before after => Irreconcilable before.toEvidence → Irreconcilable after.toEvidence)
        start.scene (fun _ => id) (fun bytes holds => holds.mark bytes)
        holds.required expectedSession start rfl)
    exact safe_mono (fun _ _ step => ⟨step.1, trivial⟩) (fun _ _ _ => trivial) kept
  exact (@machine_sound _ _ _ _ (fun world => Irreconcilable world.scene.toEvidence)
    (fun _ _ _ => True) (fun _ _ _ _ => True) configuration _ _ safe world irreconcilable
    reached).holds

theorem executeVerifiedReset_marks
    {answers : (request : ResetCall) → resetInterface.Answer request → Prop}
    (loaded :
      journalOfRead (readContent scene.files.current kCrashJournalMaxFileBytes) =
        .ok (some journal))
    (valid : ValidJournal journal)
    (required : (inspection scene.toEvidence).state = .recoveryRequired) :
    SceneSafeIn (workingEnvironment answers) AnyScene
      (fun _ after =>
        after = scene.mark (encodeSafeModeMarker (recoveryRequiredMarker journal 0x52535402)))
      (executeVerifiedReset none) scene := by
  refine sceneSafe_bind (inspectResetState_works trivial) ?_
  rintro _ after ⟨same, rfl⟩
  rw [same, if_neg (by
    rw [required]
    intro impossible
    cases impossible), inspection_journal loaded]
  dsimp only
  unfold resetWithJournal
  rw [Option.any_none, if_neg Bool.false_ne_true, if_pos required]
  exact refuse_works valid _ _ _

theorem recoveryRequiredMarker_matches (journal : CrashJournalState) (diagnosticCode : UInt32) :
    safeModeMatchesJournal (recoveryRequiredMarker journal diagnosticCode) journal = .ok () := by
  unfold safeModeMatchesJournal
  rw [if_neg]
  rintro ⟨_, session | generation⟩
  · exact session rfl
  · exact generation rfl

/-- If only the marker stands against a reset, a refused reset is followed by
one that is not refused. -/
theorem reconcilable_relents (present : world.disk.files.current ≠ none)
    (required : (inspection world.scene.toEvidence).state = .recoveryRequired)
    (reconcilable : ¬ Irreconcilable world.scene.toEvidence) :
    ∃ after,
      Relation.ReflTransGen ResetMove ⟨none, world⟩ ⟨none, after⟩ ∧
        (inspection after.scene.toEvidence).state = .recoverable := by
  unfold Irreconcilable at reconcilable
  split at reconcilable
  · exact absurd trivial reconcilable
  next loaded => exact absurd (loadedFile_missing (Or.inl rfl) loaded) present
  next journal loaded =>
    rw [Bool.not_eq_true] at reconcilable
    have held := journalOfRead_holds (Or.inl rfl) loaded
    obtain ⟨bytes, stored, decoded⟩ := held
    have valid := decodeCrashJournal_valid decoded
    have marked := safe_exec workingHandler_works
      (executeVerifiedReset_marks loaded valid required world rfl)
    have runs := @operation_runs _ _ _ _ executeVerifiedReset resetEnvironment
      workingHandler workingHandler_allowed (fun _ => True) none
      trivial world
    refine ⟨_, runs.lift id fun _ _ move => move.1, ?_⟩
    have accepted := recoveryRequiredMarker_accepted valid 0x52535402
    rw [show (exec workingHandler (executeVerifiedReset none) world).2.scene = _ from marked]
    exact marked_recoverable ⟨bytes, stored, decoded⟩
      ⟨_, rfl, decodeSafeModeMarker_encodeSafeModeMarker accepted⟩
      (recoveryRequiredMarker_matches journal 0x52535402) reconcilable

/-- A refused reset stays refused, through any further resets with any
failures and stops, exactly if something other than the safe-mode marker
stood against it. -/
theorem refusal_stands_iff {world : World} (present : world.disk.files.current ≠ none)
    (required : (inspection world.scene.toEvidence).state = .recoveryRequired) :
    RefusalStands world ↔ Irreconcilable world.scene.toEvidence := by
  constructor
  · intro stands
    by_contra reconcilable
    obtain ⟨after, reached, recoverable⟩ := reconcilable_relents present required reconcilable
    have refused := stands.refused _ reached
    rw [recoverable] at refused
    cases refused
  · intro irreconcilable
    exact ⟨required_noAction required,
      fun configuration reached => (irreconcilable_run irreconcilable reached).required⟩

section Refusals

/-- A session that has just started and lost its registration. -/
def unregisteredWorld : World where
  disk := startedDisk

theorem unregisteredWorld_required :
    (inspection unregisteredWorld.scene.toEvidence).state = .recoveryRequired := by
  have readable : Readable unregisteredWorld.scene.toEvidence (some startedJournal) none none :=
    ⟨holds_encode startedJournal_valid, rfl, rfl⟩
  rw [readable.inspection]
  decide

theorem unregistered_refusal_stands :
    RefusalStands unregisteredWorld ↔ Irreconcilable unregisteredWorld.scene.toEvidence :=
  refusal_stands_iff (fun impossible => nomatch impossible) unregisteredWorld_required

/-- The marker of a session that is not the one in the journal. -/
def strangerMarker : SafeModeMarker where
  sessionId := Vector.replicate 16 9
  runtimeGeneration := 1
  reason := .incompleteSession

def strangerDisk : Disk
  | .current => some (encodeCrashJournal resetJournal)
  | .safeMode => some (encodeSafeModeMarker strangerMarker)
  | _ => none

def strangerWorld : World where
  disk := strangerDisk

theorem strangerMarker_accepted : encodeSafeModeMarker strangerMarker ≠ [] := by
  decide

theorem strangerWorld_required :
    (inspection strangerWorld.scene.toEvidence).state = .recoveryRequired := by
  have readable :
      Readable strangerWorld.scene.toEvidence (some resetJournal) (some strangerMarker) none :=
    ⟨holds_encode resetJournal_valid,
      ⟨_, rfl, decodeSafeModeMarker_encodeSafeModeMarker strangerMarker_accepted⟩,
      rfl⟩
  rw [readable.inspection]
  decide

theorem strangerWorld_reconcilable : ¬ Irreconcilable strangerWorld.scene.toEvidence := by
  have held : Holds strangerWorld.scene.files.current resetJournal :=
    holds_encode resetJournal_valid
  unfold Irreconcilable
  rw [journalOfRead_held held]
  decide

/-- The marker of another session is overwritten, and the next reset is let
through. -/
theorem stranger_refusal_relents :
    ¬ ∀ world : World, world.disk.files.current ≠ none →
      (inspection world.scene.toEvidence).state = .recoveryRequired → RefusalStands world := by
  intro always
  have present : strangerWorld.disk.files.current ≠ none := fun impossible => nomatch impossible
  have stands := always strangerWorld present strangerWorld_required
  obtain ⟨after, reached, recoverable⟩ := reconcilable_relents present strangerWorld_required
    strangerWorld_reconcilable
  have refused := stands.refused _ reached
  rw [recoverable] at refused
  cases refused

end Refusals

end HydraSeat.Reset
