import HydraSeat.Reset.Inspection

/-!
# Programs of a reset

`SceneSafe` is safety for a program of a reset, seen through the files that
matter and the calls of the executor.
-/

namespace HydraSeat.Reset

open Foundation
open Foundation.Command
open Watchdog
open Recovery CrashJournalStore

def Scene.record (self : Scene) (event : ExecutorEvent) : Scene :=
  { self with executed := self.executed ++ [event] }

def diskView : View World Disk where
  get := World.disk
  set := fun world disk => { world with disk := disk }
  get_set := fun _ _ => rfl
  set_get := fun _ => rfl
  set_set := fun _ _ _ => rfl

section SceneSafe

variable {α β : Type}
variable {program : ResetProgram α} {specific post : α → Scene → Prop}

/-- From any world with this scene every call meets `guarantee` and the
result meets `post`. -/
def SceneSafeIn (env : Environment resetInterface World)
    (guarantee : Scene → Scene → Prop) (post : α → Scene → Prop)
    (program : ResetProgram α) (scene : Scene) : Prop :=
  ∀ world : World, world.scene = scene →
    Safe env (fun before after => guarantee before.scene after.scene)
      (fun value after => post value after.scene) program world

abbrev SceneSafe : (Scene → Scene → Prop) → (α → Scene → Prop) → ResetProgram α → Scene → Prop :=
  SceneSafeIn resetEnvironment

variable {env : Environment resetInterface World} {guarantee : Scene → Scene → Prop} {scene : Scene}

theorem sceneSafe_pure {value : α} (holds : post value scene) :
    SceneSafeIn env guarantee post (pure value) scene := by
  rintro world rfl
  exact safe_pure holds

theorem sceneSafe_bind {middle : α → Scene → Prop} {post : β → Scene → Prop}
    {next : α → ResetProgram β}
    (first : SceneSafeIn env guarantee middle program scene)
    (second :
      ∀ value after, middle value after → SceneSafeIn env guarantee post (next value) after) :
    SceneSafeIn env guarantee post (program >>= next) scene := by
  intro world same
  exact safe_bind (first world same)
    fun value after holds => second value after.scene holds after rfl

theorem sceneSafe_mono {stronger : Scene → Scene → Prop}
    (guaranteed : ∀ before after, stronger before after → guarantee before after)
    (returned : ∀ value after, specific value after → post value after)
    (safe : SceneSafeIn env stronger specific program scene) :
    SceneSafeIn env guarantee post program scene := by
  intro world same
  exact safe_mono (fun before after => guaranteed before.scene after.scene)
    (fun value after => returned value after.scene) (safe world same)

theorem sceneSafe_post (safe : SceneSafeIn env guarantee specific program scene)
    (returned : ∀ value after, specific value after → post value after) :
    SceneSafeIn env guarantee post program scene :=
  sceneSafe_mono (fun _ _ => id) returned safe

/-- The journal calls of a reset are the storage calls of a directory. -/
def OffersStorage (env : Environment resetInterface World)
    (storage : Environment storageInterface Disk) : Prop :=
  ∀ before storageCall answer after,
    env before (.journal storageCall) answer after →
      ∃ disk, storage before.disk storageCall answer disk ∧ after = { before with disk := disk }

theorem resetEnvironment_offers : OffersStorage resetEnvironment diskStorage := fun _ _ _ _ => id

theorem workingEnvironment_offers
    (answers : (request : ResetCall) → resetInterface.Answer request → Prop) :
    OffersStorage (workingEnvironment answers) workingDisk :=
  fun _ _ _ _ => id

variable {storage : Environment storageInterface Disk}

theorem sceneSafe_journal
    {allowed : Files → Files → Prop} {post : α → Files → Prop}
    {program : StorageProgram α}
    (offers : OffersStorage env storage)
    (safe : FilesSafeIn storage allowed post program scene.files)
    (guaranteed :
      ∀ before after, allowed before after →
        guarantee { scene with files := before } { scene with files := after }) :
    SceneSafeIn env guarantee
      (fun value after => ∃ files, post value files ∧ after = { scene with files := files })
      (onJournal program) scene := by
  rintro world rfl
  have embedded := @safe_embed _ _ _ _ _ journalCall diskView storage env
    (fun before after => allowed before.files after.files)
    (fun before after =>
      allowed before.disk.files after.disk.files ∧ after.registration = before.registration ∧
        after.executed = before.executed)
    (fun value disk => post value disk.files)
    (by
      intro whole storageCall next holds answer after answered
      obtain ⟨disk, stored, rfl⟩ := offers _ _ _ _ answered
      exact holds answer disk stored)
    (fun whole part holds => ⟨holds, rfl, rfl⟩)
    program world (safe world.disk rfl)
  have kept := safe_invariant
    (by
      rintro before after ⟨registration, executed⟩ ⟨_, sameRegistration, sameExecuted⟩
      exact ⟨sameRegistration.trans registration, sameExecuted.trans executed⟩ :
      ∀ before after : World,
        (before.registration = world.registration ∧ before.executed = world.executed) → _ → _)
    ⟨rfl, rfl⟩ embedded
  refine safe_mono ?_ ?_ kept
  · rintro before after ⟨⟨registration, executed⟩, holds, sameRegistration, sameExecuted⟩
    have step := guaranteed _ _ holds
    unfold World.scene at step ⊢
    rw [← sameRegistration, ← sameExecuted, registration, executed]
    exact step
  · rintro value _ ⟨disk, holds, rfl⟩
    exact ⟨disk.files, holds, rfl⟩

theorem sceneSafe_load
    {post : α → Prop} {program : StorageProgram α}
    (offers : OffersStorage env storage)
    (reflexive : guarantee scene scene)
    (safe :
      FilesSafeIn storage (fun before after => before = scene.files ∧ after = before)
        (fun value after => after = scene.files ∧ post value) program
        scene.files) :
    SceneSafeIn env guarantee (fun value after => after = scene ∧ post value)
      (onJournal program) scene := by
  refine sceneSafe_post (sceneSafe_journal offers safe ?_) ?_
  · rintro _ _ ⟨rfl, rfl⟩
    exact reflexive
  · rintro value _ ⟨_, ⟨rfl, holds⟩, rfl⟩
    exact ⟨rfl, holds⟩

section

variable (reflexive : guarantee scene scene)
include reflexive

theorem sceneSafe_readRegistration (maxBytes : Nat) :
    SceneSafe guarantee
      (fun file after => after = scene ∧ RegistrationReads scene.registration maxBytes file)
      (readRegistration maxBytes) scene := by
  rintro world rfl file _ ⟨rfl, answered⟩
  exact ⟨reflexive, rfl, answered⟩

theorem sceneSafe_removeRegistration
    (removes : guarantee scene { scene with registration := none }) :
    SceneSafe guarantee
      (fun removed after =>
        after = { scene with registration := none } ∨ after = scene ∧ Except.isOk removed = false)
      removeRegistration scene := by
  rintro world rfl removed after answered
  cases removed with
  | ok _ =>
    rw [show after = _ from answered]
    exact ⟨removes, Or.inl rfl⟩
  | error _ =>
    rcases answered with rfl | rfl
    · exact ⟨reflexive, Or.inr ⟨rfl, rfl⟩⟩
    · exact ⟨removes, Or.inl rfl⟩

theorem sceneSafe_removeTemporaryRegistration :
    SceneSafe guarantee (fun _ after => after = scene) removeTemporaryRegistration scene := by
  rintro world rfl _ _ rfl
  exact ⟨reflexive, rfl⟩

theorem sceneSafe_queryCurrentProcess :
    SceneSafe guarantee (fun _ after => after = scene) queryCurrentProcess scene := by
  rintro world rfl _ _ rfl
  exact ⟨reflexive, rfl⟩

end

theorem sceneSafe_prepareOwnedProcesses {actions : List RollbackActionDescriptor}
    (records : ∀ result, guarantee scene (scene.record (.prepared actions result))) :
    SceneSafe guarantee (fun result after => after = scene.record (.prepared actions result))
      (prepareOwnedProcesses actions) scene := by
  rintro world rfl result _ rfl
  exact ⟨records result, rfl⟩

theorem sceneSafe_clearPreparedOwnedProcesses (records : guarantee scene (scene.record .released)) :
    SceneSafe guarantee (fun _ after => after = scene.record .released)
      clearPreparedOwnedProcesses scene := by
  rintro world rfl _ _ rfl
  exact ⟨records, rfl⟩

theorem sceneSafe_executeAction {action : RollbackActionDescriptor} {timeoutMilliseconds : UInt32}
    (records :
      ∀ outcome, guarantee scene (scene.record (.performed action timeoutMilliseconds outcome))) :
    SceneSafe guarantee
      (fun outcome after => after = scene.record (.performed action timeoutMilliseconds outcome))
      (executeAction action timeoutMilliseconds) scene := by
  rintro world rfl outcome _ rfl
  exact ⟨records outcome, rfl⟩

theorem loadRegistration_safe (reflexive : guarantee scene scene) :
    SceneSafe guarantee
      (fun read after =>
        after = scene ∧
          ∃ file,
            RegistrationReads scene.registration kRuntimeResetRegistrationMaxBytes file ∧
              read = registrationOfFile file)
      loadRegistration scene := by
  refine sceneSafe_bind (sceneSafe_readRegistration reflexive _) ?_
  rintro file _ ⟨rfl, answered⟩
  exact sceneSafe_pure ⟨rfl, file, answered, rfl⟩

theorem loadCurrent_scene (reflexive : guarantee scene scene) :
    SceneSafe guarantee
      (fun loaded after =>
        after = scene ∧
          ∃ result,
            ReadsAs scene.files.current kCrashJournalMaxFileBytes result ∧
              loaded = journalOfRead result)
      (onJournal loadCurrent) scene := by
  refine sceneSafe_load resetEnvironment_offers reflexive
    (filesSafe_bind (filesSafe_readCurrent ⟨rfl, rfl⟩ _) ?_)
  rintro result _ ⟨rfl, answered⟩
  exact filesSafe_pure ⟨rfl, result, answered, rfl⟩

theorem loadSafeMode_scene (reflexive : guarantee scene scene) :
    SceneSafe guarantee
      (fun loaded after =>
        after = scene ∧
          ∃ result,
            ReadsAs scene.files.safeMode kSafeModeMarkerFileBytes result ∧
              loaded = markerOfRead result)
      (onJournal loadSafeMode) scene := by
  refine sceneSafe_load resetEnvironment_offers reflexive
    (filesSafe_bind (filesSafe_readSafeMode ⟨rfl, rfl⟩ _) ?_)
  rintro result _ ⟨rfl, answered⟩
  exact filesSafe_pure ⟨rfl, result, answered, rfl⟩

theorem inspectResetState_reads {journalReads markerReads : JournalReadResult → Prop}
    {registrationReads : RegistrationFile → Prop}
    (journal :
      SceneSafeIn env guarantee
        (fun loaded after =>
          after = scene ∧ ∃ result, journalReads result ∧ loaded = journalOfRead result)
        (onJournal loadCurrent) scene)
    (marker :
      SceneSafeIn env guarantee
        (fun loaded after =>
          after = scene ∧ ∃ result, markerReads result ∧ loaded = markerOfRead result)
        (onJournal loadSafeMode) scene)
    (registration :
      SceneSafeIn env guarantee
        (fun read after =>
          after = scene ∧ ∃ file, registrationReads file ∧ read = registrationOfFile file)
        loadRegistration scene)
    (someMarker : ∃ result, markerReads result)
    (someRegistration : ∃ file, registrationReads file) :
    SceneSafeIn env guarantee
      (fun inspected after =>
        after = scene ∧
          ∃ journalResult markerResult file,
            journalReads journalResult ∧ markerReads markerResult ∧ registrationReads file ∧
              inspected = inspectRead journalResult markerResult file)
      inspectResetState scene := by
  obtain ⟨anyMarker, markerRead⟩ := someMarker
  obtain ⟨anyFile, fileRead⟩ := someRegistration
  refine sceneSafe_bind journal ?_
  rintro _ after ⟨same, journalResult, journalRead, rfl⟩
  rw [same]
  unfold inspectRead
  split
  next text failed =>
    refine sceneSafe_pure ⟨rfl, journalResult, anyMarker, anyFile,
      journalRead, markerRead, fileRead, ?_⟩
    rw [failed]
  next loaded journalLoaded =>
    refine sceneSafe_bind marker ?_
    rintro _ after ⟨same, markerResult, markerRead, rfl⟩
    rw [same]
    split
    next text failed =>
      refine sceneSafe_pure ⟨rfl, journalResult, markerResult, anyFile,
        journalRead, markerRead, fileRead, ?_⟩
      rw [journalLoaded]
      dsimp only
      rw [failed]
    next safeMode markerLoaded =>
      refine sceneSafe_bind registration ?_
      rintro _ after ⟨same, file, fileRead, rfl⟩
      rw [same]
      refine sceneSafe_pure ⟨rfl, journalResult, markerResult, file,
        journalRead, markerRead, fileRead, ?_⟩
      rw [journalLoaded]
      dsimp only
      rw [markerLoaded]

theorem inspectResetState_safe (reflexive : guarantee scene scene) :
    SceneSafe guarantee (fun result after => after = scene ∧ Inspected scene.toEvidence result)
      inspectResetState scene := by
  refine sceneSafe_post
    (inspectResetState_reads (loadCurrent_scene reflexive)
      (loadSafeMode_scene reflexive) (loadRegistration_safe reflexive)
      ⟨_, Or.inl rfl⟩ ⟨_, Or.inl rfl⟩) ?_
  rintro _ _ ⟨rfl, _, _, _, journal, marker, registration, rfl⟩
  exact ⟨rfl, inspectRead_inspected journal marker registration⟩

theorem finish_safe (reflexive : guarantee scene scene) (report : ResetExecutionReport) :
    SceneSafe guarantee
      (fun finished after =>
        after = scene ∧
          ∃ result, Inspected scene.toEvidence result ∧ finished = { report with after := result })
      (finish report) scene := by
  refine sceneSafe_bind (inspectResetState_safe reflexive) ?_
  rintro result _ ⟨rfl, inspected⟩
  exact sceneSafe_pure ⟨rfl, result, inspected, rfl⟩

theorem clearRegistration_safe (reflexive : ∀ after, guarantee after after)
    (removes : guarantee scene { scene with registration := none }) :
    SceneSafe guarantee
      (fun removed after =>
        after = { scene with registration := none } ∨ after = scene ∧ Except.isOk removed = false)
      clearRegistration scene := by
  refine sceneSafe_bind (sceneSafe_removeRegistration (reflexive scene) removes) ?_
  intro removed after answered
  split
  · refine sceneSafe_pure ?_
    rcases answered with rfl | ⟨rfl, _⟩
    · exact Or.inl rfl
    · exact Or.inr ⟨rfl, rfl⟩
  rcases answered with rfl | ⟨_, failed⟩
  · refine sceneSafe_bind (sceneSafe_removeTemporaryRegistration (reflexive _)) ?_
    rintro _ _ rfl
    exact sceneSafe_pure (Or.inl rfl)
  · cases failed

def Scene.mark (self : Scene) (bytes : List UInt8) : Scene :=
  { self with files := { self.files with safeMode := some bytes } }

theorem writeRecoveryRequiredMarker_safe (reflexive : ∀ after, guarantee after after)
    (marks : ∀ bytes, guarantee scene (scene.mark bytes))
    (journal : CrashJournalState) (diagnosticCode : UInt32) :
    SceneSafe guarantee (fun _ after => after = scene ∨ ∃ bytes, after = scene.mark bytes)
      (writeRecoveryRequiredMarker journal diagnosticCode) scene := by
  have files :
      FilesSafe
        (fun before after =>
          after = before ∨ before = scene.files ∧ ∃ bytes, after = (scene.mark bytes).files)
        (fun _ after => after = scene.files ∨ ∃ bytes, after = (scene.mark bytes).files)
        (writeSafeMode (recoveryRequiredMarker journal diagnosticCode))
        scene.files := by
    refine filesSafe_post
      (writeSafeMode_safe (fun _ => Or.inl rfl) fun _ => Or.inr ⟨rfl, _, rfl⟩) ?_
    rintro result after (rfl | ⟨rfl, _⟩)
    · exact Or.inr ⟨_, rfl⟩
    · exact Or.inl rfl
  refine sceneSafe_bind (sceneSafe_post (sceneSafe_journal resetEnvironment_offers files ?_) ?_)
    fun _ _ kept => sceneSafe_pure kept
  · rintro before after (rfl | ⟨rfl, bytes, rfl⟩)
    · exact reflexive _
    · exact marks bytes
  · rintro _ _ ⟨_, rfl | ⟨bytes, rfl⟩, rfl⟩
    · exact Or.inl rfl
    · exact Or.inr ⟨bytes, rfl⟩

theorem refuse_scene (reflexive : ∀ after, guarantee after after)
    (marks : ∀ bytes, guarantee scene (scene.mark bytes))
    (journal : CrashJournalState) (diagnosticCode : UInt32)
    (diagnostic : String) (report : ResetExecutionReport) :
    SceneSafe guarantee
      (fun finished after =>
        (after = scene ∨ ∃ bytes, after = scene.mark bytes) ∧ finished.success = report.success)
      (refuse journal diagnosticCode diagnostic report) scene := by
  refine sceneSafe_bind (writeRecoveryRequiredMarker_safe reflexive marks journal diagnosticCode) ?_
  intro _ after kept
  refine sceneSafe_post (finish_safe (reflexive after) _) ?_
  rintro finished _ ⟨rfl, result, _, rfl⟩
  exact ⟨kept, rfl⟩

end SceneSafe

end HydraSeat.Reset
