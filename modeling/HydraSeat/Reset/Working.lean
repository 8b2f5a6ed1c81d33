import HydraSeat.Reset.Scenes

/-!
# A working storage

When no file fails, every operation of a reset on the files succeeds and has
one outcome.
-/

namespace HydraSeat.Recovery

open Foundation
open Foundation.Command
open Watchdog Storage

theorem workingDisk_allowed {before after : Disk} {storageCall : StorageCall}
    {answer : storageInterface.Answer storageCall}
    (works : workingDisk before storageCall answer after) :
    diskStorage before storageCall answer after := by
  cases storageCall with
  | read slot maxBytes => exact ⟨works.1, Or.inl works.2⟩
  | durableWrite slot bytes =>
    obtain ⟨rfl, placed⟩ := works
    exact placed
  | atomicReplace source destination =>
    cases answer with
    | ok _ => exact works
    | error _ => exact Or.inl works.2
  | remove slot =>
    obtain ⟨rfl, removed⟩ := works
    exact removed

section FilesWork

variable {α : Type} {guarantee : Files → Files → Prop} {files : Files}
variable {program : StorageProgram α}

theorem filesSafe_works {post : α → Files → Prop} (safe : FilesSafe guarantee post program files) :
    FilesSafeIn workingDisk guarantee post program files := by
  intro disk same
  exact safe_environment (fun _ _ _ _ works => workingDisk_allowed works) (safe disk same)

theorem filesWork_readCurrent (reflexive : guarantee files files) (maxBytes : Nat) :
    FilesSafeIn workingDisk guarantee
      (fun result after => after = files ∧ result = readContent files.current maxBytes)
      (read .current maxBytes) files := by
  rintro disk rfl
  rintro result after ⟨rfl, rfl⟩
  exact ⟨reflexive, rfl, rfl⟩

theorem filesWork_readSafeMode (reflexive : guarantee files files) (maxBytes : Nat) :
    FilesSafeIn workingDisk guarantee
      (fun result after => after = files ∧ result = readContent files.safeMode maxBytes)
      (read .safeMode maxBytes) files := by
  rintro disk rfl
  rintro result after ⟨rfl, rfl⟩
  exact ⟨reflexive, rfl, rfl⟩

theorem filesWork_removeSafeMode (removes : guarantee files { files with safeMode := none }) :
    FilesSafeIn workingDisk guarantee
      (fun removed after => removed = .ok () ∧ after = { files with safeMode := none })
      (remove .safeMode) files := by
  rintro disk rfl
  rintro removed after ⟨rfl, rfl⟩
  exact ⟨removes, rfl, rfl⟩

/-- The guarantee of a program whose single steps do not matter. -/
abbrev Anything : Files → Files → Prop := fun _ _ => True

theorem filesWork_writeThenReplace {temporary slot : JournalStorageSlot} {bytes : List UInt8} :
    FilesSafeIn workingDisk Anything (fun answer _ => answer = .ok ())
      (CrashJournalStore.writeThenReplace temporary slot bytes)
      files := by
  rintro disk rfl
  rintro written _ ⟨rfl, rfl⟩
  have content : (disk.put temporary (some bytes)) temporary = some bytes := Function.update_self ..
  refine ⟨trivial, ?_⟩
  intro replaced after replace
  cases replaced with
  | ok _ => exact ⟨trivial, rfl⟩
  | error systemError =>
    rw [replace.1] at content
    cases content

theorem filesWork_and {first second : α → Files → Prop}
    (left : FilesSafeIn workingDisk Anything first program files)
    (right : FilesSafeIn workingDisk Anything second program files) :
    FilesSafeIn workingDisk Anything (fun value after => first value after ∧ second value after)
      program files := by
  intro disk same
  exact safe_mono (fun _ _ _ => trivial) (fun _ _ => id)
    (safe_and (left disk same) (right disk same))

end FilesWork

namespace CrashJournalStore

section Operations

variable {files : Files}
variable {guarantee : Files → Files → Prop} {marker : SafeModeMarker}

theorem loadCurrent_works (reflexive : guarantee files files) :
    FilesSafeIn workingDisk guarantee
      (fun loaded after =>
        after = files ∧
          loaded = journalOfRead (readContent files.current kCrashJournalMaxFileBytes))
      loadCurrent files := by
  refine filesSafe_bind (filesWork_readCurrent reflexive _) ?_
  rintro _ _ ⟨rfl, rfl⟩
  exact filesSafe_pure ⟨rfl, rfl⟩

theorem loadSafeMode_works (reflexive : guarantee files files) :
    FilesSafeIn workingDisk guarantee
      (fun loaded after =>
        after = files ∧ loaded = markerOfRead (readContent files.safeMode kSafeModeMarkerFileBytes))
      loadSafeMode files := by
  refine filesSafe_bind (filesWork_readSafeMode reflexive _) ?_
  rintro _ _ ⟨rfl, rfl⟩
  exact filesSafe_pure ⟨rfl, rfl⟩

theorem writeSafeMode_works (accepted : encodeSafeModeMarker marker ≠ []) :
    FilesSafeIn workingDisk Anything
      (fun result after =>
        result = .ok () ∧ after = { files with safeMode := some (encodeSafeModeMarker marker) })
      (writeSafeMode marker) files := by
  have succeeds :
      FilesSafeIn workingDisk Anything (fun result _ => result = .ok ())
        (writeSafeMode marker) files := by
    unfold writeSafeMode
    dsimp only
    rw [if_neg accepted]
    refine filesSafe_bind filesWork_writeThenReplace ?_
    rintro _ after rfl
    exact filesSafe_pure rfl
  refine filesSafe_post
    (filesWork_and succeeds
      (filesSafe_works (writeSafeMode_safe (fun _ => trivial) fun _ => trivial))) ?_
  rintro _ after ⟨rfl, placed | ⟨_, failed⟩⟩
  · exact ⟨rfl, placed⟩
  · cases failed

theorem persistStateInternal_works
    {state : CrashJournalState} (encoded : encodeCrashJournal state ≠ [])
    (archiveCurrent : Bool) :
    FilesSafeIn workingDisk Anything
      (fun result after =>
        result = .ok () ∧ after = { files with current := some (encodeCrashJournal state) })
      (persistStateInternal state archiveCurrent) files := by
  have succeeds :
      FilesSafeIn workingDisk Anything (fun result _ => result = .ok ())
        (persistStateInternal state archiveCurrent) files := by
    unfold persistStateInternal
    dsimp only
    rw [if_neg encoded]
    refine filesSafe_bind (filesSafe_works (readForArchive_safe trivial archiveCurrent)) ?_
    intro currentBytes after _
    refine filesSafe_bind filesWork_writeThenReplace ?_
    rintro _ after rfl
    dsimp only
    split
    · exact filesSafe_pure rfl
    · exact filesSafe_bind (filesSafe_works (archiveCurrentBestEffort_safe trivial _))
        fun _ _ _ => filesSafe_pure rfl
  refine filesSafe_post
    (filesWork_and succeeds
      (filesSafe_works
        (persistStateInternal_safe (fun _ => trivial) (fun _ => trivial) archiveCurrent))) ?_
  rintro _ after ⟨rfl, placed | ⟨_, failed⟩⟩
  · exact ⟨rfl, placed⟩
  · cases failed

theorem replaceWithVerifiedCleanState_works
    {cleanState : CrashJournalState} (valid : ValidJournal cleanState)
    (clean : cleanState.isClean = true) :
    FilesSafeIn workingDisk Anything
      (fun result after =>
        result = .ok () ∧ after = { files with current := some (encodeCrashJournal cleanState) })
      (replaceWithVerifiedCleanState cleanState true) files := by
  unfold replaceWithVerifiedCleanState
  rw [if_neg (by
    rw [clean, valid.valid]
    simp)]
  exact persistStateInternal_works (encodeCrashJournal_ne_nil valid) true

theorem clearSafeModeAfterVerifiedReset_works {journal : CrashJournalState}
    (valid : ValidJournal journal)
    (held : Holds files.current journal)
    (clean : journal.isClean = true)
    (marked : HoldsMarker files.safeMode marker)
    (matches_ : markerMatchesReset marker journal.sessionId journal.runtimeGeneration = true) :
    FilesSafeIn workingDisk Anything
      (fun result after => result = .ok () ∧ after = { files with safeMode := none })
      (clearSafeModeAfterVerifiedReset journal.sessionId journal.runtimeGeneration true)
      files := by
  obtain ⟨bytes, stored, decoded⟩ := marked
  have matchesJournal :
      journalMatchesReset journal.sessionId journal.runtimeGeneration
          (journalOfRead (readContent files.current kCrashJournalMaxFileBytes)) =
        true := by
    rw [journalOfRead_held held]
    unfold journalMatchesReset
    dsimp only
    rw [clean, beq_self_eq_true, beq_self_eq_true]
    rfl
  unfold clearSafeModeAfterVerifiedReset
  rw [if_neg (by
    rw [valid.session]
    simp [valid.generation])]
  refine filesSafe_bind (filesWork_readSafeMode trivial _) ?_
  rintro _ after ⟨same, rfl⟩
  rw [same, stored, readContent_success (decodeSafeModeMarker_fits decoded)]
  dsimp only
  rw [decoded]
  dsimp only
  rw [matches_]
  refine filesSafe_bind (loadCurrent_works trivial) ?_
  rintro _ after ⟨same, rfl⟩
  rw [same, matchesJournal]
  refine filesSafe_bind (filesWork_removeSafeMode trivial) ?_
  rintro _ after ⟨rfl, removed⟩
  exact filesSafe_pure ⟨rfl, removed⟩

end Operations

end CrashJournalStore

end HydraSeat.Recovery

namespace HydraSeat.Reset

open Foundation
open Foundation.Command
open Watchdog
open Recovery

section Working

variable {α : Type} {answers : (request : ResetCall) → resetInterface.Answer request → Prop}
  {scene : Scene}
variable {journal : CrashJournalState}

/-- The guarantee of a program whose single steps do not matter. -/
abbrev AnyScene : Scene → Scene → Prop := fun _ _ => True

theorem working_journal {post : α → Files → Prop} {program : StorageProgram α}
    (safe : FilesSafeIn workingDisk Anything post program scene.files) :
    SceneSafeIn (workingEnvironment answers) AnyScene
      (fun value after => ∃ files, post value files ∧ after = { scene with files := files })
      (onJournal program) scene :=
  sceneSafe_journal (workingEnvironment_offers answers) safe fun _ _ _ => trivial

theorem inspectResetState_works {guarantee : Scene → Scene → Prop}
    (reflexive : guarantee scene scene) :
    SceneSafeIn (workingEnvironment answers) guarantee
      (fun result after => after = scene ∧ result = inspection scene.toEvidence)
      inspectResetState scene := by
  have offers := workingEnvironment_offers answers
  have journal :
      SceneSafeIn (workingEnvironment answers) guarantee
        (fun loaded after =>
          after = scene ∧
            ∃ result,
              result = readContent scene.files.current kCrashJournalMaxFileBytes ∧
                loaded = CrashJournalStore.journalOfRead result)
        (onJournal CrashJournalStore.loadCurrent) scene :=
    sceneSafe_load offers reflexive
      (filesSafe_post (CrashJournalStore.loadCurrent_works ⟨rfl, rfl⟩)
        fun _ _ loaded => ⟨loaded.1, _, rfl, loaded.2⟩)
  have marker :
      SceneSafeIn (workingEnvironment answers) guarantee
        (fun loaded after =>
          after = scene ∧
            ∃ result,
              result = readContent scene.files.safeMode kSafeModeMarkerFileBytes ∧
                loaded = CrashJournalStore.markerOfRead result)
        (onJournal CrashJournalStore.loadSafeMode) scene :=
    sceneSafe_load offers reflexive
      (filesSafe_post (CrashJournalStore.loadSafeMode_works ⟨rfl, rfl⟩)
        fun _ _ loaded => ⟨loaded.1, _, rfl, loaded.2⟩)
  have registration :
      SceneSafeIn (workingEnvironment answers) guarantee
        (fun read after =>
          after = scene ∧
            ∃ file,
              file = registrationContent scene.registration kRuntimeResetRegistrationMaxBytes ∧
                read = registrationOfFile file)
        loadRegistration scene := by
    rintro world rfl
    rintro _ _ ⟨rfl, rfl⟩
    exact ⟨reflexive, rfl, _, rfl, rfl⟩
  refine sceneSafe_post (inspectResetState_reads journal marker registration ⟨_, rfl⟩ ⟨_, rfl⟩) ?_
  rintro _ _ ⟨same, _, _, _, rfl, rfl, rfl, rfl⟩
  exact ⟨same, rfl⟩

theorem finish_works (report : ResetExecutionReport) :
    SceneSafeIn (workingEnvironment answers) AnyScene
      (fun finished after =>
        after = scene ∧ finished = { report with after := inspection scene.toEvidence })
      (finish report) scene := by
  refine sceneSafe_bind (inspectResetState_works trivial) ?_
  rintro _ after ⟨same, rfl⟩
  exact sceneSafe_pure ⟨same, rfl⟩

theorem clearRegistration_works :
    SceneSafeIn (workingEnvironment answers) AnyScene
      (fun removed after => removed = .ok () ∧ after = { scene with registration := none })
      clearRegistration scene := by
  rintro world rfl
  rintro _ _ ⟨rfl, rfl⟩
  refine ⟨trivial, ?_⟩
  rintro _ _ ⟨_, rfl⟩
  exact ⟨trivial, rfl, rfl⟩

theorem recoveryRequiredMarker_accepted (valid : ValidJournal journal) (diagnosticCode : UInt32) :
    encodeSafeModeMarker (recoveryRequiredMarker journal diagnosticCode) ≠ [] := by
  have complete :
      markerIdentityComplete (recoveryRequiredMarker journal diagnosticCode) = true := by
    unfold markerIdentityComplete recoveryRequiredMarker
    rw [valid.session]
    simp [valid.generation]
  unfold encodeSafeModeMarker
  rw [if_neg (by
    rw [complete]
    simp [knownSafeModeReason, recoveryRequiredMarker])]
  intro empty
  have lengths := congrArg List.length (List.append_eq_nil_iff.mp empty).1
  simp [encodeHeader, writeJournalHeader] at lengths

theorem refuse_works (valid : ValidJournal journal) (diagnosticCode : UInt32) (diagnostic : String)
    (report : ResetExecutionReport) :
    SceneSafeIn (workingEnvironment answers) AnyScene
      (fun _ after =>
        after = scene.mark (encodeSafeModeMarker (recoveryRequiredMarker journal diagnosticCode)))
      (refuse journal diagnosticCode diagnostic report) scene := by
  have marks :
      SceneSafeIn (workingEnvironment answers) AnyScene
        (fun _ after =>
          after = scene.mark (encodeSafeModeMarker (recoveryRequiredMarker journal diagnosticCode)))
        (writeRecoveryRequiredMarker journal diagnosticCode) scene := by
    refine sceneSafe_bind
      (working_journal
        (CrashJournalStore.writeSafeMode_works
          (recoveryRequiredMarker_accepted valid diagnosticCode))) ?_
    rintro _ _ ⟨_, ⟨_, rfl⟩, rfl⟩
    exact sceneSafe_pure rfl
  refine sceneSafe_bind marks ?_
  rintro _ _ rfl
  refine sceneSafe_post (finish_works _) ?_
  rintro _ _ ⟨rfl, _⟩
  rfl

end Working

end HydraSeat.Reset
