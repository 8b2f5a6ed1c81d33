import HydraSeat.Recovery.StoreSafety

/-!
# Crash safety of the journal

Operations run one after another, one storage call at a time, and may be
stopped after any call.  Whatever fails, the current journal is missing or
valid, and it changes in three ways only.
-/

namespace HydraSeat.Recovery

open Foundation
open Foundation.Command
open Watchdog CrashJournalStore

variable {operation : StoreOperation} {before after : Files}

abbrev StoreConfiguration := Configuration storageInterface StoreOperation StoreResult Disk

abbrev StoreMove : StoreConfiguration → StoreConfiguration → Prop :=
  MachineStep storeProgram diskStorage

def CurrentValid (files : Files) : Prop := files.current = none ∨ ∃ state, Holds files.current state

/-- What the result of an operation says about the files it started with and
the files it left. -/
def StorePost (operation : StoreOperation) (started : Files)
    (result : StoreResult) (after : Files) : Prop :=
  match operation, result with
  | .beginActivation initial, .outcome result => Activated initial started result after
  | .assessStartupAndEnterSafeMode, .assessment assessment => Assessed started assessment after
  | _, _ => True

theorem holds_encode {state : CrashJournalState} (valid : ValidJournal state) :
    Holds (some (encodeCrashJournal state)) state :=
  ⟨_, rfl, decodeCrashJournal_encodeCrashJournal valid⟩

theorem holds_unique {content : Option (List UInt8)} {left right : CrashJournalState}
    (first : Holds content left) (second : Holds content right) :
    left = right := by
  obtain ⟨bytes, rfl, leftDecoded⟩ := first
  obtain ⟨_, same, rightDecoded⟩ := second
  rw [← Option.some.inj same, leftDecoded] at rightDecoded
  exact Except.ok.inj rightDecoded

theorem storeStep_currentValid (valid : CurrentValid before)
    (step : StoreStep operation before after) :
    CurrentValid after := by
  cases step with
  | same => exact valid
  | write state valid _ => exact Or.inr ⟨state, holds_encode valid⟩
  | mark marker _ | unmark _ _ _ _ _ _ _ _ => exact valid

theorem storeProgram_files (operation : StoreOperation) (files : Files) :
    FilesSafe (StoreStep operation) (StorePost operation files) (storeProgram operation) files := by
  cases operation with
  | beginActivation initial =>
    exact filesSafe_bind (beginActivation_safe initial)
      fun _ _ activated => filesSafe_pure activated
  | persistTransition state =>
    exact filesSafe_bind (persistTransition_safe state) fun _ _ _ => filesSafe_pure trivial
  | assessStartupAndEnterSafeMode =>
    exact filesSafe_bind assessStartupAndEnterSafeMode_safe
      fun _ _ assessed => filesSafe_pure assessed
  | writeSafeMode marker =>
    exact filesSafe_bind (writeSafeMode_step marker) fun _ _ _ => filesSafe_pure trivial
  | replaceWithVerifiedCleanState cleanState resetVerified =>
    exact filesSafe_bind (replaceWithVerifiedCleanState_safe cleanState resetVerified)
      fun _ _ _ => filesSafe_pure trivial
  | clearSafeModeAfterVerifiedReset session generation resetVerified =>
    exact filesSafe_bind (clearSafeModeAfterVerifiedReset_safe session generation resetVerified)
      fun _ _ _ => filesSafe_pure trivial

theorem storeProgram_safe (operation : StoreOperation) (disk : Disk)
    (valid : CurrentValid disk.files) :
    Safe diskStorage
      (fun before after => CurrentValid after.files ∧ StoreStep operation before.files after.files)
      (fun result after => StorePost operation disk.files result after.files)
      (storeProgram operation) disk :=
  safe_invariant (fun _ _ holds step => storeStep_currentValid holds step) valid
    (storeProgram_files operation disk.files disk rfl)

abbrev StoreSound : StoreConfiguration → Prop :=
  Sound diskStorage (fun disk => CurrentValid disk.files)
    (fun operation before after => StoreStep operation before.files after.files)
    fun operation started result after => StorePost operation started.files result after.files

theorem store_sound {start : Disk} {configuration : StoreConfiguration}
    (valid : CurrentValid start.files)
    (reached : Relation.ReflTransGen StoreMove ⟨none, start⟩ configuration) :
    StoreSound configuration :=
  machine_sound storeProgram_safe valid reached

/-- A step that changes the current journal is a call of an operation that
may put its journal there. -/
def JournalChange (configuration next : StoreConfiguration) : Prop :=
  ∃ running state,
    configuration.running = some running ∧
      JournalWrite running.operation configuration.state.files state ∧
      Holds next.state.files.current state

theorem storeStep_current (step : StoreStep operation before after) :
    after.current = before.current ∨
      ∃ state, JournalWrite operation before state ∧ Holds after.current state := by
  cases step with
  | same => exact Or.inl rfl
  | write state valid allowed => exact Or.inr ⟨state, allowed, holds_encode valid⟩
  | mark marker _ | unmark _ _ _ _ _ _ _ _ => exact Or.inl rfl

/-- In every run from a directory whose journal is missing or valid, with
any failures and stops: the journal stays missing or valid, every change of
it appends one record to it, starts a session over a missing or clean
journal without a marker, or is a verified reset's clean journal; and an
activation that succeeds started without a marker over a missing or clean
journal. -/
theorem store_crash_safe {start : Disk} {configuration : StoreConfiguration}
    (valid : CurrentValid start.files)
    (reached : Relation.ReflTransGen StoreMove ⟨none, start⟩ configuration) :
    CurrentValid configuration.state.files ∧
      (∀ next, StoreMove configuration next →
        next.state.files.current = configuration.state.files.current ∨
          JournalChange configuration next) ∧
      ∀ initial started,
        configuration.running =
            some ⟨.beginActivation initial, started, .done (.outcome (.ok ()))⟩ →
          Ready started.files := by
  have sound := store_sound valid reached
  refine ⟨sound.holds, ?_, ?_⟩
  · intro next step
    rcases sound.step step with same | ⟨running, runs, guaranteed⟩
    · rw [same]
      exact Or.inl rfl
    · rcases storeStep_current guaranteed with same | ⟨state, write, held⟩
      · exact Or.inl same
      · exact Or.inr ⟨running, state, runs, write, held⟩
  · intro initial started ended
    have activated := sound.returned ended
    exact (activated rfl).1

section VerifiedReset

theorem workingStorage_allowed (disk : Disk) (call : StorageCall) :
    diskStorage disk call (workingStorage disk call).1 (workingStorage disk call).2 := by
  cases call with
  | read slot maxBytes => exact ⟨rfl, Or.inl rfl⟩
  | durableWrite slot bytes => exact rfl
  | atomicReplace source destination =>
    unfold workingStorage
    dsimp only
    split
    next present => exact ⟨present, rfl⟩
    · exact Or.inl rfl
  | remove slot => exact rfl

theorem workingStorage_works (disk : Disk) (storageCall : StorageCall) :
    workingDisk disk storageCall (workingStorage disk storageCall).1
      (workingStorage disk storageCall).2 := by
  cases storageCall with
  | read slot maxBytes | durableWrite slot bytes => exact ⟨rfl, rfl⟩
  | atomicReplace source destination =>
    unfold workingStorage
    dsimp only
    split
    next present => exact ⟨present, rfl⟩
    next missing =>
      rw [Bool.not_eq_true, Option.isSome_eq_false_iff, Option.isNone_iff_eq_none] at missing
      exact ⟨missing, rfl⟩
  | remove slot => exact ⟨rfl, rfl⟩

/-- A session with an empty plan that has just started. -/
def startedJournal : CrashJournalState where
  sessionId := Vector.replicate 16 7
  planHash := Vector.replicate 32 1
  runtimeGeneration := 1
  lease := ⟨Vector.replicate 16 7, 1, 1000⟩
  records := [⟨1, .activationStarted, 0, 1⟩]

/-- The same session after a rollback. -/
def resetJournal : CrashJournalState :=
  { startedJournal with
    phase := .clean, finalResult := .clean
    records :=
      [⟨1, .activationStarted, 0, 1⟩, ⟨2, .rollbackStarted, 0, 1⟩,
        ⟨3, .rollbackVerified, 0, 1⟩, ⟨4, .cleanStop, 0, 1⟩] }

theorem startedJournal_valid : ValidJournal startedJournal := validJournal (by decide)

theorem resetJournal_valid : ValidJournal resetJournal := validJournal (by decide)

def startedDisk : Disk
  | .current => some (encodeCrashJournal startedJournal)
  | _ => none

theorem startedDisk_valid : CurrentValid startedDisk.files :=
  Or.inr ⟨startedJournal, holds_encode startedJournal_valid⟩

/-- The witness of the crash-safety theorem is the directory of a session
that has just started. -/
theorem started_store_crash_safe :
    CurrentValid startedDisk.files ∧
      (∀ next, StoreMove ⟨none, startedDisk⟩ next →
        next.state.files.current = startedDisk.files.current ∨
          JournalChange ⟨none, startedDisk⟩ next) ∧
      ∀ initial started,
        (none : Option (Running storageInterface StoreOperation StoreResult Disk)) =
            some ⟨.beginActivation initial, started, .done (.outcome (.ok ()))⟩ →
          Ready started.files :=
  store_crash_safe startedDisk_valid .refl

def resetOperation : StoreOperation := .replaceWithVerifiedCleanState resetJournal true

/-- The verified reset after a number of its storage calls. -/
def resetAfter (calls : Nat) : StoreConfiguration :=
  let reached := advance workingStorage calls (storeProgram resetOperation) startedDisk
  ⟨some ⟨resetOperation, startedDisk, reached.1⟩, reached.2⟩

theorem resetAfter_state (calls : Nat) :
    (resetAfter calls).state =
      (advance workingStorage calls (storeProgram resetOperation) startedDisk).2 :=
  rfl

theorem resetAfter_reached (calls : Nat) :
    Relation.ReflTransGen StoreMove ⟨none, startedDisk⟩ (resetAfter calls) :=
  (advance_reached workingStorage_allowed startedDisk calls
    (storeProgram resetOperation) startedDisk).head
    (.start resetOperation startedDisk)

theorem reset_replaces_unfinished_journal :
    ¬ ∀ (start : Disk) (configuration next : StoreConfiguration), CurrentValid start.files →
      Relation.ReflTransGen StoreMove ⟨none, start⟩ configuration →
      StoreMove configuration next →
        next.state.files.current = configuration.state.files.current ∨
          (∃ current state,
            Holds configuration.state.files.current current ∧ Holds next.state.files.current state ∧
              AppendsOne current state) ∨
          (configuration.state.files.current = none ∨
            ∃ prior, Holds configuration.state.files.current prior ∧ prior.isClean = true) := by
  intro always
  have before : (resetAfter 2).state.files.current = some (encodeCrashJournal startedJournal) := by
    decide +kernel
  have after : (resetAfter 3).state.files.current = some (encodeCrashJournal resetJournal) := by
    decide +kernel
  have heldBefore := holds_encode startedJournal_valid
  have heldAfter := holds_encode resetJournal_valid
  have different : (resetAfter 3).state.files.current ≠ (resetAfter 2).state.files.current := by
    rw [before, after]
    intro same
    have journals := holds_unique (same ▸ heldAfter) heldBefore
    exact absurd (congrArg (·.isClean) journals) (by decide)
  have step : StoreMove (resetAfter 2) (resetAfter 3) := by
    rcases @advance_step _ _ _ _ storeProgram diskStorage workingStorage
        workingStorage_allowed resetOperation startedDisk 2
        (storeProgram resetOperation) startedDisk with same | step
    · rw [resetAfter_state, resetAfter_state, same] at different
      exact absurd rfl different
    · exact step
  rcases always startedDisk _ _ startedDisk_valid (resetAfter_reached 2)
      step with same | ⟨current, state, held, put, appends⟩ | missing | ⟨prior, held, clean⟩
  · exact different same
  · rw [before] at held
    rw [after] at put
    obtain ⟨record, records⟩ := appends.records
    rw [holds_unique held heldBefore, holds_unique put heldAfter] at records
    have lengths := congrArg List.length records
    rw [List.length_append, List.length_singleton] at lengths
    exact absurd lengths (by decide)
  · rw [before] at missing
    cases missing
  · rw [before] at held
    rw [holds_unique held heldBefore] at clean
    cases clean

end VerifiedReset

end HydraSeat.Recovery
