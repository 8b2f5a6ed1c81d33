import HydraSeat.Recovery.CrashSafety

/-!
# Unclean sessions stay blocked

Once an activation succeeded, the directory holds a journal for good.  Until
that journal is clean and no safe-mode marker is left, no assessment says
clean and no activation succeeds, through any failures and restarts.
-/

namespace HydraSeat.Recovery

open Foundation
open Foundation.Command
open Watchdog CrashJournalState CrashJournalStore

variable {operation : StoreOperation}

def Released (files : Files) : Prop :=
  files.safeMode = none ∧ ∃ journal, Holds files.current journal ∧ journal.isClean = true

/-- A journal that still bars an activation. -/
structure Barred (files : Files) : Prop where
  journal : ∃ journal, Holds files.current journal
  unreleased : ¬ Released files

theorem Barred.not_ready {files : Files} (barred : Barred files) : ¬ Ready files := by
  rintro ⟨unmarked, missing | clean⟩
  · obtain ⟨journal, bytes, content, _⟩ := barred.journal
    rw [missing] at content
    cases content
  · exact barred.unreleased ⟨unmarked, clean⟩

/-- The steps that release a session: the session's own last transition, or
a verified reset, puts a clean journal where no marker is, or a verified
reset removes the marker of a clean journal. -/
inductive Release : StoreOperation → Files → Files → Prop
  | transition (current next : CrashJournalState) (before after : Files)
      (held : Holds before.current current)
      (appends : AppendsOne current next)
      (clean : next.isClean = true)
      (unmarked : before.safeMode = none)
      (put : Holds after.current next) :
      Release (.persistTransition next) before after
  | reset (cleanState : CrashJournalState) (before after : Files)
      (clean : cleanState.isClean = true)
      (unmarked : before.safeMode = none)
      (put : Holds after.current cleanState) :
      Release (.replaceWithVerifiedCleanState cleanState true) before after
  | unmark (session : SessionId) (generation : UInt64)
      (journal : CrashJournalState) (before after : Files)
      (held : Holds before.current journal)
      (clean : journal.isClean = true)
      (sameSession : journal.sessionId = session)
      (sameGeneration : journal.runtimeGeneration = generation)
      (removed : after = { before with safeMode := none }) :
      Release (.clearSafeModeAfterVerifiedReset session generation true) before after

theorem journalWrite_release {before : Files} {state : CrashJournalState}
    (valid : ValidJournal state)
    (allowed : JournalWrite operation before state)
    (released : Released { before with current := some (encodeCrashJournal state) }) :
    Release operation before { before with current := some (encodeCrashJournal state) } := by
  obtain ⟨unmarked, journal, held, clean⟩ := released
  have put := holds_encode valid
  rw [holds_unique held put] at clean
  cases allowed with
  | activation _ _ canonical ready =>
    have phase := canonicalInitial_phase canonical
    unfold isClean at clean
    rw [phase] at clean
    cases clean
  | transition current _ _ heldBefore appends =>
    exact .transition current state _ _ heldBefore appends clean unmarked put
  | reset _ _ _ => exact .reset state _ _ clean unmarked put

theorem Barred.step {before after : Files} (barred : Barred before)
    (step : StoreStep operation before after) :
    Barred after ∨ Released after ∧ Release operation before after := by
  by_cases released : Released after
  · right
    refine ⟨released, ?_⟩
    cases step with
    | same => exact absurd released barred.unreleased
    | write state valid allowed => exact journalWrite_release valid allowed released
    | mark marker _ => cases released.1
    | unmark session generation journal clears held clean sameSession sameGeneration =>
      rw [clears]
      exact .unmark session generation journal _ _ held clean sameSession sameGeneration rfl
  · refine Or.inl ⟨?_, released⟩
    cases step with
    | same => exact barred.journal
    | write state valid _ => exact ⟨state, holds_encode valid⟩
    | mark marker _ | unmark _ _ _ _ _ _ _ _ => exact barred.journal

theorem activated_barred {initial : CrashJournalState} {files after : Files}
    (activated : Activated initial files (.ok ()) after) :
    Barred after := by
  obtain ⟨_, canonical, rfl⟩ := activated rfl
  have put := holds_encode (canonicalInitial_valid canonical)
  refine ⟨⟨initial, put⟩, ?_⟩
  rintro ⟨_, journal, held, clean⟩
  rw [holds_unique held put] at clean
  have phase := canonicalInitial_phase canonical
  unfold isClean at clean
  rw [phase] at clean
  cases clean

/-- A step after which the session is still not released. -/
abbrev BarredMove (before after : StoreConfiguration) : Prop :=
  StoreMove before after ∧ ¬ Released after.state.files

/-- What holds after every step of a barred run. -/
structure BarredSound (configuration : StoreConfiguration) : Prop where
  sound : StoreSound configuration
  barred : Barred configuration.state.files
  started : ∀ running, configuration.running = some running → Barred running.started.files

theorem BarredSound.next {before after : StoreConfiguration}
    (barredSound : BarredSound before) (move : BarredMove before after) :
    BarredSound after := by
  obtain ⟨step, unreleased⟩ := move
  have barred : Barred after.state.files := by
    rcases barredSound.sound.step step with
      same | ⟨running, _, guaranteed⟩
    · rw [same]
      exact barredSound.barred
    · rcases barredSound.barred.step guaranteed with
        barred | ⟨released, _⟩
      · exact barred
      · exact absurd released unreleased
  refine ⟨barredSound.sound.next storeProgram_safe step, barred, ?_⟩
  intro running runs
  cases step with
  | start operation state =>
    rw [← Option.some.inj runs]
    exact barred
  | call operation started state next request following answer allowed =>
    rw [← Option.some.inj runs]
    exact barredSound.started ⟨operation, started, .call request following⟩ rfl
  | finish operation started state value | stop running state => cases runs

theorem barredRun_sound {first last : StoreConfiguration} (sound : BarredSound first)
    (run : Relation.ReflTransGen BarredMove first last) :
    BarredSound last := by
  induction run with
  | refl => exact sound
  | tail _ move ih => exact ih.next move

/-- After a successful activation, as long as no step releases the session:
no assessment says clean, no activation succeeds, and the only steps that can
release it are its own clean transition and the steps of a verified reset. -/
theorem unclean_session_blocked {start : Disk} {begun configuration : StoreConfiguration}
    {initial : CrashJournalState} {started : Disk}
    (valid : CurrentValid start.files)
    (reached : Relation.ReflTransGen StoreMove ⟨none, start⟩ begun)
    (activated :
      begun.running = some ⟨.beginActivation initial, started, .done (.outcome (.ok ()))⟩)
    (later : Relation.ReflTransGen BarredMove ⟨none, begun.state⟩ configuration) :
    (∀ started assessment,
        configuration.running =
            some ⟨.assessStartupAndEnterSafeMode, started, .done (.assessment assessment)⟩ →
          assessment.state ≠ .clean) ∧
      (∀ another started result,
        configuration.running = some ⟨.beginActivation another, started, .done (.outcome result)⟩ →
          Except.isOk result = false) ∧
      ∀ next, StoreMove configuration next →
        Released next.state.files →
          ∃ running, configuration.running = some running ∧
            Release running.operation configuration.state.files
              next.state.files := by
  have begunSound := store_sound valid reached
  have barred : Barred begun.state.files := activated_barred (begunSound.returned activated)
  have first : BarredSound ⟨none, begun.state⟩ :=
    ⟨⟨begunSound.holds, fun _ impossible => nomatch impossible⟩, barred,
      fun _ impossible => nomatch impossible⟩
  have last := barredRun_sound first later
  refine ⟨?_, ?_, ?_⟩
  · intro started assessment ended clean
    have assessed := last.sound.returned ended
    exact (last.started _ ended).not_ready (assessed clean)
  · intro another started result ended
    have post := last.sound.returned ended
    cases result with
    | error text => rfl
    | ok _ => exact absurd (post rfl).1 (last.started _ ended).not_ready
  · intro next step released
    rcases last.sound.step step with same | ⟨running, runs, guaranteed⟩
    · rw [same] at released
      exact absurd released last.barred.unreleased
    · rcases last.barred.step guaranteed with barred | ⟨_, release⟩
      · exact absurd released barred.unreleased
      · exact ⟨running, runs, release⟩

section Sessions

variable {operation : StoreOperation}

def emptyDisk : Disk := fun _ => none

theorem emptyDisk_valid : CurrentValid emptyDisk.files := Or.inl rfl

def rollingBackJournal : CrashJournalState :=
  { startedJournal with
    phase := .rollingBack, records := [⟨1, .activationStarted, 0, 1⟩, ⟨2, .rollbackStarted, 0, 1⟩] }

def rolledBackJournal : CrashJournalState :=
  { startedJournal with
    phase := .rollingBack
    records :=
      [⟨1, .activationStarted, 0, 1⟩, ⟨2, .rollbackStarted, 0, 1⟩, ⟨3, .rollbackVerified, 0, 1⟩] }

def activation : StoreOperation := .beginActivation startedJournal

/-- The directory after an operation on a working storage. -/
def diskAfter (operation : StoreOperation) (disk : Disk) : Disk :=
  (exec workingStorage (storeProgram operation) disk).2

def resultOf (operation : StoreOperation) (disk : Disk) : StoreResult :=
  (exec workingStorage (storeProgram operation) disk).1

def verifiedReset : StoreOperation → Bool
  | .replaceWithVerifiedCleanState _ _ => true
  | .clearSafeModeAfterVerifiedReset _ _ _ => true
  | _ => false

abbrev UnresetMove (before after : StoreConfiguration) : Prop :=
  StoreMove before after ∧ Runs (fun operation => verifiedReset operation = false) after

theorem storeOperation_ends (unreset : verifiedReset operation = false) (disk : Disk) :
    Relation.ReflTransGen UnresetMove ⟨none, disk⟩
      ⟨some ⟨operation, disk, .done (resultOf operation disk)⟩, diskAfter operation disk⟩ :=
  operation_ends workingStorage_allowed
    (fun operation => verifiedReset operation = false) unreset disk

theorem storeOperation_runs (unreset : verifiedReset operation = false) (disk : Disk) :
    Relation.ReflTransGen UnresetMove ⟨none, disk⟩ ⟨none, diskAfter operation disk⟩ :=
  operation_runs workingStorage_allowed
    (fun operation => verifiedReset operation = false) unreset disk

def begunDisk : Disk := diskAfter activation emptyDisk

theorem activation_succeeds : resultOf activation emptyDisk = .outcome (.ok ()) := by
  decide

def begunConfiguration : StoreConfiguration :=
  ⟨some ⟨activation, emptyDisk, .done (.outcome (.ok ()))⟩, begunDisk⟩

theorem begunConfiguration_reached :
    Relation.ReflTransGen StoreMove ⟨none, emptyDisk⟩ begunConfiguration := by
  have unreset : verifiedReset activation = false := rfl
  have ends := storeOperation_ends unreset emptyDisk
  rw [activation_succeeds] at ends
  exact ends.lift id fun _ _ move => move.1

theorem begun_session_blocked :
    (∀ started assessment,
        (none : Option (Running storageInterface StoreOperation StoreResult Disk)) =
            some ⟨.assessStartupAndEnterSafeMode, started, .done (.assessment assessment)⟩ →
          assessment.state ≠ .clean) ∧
      (∀ another started result,
        (none : Option (Running storageInterface StoreOperation StoreResult Disk)) =
            some ⟨.beginActivation another, started, .done (.outcome result)⟩ →
          Except.isOk result = false) ∧
      ∀ next, StoreMove ⟨none, begunDisk⟩ next →
        Released next.state.files →
          ∃ running,
            (none : Option
              (Running storageInterface StoreOperation StoreResult Disk)) = some running ∧
              Release running.operation begunDisk.files
                next.state.files :=
  unclean_session_blocked emptyDisk_valid begunConfiguration_reached rfl .refl

/-- A restarted process finishes the session of its predecessor. -/
def rollingBackDisk : Disk := diskAfter (.persistTransition rollingBackJournal) begunDisk

def rolledBackDisk : Disk := diskAfter (.persistTransition rolledBackJournal) rollingBackDisk

def finishedDisk : Disk := diskAfter (.persistTransition resetJournal) rolledBackDisk

theorem finishedDisk_reached :
    Relation.ReflTransGen UnresetMove ⟨none, begunDisk⟩ ⟨none, finishedDisk⟩ := by
  have first := @storeOperation_runs (.persistTransition rollingBackJournal) rfl begunDisk
  have second := @storeOperation_runs (.persistTransition rolledBackJournal) rfl rollingBackDisk
  have third := @storeOperation_runs (.persistTransition resetJournal) rfl rolledBackDisk
  exact (first.trans second).trans third

def finishedAssessment : StartupAssessment where
  state := .clean
  journal := some resetJournal
  diagnostic := "previous runtime session is clean"

theorem finishedDisk_assessed :
    resultOf .assessStartupAndEnterSafeMode finishedDisk = .assessment finishedAssessment := by
  decide +kernel

theorem unreset_session_assessed_clean :
    ¬ ∀ (start : Disk) (begun configuration : StoreConfiguration)
        (initial : CrashJournalState) (started restarted : Disk)
        (assessment : StartupAssessment),
      CurrentValid start.files →
      Relation.ReflTransGen StoreMove ⟨none, start⟩ begun →
      begun.running = some ⟨.beginActivation initial, started, .done (.outcome (.ok ()))⟩ →
      Relation.ReflTransGen UnresetMove ⟨none, begun.state⟩ configuration →
      configuration.running =
          some ⟨.assessStartupAndEnterSafeMode, restarted, .done (.assessment assessment)⟩ →
        assessment.state ≠ .clean := by
  intro always
  have assessed := @storeOperation_ends .assessStartupAndEnterSafeMode rfl finishedDisk
  rw [finishedDisk_assessed] at assessed
  exact always emptyDisk begunConfiguration _ startedJournal emptyDisk
    finishedDisk finishedAssessment emptyDisk_valid
    begunConfiguration_reached rfl
    (finishedDisk_reached.trans assessed) rfl rfl

end Sessions

end HydraSeat.Recovery
