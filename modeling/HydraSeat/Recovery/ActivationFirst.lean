import HydraSeat.Recovery.JournalGrammar

/-!
# The first record of an accepted journal

The replay starts in the `Preparing` phase, before any record.  A journal
may therefore open with a record that presupposes an activation, when the
guard of its kind holds of that start: `ActivationStarted` is refused
everywhere but in front, and nothing requires it there.
-/

namespace HydraSeat.Recovery

open Watchdog Replay

/-- The activation is recorded first, and only there. -/
def RecordsActivationFirst : List CrashJournalRecord → Prop
  | [] => False
  | first :: later =>
    first.kind = .activationStarted ∧ ∀ record ∈ later, record.kind ≠ .activationStarted

instance (records : List CrashJournalRecord) : Decidable (RecordsActivationFirst records) :=
  match records with
  | [] => inferInstanceAs (Decidable False)
  | first :: later =>
    inferInstanceAs
      (Decidable
        (first.kind = .activationStarted ∧ ∀ record ∈ later, record.kind ≠ .activationStarted))

/-- The kinds whose guards hold of the phase in which the replay starts,
with no action prepared. -/
def passesUnactivated : CrashJournalRecordKind → Bool
  | .actionPrepared | .activationCommitted | .rollbackStarted
  | .failureRecorded | .recoveryRequired => true
  | _ => false

namespace Replay

variable {index : Nat} {record : CrashJournalRecord}

theorem Applied.kind_of_later {self next : Replay}
    (applied : Applied self index record next) (later : index ≠ 0) :
    record.kind ≠ .activationStarted := by
  intro started
  cases applied with
  | started _ first => exact later first
  | failed kind =>
    rw [started] at kind
    rcases kind with kind | kind
    all_goals cases kind
  | prepared kind | applied kind | verified kind | committed kind
  | rollingBack kind | rolledBack kind | confirmed kind | stopped kind =>
    cases started.symm.trans kind

theorem run_kinds_of_later {self final : Replay} {records : List CrashJournalRecord}
    (replayed : self.run index records = .ok final)
    (later : index ≠ 0) :
    ∀ record ∈ records, record.kind ≠ .activationStarted := by
  induction records generalizing self index with
  | nil =>
    intro record member
    cases member
  | cons head records ih =>
    rw [run] at replayed
    split at replayed
    · cases replayed
    next next stepped =>
      intro record member
      rcases List.mem_cons.mp member with rfl | rest
      · exact (step_cases stepped).applied.kind_of_later later
      · exact ih replayed (Nat.succ_ne_zero index) record rest

/-- From the start of the replay, a record passes as `ActivationStarted` or
because its guard asks for nothing that the start lacks. -/
theorem Applied.kind_of_start {next : Replay} (applied : Applied {} index record next) :
    record.kind = .activationStarted ∨ passesUnactivated record.kind = true := by
  cases applied with
  | started kind => exact Or.inl kind
  | prepared kind | committed kind | rollingBack kind => exact Or.inr (kind ▸ rfl)
  | failed kind =>
    rcases kind with kind | kind
    all_goals exact Or.inr (kind ▸ rfl)
  | applied _ _ waiting | verified _ _ waiting => cases waiting
  | rolledBack _ rolling | confirmed _ rolling | stopped _ rolling => cases rolling

end Replay

theorem recordsActivationFirst_iff {records : List CrashJournalRecord} {final : Replay}
    (replayed : deriveStateFromRecords records = .ok final) :
    RecordsActivationFirst records ↔
      ∀ first ∈ records.head?, passesUnactivated first.kind = false := by
  unfold deriveStateFromRecords at replayed
  obtain ⟨sized, replayed⟩ := Foundation.not_taken replayed nofun
  cases records with
  | nil => exact absurd (Or.inl rfl) sized
  | cons head later =>
    rw [run] at replayed
    split at replayed
    · cases replayed
    next next stepped =>
      have laterKinds := run_kinds_of_later replayed (Nat.succ_ne_zero 0)
      constructor
      · rintro ⟨started, _⟩ first member
        obtain rfl := Option.some.inj member
        rw [started]
        rfl
      intro refused
      refine ⟨?_, laterKinds⟩
      rcases (step_cases stepped).applied.kind_of_start with
        started | passes
      · exact started
      · rw [refused head rfl] at passes
        cases passes

theorem derive_of_valid {state : CrashJournalState}
    (valid : validateCrashJournalState state = .ok ()) :
    ∃ derived, deriveStateFromRecords state.records = .ok derived := by
  have fields := validJournal valid
  obtain ⟨derived, replayed, _⟩ := derived_of_valid valid
  refine ⟨derived, ?_⟩
  unfold deriveStateFromRecords
  rw [if_neg (not_or.mpr ⟨fields.nonempty, Nat.not_lt.mpr fields.recordCount⟩)]
  exact replayed

/-- An accepted or decoded journal records its activation first exactly when
its first record is of no kind that the start of the replay lets pass. -/
theorem activationFirst_iff {state : CrashJournalState}
    (accepted :
      validateCrashJournalState state = .ok () ∨ ∃ bytes, decodeCrashJournal bytes = .ok state) :
    RecordsActivationFirst state.records ↔
      ∀ first ∈ state.records.head?, passesUnactivated first.kind = false := by
  have valid : validateCrashJournalState state = .ok () := by
    rcases accepted with valid | ⟨bytes, decoded⟩
    · exact valid
    · exact (decodeCrashJournal_valid decoded).valid
  obtain ⟨derived, replayed⟩ := derive_of_valid valid
  exact recordsActivationFirst_iff replayed

theorem reverifiedJournal_activationFirst :
    RecordsActivationFirst reverifiedJournal.records ↔
      ∀ first ∈ reverifiedJournal.records.head?, passesUnactivated first.kind = false :=
  activationFirst_iff (Or.inl reverifiedJournal_valid)

/-- A journal whose only record says that action 10 was prepared. -/
def unactivatedJournal : CrashJournalState where
  sessionId := Vector.replicate 16 7
  planHash := Vector.replicate 32 1
  runtimeGeneration := 1
  lease :=
    { sessionId := Vector.replicate 16 7, generation := 1, timeoutMilliseconds := 5000 }
  phase := .preparing
  finalResult := .none
  records := [⟨1, .actionPrepared, 10, 1⟩]

theorem unactivatedJournal_accepted :
    validateCrashJournalState unactivatedJournal = .ok () ∧
      decodeCrashJournal (encodeCrashJournal unactivatedJournal) = .ok unactivatedJournal := by
  have valid : validateCrashJournalState unactivatedJournal = .ok () := by
    decide
  exact ⟨valid, decodeCrashJournal_encodeCrashJournal (validJournal valid)⟩

theorem accepted_without_activation :
    (¬ ∀ state : CrashJournalState,
      validateCrashJournalState state = .ok () → RecordsActivationFirst state.records) ∧
    ¬ ∀ bytes state, decodeCrashJournal bytes = .ok state →
      RecordsActivationFirst state.records := by
  constructor
  · intro all
    exact absurd (all unactivatedJournal unactivatedJournal_accepted.1) (by decide)
  · intro all
    exact absurd (all _ unactivatedJournal unactivatedJournal_accepted.2) (by decide)

end HydraSeat.Recovery
